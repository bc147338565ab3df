import SdaOrchestrator.Lib.SameDocument
import SdaOrchestrator.Renderer.Acceptance
import SdaOrchestrator.Worker.Operations
import SdaOrchestrator.Worker.Confined

open python python.Value effects effects.Program orchestrator.store

namespace orchestrator.worker

open orchestrator.intent orchestrator.renderer

/-- A block of the feature is sent, or ISE is written to. -/
def Event.Issues (event : Event) (feature : Feature) : Prop :=
  match event with
  | .called (.apply_block _ phase_id block _) _ =>
    ∃ block_id, block.item "block_id" = .ok (.str block_id) ∧
      feature_of phase_id block_id = some feature
  | .called .ise_apply _ | .called .ise_rollback _ => feature = .ise
  | _ => False

theorem not_issues_of_quiet {event : Event} (hquiet : event.writes = false) (feature : Feature) :
    ¬ event.Issues feature := by
  unfold Event.writes Call.writes at hquiet
  unfold Event.Issues
  split at hquiet
  · rename_i call outcome
    cases call <;> simp_all
  · rename_i hcalled
    split <;> simp_all

section Documents

variable {platform : Platform} {artifact : Value} {rendered : Artifact}

/-! ## The parts of a rendered document -/

/-- The first phase of a name is one of the list, of that name. -/
theorem first_phase_mem {phase_id : String} {listed : List Value} {phase : Value}
    (hfirst : first_phase phase_id listed = .ok (some phase)) :
    phase ∈ listed ∧ ∃ named, phase.item "phase_id" = .ok named ∧ is_text named phase_id := by
  induction listed with
  | nil => cases hfirst
  | cons head rest ih =>
    simp only [first_phase, bind_eq_ok_iff] at hfirst
    obtain ⟨named, hnamed, hfirst⟩ := hfirst
    split at hfirst
    · rename_i htext
      obtain rfl := Option.some.inj (pure_eq_ok_iff.mp hfirst)
      exact ⟨List.mem_cons_self, named, hnamed, htext⟩
    · obtain ⟨hmem, hphase⟩ := ih hfirst
      exact ⟨List.mem_cons_of_mem _ hmem, hphase⟩

/-- An element of a list that is the same as a list of sections is the same as one of
the sections. -/
theorem mem_of_same_sections {α : Type} {document : α → Value} {items : List α} {value : Value}
    {own : List Value} (hsame : SameDocument value (sections document items))
    (hown : value.elements = .ok own) {element : Value} (helement : element ∈ own) :
    ∃ item ∈ items, SameDocument element (document item) := by
  obtain ⟨own', rfl, hitems⟩ := hsame.eq_list
  obtain rfl := Except.ok.inj hown
  rw [List.forall₂_map_right_iff] at hitems
  exact exists_of_forall₂ hitems helement

/-- The value under a known key of a document. -/
theorem same_of_item {value other found expected : Value} {key : String}
    (hsame : SameDocument value other) (hexpected : other.item key = .ok expected)
    (hfound : value.item key = .ok found) : SameDocument found expected := by
  obtain ⟨other, hother, hfound⟩ := hsame.item hfound
  rw [hexpected] at hother
  exact Except.ok.inj hother ▸ hfound

theorem item_phases (device : DeviceArtifact) :
    device.document.item "phases" = .ok (sections PhaseBlocks.document device.phases) := by
  unfold DeviceArtifact.document
  cases device.retired <;> rfl

/-- The blocks that the worker reads from a document are those of the artifact. -/
theorem block_of_document (hsame : SameDocument artifact (rendered.document platform))
    {artifact_devices : Value} (hdevices : artifact.item "devices" = .ok artifact_devices)
    {phase_id device_id : String} {blocks : List Value}
    (hblocks : device_blocks artifact_devices phase_id device_id = .ok blocks) {block : Value}
    (hblock : block ∈ blocks) :
    ∃ entry ∈ rendered.devices, entry.1 = device_id ∧ ∃ phase ∈ entry.2.phases,
      phase.phase_id = phase_id ∧ ∃ own ∈ phase.blocks, SameDocument block own.document := by
  have hdevices := same_of_item hsame rfl hdevices
  rw [device_blocks] at hblocks
  obtain ⟨listed, hlisted, hblocks⟩ := bind_eq_ok_iff.mp hblocks
  obtain ⟨device, hdevice, hlisted⟩ := bind_eq_ok_iff.mp hlisted
  obtain ⟨phases, hphases, hlisted⟩ := bind_eq_ok_iff.mp hlisted
  obtain ⟨first, hfirst, hblocks⟩ := bind_eq_ok_iff.mp hblocks
  obtain ⟨other, hother, hdevice⟩ := hdevices.item hdevice
  have hlookup := assoc.lookup_mem (Except.ok.inj (item_eq_ok_iff.mp hother))
  obtain ⟨entry, hentry, hkey⟩ := List.mem_map.mp hlookup
  obtain ⟨hid, rfl⟩ := Prod.mk.inj hkey
  refine ⟨entry, hentry, hid, ?_⟩
  cases first with
  | none =>
    obtain rfl := pure_eq_ok_iff.mp hblocks
    cases hblock
  | some first =>
    obtain ⟨value, hvalue, helements⟩ := bind_eq_ok_iff.mp hblocks
    obtain ⟨hmem, named, hnamed, htext⟩ := first_phase_mem hfirst
    have hphases := same_of_item hdevice (item_phases entry.2) hphases
    obtain ⟨phase, hphase, hsame_phase⟩ := mem_of_same_sections hphases hlisted hmem
    have hname := same_of_item hsame_phase rfl hnamed
    rw [hname.eq_str] at htext
    refine ⟨phase, hphase, of_decide_eq_true htext, ?_⟩
    exact mem_of_same_sections (same_of_item hsame_phase rfl hvalue) helements hblock

/-- A document without an ISE manifest has none for the worker either. -/
theorem no_manifest_of_document (hsame : SameDocument artifact (rendered.document platform))
    (hise : rendered.ise = none) {manifest : Option Value}
    (hmanifest : ise_manifest_of artifact = .ok manifest) : Value.optTruthy manifest = false := by
  obtain ⟨systems, hsystems, hget⟩ := bind_eq_ok_iff.mp hmanifest
  obtain ⟨other, hother, hrel⟩ := hsame.get hsystems
  have hempty : other = some (.dict []) := by
    have hdocument : (rendered.document platform).get "external_systems" =
        .ok (some (.dict (optional "ise" rendered.ise id))) := rfl
    rw [hise] at hdocument
    exact Except.ok.inj (hother.symm.trans hdocument)
  subst hempty
  cases hrel with
  | some hvalue =>
    rename_i value
    obtain ⟨entries, rfl⟩ := hvalue.eq_dict
    have hnone : assoc.lookup "ise" entries = none := SameDocument.lookup_eq_none hvalue rfl
    rw [or_empty] at hget
    split at hget
    · obtain rfl := Except.ok.inj hget
      rw [hnone]
      rfl
    · obtain rfl := Except.ok.inj hget
      rfl

/-- When no blocker is left unresolved, every code of the artifact is allowed. -/
theorem allowed_of_document (hsame : SameDocument artifact (rendered.document platform))
    {blockers : Option Value} {allowed : Option (List String)}
    (hblockers : artifact.get "blocking_requirements" = .ok blockers)
    (hresolved : _unresolved_blocker_codes blockers allowed = .ok []) {code : String}
    (hcode : code ∈ rendered.blocker_codes) : code ∈ allowed.getD [] := by
  obtain ⟨other, hother, hrel⟩ := hsame.get hblockers
  obtain rfl : some (sections Blocker.document rendered.blocking_requirements) = other :=
    Except.ok.inj hother
  obtain ⟨blocker, hblocker, rfl⟩ := List.mem_map.mp hcode
  cases hrel with
  | some hvalue =>
    obtain ⟨own, rfl, hitems⟩ := hvalue.eq_list
    rw [List.forall₂_map_right_iff] at hitems
    obtain ⟨item, hitem, hsame_item⟩ := exists_of_forall₂ hitems.flip hblocker
    obtain ⟨entries, rfl⟩ := SameDocument.eq_dict hsame_item
    have hcode : assoc.lookup "code" entries = some (.str blocker.code) :=
      SameDocument.lookup_eq_str hsame_item rfl
    obtain ⟨items, hitems, hsorted⟩ := bind_eq_ok_iff.mp hresolved
    have hown : items = own := by
      have htruthy : (Value.list own).truthy := by
        simpa [Value.truthy] using List.ne_nil_of_mem hitem
      rw [blocker_items, if_pos htruthy] at hitems
      exact (Except.ok.inj hitems).symm
    subst hown
    by_contra hmissing
    simp only [pure_eq_ok_iff] at hsorted
    apply List.eq_nil_iff_forall_not_mem.mp hsorted blocker.code
    rw [sortedTexts, mem_sortedBy, List.mem_filterMap]
    refine ⟨.dict entries, hitem, ?_⟩
    simp only [hcode, Option.getD_some, Value.toStr]
    exact if_pos (.inr hmissing)

end Documents

end orchestrator.worker

namespace orchestrator.worker_runtime

open orchestrator.intent orchestrator.renderer orchestrator.worker orchestrator.poc_execution

/-- The runtime renders the intent as `render_configuration` does, from a document of it. -/
def Runtime.Renders (runtime : Runtime) (platform : Platform) (intent : FabricIntent) : Prop :=
  ∀ document plan artifact, SameDocument document intent.document →
    runtime.render_configuration document plan = .ok artifact →
      ∃ rendered, renderer.render_configuration platform intent plan = .ok rendered ∧
        SameDocument artifact (rendered.document platform)

/-- The plan of the run is for the intent. -/
def PlansIntent (start : Store) (run_id : String) (intent : FabricIntent) : Prop :=
  ∀ run plan_record intent_record, start.find_run run_id = some run →
    start.find_plan run.plan_id = some plan_record →
      start.find_intent plan_record.intent_id = some intent_record →
        SameDocument intent_record.document intent.document

/-- `authorize_sjc23_poc_execution` returned for the plan and the artifact of the run. -/
structure PocAuthorized (runtime : Runtime) (start : Store) (run_id : String) (run : RunRow)
    (intent plan artifact policy : Value) (authorization : Authorization) : Prop where
  found : start.find_run run_id = some run
  rendered : runtime.render_configuration intent plan = .ok artifact
  authorized : (authorize_sjc23_poc_execution intent plan artifact policy authorization).isOk
  plan_hash : authorization.plan_hash = run.plan_hash
  artifact_hash : authorization.artifact_hash = run.artifact_hash

/-- An authorization names the hashes of the plan and the artifact, and allows one code. -/
theorem authorize_eq_ok {intent plan artifact policy authorized : Value}
    {authorization : Authorization}
    (hok : authorize_sjc23_poc_execution intent plan artifact policy authorization = .ok authorized) :
    (∃ hash, plan.item "plan_hash" = .ok hash ∧ authorization.plan_hash = hash.toStr) ∧
      text artifact "artifact_hash" = .ok authorization.artifact_hash ∧
      (do return (← (← authorized.item "allowed_blocker_codes").elements).map Value.toStr : Py _) =
        .ok [_REQUIRED_BLOCKER] := by
  simp only [authorize_sjc23_poc_execution, _require, bind_eq_ok_iff, raise_if_eq_ok,
    Bool.not_eq_false', decide_eq_true_iff, pure_eq_ok_iff] at hok
  obtain ⟨_, -, plan_text, hplan_text, _, hplan, artifact_text, hartifact_text, _, hartifact, _, -, _, -,
    _, -, _, -, _, -, hash, hhash, _, -, rfl⟩ := hok
  refine ⟨⟨hash, hhash, ?_⟩, hartifact ▸ hartifact_text, rfl⟩
  rw [hplan]
  obtain ⟨found, hfound, hplan_text⟩ := bind_eq_ok_iff.mp hplan_text
  obtain ⟨value, hvalue, hfound⟩ := bind_eq_ok_iff.mp hfound
  rw [item_eq_ok_iff.mp hhash] at hvalue
  obtain rfl := Except.ok.inj hvalue
  obtain rfl := Except.ok.inj hfound
  exact (Except.ok.inj hplan_text).symm

theorem plan_hash_of_binding {platform : Platform} {run : RunRow} {plan artifact hash : Value}
    (hbound : check_binding platform run plan artifact = .ok ())
    (hhash : plan.item "plan_hash" = .ok hash) : hash.toStr = run.plan_hash := by
  simp only [check_binding, bind_eq_ok_iff, raise_if_eq_ok, Bool.or_eq_false_iff,
    decide_eq_false_iff_not, not_not] at hbound
  obtain ⟨_, -, _, -, _, -, _, -, found, hfound, -, hplan⟩ := hbound
  rw [item_eq_ok_iff.mp hhash] at hfound
  obtain rfl := Except.ok.inj hfound
  exact hplan

theorem artifact_hash_of_binding {platform : Platform} {run : RunRow} {plan artifact : Value}
    {hash : String} (hbound : check_binding platform run plan artifact = .ok ())
    (hhash : text artifact "artifact_hash" = .ok hash) : hash = run.artifact_hash := by
  simp only [check_binding, bind_eq_ok_iff, raise_if_eq_ok, Bool.or_eq_false_iff,
    decide_eq_false_iff_not, not_not] at hbound
  obtain ⟨body, hbody, supplied, hsupplied, _, ⟨-, hartifact⟩, -⟩ := hbound
  obtain ⟨found, hfound, hhash⟩ := bind_eq_ok_iff.mp hhash
  have hsame : body = artifact := by
    cases artifact <;> simp_all [as_dict]
  rw [hsame, hfound] at hsupplied
  obtain rfl := Except.ok.inj hsupplied
  exact (Except.ok.inj hhash).symm.trans hartifact

/-- No code is allowed, or an authorization allows its one code. -/
theorem codes_of_authorization {runtime : Runtime} {intent plan artifact : Value}
    {authorization : Authorization} {codes : List String}
    (hok : _sjc23_poc_authorization runtime intent plan artifact authorization = .ok codes) :
    codes = [] ∨ codes = [_REQUIRED_BLOCKER] ∧ ∃ policy authorized,
      authorize_sjc23_poc_execution intent plan artifact policy authorization = .ok authorized := by
  rw [_sjc23_poc_authorization] at hok
  split at hok
  · exact .inl (pure_eq_ok_iff.mp hok).symm
  split at hok
  · cases hok
  simp only [raise_if_bind_eq_ok_iff] at hok
  obtain ⟨-, hok⟩ := hok
  split at hok
  · cases hok
  rename_i policy _
  simp only [raise_if_bind_eq_ok_iff] at hok
  obtain ⟨-, hok⟩ := hok
  split at hok
  · rename_i authorized hauthorized
    obtain ⟨-, -, hcodes⟩ := authorize_eq_ok hauthorized
    exact .inr ⟨Except.ok.inj (hok.symm.trans hcodes), policy, authorized, hauthorized⟩
  · split at hok <;> cases hok

section Reach

variable {platform : Platform} {derive_fabric_intent : Derive} {start : Store} {runtime : Runtime}
  {outside : Outside} {run_id : String} {intent : FabricIntent}

/-- What a worker may do: it issues no feature but local DHCP and endpoint attachments,
and these only with an authorization of the run's own hashes. -/
def Permitted (runtime : Runtime) (start : Store) (run_id : String) (event : Event) : Prop :=
  ∀ feature, event.Issues feature →
    (feature = .local_dhcp ∨ feature = .endpoint_attachment) ∧
      ∃ run intent plan artifact policy authorization,
        PocAuthorized runtime start run_id run intent plan artifact policy authorization

/-- The one code that an authorization allows is that of the two features. -/
theorem feature_of_required {feature : Feature} (hblocker : feature.blocker = _REQUIRED_BLOCKER) :
    feature = .local_dhcp ∨ feature = .endpoint_attachment := by
  cases feature <;> first | exact .inl rfl | exact .inr rfl | exact absurd hblocker (by decide)

/-- An admitted artifact without unresolved blockers holds only what is permitted. -/
theorem admissible_of_admitted {texts : Texts} (haccepted : Accepted texts intent)
    (hrenders : runtime.Renders platform intent) (hplans : PlansIntent start run_id intent)
    {now : Datetime} {execution : Execution}
    (hadmitted : admitted platform runtime run_id now start = .ok execution) {run : RunRow}
    {blockers : Option Value} (hrun : start.find_run run_id = some run)
    (hbound : check_binding platform run execution.plan execution.artifact = .ok ())
    (hblockers : execution.artifact.get "blocking_requirements" = .ok blockers)
    (hresolved : _unresolved_blocker_codes blockers (some execution.allowed_blocker_codes) = .ok []) :
    AdmissibleArtifact (Permitted runtime start run_id) execution.artifact := by
  simp only [admitted, store.get_run, store.get_plan, bind_eq_ok_iff, raise_if_eq_ok,
    require_eq_ok, pure_eq_ok_iff] at hadmitted
  obtain ⟨found, hfound, _, -, plan_record, hplan, intent_record, hintent, artifact, hartifact, hash, -,
    _, -, approval, -, codes, hcodes, _, -, rfl⟩ := hadmitted
  obtain rfl := Option.some.inj (hfound.symm.trans hrun)
  have hdocument := hplans found plan_record intent_record hfound hplan hintent
  obtain ⟨rendered, hrender, hsame⟩ := hrenders _ _ _ hdocument hartifact
  have hrendered := rendered_of_eq_ok hrender
  -- the blocker of every feature in the artifact is the one that was authorized
  have hpermitted (feature : Feature) (hcontains : rendered.Contains feature) :
      (feature = .local_dhcp ∨ feature = .endpoint_attachment) ∧
        ∃ run intent plan artifact policy authorization,
          PocAuthorized runtime start run_id run intent plan artifact policy authorization := by
    have hallowed := allowed_of_document hsame hblockers hresolved
      (blocker_of_contains haccepted hrendered hcontains)
    obtain rfl | ⟨rfl, policy, authorized, hauthorized⟩ := codes_of_authorization hcodes
    · cases hallowed
    · refine ⟨feature_of_required (List.mem_singleton.mp hallowed), found, _, _, _, policy, _,
        hfound, hartifact, by rw [hauthorized]; rfl, ?_, ?_⟩
      · obtain ⟨⟨hash, hhash, heq⟩, -⟩ := authorize_eq_ok hauthorized
        exact heq.trans (plan_hash_of_binding hbound hhash)
      · exact artifact_hash_of_binding hbound (authorize_eq_ok hauthorized).2.1
  constructor
  · intro manifest hmanifest
    cases hise : rendered.ise with
    | none => exact no_manifest_of_document hsame hise hmanifest
    | some _ =>
      obtain ⟨hfeature | hfeature, -⟩ := hpermitted .ise (.inr ⟨rfl, by rw [hise]; rfl⟩) <;>
        cases hfeature
  · rintro artifact_devices hdevices phase_id device_id blocks hblocks block hblock commands outcome
      feature ⟨block_id, hblock_id, hfeature⟩
    obtain ⟨entry, hentry, -, phase, hphase, rfl, own, hown, hsame_block⟩ :=
      block_of_document hsame hdevices hblocks hblock
    have hown_id : own.document.item "block_id" = .ok (.str own.block_id) := rfl
    obtain rfl := Value.str.inj (same_of_item hsame_block hown_id hblock_id).eq_str
    exact hpermitted feature (.inl ⟨entry, hentry, phase, hphase, own, hown, hfeature⟩)

/-- A whole `process_run` call does what is permitted. -/
theorem process_run_permitted {texts : Texts} (haccepted : Accepted texts intent)
    (hrenders : runtime.Renders platform intent) (hplans : PlansIntent start run_id intent) :
    Triple (fun s : State platform derive_fabric_intent start => s = .initial)
      (process_run runtime outside run_id) (fun _ => Confined (Permitted runtime start run_id))
      (fun _ => Confined (Permitted runtime start run_id)) := by
  have hinitial (s : State platform derive_fabric_intent start) (hs : s = .initial) :
      Confined (Permitted runtime start run_id) s := by
    subst hs
    exact ⟨by simp [State.initial], rfl⟩
  unfold process_run
  refine Triple.lift_bind ?_ ?_
  · exact fun _ s hs => hinitial s hs
  intro _ _
  refine Triple.read_bind_of (a := (outside.ambient []).utc_now 0) ?_ ?_
  · rintro s rfl
    rfl
  refine Triple.read_bind_of (a := start) ?_ ?_
  · rintro s rfl
    rfl
  refine Triple.lift_bind ?_ ?_
  · exact fun _ s hs => hinitial s hs
  intro execution hadmitted
  apply process_apply_confined
  · intro event hquiet feature hissues
    exact absurd hissues (not_issues_of_quiet hquiet feature)
  · intro run blockers hrun hbound hblockers hresolved
    exact admissible_of_admitted haccepted hrenders hplans hadmitted hrun hbound hblockers hresolved

/-- The start of a worker does what is permitted. -/
theorem after_start_permitted {texts : Texts} (haccepted : Accepted texts intent)
    {started : WorkerStart} (hrenders : started.runtime.Renders platform intent)
    (hplans : PlansIntent start started.run_id intent) :
    Confined (Permitted started.runtime start started.run_id)
      (after_start platform derive_fabric_intent start started) := by
  have hrun := @process_run_permitted platform derive_fabric_intent start started.runtime
    started.outside started.run_id intent texts haccepted hrenders hplans
  have hfinal := hrun.final (Eq.refl State.initial)
  exact hfinal

end Reach

def lab_local_dhcp : LocalDhcp where
  server_device_id := "border-cp-01"
  helper_address := .ofOctets 10 255 1 1
  lease_minutes := 1440
  dns_servers := [.ofOctets 10 20 0 53]

/-- The lab fabric with one network, whose pool the border serves. -/
def lab_dhcp_intent : FabricIntent :=
  { orchestrator.intent.lab_intent with
    virtual_networks := orchestrator.intent.lab_intent.virtual_networks.take 1
    endpoint_pools := (orchestrator.intent.lab_intent.endpoint_pools.take 1).map fun pool =>
      { pool with dhcp_helpers := [.ofOctets 10 255 1 1], dhcp := some lab_local_dhcp } }

def lab_dhcp_plan : Value := .dict [
  ("intent_hash", .str (cpython.sha256_json lab_dhcp_intent.document)),
  ("plan_id", .str "plan_lab"),
  ("plan_hash", .str lab_plan_hash),
  ("reconciliation", .dict [("status", .str "baseline_missing")])]

/-- The store with that intent, its plan and a queued run. -/
def lab_dhcp_store : Store where
  intents := [{
    intent_id := "intent_dhcp", intent_hash := cpython.sha256_json lab_dhcp_intent.document
    fabric_id := "fab-sjc23-001", environment := "lab", document := lab_dhcp_intent.document
    created_at := "2025-01-15T12:00:00+00:00", created_by := "planner" }]
  plans := [{
    plan_id := "plan_lab", plan_hash := lab_plan_hash, artifact_hash := lab_artifact_hash
    intent_version := "1.0", reservation_id := none, intent_id := "intent_dhcp"
    fabric_id := "fab-sjc23-001", document := lab_dhcp_plan
    created_at := "2025-01-15T12:00:00+00:00", created_by := "planner" }]
  runs := [{
    run_id := "run_dhcp", plan_id := "plan_lab", plan_hash := lab_plan_hash
    artifact_hash := lab_artifact_hash, intent_version := "1.0", fabric_id := "fab-sjc23-001"
    idempotency_key_hash := "sha256:dhcp", mode := .apply, status := .apply_queued
    requested_by := "operator", maintenance_start := none, maintenance_end := none
    created_at := "2025-01-15T12:00:00+00:00", updated_at := "2025-01-15T12:00:00+00:00" }]

/-- A worker that renders the intent. -/
def lab_dhcp_started : WorkerStart where
  runtime := { lab_runtime with
    render_configuration := fun _ plan => do
      let rendered ← renderer.render_configuration cpython lab_dhcp_intent plan
      return rendered.document cpython }
  outside := lab_outside 0 false
  run_id := "run_dhcp"

theorem lab_dhcp_rendered :
    (renderer.render_configuration cpython lab_dhcp_intent lab_dhcp_plan).toOption.map
      (fun artifact => artifact.devices.any fun entry => entry.2.phases.any fun phase =>
        phase.blocks.any fun block =>
          feature_of phase.phase_id block.block_id = some .local_dhcp) = some true := by
  decide +kernel

theorem lab_dhcp_renders : lab_dhcp_started.runtime.Renders cpython lab_dhcp_intent := by
  intro document plan artifact _ hok
  obtain ⟨rendered, hrendered, hdocument⟩ := bind_eq_ok_iff.mp hok
  obtain rfl := pure_eq_ok_iff.mp hdocument
  exact ⟨rendered, hrendered, rfl⟩

theorem lab_dhcp_plans : PlansIntent lab_dhcp_store "run_dhcp" lab_dhcp_intent := by
  intro run plan_record intent_record _ _ hintent
  have hmem := table.lookup_mem hintent
  obtain rfl := List.mem_singleton.mp hmem
  rfl

end orchestrator.worker_runtime
