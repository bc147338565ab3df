import SdaOrchestrator.Worker.Approved
import SdaOrchestrator.Worker.Growth
import SdaOrchestrator.Worker.Schedule

open python effects effects.Program orchestrator.store

namespace orchestrator.worker

/-! ## The references that a transaction needs -/

/-- `str(value["credential_ref"])`, as the adapters read it. -/
def adapter_credentials (value : Value) : List Call :=
  match value.item "credential_ref" with
  | .ok ref => [.resolve_credentials ref.toStr]
  | .error _ => []

/-- The credentials of the devices it connects to and of ISE. -/
def needed_credentials (intent artifact : Value) : List Call :=
  ((device_map intent artifact).toOption.getD []).flatMap (fun device => adapter_credentials device.2) ++
    match ise_manifest_of artifact with
    | .ok (some manifest) => if manifest.truthy then adapter_credentials manifest else []
    | _ => []

/-- The blocks it applies. -/
def blocks_to_apply (plan artifact : Value) : List Value :=
  match artifact.item "devices" with
  | .ok artifact_devices =>
    ((ordered_phases plan).toOption.getD []).flatMap fun phase_id =>
      (artifact_devices.pairs.toOption.getD []).flatMap fun device =>
        (device_blocks artifact_devices phase_id device.1).toOption.getD []
  | .error _ => []

/-- The placeholders of one command. -/
def placeholders (command : Value) : List String :=
  (pieces 0 (chars command.toStr)).filterMap fun piece =>
    match piece with
    | .secret uri => some uri
    | .char _ => none

/-- The secrets in the commands of the blocks it applies. -/
def needed_secrets (plan artifact : Value) : List String :=
  (blocks_to_apply plan artifact).flatMap fun block =>
    match (do (← block.item "commands").elements : Py (List Value)) with
    | .ok commands => commands.flatMap placeholders
    | .error _ => []

/-- The references that the rest of the transaction can need. -/
def needed (intent plan artifact : Value) : List Call :=
  needed_credentials intent artifact ++ (needed_secrets plan artifact).map .resolve_value

/-! ## The references that the sweep resolves -/

/-- `str(value.get("credential_ref", ""))`, unless it is empty. -/
def swept_credentials (value : Value) : List Call :=
  match value.getD "credential_ref" (.str "") with
  | .ok ref => if ref.toStr = "" then [] else [.resolve_credentials ref.toStr]
  | .error _ => []

/-- The credentials that the sweep resolves when it has a resolver for them. -/
def swept_intent (intent artifact : Value) : List Call :=
  ((entries_of intent "devices").toOption.getD []).flatMap swept_credentials ++
    match ise_manifest_of artifact with
    | .ok manifest => swept_credentials (or_empty manifest)
    | .error _ => []

/-- The secrets that the blocks of an artifact device list. -/
def listed_secrets (artifact_device : Value) : List String :=
  ((entries_of artifact_device "phases").toOption.getD []).flatMap fun phase =>
    ((entries_of phase "blocks").toOption.getD []).flatMap fun block =>
      ((entries_of block "secret_refs").toOption.getD []).map Value.toStr

/-- The secrets that the blocks of the artifact list. -/
def declared_secrets (artifact : Value) : List String :=
  match (do (← artifact.getD "devices" (.dict [])).pairs : Py (List (String × Value))) with
  | .ok artifact_devices => artifact_devices.flatMap fun device => listed_secrets device.2
  | .error _ => []

/-- The references that the sweep resolves, in order. -/
def swept (worker : TransactionWorker) (intent artifact : Value) : List Call :=
  (if worker.credential_resolver then swept_intent intent artifact else []) ++
    (declared_secrets artifact).map .resolve_value

/-! ## What has been resolved -/

def Call.resolves : Call → Bool
  | .resolve_value _ => true
  | .resolve_credentials _ => true
  | _ => false

/-- The reference that an event has resolved. -/
def Event.resolution : Event → Option Call
  | .called request (.ok _) => if request.resolves then some request else none
  | _ => none

/-- The references resolved so far, in order. -/
def resolved (trace : List Event) : List Call := trace.filterMap Event.resolution

/-- What happened before the run was started. -/
def before_start (run_id : String) (trace : List Event) : List Event :=
  trace.takeWhile fun event => !event.starts_apply run_id

/-- The run was started. -/
def Started (run_id : String) (trace : List Event) : Prop :=
  ∃ event ∈ trace, event.starts_apply run_id

/-- A call of a resolver and its outcome. -/
def Event.asks_resolver : Event → Bool
  | .called request _ => request.resolves
  | _ => false

section Sweep

variable {platform : Platform} {derive_fabric_intent : Derive} {start : Store}
  {worker : TransactionWorker} {outside : Outside} {run_id : String}

/-- Only resolvers have been asked, and they have resolved these references. -/
structure Resolving (requests : List Call) (s : State platform derive_fabric_intent start) :
    Prop where
  resolved : resolved s.trace = requests
  quiet : ∀ event ∈ s.trace, event.asks_resolver
  store : s.store = start

/-- Only resolvers have been asked. -/
def OnlyResolved (s : State platform derive_fabric_intent start) : Prop :=
  ∃ requests, Resolving requests s

theorem resolving_initial :
    Resolving [] (.initial : State platform derive_fabric_intent start) where
  resolved := rfl
  quiet := by simp [State.initial]
  store := rfl

theorem preflight_triple {request : Call} (hrequest : request.resolves) {text : String}
    (requests : List Call) :
    Triple (Resolving requests : State platform derive_fabric_intent start → Prop)
      (preflight outside request text) (fun _ => Resolving (requests ++ [request]))
      (fun _ => OnlyResolved) := by
  apply Triple.attempt_bind (fun _ => Resolving (requests ++ [request])) fun _ => OnlyResolved
  · intro s hs
    have hquiet (outcome : Py Value) :
        ∀ event ∈ s.trace ++ [.called request outcome], event.asks_resolver := by
      intro event hevent
      obtain hold | hnew := List.mem_append.mp hevent
      · exact hs.quiet event hold
      · exact List.mem_singleton.mp hnew ▸ hrequest
    simp only [call]
    cases outside.respond s.trace request with
    | error exception => exact ⟨_, rfl, hquiet _, hs.store⟩
    | ok value =>
      refine ⟨?_, hquiet _, hs.store⟩
      have happend : resolved (s.trace ++ [.called request (.ok value)]) =
          resolved s.trace ++ [request] := by
        simp [resolved, Event.resolution, hrequest]
      exact happend.trans (by rw [hs.resolved])
  · exact fun _ => Triple.pure fun _ hs => hs
  · exact fun _ => Triple.raise fun _ hs => hs

/-- A loop resolves what its body resolves, item by item. -/
theorem each_resolving {α : Type} {items : List α}
    {body : α → Apply platform derive_fabric_intent start Unit} {found : α → List Call}
    (hbody : ∀ x requests, Triple (Resolving requests) (body x)
      (fun _ => Resolving (requests ++ found x)) (fun _ => OnlyResolved))
    (requests : List Call) :
    Triple (Resolving requests) (Program.each items body)
      (fun _ => Resolving (requests ++ items.flatMap found)) (fun _ => OnlyResolved) := by
  refine (Triple.each (fun done => Resolving (requests ++ done.flatMap found)) ?_).weaken ?_
    (fun _ _ hs => hs) (fun _ _ hs => hs)
  · intro done x rest _
    rw [List.flatMap_append, List.flatMap_singleton, ← List.append_assoc]
    exact hbody x _
  · intro s hs
    rwa [List.flatMap_nil, List.append_nil]

theorem Resolving.only {requests : List Call} {s : State platform derive_fabric_intent start}
    (hs : Resolving requests s) : OnlyResolved s := ⟨requests, hs⟩

theorem preflight_credentials_triple {intent artifact : Value} :
    Triple (Resolving [] : State platform derive_fabric_intent start → Prop)
      (preflight_credentials outside intent artifact)
      (fun _ => Resolving (swept_intent intent artifact)) (fun _ => OnlyResolved) := by
  apply Triple.lift_bind fun _ _ hs => hs.only
  intro devices hdevices
  have hentries : (entries_of intent "devices").toOption.getD [] = devices := by
    rw [entries_of, hdevices]
    rfl
  apply Triple.bind fun _ => Resolving (devices.flatMap swept_credentials)
  · refine each_resolving (fun device requests => ?_) []
    apply Triple.lift_bind fun _ _ hs => hs.only
    intro ref href
    rw [swept_credentials, href]
    dsimp only
    split
    · rw [List.append_nil]
      exact Triple.pure fun _ hs => hs
    · apply Triple.lift_bind fun _ _ hs => hs.only
      exact fun id _ => preflight_triple rfl requests
  · intro _
    apply Triple.lift_bind fun _ _ hs => hs.only
    intro manifest hmanifest
    apply Triple.lift_bind fun _ _ hs => hs.only
    intro ref href
    rw [swept_intent, hentries, hmanifest]
    dsimp only
    rw [swept_credentials, href]
    dsimp only
    split
    · rw [List.append_nil]
      exact Triple.pure fun _ hs => hs
    · exact preflight_triple rfl _

theorem preflight_secrets_triple {artifact : Value} (requests : List Call) :
    Triple (Resolving requests : State platform derive_fabric_intent start → Prop)
      (preflight_secrets outside artifact)
      (fun _ => Resolving (requests ++ (declared_secrets artifact).map .resolve_value))
      (fun _ => OnlyResolved) := by
  apply Triple.lift_bind fun _ _ hs => hs.only
  intro artifact_devices hdevices
  rw [declared_secrets, hdevices]
  dsimp only
  rw [List.map_flatMap]
  refine each_resolving (fun device requests => ?_) requests
  apply Triple.lift_bind fun _ _ hs => hs.only
  intro phases hphases
  rw [listed_secrets, hphases, List.map_flatMap]
  refine each_resolving (fun phase requests => ?_) requests
  apply Triple.lift_bind fun _ _ hs => hs.only
  intro blocks hblocks
  rw [hblocks, List.map_flatMap]
  refine each_resolving (fun block requests => ?_) requests
  apply Triple.lift_bind fun _ _ hs => hs.only
  intro uris huris
  have hmap : (((entries_of block "secret_refs").toOption.getD []).map Value.toStr).map
      Call.resolve_value = uris.flatMap fun uri => [.resolve_value uri.toStr] := by
    rw [huris, List.map_map]
    exact List.map_eq_flatMap
  rw [hmap]
  exact each_resolving (fun uri requests => preflight_triple rfl requests) requests

theorem _preflight_secret_sweep_triple {intent artifact : Value} :
    Triple (Resolving [] : State platform derive_fabric_intent start → Prop)
      (_preflight_secret_sweep worker outside intent artifact)
      (fun _ => Resolving (swept worker intent artifact)) (fun _ => OnlyResolved) := by
  unfold _preflight_secret_sweep swept
  split
  · exact Triple.bind _ preflight_credentials_triple fun _ => preflight_secrets_triple _
  · exact preflight_secrets_triple []

/-! ## The start of a run -/

/-- The run was started after its references were swept. -/
def SweptFirst (worker : TransactionWorker) (intent artifact : Value) (run_id : String)
    (trace : List Event) : Prop :=
  ∃ before event rest, trace = before ++ event :: rest ∧ event.starts_apply run_id ∧
    (∀ earlier ∈ before, earlier.asks_resolver) ∧ resolved before = swept worker intent artifact

/-- A run that was not started has contacted no device, and its store is as it was unless
the artifact has blockers. -/
structure Untouched (artifact : Value) (allowed_blocker_codes : Option (List String)) (run_id : String)
    (s : State platform derive_fabric_intent start) : Prop where
  unstarted : ¬Started run_id s.trace
  no_device : issued s.trace = []
  kept : s.store = start ∨ ∃ blockers codes, artifact.get "blocking_requirements" = .ok blockers ∧
    _unresolved_blocker_codes blockers allowed_blocker_codes = .ok codes ∧ codes ≠ []

theorem not_starts_of_asks {event : Event} (hasks : event.asks_resolver) :
    event.starts_apply run_id = false := by
  cases event with
  | called request outcome => rfl
  | gate gate passed => cases hasks
  | transaction transaction ambient => cases hasks

/-- An event that neither reaches a device nor starts the run. -/
def Event.idle (run_id : String) (event : Event) : Bool :=
  !event.starts_apply run_id &&
    match event with
    | .called request _ => !request.on_device
    | _ => true

theorem idle_of_asks {event : Event} (hasks : event.asks_resolver) : event.idle run_id := by
  have hstarts : event.starts_apply run_id = false := not_starts_of_asks hasks
  cases event with
  | called request outcome => cases request <;> first | rfl | cases hasks
  | gate gate passed => cases hasks
  | transaction transaction ambient => cases hasks

theorem untouched_of_idle {artifact : Value} {allowed_blocker_codes : Option (List String)}
    {s : State platform derive_fabric_intent start} (hidle : ∀ event ∈ s.trace, event.idle run_id)
    (hkept : s.store = start ∨ ∃ blockers codes,
      artifact.get "blocking_requirements" = .ok blockers ∧
        _unresolved_blocker_codes blockers allowed_blocker_codes = .ok codes ∧ codes ≠ []) :
    Untouched artifact allowed_blocker_codes run_id s where
  unstarted := by
    rintro ⟨event, hevent, hstarts⟩
    have hidle := hidle event hevent
    simp [Event.idle, hstarts] at hidle
  no_device := by
    refine List.filterMap_eq_nil_iff.mpr fun event hevent => ?_
    have hidle := hidle event hevent
    cases event with
    | called request outcome =>
      simp only [Event.idle, Bool.and_eq_true, Bool.not_eq_true'] at hidle
      simp [hidle.2]
    | gate gate passed => rfl
    | transaction transaction ambient => rfl
  kept := hkept

theorem OnlyResolved.idle {s : State platform derive_fabric_intent start} (hs : OnlyResolved s) :
    ∀ event ∈ s.trace, event.idle run_id := by
  obtain ⟨requests, hresolving⟩ := hs
  exact fun event hevent => idle_of_asks (hresolving.quiet event hevent)

theorem OnlyResolved.untouched {artifact : Value} {allowed_blocker_codes : Option (List String)}
    {s : State platform derive_fabric_intent start} (hs : OnlyResolved s) :
    Untouched artifact allowed_blocker_codes run_id s := by
  obtain ⟨requests, hresolving⟩ := hs
  exact untouched_of_idle hresolving.only.idle (.inl hresolving.store)

theorem start_triple {intent artifact : Value} {actor : String} {detail : Value} :
    Triple (Resolving (swept worker intent artifact) : State platform derive_fabric_intent start → Prop)
      (transition_run outside run_id .apply_running actor detail)
      (fun _ s => SweptFirst worker intent artifact run_id s.trace) (fun _ => OnlyResolved) := by
  intro s hs
  simp only [transition_run, transact]
  split
  · exact hs.only
  · exact ⟨s.trace, _, [], rfl, by simp [Event.starts_apply], hs.quiet, hs.resolved⟩

theorem SweptFirst.append {intent artifact : Value} (trace : List Event) (event : Event)
    (hswept : SweptFirst worker intent artifact run_id trace) :
    SweptFirst worker intent artifact run_id (trace ++ [event]) := by
  obtain ⟨before, started, rest, rfl, hstarts, hasks, hresolved⟩ := hswept
  exact ⟨before, started, rest ++ [event], by simp, hstarts, hasks, hresolved⟩

/-- What was resolved before the start is what the sweep resolves. -/
theorem SweptFirst.resolved_before {intent artifact : Value} {trace : List Event}
    (hswept : SweptFirst worker intent artifact run_id trace) :
    resolved (before_start run_id trace) = swept worker intent artifact := by
  obtain ⟨before, started, rest, rfl, hstarts, hasks, hresolved⟩ := hswept
  have hbefore : before_start run_id (before ++ started :: rest) = before := by
    rw [before_start, List.takeWhile_append_of_pos]
    · rw [List.takeWhile_cons_of_neg (by simp [hstarts]), List.append_nil]
    · intro event hevent
      rw [not_starts_of_asks (hasks event hevent), Bool.not_false]
  rw [hbefore, hresolved]

/-- A call either starts its run after the sweep or leaves it untouched. -/
theorem process_apply_swept {intent plan artifact : Value}
    {allowed_blocker_codes : Option (List String)} :
    let ends (s : State platform derive_fabric_intent start) :=
      SweptFirst worker intent artifact run_id s.trace ∨
        Untouched artifact allowed_blocker_codes run_id s
    Triple (fun s : State platform derive_fabric_intent start => s = .initial)
      (process_apply worker outside run_id intent plan artifact allowed_blocker_codes)
      (fun _ => ends) (fun _ => ends) := by
  intro ends
  have hends (s : State platform derive_fabric_intent start) (hs : OnlyResolved s) : ends s :=
    .inr hs.untouched
  apply Triple.bind fun _ => Resolving []
  · refine get_run_triple.weaken (fun _ hs => hs) ?_ ?_
    · rintro _ s ⟨rfl, -⟩
      exact resolving_initial
    · rintro _ s rfl
      exact hends _ resolving_initial.only
  intro run
  apply Triple.ite
  · exact fun _ => Triple.raise fun s hs => hends s hs.only
  intro _
  apply Triple.lift_bind fun _ s hs => hends s hs.only
  intro _ _
  apply Triple.lift_bind fun _ s hs => hends s hs.only
  intro codes hcodes
  obtain ⟨blockers, hblockers, hcodes⟩ := bind_eq_ok_iff.mp hcodes
  apply Triple.ite
  · intro hunresolved
    apply Triple.bind fun _ => ends
    · intro s hs
      have hrefused : ∃ blockers codes, artifact.get "blocking_requirements" = .ok blockers ∧
          _unresolved_blocker_codes blockers allowed_blocker_codes = .ok codes ∧ codes ≠ [] :=
        ⟨blockers, codes, hblockers, hcodes, hunresolved⟩
      simp only [transition_run, transact]
      split
      · exact hends s hs.only
      · refine .inr (untouched_of_idle ?_ (.inr hrefused))
        intro event hevent
        obtain hold | hnew := List.mem_append.mp hevent
        · exact hs.only.idle event hold
        · rw [List.mem_singleton.mp hnew]
          rfl
    · exact fun _ => Triple.pure fun _ hs => hs
  intro _
  apply Triple.lift_bind fun _ s hs => hends s hs.only
  intro devices _
  apply Triple.lift_bind fun _ s hs => hends s hs.only
  intro gate_plan _
  apply Triple.lift_bind fun _ s hs => hends s hs.only
  intro ise_manifest _
  apply Triple.bind _ (_preflight_secret_sweep_triple.weaken (fun _ hs => hs) (fun _ _ hs => hs)
    fun _ s hs => hends s hs)
  intro _
  apply Triple.bind _ (start_triple.weaken (fun _ hs => hs) (fun _ _ hs => hs)
    fun _ s hs => hends s hs)
  intro _
  exact (guarded_transaction_grows SweptFirst.append).weaken (fun _ hs => hs)
    (fun _ _ hs => .inl hs) (fun _ _ hs => .inl hs)

end Sweep

end orchestrator.worker

namespace orchestrator.worker_runtime

open orchestrator.worker

section Preflight

/-- A worker process does what `process_apply` does on the documents it was admitted
with, or nothing. -/
theorem after_start_of_admitted (platform : Platform) (derive_fabric_intent : Derive)
    {current : Store} {started : WorkerStart} {execution : Execution}
    (hadmitted : admitted platform started.runtime started.run_id started.now current =
      .ok execution) :
    after_start platform derive_fabric_intent current started = .initial ∨
      after_start platform derive_fabric_intent current started =
        after_apply platform derive_fabric_intent current started.runtime.worker started.outside
          started.run_id execution.intent execution.plan execution.artifact
          (some execution.allowed_blocker_codes) := by
  unfold after_start process_run after_apply
  cases henabled : enabled started.runtime with
  | error exception => exact .inl rfl
  | ok _ =>
    have hread : admitted platform started.runtime started.run_id
        ((started.outside.ambient []).utc_now 0) current = .ok execution := hadmitted
    right
    simp only [Bind.bind, Program.lift, Program.read,
      show (State.initial : State platform derive_fabric_intent current).trace = [] from rfl,
      show (State.initial : State platform derive_fabric_intent current).session.store = current
        from rfl, hread]

theorem credentials_of_needed {intent artifact : Value} {request : Call}
    (hneeded : request ∈ needed_credentials intent artifact) :
    ∃ ref, request = .resolve_credentials ref := by
  have hadapter {value : Value} (hmem : request ∈ adapter_credentials value) :
      ∃ ref, request = .resolve_credentials ref := by
    unfold adapter_credentials at hmem
    split at hmem
    · exact ⟨_, List.mem_singleton.mp hmem⟩
    · cases hmem
  obtain hdevice | hise := List.mem_append.mp hneeded
  · obtain ⟨device, -, hmem⟩ := List.mem_flatMap.mp hdevice
    exact hadapter hmem
  · split at hise
    · split at hise
      · exact hadapter hise
      · cases hise
    · cases hise

/-- Without a credential resolver the sweep covers what the transaction needs if and only
if that is secrets only, all of them listed. -/
theorem needed_swept_iff {runtime : Runtime} {intent plan artifact : Value} :
    (∀ request ∈ needed intent plan artifact, request ∈ swept runtime.worker intent artifact) ↔
      needed_credentials intent artifact = [] ∧
        ∀ uri ∈ needed_secrets plan artifact, uri ∈ declared_secrets artifact := by
  have hswept : swept runtime.worker intent artifact =
      (declared_secrets artifact).map .resolve_value := rfl
  rw [hswept]
  constructor
  · intro hall
    constructor
    · refine List.eq_nil_iff_forall_not_mem.mpr fun request hrequest => ?_
      obtain ⟨ref, rfl⟩ := credentials_of_needed hrequest
      obtain ⟨uri, -, hsame⟩ := List.mem_map.mp (hall _ (List.mem_append_left _ hrequest))
      cases hsame
    · intro uri huri
      have hneeded : Call.resolve_value uri ∈ needed intent plan artifact :=
        List.mem_append_right _ (List.mem_map_of_mem huri)
      obtain ⟨declared, hdeclared, hsame⟩ := List.mem_map.mp (hall _ hneeded)
      cases hsame
      exact hdeclared
  · rintro ⟨hcredentials, hsecrets⟩ request hrequest
    rw [needed, hcredentials, List.nil_append] at hrequest
    obtain ⟨uri, huri, rfl⟩ := List.mem_map.mp hrequest
    exact List.mem_map_of_mem (hsecrets uri huri)

end Preflight

/-! ## A device with a credential -/

/-- The lab intent with the credential of its device. -/
def lab_credential_intent : Value := .dict [
  ("devices", .list [.dict [
    ("id", .str "node-1"), ("credential_ref", .str "secret://lab/node-1"),
    ("software_version", .str "17.15.1")]]),
  ("fabric", .dict [("id", .str "lab")]),
  ("lisp", .dict [("map_servers", .list [])]),
  ("metadata", .dict [("environment", .str "lab")])]

/-- A queued run for an intent. -/
def lab_run_store (document : Value) : Store where
  intents := [{
    intent_id := "intent_lab", intent_hash := lab_intent_hash, fabric_id := "lab"
    environment := "lab", document, created_at := "2025-01-15T12:00:00+00:00"
    created_by := "planner" }]
  plans := [{
    plan_id := "plan_lab", plan_hash := lab_plan_hash, artifact_hash := lab_artifact_hash
    intent_version := "1.0", reservation_id := none, intent_id := "intent_lab"
    fabric_id := "lab", document := lab_plan, created_at := "2025-01-15T12:00:00+00:00"
    created_by := "planner" }]
  runs := [{
    run_id := "run_lab", plan_id := "plan_lab", plan_hash := lab_plan_hash
    artifact_hash := lab_artifact_hash, intent_version := "1.0", fabric_id := "lab"
    idempotency_key_hash := "sha256:lab", mode := .apply, status := .apply_queued
    requested_by := "operator", maintenance_start := none, maintenance_end := none
    created_at := "2025-01-15T12:00:00+00:00", updated_at := "2025-01-15T12:00:00+00:00" }]

/-- A worker on that run, whose device does not answer. -/
def lab_swept_start : WorkerStart where
  runtime := lab_runtime
  outside := lab_unreachable
  run_id := "run_lab"

def lab_admitted (document : Value) : Py Execution :=
  admitted cpython lab_runtime "run_lab" lab_swept_start.now (lab_run_store document)

def lab_swept_trace (document : Value) : List Event :=
  (after_start cpython lab_derive (lab_run_store document) lab_swept_start).trace

/-- The run is started with nothing resolved. -/
theorem lab_unresolved :
    ((lab_admitted lab_credential_intent).toOption.map fun execution =>
        (needed execution.intent execution.plan execution.artifact).isEmpty) = some false ∧
      (lab_swept_trace lab_credential_intent).head?.any (Event.starts_apply "run_lab") := by
  decide +kernel

end orchestrator.worker_runtime
