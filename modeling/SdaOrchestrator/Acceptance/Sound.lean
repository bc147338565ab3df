import SdaOrchestrator.Acceptance.Registry

open python json_schema

namespace orchestrator.acceptance

/-! ## What an acceptance stands for -/

/-- `element` is in the list under `key`. -/
def Listed (value : Value) (key : String) (element : Value) : Prop :=
  ∃ items, value.item key = .ok (.list items) ∧ element ∈ items

/-- The record has a text under `key`. -/
def HasText (value : Value) (key text : String) : Prop := value.item key = .ok (.str text)

/-- A gate depends on a gate id. -/
def DependsOn (document : Value) (gate_id dependency : String) : Prop :=
  ∃ gate, Listed document "gates" gate ∧ HasText gate "id" gate_id ∧ Listed gate "dependencies" (.str dependency)

structure Passed (gate : Value) : Prop where
  status : HasText gate "status" "passed"
  recorded : ∃ record, Listed gate "evidence" record
  evidence : ∀ record, Listed gate "evidence" record → HasText record "result" "passed"

/-- The reference of a record, if it is to a file, is to one inside the root with the recorded hash. -/
def Verified (files : Filesystem) (root : Path) (record : Value) : Prop :=
  ∀ relative_ref, HasText record "ref" ("evidence://" ++ relative_ref) →
    ∃ path content, files.resolve (root.join (.of_text relative_ref)) = .ok path ∧ root.Inside path ∧
      files.is_file path ∧ files.read_bytes path = .ok content ∧
      HasText record "sha256" (sha256.hexdigest_of_bytes content)

structure Approved (signoff : Value) : Prop where
  status : HasText signoff "status" "approved"
  decision : ∀ name ∈ required_decision_fields, ∃ text, HasText signoff name text ∧ strip text ≠ ""

/-- What an acceptance of a registry stands for. -/
structure Accepted (files : Filesystem) (root : Path) (document : Value) : Prop where
  acyclic : ∀ gate_id, ¬Relation.TransGen (DependsOn document) gate_id gate_id
  identified : ∀ gate, Listed document "gates" gate → ∃ gate_id, HasText gate "id" gate_id
  required : ∀ gate, Listed document "gates" gate → gate.item "required" = .ok (.bool true) → Passed gate
  dependencies : ∀ gate gate_id dependency, Listed document "gates" gate →
    gate.item "required" = .ok (.bool true) → HasText gate "id" gate_id →
    Relation.TransGen (DependsOn document) gate_id dependency →
    (∃ reached, Listed document "gates" reached ∧ HasText reached "id" dependency) ∧
      ∀ reached, Listed document "gates" reached → HasText reached "id" dependency → Passed reached
  verified : ∀ gate record, Listed document "gates" gate → Listed gate "evidence" record →
    Verified files root record
  roles : ∀ role, Listed document "required_signoff_roles" (.str role) →
    (∃ signoff, Listed document "signoffs" signoff ∧ HasText signoff "role" role) ∧
      ∀ signoff, Listed document "signoffs" signoff → HasText signoff "role" role → Approved signoff
  signed : ∃ role, Listed document "required_signoff_roles" (.str role)

/-- A switch of the registry is on. -/
def Switch (document : Value) (name : String) : Prop :=
  ∃ controls, document.item "controls" = .ok controls ∧ controls.item name = .ok (.bool true)

/-- A workflow of the apply path that is enabled. -/
def EnabledWorkflow (workflow : Value) : Prop :=
  HasText workflow "id" "start_apply" ∧ workflow.item "enabled" = .ok (.bool true)

/-- A workflow of the apply path with a step that runs. -/
def ExecutableWorkflow (workflow : Value) : Prop :=
  HasText workflow "id" "start_apply" ∧ ∃ steps step, get_items workflow "steps" = .ok steps ∧ step ∈ steps ∧
    (HasText step "activity" "http_request" ∨ HasText step "activity" "bounded_poll") ∧
    step.item "enabled" = .ok (.bool true)

/-- The manifest lets the apply path run. -/
structure Exposed (manifest : Value) : Prop where
  apply_enabled : ∃ safety, manifest.item "safety" = .ok safety ∧ safety.item "apply_enabled" = .ok (.bool true)
  workflow : ∃ workflows, get_items manifest "workflows" = .ok workflows ∧
    ∃ workflow ∈ workflows, EnabledWorkflow workflow
  step : ∃ workflows, get_items manifest "workflows" = .ok workflows ∧
    ∃ workflow ∈ workflows, ExecutableWorkflow workflow

/-! ## Readings of a document -/

section Readings

variable {value found : Value} {key text : String} {items : List Value}

theorem get_eq_some_iff : value.get key = .ok (some found) ↔ value.item key = .ok found := by
  cases value with
  | dict entries =>
    simp only [Value.get, Value.item, Except.ok.injEq]
    cases assoc.lookup key entries <;> simp
  | _ => simp [Value.get, Value.item]

theorem get_items_of_item (hitem : value.item key = .ok (.list items)) : get_items value key = .ok items := by
  rw [← get_eq_some_iff] at hitem
  unfold get_items
  rw [hitem]
  cases items with
  | nil => rfl
  | cons item rest => rfl

theorem mem_of_listed (hlisted : Listed value key found) (hitems : get_items value key = .ok items) :
    found ∈ items := by
  obtain ⟨others, hitem, hmem⟩ := hlisted
  rw [get_items_of_item hitem] at hitems
  exact Except.ok.inj hitems ▸ hmem

theorem get_text_of_hasText (htext : HasText value key text) : get_text value key = .ok text := by
  have hget := get_eq_some_iff.mpr htext
  simp [get_text, Value.getD, hget, Value.toStr, Bind.bind, Except.bind, pure, Except.pure]

theorem is_text_iff {read : Option Value} : is_text text read ↔ read = some (.str text) := by
  unfold is_text
  split <;> simp_all

theorem is_true_iff {read : Option Value} : is_true read ↔ read = some (.bool true) := by
  unfold is_true
  split <;> simp_all

/-- A text that is read from a record whose schema allows only texts. -/
theorem hasText_of_get_text (hread : get_text value key = .ok text)
    (hstring : ∀ found, value.item key = .ok found → ∃ text, found = .str text) (htext : text ≠ "") :
    HasText value key text := by
  simp only [get_text, Value.getD, bind_eq_ok_iff, pure_eq_ok_iff] at hread
  obtain ⟨_, ⟨read, hget, rfl⟩, rfl⟩ := hread
  cases read with
  | none => exact absurd rfl htext
  | some found =>
    have hitem := get_eq_some_iff.mp hget
    obtain ⟨text, rfl⟩ := hstring found hitem
    exact hitem

theorem find_key_text {α : Type} (entries : List (String × α)) (text : String) :
    find_key entries (.str text) = .ok (assoc.lookup text entries) := rfl

end Readings

/-! ## Loops that find no issue -/

section Loops

variable {files : Filesystem} {root : Path}

/-- A record whose file raises no issue is verified. -/
theorem verified_of_no_issue {path : String} {item : Value}
    (hissues : evidence_file_issues files root path item = .ok []) : Verified files root item := by
  intro relative_ref href
  simp only [evidence_file_issues, bind_eq_ok_iff, get_text_of_hasText href, Except.ok.injEq, exists_eq_left'] at hissues
  have hstart : startswith ("evidence://" ++ relative_ref) "evidence://" := by
    simp [startswith, String.toList_append]
  have hdrop : drop 11 ("evidence://" ++ relative_ref) = relative_ref := by
    simp [drop, String.toList_append]
  rw [if_pos hstart, hdrop, bind_eq_ok_iff] at hissues
  obtain ⟨candidate_path, hresolve, hissues⟩ := hissues
  split at hissues
  · cases hissues
  rename_i hinside
  split at hissues
  · cases hissues
  rename_i hfile
  simp only [bind_eq_ok_iff] at hissues
  obtain ⟨content, hcontent, found, hhash, hissues⟩ := hissues
  split at hissues
  · rename_i hequal
    refine ⟨candidate_path, content, hresolve, ?_, by simpa using hfile, hcontent, ?_⟩
    · exact Path.is_relative_to_iff.mp (by simpa using hinside)
    · exact get_eq_some_iff.mp (is_text_iff.mp hequal ▸ hhash)
  · cases hissues

/-- No issue with the records of a gate: every one of them is verified. -/
theorem verified_of_no_issues {gate_path : String} {index : Nat} {items : List Value}
    {evidence_ids after : List String}
    (hissues : evidence_issues files root gate_path index items evidence_ids = .ok (after, [])) :
    ∀ item ∈ items, item.isMapping → Verified files root item := by
  induction items generalizing index evidence_ids with
  | nil => exact fun item hitem => absurd hitem List.not_mem_nil
  | cons item rest ih =>
    rw [evidence_issues] at hissues
    split at hissues
    · simp only [bind_eq_ok_iff, pure_eq_ok_iff, Prod.mk.injEq, List.append_eq_nil_iff] at hissues
      obtain ⟨evidence_id, -, file, hfile, others, hothers, rfl, ⟨-, rfl⟩, hnone⟩ := hissues
      have hrest := ih (hothers.trans (by rw [← hnone]))
      exact List.forall_mem_cons.mpr ⟨fun _ => verified_of_no_issue hfile, hrest⟩
    · rename_i hother
      exact List.forall_mem_cons.mpr ⟨fun hmapping => absurd hmapping hother, ih hissues⟩

/-- What no issue says about the status of a gate. -/
theorem results_of_no_issue {gate_path : String} {gate : Value} {evidence : List Value}
    (hissues : status_issues gate_path gate evidence = .ok []) (hstatus : HasText gate "status" "passed") :
    (∃ record ∈ evidence, record.isMapping) ∧
      ∀ record ∈ evidence, record.isMapping → HasText record "result" "passed" := by
  have hget := get_eq_some_iff.mpr hstatus
  simp only [status_issues, bind_eq_ok_iff, pure_eq_ok_iff, List.append_eq_nil_iff, issue_if_eq_nil, hget,
    Except.ok.injEq, exists_eq_left'] at hissues
  obtain ⟨results, hresults, _, -, _, -, ⟨⟨hpassed, -⟩, -⟩, -⟩ := hissues
  have hshown : is_text "passed" (some (.str "passed")) = true := is_text_iff.mpr rfl
  rw [hshown, Bool.true_and, Bool.or_eq_false_iff] at hpassed
  have hlength := (mapM_eq_ok_iff.mp hresults).length_eq
  constructor
  · have hmapping : evidence.filter Value.isMapping ≠ [] := by
      intro hempty
      rw [hempty] at hlength
      have hnone := List.eq_nil_of_length_eq_zero hlength.symm
      simp [hnone] at hpassed
    obtain ⟨record, hrecord⟩ := List.exists_mem_of_ne_nil _ hmapping
    exact ⟨record, (List.mem_filter.mp hrecord).1, (List.mem_filter.mp hrecord).2⟩
  · intro record hrecord hmapping
    obtain ⟨found, hfound, hresult⟩ := exists_of_mapM hresults (List.mem_filter.mpr ⟨hrecord, hmapping⟩)
    have htext := List.any_eq_false.mp hpassed.2 found hfound
    simp only [Bool.not_eq_true, Bool.not_eq_false'] at htext
    exact get_eq_some_iff.mp (is_text_iff.mp htext ▸ hresult)

/-- What the loop over the gates leaves when it finds no issue. -/
structure GatesCollected (files : Filesystem) (root : Path) (before after : List (String × Value))
    (gates : List Value) : Prop where
  nodup : (before.map Prod.fst).Nodup → (after.map Prod.fst).Nodup
  kept : ∀ entry ∈ before, entry ∈ after
  added : ∀ entry ∈ after, entry ∈ before ∨ entry.2 ∈ gates ∧ get_text entry.2 "id" = .ok entry.1
  found : ∀ gate ∈ gates, gate.isMapping → ∃ gate_id, get_text gate "id" = .ok gate_id ∧ (gate_id, gate) ∈ after
  records : ∀ gate ∈ gates, gate.isMapping → ∃ evidence, get_items gate "evidence" = .ok evidence ∧
    (∀ item ∈ evidence, item.isMapping → Verified files root item) ∧
    (HasText gate "status" "passed" → (∃ record ∈ evidence, record.isMapping) ∧
      ∀ record ∈ evidence, record.isMapping → HasText record "result" "passed")

theorem gates_collected {index : Nat} {gates : List Value} {before after : List (String × Value)}
    {evidence_ids : List String}
    (hissues : gate_issues files root index gates before evidence_ids = .ok (after, [])) :
    GatesCollected files root before after gates := by
  induction gates generalizing index before evidence_ids with
  | nil =>
    obtain ⟨rfl, -⟩ := Prod.mk.inj (pure_eq_ok_iff.mp hissues)
    exact ⟨id, fun _ h => h, fun _ h => .inl h, fun _ h => absurd h List.not_mem_nil,
      fun _ h => absurd h List.not_mem_nil⟩
  | cons gate rest ih =>
    rw [gate_issues] at hissues
    split at hissues
    · simp only [bind_eq_ok_iff, pure_eq_ok_iff, Prod.mk.injEq, List.append_eq_nil_iff, issue_if_eq_nil] at hissues
      obtain ⟨gate_id, hgate_id, evidence, hevidence, ⟨ids, record_issues⟩, hrecords, status, hstatus, others, hothers,
        rfl, ⟨⟨hnew, hnone⟩, rfl⟩, hlast⟩ := hissues
      simp only at hnone
      subst hnone
      rw [hnew, if_neg Bool.false_ne_true] at hothers
      have hrest := ih (hothers.trans (by rw [← hlast]))
      have hunknown : gate_id ∉ before.map Prod.fst := by
        rw [← assoc.lookup_isSome_iff, hnew]
        exact Bool.false_ne_true
      refine ⟨fun hnodup => hrest.nodup ?_, fun entry hentry => ?_, fun entry hentry => ?_, ?_, ?_⟩
      · rw [List.map_append, List.nodup_append]
        refine ⟨hnodup, List.nodup_singleton _, fun key hkey other hother heq => ?_⟩
        obtain rfl := List.mem_singleton.mp hother
        exact hunknown (heq ▸ hkey)
      · exact hrest.kept entry (List.mem_append_left _ hentry)
      · obtain hbefore | ⟨hmem, hid⟩ := hrest.added entry hentry
        · obtain hbefore | hlast := List.mem_append.mp hbefore
          · exact .inl hbefore
          · obtain rfl := List.mem_singleton.mp hlast
            exact .inr ⟨List.mem_cons_self, hgate_id⟩
        · exact .inr ⟨List.mem_cons_of_mem _ hmem, hid⟩
      · refine List.forall_mem_cons.mpr ⟨fun _ => ⟨gate_id, hgate_id, ?_⟩, hrest.found⟩
        exact hrest.kept _ (List.mem_append_right _ List.mem_cons_self)
      · exact List.forall_mem_cons.mpr ⟨fun _ => ⟨evidence, hevidence, verified_of_no_issues hrecords,
          fun hpassed => results_of_no_issue hstatus hpassed⟩, hrest.records⟩
    · rename_i hother
      have hrest := ih hissues
      refine ⟨hrest.nodup, hrest.kept, fun entry hentry => ?_, ?_, ?_⟩
      · exact (hrest.added entry hentry).imp_right fun h => ⟨List.mem_cons_of_mem _ h.1, h.2⟩
      · exact List.forall_mem_cons.mpr ⟨fun hmapping => absurd hmapping hother, hrest.found⟩
      · exact List.forall_mem_cons.mpr ⟨fun hmapping => absurd hmapping hother, hrest.records⟩

/-- A dependency without an issue is on a known gate, which is passed if the gate is. -/
theorem target_of_no_issue {gates_by_id : List (String × Value)} {index : Nat} {gate dependency : Value}
    (hissues : dependency_issue gates_by_id index gate dependency = .ok []) :
    ∃ target, find_key gates_by_id dependency = .ok (some target) ∧
      (HasText gate "status" "passed" → HasText target "status" "passed") := by
  simp only [dependency_issue, bind_eq_ok_iff] at hissues
  obtain ⟨gate_id, -, found, hfound, hissues⟩ := hissues
  cases found with
  | none => cases hissues
  | some target =>
    refine ⟨target, hfound, fun hpassed => ?_⟩
    simp only [bind_eq_ok_iff, get_eq_some_iff.mpr hpassed, Except.ok.injEq, exists_eq_left'] at hissues
    have hshown : is_text "passed" (some (.str "passed")) = true := is_text_iff.mpr rfl
    simp only [hshown, if_true, bind_eq_ok_iff, pure_eq_ok_iff, issue_if_eq_nil, Bool.not_eq_false'] at hissues
    obtain ⟨reached, hreached, htext⟩ := hissues
    exact get_eq_some_iff.mp (is_text_iff.mp htext ▸ hreached)

theorem targets_of_no_issues {gates_by_id : List (String × Value)} {index : Nat} {gates : List Value}
    (hissues : dependency_issues gates_by_id index gates = .ok []) :
    ∀ gate ∈ gates, gate.isMapping → ∃ dependencies, get_items gate "dependencies" = .ok dependencies ∧
      ∀ dependency ∈ dependencies, ∃ target, find_key gates_by_id dependency = .ok (some target) ∧
        (HasText gate "status" "passed" → HasText target "status" "passed") := by
  induction gates generalizing index with
  | nil => exact fun gate hgate => absurd hgate List.not_mem_nil
  | cons gate rest ih =>
    rw [dependency_issues] at hissues
    split at hissues
    · simp only [bind_eq_ok_iff, pure_eq_ok_iff, List.append_eq_nil_iff] at hissues
      obtain ⟨dependencies, hdependencies, found, hfound, others, hothers, hnone, rfl⟩ := hissues
      refine List.forall_mem_cons.mpr ⟨fun _ => ⟨dependencies, hdependencies, fun dependency hdependency => ?_⟩,
        ih hothers⟩
      obtain ⟨issues, hmem, hissue⟩ := exists_of_mapM hfound hdependency
      have hempty : issues = [] := List.flatten_eq_nil_iff.mp hnone issues hmem
      exact target_of_no_issue (hempty ▸ hissue)
    · rename_i hother
      exact List.forall_mem_cons.mpr ⟨fun hmapping => absurd hmapping hother, ih hissues⟩

/-- The completeness of a decided sign-off. -/
def Complete (signoff : Value) : Prop :=
  ∀ name ∈ required_decision_fields, ∃ text, get_text signoff name = .ok text ∧ strip text ≠ ""

/-- What the loop over the sign-offs leaves when it finds no issue. -/
structure SignoffsCollected (before after : List (String × Value)) (signoffs : List Value) : Prop where
  kept : ∀ role signoff, assoc.lookup role before = some signoff → assoc.lookup role after = some signoff
  added : ∀ role signoff, assoc.lookup role after = some signoff →
    assoc.lookup role before = some signoff ∨ signoff ∈ signoffs ∧ get_text signoff "role" = .ok role
  found : ∀ signoff ∈ signoffs, signoff.isMapping → ∃ role, get_text signoff "role" = .ok role ∧
    assoc.lookup role after = some signoff ∧ (HasText signoff "status" "approved" → Complete signoff)

theorem signoffs_collected {index : Nat} {signoffs : List Value} {before after : List (String × Value)}
    (hissues : signoff_issues index signoffs before = .ok (after, [])) :
    SignoffsCollected before after signoffs := by
  induction signoffs generalizing index before with
  | nil =>
    obtain ⟨rfl, -⟩ := Prod.mk.inj (pure_eq_ok_iff.mp hissues)
    exact ⟨fun _ _ h => h, fun _ _ h => .inl h, fun _ h => absurd h List.not_mem_nil⟩
  | cons signoff rest ih =>
    rw [signoff_issues] at hissues
    split at hissues
    · simp only [bind_eq_ok_iff, pure_eq_ok_iff, Prod.mk.injEq, List.append_eq_nil_iff, issue_if_eq_nil] at hissues
      obtain ⟨role, hrole, status, hstatus, decided, hdecided, values, hvalues, others, hothers, rfl,
        ⟨hnew, hcomplete⟩, hlast⟩ := hissues
      have hrest := ih (hothers.trans (by rw [← hlast]))
      have hunknown : assoc.lookup role before = none := by simpa using hnew
      have hset (other : String) := assoc.lookup_set other role signoff before
      refine ⟨fun other found hfound => hrest.kept other found ?_, fun other found hfound => ?_, ?_⟩
      · have hne : role ≠ other := by
          rintro rfl
          rw [hunknown] at hfound
          cases hfound
        rw [hset, if_neg hne, hfound]
      · obtain hbefore | ⟨hmem, hread⟩ := hrest.added other found hfound
        · rw [hset] at hbefore
          split at hbefore
          · rename_i heq
            obtain rfl := Option.some.inj hbefore
            exact .inr ⟨List.mem_cons_self, heq ▸ hrole⟩
          · exact .inl hbefore
        · exact .inr ⟨List.mem_cons_of_mem _ hmem, hread⟩
      · refine List.forall_mem_cons.mpr ⟨fun _ => ⟨role, hrole, ?_, fun happroved name hname => ?_⟩, hrest.found⟩
        · exact hrest.kept role signoff (by rw [hset, if_pos rfl])
        · -- an approved sign-off is decided, so that none of its fields is blank
          have hyes : decided = true := by
            have hshown := get_eq_some_iff.mpr happroved
            rw [hstatus, Except.ok.injEq] at hshown
            rw [hshown] at hdecided
            exact (Except.ok.inj hdecided).symm
          obtain ⟨entry, hentry, hread⟩ := exists_of_mapM hvalues hname
          simp only [bind_eq_ok_iff, pure_eq_ok_iff] at hread
          obtain ⟨text, htext, rfl⟩ := hread
          refine ⟨text, htext, fun hblank => ?_⟩
          have hmissing : name ∈ (values.filter fun entry => strip entry.2 = "").map Prod.fst :=
            List.mem_map.mpr ⟨(name, text), List.mem_filter.mpr ⟨hentry, by simpa using hblank⟩, rfl⟩
          rw [hyes, Bool.true_and, Bool.not_eq_false', List.isEmpty_iff] at hcomplete
          rw [hcomplete] at hmissing
          cases hmissing
    · rename_i hother
      have hrest := ih hissues
      refine ⟨hrest.kept, fun role found hfound => ?_, ?_⟩
      · exact (hrest.added role found hfound).imp_right fun h => ⟨List.mem_cons_of_mem _ h.1, h.2⟩
      · exact List.forall_mem_cons.mpr ⟨fun hmapping => absurd hmapping hother, hrest.found⟩

/-! ## The lists that decide -/

theorem eq_nil_of_sorted_set {items : List Value} (hsorted : sorted_set items = .ok []) : items = [] := by
  unfold sorted_set at hsorted
  split at hsorted
  · rename_i texts htexts
    have hnil : sortedTexts texts = [] := List.map_eq_nil_iff.mp (Except.ok.inj hsorted)
    have hempty : texts = [] := List.eq_nil_iff_forall_not_mem.mpr fun text htext => by
      have hmem := mem_sortedTexts.mpr htext
      rw [hnil] at hmem
      cases hmem
    subst hempty
    cases items with
    | nil => rfl
    | cons item rest =>
      rw [texts?, List.mapM_cons] at htexts
      simp [Option.bind_eq_some_iff] at htexts
  · rename_i numbers hnumbers _
    have hnil : sortedBy Prod.fst (numbers.zip items) = [] := List.map_eq_nil_iff.mp (Except.ok.inj hsorted)
    have hempty : numbers.zip items = [] := List.eq_nil_iff_forall_not_mem.mpr fun entry hentry => by
      have hmem : entry ∈ sortedBy Prod.fst (numbers.zip items) := mem_sortedBy.mpr hentry
      rw [hnil] at hmem
      cases hmem
    cases items with
    | nil => rfl
    | cons item rest =>
      rw [List.mapM_cons] at hnumbers
      simp only [Option.pure_def, Option.bind_eq_bind, Option.bind_eq_some_iff, Option.some.injEq] at hnumbers
      obtain ⟨number, -, others, -, rfl⟩ := hnumbers
      cases hempty
  · split at hsorted
    · exact Except.ok.inj hsorted
    · cases hsorted

/-- The texts of a list are in its set. -/
theorem text_mem_set {items roles : List Value} (hset : set_of items = .ok roles) {text : String}
    (hmem : .str text ∈ items) : .str text ∈ roles := by
  simp only [set_of, raise_if_bind_eq_ok_iff, pure_eq_ok_iff] at hset
  obtain ⟨-, rfl⟩ := hset
  suffices hfold : ∀ found : List Value, .str text ∈ found ∨ .str text ∈ items →
      .str text ∈ items.foldl (fun found item => if found.any item.equals then found else found ++ [item]) found from
    hfold [] (.inr hmem)
  clear hmem
  induction items with
  | nil => exact fun found hmem => hmem.resolve_right List.not_mem_nil
  | cons item rest ih =>
    intro found hmem
    rw [List.foldl_cons]
    apply ih
    obtain hfound | hmem := hmem
    · left
      split
      · exact hfound
      · exact List.mem_append_left _ hfound
    · obtain rfl | hrest := List.mem_cons.mp hmem
      · left
        split
        · rename_i hknown
          obtain ⟨other, hother, hequal⟩ := List.any_eq_true.mp hknown
          exact Value.equals_str_iff.mp hequal ▸ hother
        · exact List.mem_append_right _ List.mem_cons_self
      · exact .inr hrest

/-- No gate has a status that none is listed for. -/
theorem status_of_no_gate_ids {status : Option Value → Bool} {gates : List Value}
    (hnone : gate_ids status gates = .ok []) :
    ∀ gate ∈ gates, ∃ found, gate.get "status" = .ok found ∧ status found = false := by
  intro gate hgate
  simp only [gate_ids, bind_eq_ok_iff, pure_eq_ok_iff] at hnone
  obtain ⟨selected, hselected, ids, hids, hsorted⟩ := hnone
  obtain ⟨chosen, hchosen, hkept⟩ := mem_select hselected hgate
  simp only [bind_eq_ok_iff, pure_eq_ok_iff] at hchosen
  obtain ⟨found, hfound, rfl⟩ := hchosen
  refine ⟨found, hfound, ?_⟩
  by_contra hlisted
  obtain ⟨id, hid, -⟩ := exists_of_mapM hids (hkept (by simpa using hlisted))
  have hmem := mem_sortedTexts.mpr hid
  rw [hsorted] at hmem
  cases hmem

/-- What the decision rests on when the acceptance is complete. -/
theorem outcome_complete {required_gates required_roles : List Value} {signoffs_by_role : List (String × Value)}
    {outcome : Outcome} {issues : List Issue}
    (houtcome : outcome_of required_gates required_roles signoffs_by_role = .ok outcome)
    (hcomplete : outcome.complete issues = true) :
    issues = [] ∧ (∀ gate ∈ required_gates, HasText gate "status" "passed") ∧
      ∀ role, .str role ∈ required_roles →
        ∃ signoff, assoc.lookup role signoffs_by_role = some signoff ∧ HasText signoff "status" "approved" := by
  simp only [outcome_of, bind_eq_ok_iff, pure_eq_ok_iff] at houtcome
  obtain ⟨incomplete, hincomplete, rejected, -, pending, hpending, sorted, hsorted, _, -, rfl⟩ := houtcome
  simp only [Outcome.complete, Bool.and_eq_true, List.isEmpty_iff] at hcomplete
  obtain ⟨⟨⟨⟨rfl, rfl⟩, -⟩, -⟩, hissues⟩ := hcomplete
  refine ⟨hissues, fun gate hgate => ?_, fun role hrole => ?_⟩
  · obtain ⟨found, hfound, hstatus⟩ := status_of_no_gate_ids hincomplete gate hgate
    have htext := is_text_iff.mp (by simpa using hstatus)
    exact get_eq_some_iff.mp (htext ▸ hfound)
  · have hnone := eq_nil_of_sorted_set hsorted
    subst hnone
    obtain ⟨chosen, hchosen, hkept⟩ := mem_select hpending hrole
    have happroved : chosen = false := by
      by_contra hpending
      cases hkept (by simpa using hpending)
    simp only [pending_role, find_key_text, bind_eq_ok_iff, Except.ok.injEq, exists_eq_left'] at hchosen
    split at hchosen
    · rename_i signoff hlookup
      simp only [bind_eq_ok_iff, pure_eq_ok_iff] at hchosen
      obtain ⟨found, hfound, rfl⟩ := hchosen
      have htext := is_text_iff.mp (by simpa using happroved)
      exact ⟨signoff, hlookup, get_eq_some_iff.mp (htext ▸ hfound)⟩
    · rw [happroved] at hchosen
      cases hchosen

end Loops

/-! ## What the schema says about a registry -/

section Schema

variable {format_checker : String → String → Bool} {value found : Value} {key : String}
  {keys : List String} {members : List (String × Schema)} {additional : Bool} {rest : Schema}

/-- A member of a schema that is written as the schemas of a registry are. -/
theorem member_of_valid {member : Schema}
    (hvalid : valid format_checker (.type .object :: .required keys :: .properties members additional :: rest) value)
    (hmember : assoc.lookup key members = some member) (hfound : value.item key = .ok found) :
    valid format_checker member found :=
  member_valid hvalid (List.mem_of_getElem? (i := 2) rfl) hmember hfound

theorem required_of_valid (key : String) {member : Schema}
    (hvalid : valid format_checker (.type .object :: .required keys :: .properties members additional :: rest) value)
    (hkey : key ∈ keys) (hmember : assoc.lookup key members = some member) :
    ∃ found, value.item key = .ok found ∧ valid format_checker member found := by
  obtain ⟨found, hfound⟩ := required_member hvalid List.mem_cons_self (List.mem_of_getElem? (i := 1) rfl) hkey
  exact ⟨found, hfound, member_of_valid hvalid hmember hfound⟩

/-- The list under a required key. -/
theorem list_of_valid {member element : Schema}
    (hvalid : valid format_checker (.type .object :: .required keys :: .properties members additional :: rest) value)
    (hkey : key ∈ keys) (hmember : assoc.lookup key members = some member) (harray : .type .array ∈ member)
    (hitems : .items element ∈ member) :
    ∃ items, value.item key = .ok (.list items) ∧ ∀ item ∈ items, valid format_checker element item := by
  obtain ⟨found, hfound, hlist⟩ := required_of_valid key hvalid hkey hmember
  obtain ⟨items, rfl⟩ := array_of_valid hlist harray
  exact ⟨items, hfound, fun item hitem => item_valid hlist hitems hitem⟩

variable {document gate record signoff : Value}

theorem gates_of_valid (hvalid : valid format_checker schema.registry document) :
    ∃ gates, document.item "gates" = .ok (.list gates) ∧ ∀ gate ∈ gates, valid format_checker schema.gate gate :=
  list_of_valid hvalid (by simp) rfl (by simp) (List.mem_of_getElem? (i := 2) rfl)

theorem dependencies_of_valid (hvalid : valid format_checker schema.gate gate) :
    ∃ dependencies, gate.item "dependencies" = .ok (.list dependencies) :=
  (list_of_valid hvalid (by simp) rfl (by simp) (List.mem_of_getElem? (i := 2) rfl)).imp fun _ h => h.1

theorem evidence_of_valid (hvalid : valid format_checker schema.gate gate) :
    ∃ records, gate.item "evidence" = .ok (.list records) ∧
      ∀ record ∈ records, valid format_checker schema.evidence record :=
  list_of_valid hvalid (by simp) rfl (by simp) (List.mem_of_getElem? (i := 1) rfl)

theorem gate_id_of_valid (hvalid : valid format_checker schema.gate gate) :
    ∃ gate_id, HasText gate "id" gate_id := by
  obtain ⟨found, hfound, hstring⟩ := required_of_valid "id" hvalid (by simp) rfl
  obtain ⟨gate_id, rfl⟩ := string_of_valid hstring List.mem_cons_self
  exact ⟨gate_id, hfound⟩

theorem signoffs_of_valid (hvalid : valid format_checker schema.registry document) :
    ∃ signoffs, document.item "signoffs" = .ok (.list signoffs) ∧
      ∀ signoff ∈ signoffs, valid format_checker schema.signoff signoff :=
  list_of_valid hvalid (by simp) rfl (by simp) (List.mem_of_getElem? (i := 1) rfl)

/-- The roles are texts and there is one. -/
theorem roles_of_valid (hvalid : valid format_checker schema.registry document) :
    ∃ roles, document.item "required_signoff_roles" = .ok (.list roles) ∧ roles ≠ [] ∧
      ∀ role ∈ roles, ∃ text, role = .str text := by
  obtain ⟨found, hfound, hlist⟩ := required_of_valid "required_signoff_roles" hvalid (by simp) rfl
  obtain ⟨roles, rfl⟩ := array_of_valid hlist List.mem_cons_self
  have hitems : ∀ role ∈ roles, valid format_checker [schema.enum_of schema.signoffRole] role :=
    fun role => item_valid hlist (List.mem_of_getElem? (i := 3) rfl)
  have hsome : Keyword.minItems 1 ∈ ([.type .array, .minItems 1, .uniqueItems, .items [schema.enum_of schema.signoffRole]] : Schema) :=
    List.mem_of_getElem? (i := 1) rfl
  have hholds := valid_iff.mp hlist _ hsome
  refine ⟨roles, hfound, ?_, fun role hrole => ?_⟩
  · rintro rfl
    simp [holds] at hholds
  · obtain ⟨text, -, heq⟩ := text_of_enum (hitems role hrole) List.mem_cons_self
    exact ⟨text, heq⟩

theorem signoff_role_of_valid (hvalid : valid format_checker schema.signoff signoff) :
    ∃ role, HasText signoff "role" role := by
  obtain ⟨found, hfound, hrole⟩ := required_of_valid "role" hvalid (by simp) rfl
  obtain ⟨role, -, rfl⟩ := text_of_enum hrole List.mem_cons_self
  exact ⟨role, hfound⟩

/-- The decision fields of a sign-off are texts. -/
theorem decision_field_of_valid (hvalid : valid format_checker schema.signoff signoff) {name : String}
    (hname : name ∈ required_decision_fields) (hfound : signoff.item name = .ok found) : ∃ text, found = .str text := by
  have hstring {member : Schema} (hmember : valid format_checker member found) (hkeyword : .type .string ∈ member) :=
    string_of_valid hmember hkeyword
  simp only [required_decision_fields, List.mem_cons, List.not_mem_nil, or_false] at hname
  obtain rfl | rfl | rfl | rfl := hname
  · exact hstring (member_of_valid hvalid rfl hfound) List.mem_cons_self
  · exact hstring (member_of_valid hvalid rfl hfound) List.mem_cons_self
  · exact hstring (member_of_valid hvalid rfl hfound) List.mem_cons_self
  · exact hstring (member_of_valid hvalid rfl hfound) List.mem_cons_self

theorem isMapping_of_valid {object : Schema} (hvalid : valid format_checker object value)
    (hobject : .type .object ∈ object) : value.isMapping := by
  obtain ⟨entries, rfl⟩ := object_of_valid hvalid hobject
  rfl

end Schema

/-! ## Gates without issues -/

/-- The gates of a registry of the schema whose loops find no issue. -/
structure GatesChecked (format_checker : String → String → Bool) (files : Filesystem) (root : Path)
    (document : Value) (gates_by_id : List (String × Value)) (gates : List Value) : Prop where
  listed : document.item "gates" = .ok (.list gates)
  shaped : ∀ gate ∈ gates, valid format_checker schema.gate gate
  collected : GatesCollected files root [] gates_by_id gates
  targets : ∀ gate ∈ gates, gate.isMapping → ∃ dependencies, get_items gate "dependencies" = .ok dependencies ∧
    ∀ dependency ∈ dependencies, ∃ target, find_key gates_by_id dependency = .ok (some target) ∧
      (HasText gate "status" "passed" → HasText target "status" "passed")

namespace GatesChecked

variable {format_checker : String → String → Bool} {files : Filesystem} {root : Path} {document : Value}
  {gates_by_id : List (String × Value)} {gates : List Value} {gate record : Value} {gate_id dependency : String}

theorem mem_iff (hchecked : GatesChecked format_checker files root document gates_by_id gates) :
    Listed document "gates" gate ↔ gate ∈ gates := by
  constructor
  · rintro ⟨items, hitems, hmem⟩
    rw [hchecked.listed] at hitems
    cases hitems
    exact hmem
  · exact fun hmem => ⟨gates, hchecked.listed, hmem⟩

theorem isMapping (hchecked : GatesChecked format_checker files root document gates_by_id gates)
    (hgate : gate ∈ gates) : gate.isMapping :=
  isMapping_of_valid (hchecked.shaped gate hgate) List.mem_cons_self

/-- A gate is what its id leads to. -/
theorem lookup_iff (hchecked : GatesChecked format_checker files root document gates_by_id gates) :
    assoc.lookup gate_id gates_by_id = some gate ↔ gate ∈ gates ∧ HasText gate "id" gate_id := by
  constructor
  · intro hlookup
    obtain hnone | ⟨hgate, hread⟩ := hchecked.collected.added _ (assoc.lookup_mem hlookup)
    · cases hnone
    · obtain ⟨text, htext⟩ := gate_id_of_valid (hchecked.shaped gate hgate)
      rw [get_text_of_hasText htext] at hread
      obtain rfl : text = gate_id := Except.ok.inj hread
      exact ⟨hgate, htext⟩
  · rintro ⟨hgate, htext⟩
    obtain ⟨found, hread, hmem⟩ := hchecked.collected.found gate hgate (hchecked.isMapping hgate)
    rw [get_text_of_hasText htext] at hread
    obtain rfl := Except.ok.inj hread
    exact assoc.lookup_of_mem (hchecked.collected.nodup List.nodup_nil) hmem

theorem passed (hchecked : GatesChecked format_checker files root document gates_by_id gates)
    (hgate : gate ∈ gates) (hstatus : HasText gate "status" "passed") : Passed gate := by
  have hshaped := hchecked.shaped gate hgate
  obtain ⟨records, hrecords, hvalid⟩ := evidence_of_valid hshaped
  obtain ⟨evidence, hevidence, -, hresults⟩ := hchecked.collected.records gate hgate (hchecked.isMapping hgate)
  rw [get_items_of_item hrecords] at hevidence
  obtain rfl := Except.ok.inj hevidence
  obtain ⟨⟨record, hrecord, -⟩, hpassed⟩ := hresults hstatus
  refine ⟨hstatus, ⟨record, records, hrecords, hrecord⟩, fun other hother => ?_⟩
  have hmem := mem_of_listed hother (get_items_of_item hrecords)
  exact hpassed other hmem (isMapping_of_valid (hvalid other hmem) List.mem_cons_self)

theorem verified (hchecked : GatesChecked format_checker files root document gates_by_id gates)
    (hgate : gate ∈ gates) (hrecord : Listed gate "evidence" record) : Verified files root record := by
  obtain ⟨records, hrecords, hvalid⟩ := evidence_of_valid (hchecked.shaped gate hgate)
  obtain ⟨evidence, hevidence, hverified, -⟩ := hchecked.collected.records gate hgate (hchecked.isMapping hgate)
  rw [get_items_of_item hrecords] at hevidence
  obtain rfl := Except.ok.inj hevidence
  have hmem := mem_of_listed hrecord (get_items_of_item hrecords)
  exact hverified record hmem (isMapping_of_valid (hvalid record hmem) List.mem_cons_self)

/-- A dependency leads to a gate, which is passed if the gate that has it is. -/
theorem target (hchecked : GatesChecked format_checker files root document gates_by_id gates)
    (hgate : gate ∈ gates) (hdependency : Listed gate "dependencies" (.str dependency)) :
    ∃ target, assoc.lookup dependency gates_by_id = some target ∧
      (HasText gate "status" "passed" → HasText target "status" "passed") := by
  obtain ⟨dependencies, hitems, htargets⟩ := hchecked.targets gate hgate (hchecked.isMapping hgate)
  obtain ⟨target, hfound, hpassed⟩ := htargets _ (mem_of_listed hdependency hitems)
  rw [find_key_text] at hfound
  exact ⟨target, Except.ok.inj hfound, hpassed⟩

/-- What a passed gate depends on, over any number of gates, is passed. -/
theorem reached (hchecked : GatesChecked format_checker files root document gates_by_id gates)
    (hgate : gate ∈ gates) (hid : HasText gate "id" gate_id) (hstatus : HasText gate "status" "passed")
    (hpath : Relation.TransGen (DependsOn document) gate_id dependency) :
    ∃ reached, assoc.lookup dependency gates_by_id = some reached ∧ HasText reached "status" "passed" := by
  have hstep {first second : String} {source : Value} (hsource : assoc.lookup first gates_by_id = some source)
      (hpassed : HasText source "status" "passed") (hedge : DependsOn document first second) :
      ∃ reached, assoc.lookup second gates_by_id = some reached ∧ HasText reached "status" "passed" := by
    obtain ⟨other, hother, hother_id, hlisted⟩ := hedge
    have hmem := hchecked.mem_iff.mp hother
    have hsame := hchecked.lookup_iff.mpr ⟨hmem, hother_id⟩
    rw [hsource] at hsame
    obtain rfl := Option.some.inj hsame
    obtain ⟨target, htarget, hkept⟩ := hchecked.target hmem hlisted
    exact ⟨target, htarget, hkept hpassed⟩
  have hstart := hchecked.lookup_iff.mpr ⟨hgate, hid⟩
  induction hpath with
  | single hedge => exact hstep hstart hstatus hedge
  | tail _ hedge ih =>
    obtain ⟨source, hsource, hpassed⟩ := ih
    exact hstep hsource hpassed hedge

/-- The search for cycles follows the dependencies of the registry. -/
theorem edge (hchecked : GatesChecked format_checker files root document gates_by_id gates)
    (hedge : DependsOn document gate_id dependency) :
    depth_first.Edge (dependencies_of gates_by_id) gate_id dependency := by
  obtain ⟨gate, hlisted, hid, hdependency⟩ := hedge
  have hgate := hchecked.mem_iff.mp hlisted
  obtain ⟨dependencies, hitems, htargets⟩ := hchecked.targets gate hgate (hchecked.isMapping hgate)
  have hbody : ∀ item ∈ dependencies, ∃ found, (do
      return if (← find_key gates_by_id item).isSome then [item.toStr] else [] : Py (List String)) = .ok found := by
    intro item hitem
    obtain ⟨target, hfound, -⟩ := htargets item hitem
    exact ⟨[item.toStr], by simp [hfound, Bind.bind, Except.bind, pure, Except.pure]⟩
  obtain ⟨found, hfound⟩ := mapM_ok_of_forall hbody
  refine ⟨found.flatten, ?_, ?_⟩
  · simp only [dependencies_of, hchecked.lookup_iff.mpr ⟨hgate, hid⟩, bind_eq_ok_iff, pure_eq_ok_iff]
    exact ⟨dependencies, hitems, found, hfound, rfl⟩
  · obtain ⟨result, hresult, hread⟩ := exists_of_mapM hfound (mem_of_listed hdependency hitems)
    obtain ⟨target, htarget, -⟩ := hchecked.target hgate hdependency
    simp only [find_key_text, htarget, bind_eq_ok_iff, Except.ok.injEq, exists_eq_left', Option.isSome_some,
      if_true, pure_eq_ok_iff] at hread
    exact List.mem_flatten.mpr ⟨result, hresult, hread ▸ List.mem_cons_self⟩

theorem acyclic (hchecked : GatesChecked format_checker files root document gates_by_id gates)
    {recursion_limit : Nat} (hcycles : _detect_dependency_cycles recursion_limit gates_by_id = .ok []) :
    ¬Relation.TransGen (DependsOn document) gate_id gate_id := by
  intro hcycle
  simp only [_detect_dependency_cycles, bind_eq_ok_iff, pure_eq_ok_iff, List.map_eq_nil_iff] at hcycles
  obtain ⟨found, hsearch, hnone⟩ := hcycles
  have hknown : gate_id ∈ gates_by_id.map Prod.fst := by
    obtain ⟨next, ⟨gate, hlisted, hid, -⟩, -⟩ := Relation.TransGen.head'_iff.mp hcycle
    have hlookup := hchecked.lookup_iff.mpr ⟨hchecked.mem_iff.mp hlisted, hid⟩
    exact assoc.lookup_isSome_iff.mp (by rw [hlookup, Option.isSome_some])
  exact depth_first.search_acyclic hsearch hnone gate_id hknown (hcycle.lift id fun _ _ => hchecked.edge)

end GatesChecked

/-! ## The verdict -/

section Verdict

variable {format_checker : String → String → Bool} {iter_errors : Value → List SchemaError}
  {files : Filesystem} {recursion_limit : Nat} {document : Value} {workflow_manifest : Option Value}
  {evidence_root : Path} {report : AcceptanceReport}

/-- Every record of a role is the approved one that the role leads to. -/
theorem roles_approved {signoffs : List Value} {signoffs_by_role : List (String × Value)} {role : String}
    {approved : Value} (hvalid : valid format_checker schema.registry document)
    (hsignoffs : get_items document "signoffs" = .ok signoffs)
    (hcollected : SignoffsCollected [] signoffs_by_role signoffs)
    (hlookup : assoc.lookup role signoffs_by_role = some approved) (hstatus : HasText approved "status" "approved") :
    (∃ signoff, Listed document "signoffs" signoff ∧ HasText signoff "role" role) ∧
      ∀ signoff, Listed document "signoffs" signoff → HasText signoff "role" role → Approved signoff := by
  obtain ⟨items, hitems, hshaped⟩ := signoffs_of_valid hvalid
  rw [get_items_of_item hitems] at hsignoffs
  obtain rfl := Except.ok.inj hsignoffs
  obtain hnone | ⟨hmem, hread⟩ := hcollected.added role approved hlookup
  · cases hnone
  constructor
  · obtain ⟨text, htext⟩ := signoff_role_of_valid (hshaped approved hmem)
    rw [get_text_of_hasText htext] at hread
    obtain rfl := Except.ok.inj hread
    exact ⟨approved, ⟨items, hitems, hmem⟩, htext⟩
  · intro signoff hlisted hrole
    have hsignoff := mem_of_listed hlisted (get_items_of_item hitems)
    have hshape := hshaped signoff hsignoff
    obtain ⟨found, hfound, hown, hcomplete⟩ :=
      hcollected.found signoff hsignoff (isMapping_of_valid hshape List.mem_cons_self)
    rw [get_text_of_hasText hrole] at hfound
    obtain rfl := Except.ok.inj hfound
    rw [hlookup] at hown
    obtain rfl := Option.some.inj hown
    refine ⟨hstatus, fun name hname => ?_⟩
    obtain ⟨text, htext, hfilled⟩ := hcomplete hstatus name hname
    refine ⟨text, hasText_of_get_text htext (fun _ h => decision_field_of_valid hshape hname h) ?_, hfilled⟩
    rintro rfl
    exact hfilled rfl

/-- A switch that is read from the mapping under a key. -/
theorem item_of_get_mapping {value mapping found : Value} {key name : String}
    (hmapping : get_mapping value key = .ok mapping) (hread : mapping.get name = .ok (some found)) :
    ∃ inner, value.item key = .ok inner ∧ inner.item name = .ok found := by
  simp only [get_mapping, bind_eq_ok_iff] at hmapping
  obtain ⟨read, hget, hmapping⟩ := hmapping
  cases read with
  | none =>
    obtain rfl := pure_eq_ok_iff.mp hmapping
    cases hread
  | some inner =>
    simp only [pure_eq_ok_iff] at hmapping
    split at hmapping
    · obtain rfl := hmapping
      exact ⟨inner, get_eq_some_iff.mp hget, get_eq_some_iff.mp hread⟩
    · obtain rfl := hmapping
      cases hread

theorem text_of_in_texts {texts : List String} {read : Option Value} (hin : in_texts texts read = .ok true) :
    ∃ text ∈ texts, read = some (.str text) := by
  unfold in_texts at hin
  split at hin
  · rename_i text
    exact ⟨text, by simpa using hin, rfl⟩
  · split at hin <;> cases hin
  · cases hin

/-- The step of a workflow of the manifest is one that runs. -/
theorem executable_step_iff {step : Value} (hstep : executable_step step = .ok true) :
    (HasText step "activity" "http_request" ∨ HasText step "activity" "bounded_poll") ∧
      step.item "enabled" = .ok (.bool true) := by
  unfold executable_step at hstep
  split at hstep
  · simp only [bind_eq_ok_iff, pure_eq_ok_iff, Bool.and_eq_true] at hstep
    obtain ⟨activity, hactivity, listed, hlisted, enabled, henabled, rfl, htrue⟩ := hstep
    obtain ⟨text, htext, rfl⟩ := text_of_in_texts hlisted
    rw [is_true_iff.mp htrue] at henabled
    refine ⟨?_, get_eq_some_iff.mp henabled⟩
    simp only [List.mem_cons, List.not_mem_nil, or_false] at htext
    obtain rfl | rfl := htext
    · exact .inl (get_eq_some_iff.mp hactivity)
    · exact .inr (get_eq_some_iff.mp hactivity)
  · cases pure_eq_ok_iff.mp hstep

/-- What one workflow changes in the state. -/
theorem apply_workflow_state_cases {before after : WorkflowApplyState} {workflow : Value}
    (hstep : apply_workflow_state before workflow = .ok after) :
    after.apply_enabled = before.apply_enabled ∧
      (after.apply_workflow_enabled → before.apply_workflow_enabled ∨ EnabledWorkflow workflow) ∧
      (after.apply_executable_steps_enabled →
        before.apply_executable_steps_enabled ∨ ExecutableWorkflow workflow) := by
  unfold apply_workflow_state at hstep
  split at hstep
  · simp only [bind_eq_ok_iff] at hstep
    obtain ⟨id, hid, hstep⟩ := hstep
    split at hstep
    · rename_i happly
      have hnamed : HasText workflow "id" "start_apply" := get_eq_some_iff.mp (is_text_iff.mp happly ▸ hid)
      simp only [bind_eq_ok_iff, pure_eq_ok_iff] at hstep
      obtain ⟨enabled, henabled, items, hitems, steps, hsteps, rfl⟩ := hstep
      refine ⟨rfl, fun htrue => .inr ⟨hnamed, ?_⟩, fun htrue => ?_⟩
      · exact get_eq_some_iff.mp (is_true_iff.mp htrue ▸ henabled)
      · obtain hbefore | hany := Bool.or_eq_true_iff.mp htrue
        · exact .inl hbefore
        · obtain ⟨flag, hflag, hset⟩ := List.any_eq_true.mp hany
          obtain ⟨step, hstep, hread⟩ := mem_of_mapM hsteps hflag
          exact .inr ⟨hnamed, items, step, hitems, hstep, executable_step_iff (hset ▸ hread)⟩
    · obtain rfl := pure_eq_ok_iff.mp hstep
      exact ⟨rfl, .inl, .inl⟩
  · obtain rfl := pure_eq_ok_iff.mp hstep
    exact ⟨rfl, .inl, .inl⟩

theorem apply_workflows_cases {before after : WorkflowApplyState} {workflows : List Value}
    (hrun : workflows.foldlM apply_workflow_state before = .ok after) :
    after.apply_enabled = before.apply_enabled ∧
      (after.apply_workflow_enabled → before.apply_workflow_enabled ∨ ∃ workflow ∈ workflows, EnabledWorkflow workflow) ∧
      (after.apply_executable_steps_enabled →
        before.apply_executable_steps_enabled ∨ ∃ workflow ∈ workflows, ExecutableWorkflow workflow) := by
  induction workflows generalizing before with
  | nil =>
    obtain rfl := pure_eq_ok_iff.mp hrun
    exact ⟨rfl, .inl, .inl⟩
  | cons workflow rest ih =>
    rw [List.foldlM_cons, bind_eq_ok_iff] at hrun
    obtain ⟨middle, hstep, hrest⟩ := hrun
    obtain ⟨hfirst, hworkflow, hsteps⟩ := apply_workflow_state_cases hstep
    obtain ⟨hothers, hworkflows, hall⟩ := ih hrest
    refine ⟨hothers.trans hfirst, fun htrue => ?_, fun htrue => ?_⟩
    · obtain hmiddle | ⟨other, hother, henabled⟩ := hworkflows htrue
      · exact (hworkflow hmiddle).imp_right fun h => ⟨workflow, List.mem_cons_self, h⟩
      · exact .inr ⟨other, List.mem_cons_of_mem _ hother, henabled⟩
    · obtain hmiddle | ⟨other, hother, henabled⟩ := hall htrue
      · exact (hsteps hmiddle).imp_right fun h => ⟨workflow, List.mem_cons_self, h⟩
      · exact .inr ⟨other, List.mem_cons_of_mem _ hother, henabled⟩

/-- The state of a manifest that exposes the apply path. -/
theorem exposed_of_workflow_state {state : WorkflowApplyState}
    (hstate : _workflow_apply_state workflow_manifest = .ok state) (henabled : state.apply_enabled = true)
    (hworkflow : state.apply_workflow_enabled = true) (hsteps : state.apply_executable_steps_enabled = true) :
    ∃ manifest, workflow_manifest = some manifest ∧ Exposed manifest := by
  cases workflow_manifest with
  | none =>
    obtain rfl := pure_eq_ok_iff.mp hstate
    cases henabled
  | some manifest =>
    simp only [_workflow_apply_state, bind_eq_ok_iff] at hstate
    obtain ⟨safety, hsafety, read, hread, workflows, hworkflows, hrun⟩ := hstate
    obtain ⟨hsame, henabled_workflow, hexecutable⟩ := apply_workflows_cases hrun
    rw [hsame] at henabled
    refine ⟨manifest, rfl, ?_, ?_, ?_⟩
    · exact item_of_get_mapping hsafety (is_true_iff.mp henabled ▸ hread)
    · exact ⟨workflows, hworkflows, (henabled_workflow hworkflow).resolve_left Bool.false_ne_true⟩
    · exact ⟨workflows, hworkflows, (hexecutable hsteps).resolve_left Bool.false_ne_true⟩

/-- An acceptance is what it stands for, and the further verdicts rest on it. -/
theorem acceptance_sound
    (hvalidator : ∀ document, iter_errors document = [] → valid format_checker schema.registry document)
    (hrun : validate_production_acceptance iter_errors files recursion_limit document workflow_manifest
      evidence_root = .ok report) :
    (report.acceptance_complete → report.issues = [] ∧
      ∃ root, files.resolve evidence_root = .ok root ∧ Accepted files root document) ∧
    (report.ready_for_controlled_enablement →
      report.acceptance_complete ∧ Switch document "apply_authorization_requested") ∧
    (report.production_ready →
      report.acceptance_complete ∧ report.ready_for_controlled_enablement ∧
      (Switch document "apply_workflow_present" ∨ Switch document "device_writes_permitted") ∧
      ∃ manifest, workflow_manifest = some manifest ∧ Exposed manifest) := by
  simp only [validate_production_acceptance, bind_eq_ok_iff, pure_eq_ok_iff] at hrun
  obtain ⟨root, hroot, gates, hgates, ⟨gates_by_id, gate_found⟩, hgate_found, dependency_found, hdependency_found,
    cycles, hcycles, role_items, hrole_items, required_roles, hrequired_roles, signoff_items, hsignoff_items,
    ⟨signoffs_by_role, signoff_found⟩, hsignoff_found, missing, hmissing, required_gates, hrequired_gates, outcome,
    houtcome, workflow_state, hworkflow_state, controls, hcontrols, requested, hrequested, present, hpresent,
    permitted, hpermitted, rfl⟩ := hrun
  have hsupplied {switch : Option Value} {name : String} (hread : controls.get name = .ok switch)
      (htrue : is_true switch = true) : Switch document name :=
    item_of_get_mapping hcontrols (is_true_iff.mp htrue ▸ hread)
  refine ⟨fun hcomplete => ?_, fun hready => ?_, fun hproduction => ?_⟩
  · obtain ⟨hissues, hpassed, happroved⟩ := outcome_complete houtcome hcomplete
    refine ⟨hissues, root, hroot, ?_⟩
    simp only [List.append_eq_nil_iff] at hissues
    obtain ⟨⟨⟨⟨⟨⟨⟨hschema, -⟩, rfl⟩, rfl⟩, rfl⟩, rfl⟩, -⟩, -⟩ := hissues
    have hvalid : valid format_checker schema.registry document := by
      apply hvalidator
      rw [schema_issues, List.map_eq_nil_iff] at hschema
      apply List.eq_nil_iff_forall_not_mem.mpr
      intro error herror
      have hmem : error ∈ sortedBy (fun error => join "/" (error.absolute_path.map PathPart.text)) (iter_errors document) :=
        mem_sortedBy.mpr herror
      rw [hschema] at hmem
      cases hmem
    obtain ⟨items, hitems, hshaped⟩ := gates_of_valid hvalid
    rw [get_items_of_item hitems] at hgates
    obtain rfl := Except.ok.inj hgates
    have hchecked : GatesChecked format_checker files root document gates_by_id items :=
      ⟨hitems, hshaped, gates_collected hgate_found, targets_of_no_issues hdependency_found⟩
    have hrequired : ∀ gate ∈ items, gate.item "required" = .ok (.bool true) → HasText gate "status" "passed" := by
      intro gate hgate htrue
      obtain ⟨gate_id, -, hmem⟩ := hchecked.collected.found gate hgate (hchecked.isMapping hgate)
      obtain ⟨chosen, hchosen, hkept⟩ := mem_select hrequired_gates (List.mem_map_of_mem hmem)
      simp only [get_eq_some_iff.mpr htrue, bind_eq_ok_iff, Except.ok.injEq, exists_eq_left', pure_eq_ok_iff] at hchosen
      exact hpassed gate (hkept (hchosen ▸ is_true_iff.mpr rfl))
    obtain ⟨roles, hroles, hsome, htexts⟩ := roles_of_valid hvalid
    refine ⟨fun gate_id => hchecked.acyclic hcycles, fun gate hgate => ?_, fun gate hgate htrue => ?_,
      fun gate gate_id dependency hgate htrue hid hpath => ?_, fun gate record hgate hrecord => ?_,
      fun role hrole => ?_, ?_⟩
    · exact gate_id_of_valid (hshaped gate (hchecked.mem_iff.mp hgate))
    · have hmem := hchecked.mem_iff.mp hgate
      exact hchecked.passed hmem (hrequired gate hmem htrue)
    · have hmem := hchecked.mem_iff.mp hgate
      obtain ⟨target, hlookup, hstatus⟩ := hchecked.reached hmem hid (hrequired gate hmem htrue) hpath
      obtain ⟨htarget, htarget_id⟩ := hchecked.lookup_iff.mp hlookup
      refine ⟨⟨target, hchecked.mem_iff.mpr htarget, htarget_id⟩, fun other hother hother_id => ?_⟩
      have hsame := hchecked.lookup_iff.mpr ⟨hchecked.mem_iff.mp hother, hother_id⟩
      rw [hlookup] at hsame
      obtain rfl := Option.some.inj hsame
      exact hchecked.passed htarget hstatus
    · exact hchecked.verified (hchecked.mem_iff.mp hgate) hrecord
    · have hmem := text_mem_set hrequired_roles (mem_of_listed hrole hrole_items)
      obtain ⟨approved, hlookup, hstatus⟩ := happroved role hmem
      exact roles_approved hvalid hsignoff_items (signoffs_collected hsignoff_found) hlookup hstatus
    · obtain ⟨role, hrole⟩ := List.exists_mem_of_ne_nil _ hsome
      obtain ⟨text, rfl⟩ := htexts role hrole
      exact ⟨text, roles, hroles, hrole⟩
  · obtain ⟨hcomplete, hset⟩ := Bool.and_eq_true_iff.mp hready
    exact ⟨hcomplete, hsupplied hrequested hset⟩
  · simp only [Bool.and_eq_true] at hproduction
    obtain ⟨⟨⟨⟨⟨hready, hwrite⟩, -⟩, henabled⟩, hworkflow⟩, hsteps⟩ := hproduction
    refine ⟨hready.1, Bool.and_eq_true_iff.mpr hready, ?_, exposed_of_workflow_state hworkflow_state henabled hworkflow hsteps⟩
    exact (Bool.or_eq_true_iff.mp hwrite).imp (hsupplied hpresent) (hsupplied hpermitted)

end Verdict

/-! ## A complete registry -/

/-- The digest of the file of the lab. -/
def lab_digest : String := "ba7816bf8f01cfea414140de5dae2223b00361a396177a9cb410ff61f20015ad"

def lab_record (id ref : String) : Value :=
  .dict [("id", .str id), ("kind", .str "test_report"), ("ref", .str ref), ("sha256", .str lab_digest),
    ("captured_at", .str "2024-01-01T00:00:00Z"), ("result", .str "passed")]

def lab_gate (id : String) (required : Bool) (dependencies : List String) (record : Value) : Value :=
  .dict [("id", .str id), ("category", .str "software"), ("required", .bool required), ("status", .str "passed"),
    ("owner_roles", .list [.str "security_owner"]), ("dependencies", .list (dependencies.map .str)),
    ("evidence", .list [record])]

/-- A required gate that depends on an optional one. -/
def lab_registry : Value :=
  .dict [("schema_version", .str "1.0"), ("registry_id", .str "lab"),
    ("scope", .dict [("environment", .str "lab"), ("fabric_id", .str "f"), ("release_candidate", .str "r")]),
    ("controls", .dict [("apply_authorization_requested", .bool true), ("apply_workflow_present", .bool true),
      ("device_writes_permitted", .bool false)]),
    ("required_signoff_roles", .list [.str "security_owner"]),
    ("gates", .list [lab_gate "api" true ["ui.x"] (lab_record "ev-1" "evidence://reports/a.txt"),
      lab_gate "ui.x" false [] (lab_record "ev-2" "github://x")]),
    ("signoffs", .list [.dict [("role", .str "security_owner"), ("status", .str "approved"),
      ("principal_ref", .str "principal://a"), ("decision_at", .str "2024-01-01T00:00:00Z"),
      ("evidence_ref", .str "change://1"), ("evidence_sha256", .str lab_digest)]])]

def lab_manifest : Value :=
  .dict [("safety", .dict [("apply_enabled", .bool true)]),
    ("workflows", .list [.dict [("id", .str "start_apply"), ("enabled", .bool true),
      ("steps", .list [.dict [("activity", .str "http_request"), ("enabled", .bool true)]])]])]

/-- One file with the content `abc`, and no links. -/
def lab_files : Filesystem where
  resolve path := .ok path
  is_file path := path = .of_text "/srv/reports/a.txt"
  read_bytes _ := .ok [97, 98, 99]

/-- A validator that says no more than that a document is not valid. -/
def lab_errors (document : Value) : List SchemaError :=
  if valid (fun _ _ => true) schema.registry document then [] else [⟨[], "is not valid"⟩]

theorem acceptance_sound_lab :
    ∃ report, validate_production_acceptance lab_errors lab_files 10 lab_registry (some lab_manifest)
        (.of_text "/srv") = .ok report ∧ report.production_ready ∧
      (∃ root, lab_files.resolve (.of_text "/srv") = .ok root ∧ Accepted lab_files root lab_registry) ∧
      Switch lab_registry "apply_authorization_requested" ∧
      ∃ manifest, some lab_manifest = some manifest ∧ Exposed manifest := by
  have hvalidator (document : Value) (hnone : lab_errors document = []) :
      valid (fun _ _ => true) schema.registry document := by
    unfold lab_errors at hnone
    split at hnone
    · assumption
    · cases hnone
  have hmap : (validate_production_acceptance lab_errors lab_files 10 lab_registry (some lab_manifest)
      (.of_text "/srv")).toOption.map AcceptanceReport.production_ready = some true := by decide +kernel
  obtain ⟨report, hrun, hready⟩ := exists_ok_of_map hmap
  obtain ⟨hsound, hcontrolled, hproduction⟩ := acceptance_sound hvalidator hrun
  obtain ⟨hcomplete, hcontrolled_ready, -, hexposed⟩ := hproduction hready
  exact ⟨report, hrun, hready, (hsound hcomplete).2, (hcontrolled hcontrolled_ready).2, hexposed⟩

end orchestrator.acceptance
