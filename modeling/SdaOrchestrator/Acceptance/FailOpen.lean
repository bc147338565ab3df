import SdaOrchestrator.Acceptance.Sound

open python json_schema

namespace orchestrator.acceptance

/-! ## Manifests that expose Apply -/

def FailOpen (issue : Issue) : Prop := issue.code = "apply.manifest_fail_open"

/-- The safety switch of the manifest is on. -/
def ApplyEnabled (manifest : Value) : Prop :=
  ∃ safety, manifest.item "safety" = .ok safety ∧ safety.item "apply_enabled" = .ok (.bool true)

/-- Some workflow of the manifest. -/
def SomeWorkflow (manifest : Value) (P : Value → Prop) : Prop :=
  ∃ workflows, get_items manifest "workflows" = .ok workflows ∧ ∃ workflow ∈ workflows, P workflow

/-- The manifest exposes Apply in one of its three ways. -/
def Opened (manifest : Value) : Prop :=
  ApplyEnabled manifest ∨ SomeWorkflow manifest EnabledWorkflow ∨ SomeWorkflow manifest ExecutableWorkflow

def is_start_apply (workflow : Value) : Bool :=
  match workflow.item "id" with
  | .ok (.str id) => id = "start_apply"
  | _ => false

/-- The last workflow of the apply path is enabled. -/
def LastEnabled (manifest : Value) : Prop :=
  ∃ workflows, get_items manifest "workflows" = .ok workflows ∧
    ∃ last, (workflows.filter is_start_apply).getLast? = some last ∧ EnabledWorkflow last

/-- What the loop reads of one workflow can be read. -/
def ReadableWorkflow (workflow : Value) : Prop :=
  is_start_apply workflow → ∃ steps, get_items workflow "steps" = .ok steps ∧
    ∀ step ∈ steps, ∀ activity, step.item "activity" = .ok activity → hashable activity

/-- What the release check reads of a manifest can be read. -/
structure Readable (manifest : Value) : Prop where
  safety : ∃ safety, get_mapping manifest "safety" = .ok safety ∧ safety.isMapping
  workflows : ∃ workflows, get_items manifest "workflows" = .ok workflows ∧
    ∀ workflow ∈ workflows, ReadableWorkflow workflow

/-- The acceptance of the registry alone is not complete. -/
def Incomplete (iter_errors : Value → List SchemaError) (files : Filesystem) (recursion_limit : Nat)
    (document : Value) (evidence_root : Path) : Prop :=
  ∃ report, validate_production_acceptance iter_errors files recursion_limit document none evidence_root =
    .ok report ∧ report.acceptance_complete = false

/-- The release check reports that the manifest exposes Apply. -/
def Reported (iter_errors : Value → List SchemaError) (files : Filesystem) (recursion_limit : Nat)
    (document : Value) (manifest : Value) (evidence_root : Path) : Prop :=
  ∃ report, validate_production_acceptance iter_errors files recursion_limit document (some manifest)
      evidence_root = .ok report ∧
    (∃ issue ∈ report.issues, FailOpen issue) ∧ report.registry_valid = false

/-! ## The loop over the workflows -/

theorem is_start_apply_iff {workflow : Value} :
    is_start_apply workflow = true ↔ HasText workflow "id" "start_apply" := by
  unfold is_start_apply HasText
  split
  · rename_i id hid
    rw [hid, decide_eq_true_eq]
    constructor
    · rintro rfl
      rfl
    · intro hsame
      exact Value.str.inj (Except.ok.inj hsame)
  · rename_i hother
    constructor
    · intro hfalse
      cases hfalse
    · exact fun hid => absurd hid (hother _)

/-- The id of a workflow says whether it is of the apply path. -/
theorem is_start_apply_of_get {workflow : Value} {id : Option Value} (hid : workflow.get "id" = .ok id) :
    is_start_apply workflow = is_text "start_apply" id := by
  rw [Bool.eq_iff_iff, is_start_apply_iff, is_text_iff, HasText, ← get_eq_some_iff, hid]
  exact ⟨fun h => Except.ok.inj h, fun h => congrArg Except.ok h⟩

theorem get_of_isMapping {value : Value} (hmapping : value.isMapping = true) (key : String) :
    ∃ found, value.get key = .ok found := by
  cases value with
  | dict entries => exact ⟨_, rfl⟩
  | _ => cases hmapping

theorem isMapping_of_item {value found : Value} {key : String} (hitem : value.item key = .ok found) :
    value.isMapping = true := by
  cases value with
  | dict entries => rfl
  | _ => cases hitem

/-- A step can be read when its activity can be compared. -/
theorem executable_step_readable_iff {step : Value} :
    (∃ executable, executable_step step = .ok executable) ↔
      ∀ activity, step.item "activity" = .ok activity → hashable activity = true := by
  cases hmapping : step.isMapping with
  | false =>
    have hstep : executable_step step = .ok false := by rw [executable_step, hmapping]; rfl
    refine ⟨fun _ activity hactivity => ?_, fun _ => ⟨false, hstep⟩⟩
    rw [isMapping_of_item hactivity] at hmapping
    cases hmapping
  | true =>
    obtain ⟨activity, hactivity⟩ := get_of_isMapping hmapping "activity"
    obtain ⟨enabled, henabled⟩ := get_of_isMapping hmapping "enabled"
    simp only [executable_step, hmapping, if_true, hactivity, henabled, bind_eq_ok_iff, Except.ok.injEq,
      exists_eq_left', pure_eq_ok_iff]
    have hlisted : (∃ listed, in_texts ["http_request", "bounded_poll"] activity = .ok listed) ↔
        ∀ found, activity = some found → hashable found = true := by
      cases activity with
      | none => simp [in_texts]
      | some found => cases found <;> simp [in_texts, hashable]
    have hread : (∀ found, activity = some found → hashable found = true) ↔
        ∀ found, step.item "activity" = .ok found → hashable found = true := by
      simp only [← get_eq_some_iff, hactivity, Except.ok.injEq]
    rw [← hread, ← hlisted]
    constructor
    · rintro ⟨_, listed, hok, -⟩
      exact ⟨listed, hok⟩
    · rintro ⟨listed, hok⟩
      exact ⟨_, listed, hok, rfl⟩

/-- Exactly the enabled `http_request` and `bounded_poll` steps are executable. -/
theorem executable_step_eq {step : Value} {executable : Bool} (hstep : executable_step step = .ok executable) :
    executable = true ↔ (HasText step "activity" "http_request" ∨ HasText step "activity" "bounded_poll") ∧
      step.item "enabled" = .ok (.bool true) := by
  refine ⟨fun htrue => executable_step_iff (htrue ▸ hstep), ?_⟩
  rintro ⟨hactivity, henabled⟩
  have hmapping := isMapping_of_item henabled
  have hin : ∃ read, step.get "activity" = .ok read ∧
      in_texts ["http_request", "bounded_poll"] read = .ok true := by
    obtain hhttp | hpoll := hactivity
    · exact ⟨_, get_eq_some_iff.mpr hhttp, rfl⟩
    · exact ⟨_, get_eq_some_iff.mpr hpoll, rfl⟩
  obtain ⟨read, hread, hlisted⟩ := hin
  have hrun : executable_step step = .ok true := by
    simp only [executable_step, hmapping, if_true, hread, get_eq_some_iff.mpr henabled, bind, Except.bind,
      hlisted]
    rfl
  rw [hrun] at hstep
  exact (Except.ok.inj hstep).symm

/-- One round of the loop: the flag of the workflow replaces the flag, its steps add to theirs. -/
theorem apply_workflow_state_eq {before after : WorkflowApplyState} {workflow : Value}
    (hstep : apply_workflow_state before workflow = .ok after) :
    after.apply_enabled = before.apply_enabled ∧
      (after.apply_workflow_enabled = true ↔
        if is_start_apply workflow then EnabledWorkflow workflow else before.apply_workflow_enabled = true) ∧
      (after.apply_executable_steps_enabled = true ↔
        before.apply_executable_steps_enabled = true ∨ ExecutableWorkflow workflow) := by
  have hother (hid : is_start_apply workflow = false) : ¬ExecutableWorkflow workflow := by
    intro hexecutable
    rw [is_start_apply_iff.mpr hexecutable.1] at hid
    cases hid
  unfold apply_workflow_state at hstep
  split at hstep
  · simp only [bind_eq_ok_iff] at hstep
    obtain ⟨id, hid, hstep⟩ := hstep
    have hnamed := is_start_apply_of_get hid
    split at hstep
    · rename_i htext
      rw [htext] at hnamed
      have hpath := is_start_apply_iff.mp hnamed
      simp only [bind_eq_ok_iff, pure_eq_ok_iff] at hstep
      obtain ⟨enabled, henabled, items, hitems, steps, hsteps, rfl⟩ := hstep
      refine ⟨rfl, ?_, ?_⟩
      · rw [if_pos hnamed, is_true_iff, EnabledWorkflow, ← get_eq_some_iff, henabled, Except.ok.injEq]
        exact ⟨fun h => ⟨hpath, h⟩, fun h => h.2⟩
      · rw [Bool.or_eq_true_iff, List.any_eq_true]
        refine or_congr_right ⟨?_, ?_⟩
        · rintro ⟨flag, hflag, htrue⟩
          obtain ⟨step, hstep, hread⟩ := mem_of_mapM hsteps hflag
          exact ⟨hpath, items, step, hitems, hstep, (executable_step_eq hread).mp htrue⟩
        · rintro ⟨-, found, step, hfound, hstep, hexecutable⟩
          obtain rfl := Except.ok.inj (hitems.symm.trans hfound)
          obtain ⟨flag, hflag, hread⟩ := exists_of_mapM hsteps hstep
          exact ⟨flag, hflag, (executable_step_eq hread).mpr hexecutable⟩
    · rename_i htext
      rw [Bool.eq_false_iff.mpr htext] at hnamed
      obtain rfl := pure_eq_ok_iff.mp hstep
      refine ⟨rfl, ?_, ?_⟩
      · rw [hnamed, if_neg Bool.false_ne_true]
      · exact ⟨.inl, fun h => h.resolve_right (hother hnamed)⟩
  · rename_i hmapping
    have hnamed : is_start_apply workflow = false := by
      rw [Bool.eq_false_iff]
      intro hid
      exact hmapping (isMapping_of_item (is_start_apply_iff.mp hid))
    obtain rfl := pure_eq_ok_iff.mp hstep
    refine ⟨rfl, ?_, ?_⟩
    · rw [hnamed, if_neg Bool.false_ne_true]
    · exact ⟨.inl, fun h => h.resolve_right (hother hnamed)⟩

/-- The flag of the last workflow of the apply path is the one that stays. -/
theorem apply_workflows_eq {before after : WorkflowApplyState} {workflows : List Value}
    (hrun : workflows.foldlM apply_workflow_state before = .ok after) :
    after.apply_enabled = before.apply_enabled ∧
      (after.apply_workflow_enabled = true ↔
        match (workflows.filter is_start_apply).getLast? with
        | some last => EnabledWorkflow last
        | none => before.apply_workflow_enabled = true) ∧
      (after.apply_executable_steps_enabled = true ↔
        before.apply_executable_steps_enabled = true ∨ ∃ workflow ∈ workflows, ExecutableWorkflow workflow) := by
  induction workflows using List.reverseRecOn generalizing after with
  | nil =>
    obtain rfl := pure_eq_ok_iff.mp hrun
    simp
  | append_singleton workflows workflow ih =>
    rw [List.foldlM_append, bind_eq_ok_iff] at hrun
    obtain ⟨middle, hrest, hrun⟩ := hrun
    rw [List.foldlM_cons, bind_eq_ok_iff] at hrun
    obtain ⟨last, hstep, hdone⟩ := hrun
    obtain rfl := pure_eq_ok_iff.mp hdone
    obtain ⟨hfirst, hworkflow, hsteps⟩ := apply_workflow_state_eq hstep
    obtain ⟨hothers, hworkflows, hall⟩ := ih hrest
    refine ⟨hfirst.trans hothers, ?_, ?_⟩
    · rw [hworkflow, hworkflows, List.filter_append]
      cases hnamed : is_start_apply workflow <;> simp [hnamed]
    · rw [hsteps, hall, or_assoc]
      simp only [List.mem_append, List.mem_singleton, or_and_right, exists_or, exists_eq_left]

/-- The loop raises nothing when every workflow can be read. -/
theorem apply_workflow_state_readable_iff {before : WorkflowApplyState} {workflow : Value} :
    (∃ after, apply_workflow_state before workflow = .ok after) ↔ ReadableWorkflow workflow := by
  unfold apply_workflow_state ReadableWorkflow
  split
  · rename_i hmapping
    obtain ⟨id, hid⟩ := get_of_isMapping hmapping "id"
    obtain ⟨enabled, henabled⟩ := get_of_isMapping hmapping "enabled"
    rw [is_start_apply_of_get hid, hid]
    cases htext : is_text "start_apply" id with
    | false => simp [htext, bind, Except.bind, pure, Except.pure]
    | true =>
      simp only [bind_eq_ok_iff, Except.ok.injEq, exists_eq_left', htext, if_true, henabled, pure_eq_ok_iff,
        forall_const]
      constructor
      · rintro ⟨_, steps, hsteps, flags, hflags, -⟩
        refine ⟨steps, hsteps, fun step hstep => ?_⟩
        obtain ⟨flag, -, hread⟩ := exists_of_mapM hflags hstep
        exact executable_step_readable_iff.mp ⟨flag, hread⟩
      · rintro ⟨steps, hsteps, hall⟩
        obtain ⟨flags, hflags⟩ := mapM_ok_of_forall fun step hstep =>
          executable_step_readable_iff.mpr (hall step hstep)
        exact ⟨_, steps, hsteps, flags, hflags, rfl⟩
  · rename_i hmapping
    refine ⟨fun _ hid => ?_, fun _ => ⟨before, rfl⟩⟩
    exact absurd (isMapping_of_item (is_start_apply_iff.mp hid)) hmapping

theorem apply_workflows_readable_iff {before : WorkflowApplyState} {workflows : List Value} :
    (∃ after, workflows.foldlM apply_workflow_state before = .ok after) ↔
      ∀ workflow ∈ workflows, ReadableWorkflow workflow := by
  induction workflows generalizing before with
  | nil => simp [pure, Except.pure]
  | cons workflow rest ih =>
    simp only [List.foldlM_cons, bind_eq_ok_iff, List.forall_mem_cons]
    constructor
    · rintro ⟨after, middle, hstep, hrest⟩
      exact ⟨apply_workflow_state_readable_iff.mp ⟨middle, hstep⟩, ih.mp ⟨after, hrest⟩⟩
    · rintro ⟨hfirst, hothers⟩
      obtain ⟨middle, hstep⟩ : ∃ middle, apply_workflow_state before workflow = .ok middle :=
        apply_workflow_state_readable_iff.mpr hfirst
      obtain ⟨after, hrest⟩ : ∃ after, rest.foldlM apply_workflow_state middle = .ok after := ih.mpr hothers
      exact ⟨after, middle, hstep, hrest⟩

/-! ## The issues of the other checks -/

/-- None of the issues is about an exposed Apply. -/
def Foreign (issues : List Issue) : Prop := ∀ issue ∈ issues, ¬FailOpen issue

theorem foreign_nil : Foreign [] := fun _ hissue => absurd hissue List.not_mem_nil

theorem foreign_append {first second : List Issue} :
    Foreign (first ++ second) ↔ Foreign first ∧ Foreign second :=
  List.forall_mem_append

theorem foreign_singleton {issue : Issue} (hcode : issue.code ≠ "apply.manifest_fail_open") : Foreign [issue] := by
  intro found hfound
  rwa [List.mem_singleton.mp hfound]

theorem foreign_issue_if {condition : Bool} {issue : Issue} (hcode : issue.code ≠ "apply.manifest_fail_open") :
    Foreign (issue_if condition issue) := by
  unfold issue_if
  split
  · exact foreign_singleton hcode
  · exact foreign_nil

theorem foreign_map {α : Type} {items : List α} {issue : α → Issue}
    (hcode : ∀ item, (issue item).code ≠ "apply.manifest_fail_open") : Foreign (items.map issue) := by
  intro found hfound
  obtain ⟨item, -, rfl⟩ := List.mem_map.mp hfound
  exact hcode item

theorem foreign_flatten {lists : List (List Issue)} (hlists : ∀ issues ∈ lists, Foreign issues) :
    Foreign lists.flatten := by
  intro issue hissue
  obtain ⟨issues, hmem, hissue⟩ := List.mem_flatten.mp hissue
  exact hlists issues hmem issue hissue

mutual

theorem foreign_walk (path : String) (value : Value) : Foreign (_walk_secret_keys path value) := by
  cases value with
  | dict entries =>
    intro issue hissue
    rw [_walk_secret_keys, List.mem_flatMap] at hissue
    obtain ⟨entry, hentry, hissue⟩ := hissue
    have hmem := assoc.lookup_mem (assoc.mem_distinct_iff.mp hentry)
    exact foreign_walk_entries path entries entry hmem issue hissue
  | list items =>
    rw [_walk_secret_keys]
    exact foreign_walk_items path 0 items
  | _ =>
    intro issue hissue
    simp only [_walk_secret_keys, List.not_mem_nil] at hissue

theorem foreign_walk_entries (path : String) (entries : List (String × Value)) :
    ∀ entry ∈ walk_entries path entries, Foreign entry.2 := by
  cases entries with
  | nil => exact fun _ hentry => absurd hentry List.not_mem_nil
  | cons first rest =>
    obtain ⟨key, child⟩ := first
    intro entry hentry
    rw [walk_entries, List.mem_cons] at hentry
    obtain rfl | hentry := hentry
    · refine foreign_append.mpr ⟨?_, foreign_walk _ child⟩
      split
      · exact foreign_singleton (by simp)
      · exact foreign_nil
    · exact foreign_walk_entries path rest entry hentry

theorem foreign_walk_items (path : String) (index : Nat) (items : List Value) :
    Foreign (walk_items path index items) := by
  cases items with
  | nil => exact foreign_nil
  | cons child rest =>
    rw [walk_items]
    exact foreign_append.mpr ⟨foreign_walk _ child, foreign_walk_items path (index + 1) rest⟩

end

section Checks

variable {files : Filesystem} {root : Path} {gates_by_id signoffs_by_role : List (String × Value)}
  {index : Nat} {evidence_ids : List String}

theorem foreign_evidence_file {path : String} {item : Value} {issues : List Issue}
    (hissues : evidence_file_issues files root path item = .ok issues) : Foreign issues := by
  simp only [evidence_file_issues, bind_eq_ok_iff] at hissues
  obtain ⟨evidence_ref, -, hissues⟩ := hissues
  split at hissues
  · simp only [bind_eq_ok_iff] at hissues
    obtain ⟨candidate_path, -, hissues⟩ := hissues
    split at hissues
    · obtain rfl := pure_eq_ok_iff.mp hissues
      exact foreign_singleton (by simp)
    split at hissues
    · obtain rfl := pure_eq_ok_iff.mp hissues
      exact foreign_singleton (by simp)
    · simp only [bind_eq_ok_iff] at hissues
      obtain ⟨content, -, recorded, -, hissues⟩ := hissues
      split at hissues <;> obtain rfl := pure_eq_ok_iff.mp hissues
      · exact foreign_nil
      · exact foreign_singleton (by simp)
  · obtain rfl := pure_eq_ok_iff.mp hissues
    exact foreign_nil

theorem foreign_evidence {gate_path : String} {items : List Value} {found : List String × List Issue}
    (hfound : evidence_issues files root gate_path index items evidence_ids = .ok found) :
    Foreign found.2 := by
  induction items generalizing index evidence_ids found with
  | nil =>
    obtain rfl := pure_eq_ok_iff.mp hfound
    exact foreign_nil
  | cons item rest ih =>
    rw [evidence_issues] at hfound
    split at hfound
    · simp only [bind_eq_ok_iff, pure_eq_ok_iff] at hfound
      obtain ⟨evidence_id, -, file, hfile, others, hothers, rfl⟩ := hfound
      refine foreign_append.mpr ⟨foreign_append.mpr ⟨?_, foreign_evidence_file hfile⟩, ih hothers⟩
      split
      · exact foreign_singleton (by simp)
      · exact foreign_nil
    · exact ih hfound

theorem foreign_status {gate_path : String} {gate : Value} {evidence : List Value} {issues : List Issue}
    (hissues : status_issues gate_path gate evidence = .ok issues) : Foreign issues := by
  simp only [status_issues, bind_eq_ok_iff, pure_eq_ok_iff] at hissues
  obtain ⟨status, -, results, -, rationale, -, required, -, rfl⟩ := hissues
  simp only [foreign_append]
  exact ⟨⟨⟨foreign_issue_if (by simp), foreign_issue_if (by simp)⟩, foreign_issue_if (by simp)⟩,
    foreign_issue_if (by simp)⟩

theorem foreign_gates {gates : List Value} {found : List (String × Value) × List Issue}
    (hfound : gate_issues files root index gates gates_by_id evidence_ids = .ok found) :
    Foreign found.2 := by
  induction gates generalizing index gates_by_id evidence_ids found with
  | nil =>
    obtain rfl := pure_eq_ok_iff.mp hfound
    exact foreign_nil
  | cons gate rest ih =>
    rw [gate_issues] at hfound
    split at hfound
    · simp only [bind_eq_ok_iff, pure_eq_ok_iff] at hfound
      obtain ⟨gate_id, -, evidence, -, records, hrecords, status, hstatus, others, hothers, rfl⟩ := hfound
      simp only [foreign_append]
      exact ⟨⟨⟨foreign_issue_if (by simp), foreign_evidence hrecords⟩, foreign_status hstatus⟩, ih hothers⟩
    · exact ih hfound

theorem foreign_dependency {gate dependency : Value} {issues : List Issue}
    (hissues : dependency_issue gates_by_id index gate dependency = .ok issues) : Foreign issues := by
  simp only [dependency_issue, bind_eq_ok_iff] at hissues
  obtain ⟨gate_id, -, target, -, hissues⟩ := hissues
  split at hissues
  · obtain rfl := pure_eq_ok_iff.mp hissues
    exact foreign_singleton (by simp)
  · simp only [bind_eq_ok_iff] at hissues
    obtain ⟨status, -, hissues⟩ := hissues
    split at hissues
    · simp only [bind_eq_ok_iff, pure_eq_ok_iff] at hissues
      obtain ⟨reached, -, rfl⟩ := hissues
      exact foreign_issue_if (by simp)
    · obtain rfl := pure_eq_ok_iff.mp hissues
      exact foreign_nil

theorem foreign_dependencies {gates : List Value} {issues : List Issue}
    (hissues : dependency_issues gates_by_id index gates = .ok issues) : Foreign issues := by
  induction gates generalizing index issues with
  | nil =>
    obtain rfl := pure_eq_ok_iff.mp hissues
    exact foreign_nil
  | cons gate rest ih =>
    rw [dependency_issues] at hissues
    split at hissues
    · simp only [bind_eq_ok_iff, pure_eq_ok_iff] at hissues
      obtain ⟨dependencies, -, found, hfound, others, hothers, rfl⟩ := hissues
      refine foreign_append.mpr ⟨foreign_flatten fun each heach => ?_, ih hothers⟩
      obtain ⟨dependency, -, hread⟩ := mem_of_mapM hfound heach
      exact foreign_dependency hread
    · exact ih hissues

theorem foreign_cycles {recursion_limit : Nat} {issues : List Issue}
    (hissues : _detect_dependency_cycles recursion_limit gates_by_id = .ok issues) : Foreign issues := by
  simp only [_detect_dependency_cycles, bind_eq_ok_iff, pure_eq_ok_iff] at hissues
  obtain ⟨found, -, rfl⟩ := hissues
  exact foreign_map fun cycle => by simp

theorem foreign_signoffs {signoffs : List Value} {found : List (String × Value) × List Issue}
    (hfound : signoff_issues index signoffs signoffs_by_role = .ok found) : Foreign found.2 := by
  induction signoffs generalizing index signoffs_by_role found with
  | nil =>
    obtain rfl := pure_eq_ok_iff.mp hfound
    exact foreign_nil
  | cons signoff rest ih =>
    rw [signoff_issues] at hfound
    split at hfound
    · simp only [bind_eq_ok_iff, pure_eq_ok_iff] at hfound
      obtain ⟨role, -, status, -, decided, -, values, -, others, hothers, rfl⟩ := hfound
      simp only [foreign_append]
      exact ⟨⟨foreign_issue_if (by simp), foreign_issue_if (by simp)⟩, ih hothers⟩
    · exact ih hfound

end Checks

/-! ## The release check -/

theorem apply_enabled_iff {manifest safety : Value} {enabled : Option Value}
    (hsafety : get_mapping manifest "safety" = .ok safety) (henabled : safety.get "apply_enabled" = .ok enabled) :
    is_true enabled = true ↔ ApplyEnabled manifest := by
  refine ⟨fun htrue => item_of_get_mapping hsafety (is_true_iff.mp htrue ▸ henabled), ?_⟩
  rintro ⟨found, hfound, htrue⟩
  have htruthy : found.truthy = true := by
    cases found with
    | dict entries =>
      cases entries with
      | nil => cases htrue
      | cons first rest => rfl
    | _ => cases htrue
  simp only [get_mapping, get_eq_some_iff.mpr hfound, bind_eq_ok_iff, Except.ok.injEq, exists_eq_left', htruthy,
    if_true, pure_eq_ok_iff] at hsafety
  subst hsafety
  rw [is_true_iff]
  exact Except.ok.inj (henabled.symm.trans (get_eq_some_iff.mpr htrue))

/-- The three flags of a manifest that can be read. -/
theorem workflow_apply_state_eq {manifest : Value} {state : WorkflowApplyState}
    (hstate : _workflow_apply_state (some manifest) = .ok state) :
    Readable manifest ∧ ((state.apply_enabled || state.apply_workflow_enabled ||
        state.apply_executable_steps_enabled) = true ↔
      ApplyEnabled manifest ∨ SomeWorkflow manifest ExecutableWorkflow ∨ LastEnabled manifest) := by
  simp only [_workflow_apply_state, bind_eq_ok_iff] at hstate
  obtain ⟨safety, hsafety, enabled, henabled, workflows, hworkflows, hrun⟩ := hstate
  have hmapping : safety.isMapping = true := by
    cases safety with
    | dict entries => rfl
    | _ => cases henabled
  refine ⟨⟨⟨safety, hsafety, hmapping⟩, workflows, hworkflows, ?_⟩, ?_⟩
  · exact apply_workflows_readable_iff.mp ⟨state, hrun⟩
  · obtain ⟨hfirst, hlast, hsteps⟩ := apply_workflows_eq hrun
    have hexecutable : SomeWorkflow manifest ExecutableWorkflow ↔
        ∃ workflow ∈ workflows, ExecutableWorkflow workflow := by
      simp only [SomeWorkflow, hworkflows, Except.ok.injEq, exists_eq_left']
    have hlast_enabled : LastEnabled manifest ↔
        ∃ last, (workflows.filter is_start_apply).getLast? = some last ∧ EnabledWorkflow last := by
      simp only [LastEnabled, hworkflows, Except.ok.injEq, exists_eq_left']
    rw [Bool.or_eq_true_iff, Bool.or_eq_true_iff, hfirst, hlast, hsteps, apply_enabled_iff hsafety henabled,
      hexecutable, hlast_enabled, or_assoc]
    refine or_congr_right ?_
    cases (workflows.filter is_start_apply).getLast? with
    | none => simp
    | some last => simp [or_comm]

/-- A manifest that can be read has a state. -/
theorem workflow_apply_state_of_readable {manifest : Value} (hreadable : Readable manifest) :
    ∃ state, _workflow_apply_state (some manifest) = .ok state := by
  obtain ⟨⟨safety, hsafety, hmapping⟩, workflows, hworkflows, hall⟩ := hreadable
  obtain ⟨enabled, henabled⟩ := get_of_isMapping hmapping "apply_enabled"
  obtain ⟨state, hrun⟩ : ∃ state, workflows.foldlM apply_workflow_state
      ⟨true, is_true enabled, false, false⟩ = .ok state := apply_workflows_readable_iff.mpr hall
  refine ⟨state, ?_⟩
  simp only [_workflow_apply_state, bind_eq_ok_iff]
  exact ⟨safety, hsafety, enabled, henabled, workflows, hworkflows, hrun⟩

section Verdict

variable {iter_errors : Value → List SchemaError} {files : Filesystem} {recursion_limit : Nat}
  {document manifest : Value} {evidence_root : Path}

/-- The issues that the switches and the manifest add are about Apply only when the flags say so. -/
theorem fail_open_apply_issues {requested claims_write manifest_executable : Bool} :
    (∃ issue ∈ apply_issues requested claims_write manifest_executable false, FailOpen issue) ↔
      manifest_executable = true := by
  have hrequested : Foreign (issue_if (requested && !false)
      ⟨"apply.request_before_acceptance", "$.controls.apply_authorization_requested",
        "Apply authorization cannot be requested before every required gate and sign-off passes"⟩) :=
    foreign_issue_if (by simp)
  have hclaims : Foreign (issue_if (claims_write && !false)
      ⟨"apply.write_before_acceptance", "$.controls",
        "Apply presence or device-write permission cannot be claimed before acceptance is complete"⟩) :=
    foreign_issue_if (by simp)
  constructor
  · rintro ⟨issue, hissue, hopen⟩
    rw [apply_issues, List.mem_append, List.mem_append] at hissue
    obtain (hissue | hissue) | hissue := hissue
    · exact absurd hopen (hrequested issue hissue)
    · exact absurd hopen (hclaims issue hissue)
    · cases manifest_executable with
      | true => rfl
      | false => cases hissue
  · rintro rfl
    exact ⟨_, List.mem_append_right _ List.mem_cons_self, rfl⟩

/-- With an incomplete acceptance the manifest is reported when its flags say that Apply is exposed. -/
theorem reported_iff_state (hincomplete : Incomplete iter_errors files recursion_limit document evidence_root) :
    Reported iter_errors files recursion_limit document manifest evidence_root ↔
      ∃ state, _workflow_apply_state (some manifest) = .ok state ∧
        (state.apply_enabled || state.apply_workflow_enabled || state.apply_executable_steps_enabled) = true := by
  obtain ⟨report, hrun, hcomplete⟩ := hincomplete
  simp only [validate_production_acceptance, bind_eq_ok_iff, pure_eq_ok_iff] at hrun
  obtain ⟨root, hroot, gates, hgates, ⟨gates_by_id, gate_found⟩, hgate_found, dependency_found, hdependency_found,
    cycles, hcycles, role_items, hrole_items, required_roles, hrequired_roles, signoff_items, hsignoff_items,
    ⟨signoffs_by_role, signoff_found⟩, hsignoff_found, missing, hmissing, required_gates, hrequired_gates, outcome,
    houtcome, workflow_state, hworkflow_state, controls, hcontrols, requested, hrequested, present, hpresent,
    permitted, hpermitted, rfl⟩ := hrun
  have hforeign : Foreign (schema_issues (iter_errors document) ++ _walk_secret_keys "$" document ++ gate_found ++
      dependency_found ++ cycles ++ signoff_found ++ missing.map fun role =>
        ⟨"signoff.missing", "$.signoffs", "Missing required sign-off record for " ++ role.toStr⟩) := by
    simp only [foreign_append]
    exact ⟨⟨⟨⟨⟨⟨foreign_map fun error => by simp, foreign_walk _ _⟩, foreign_gates hgate_found⟩,
      foreign_dependencies hdependency_found⟩, foreign_cycles hcycles⟩, foreign_signoffs hsignoff_found⟩,
      foreign_map fun role => by simp⟩
  obtain rfl := pure_eq_ok_iff.mp hworkflow_state
  generalize hchecked : schema_issues (iter_errors document) ++ _walk_secret_keys "$" document ++ gate_found ++
    dependency_found ++ cycles ++ signoff_found ++ missing.map (fun role =>
      (⟨"signoff.missing", "$.signoffs", "Missing required sign-off record for " ++ role.toStr⟩ : Issue)) =
    checked at hforeign hcomplete
  -- a complete acceptance would not have been undone by the switches
  have hpending : outcome.complete checked = false := by
    by_contra hdone
    rw [Bool.not_eq_false] at hdone
    have hnone : apply_issues (is_true requested) (is_true present || is_true permitted) (false || false || false)
        true = [] := by
      simp [apply_issues, issue_if]
    rw [hdone, hnone, List.append_nil, hdone] at hcomplete
    cases hcomplete
  simp only [Reported, validate_production_acceptance, hroot, hgates, hgate_found, hdependency_found, hcycles,
    hrole_items, hrequired_roles, hsignoff_items, hsignoff_found, hmissing, hrequired_gates, houtcome, hcontrols,
    hrequested, hpresent, hpermitted, bind_eq_ok_iff, Except.ok.injEq, exists_eq_left', pure_eq_ok_iff, hchecked,
    hpending]
  constructor
  · rintro ⟨_, ⟨state, hstate, rfl⟩, ⟨issue, hissue, hopen⟩, -⟩
    refine ⟨state, hstate, ?_⟩
    obtain hissue | hissue := List.mem_append.mp hissue
    · exact absurd hopen (hforeign issue hissue)
    · exact fail_open_apply_issues.mp ⟨issue, hissue, hopen⟩
  · rintro ⟨state, hstate, hflags⟩
    obtain ⟨issue, hissue, hopen⟩ := fail_open_apply_issues.mpr hflags
    have hmem := List.mem_append_right checked hissue
    refine ⟨_, ⟨state, hstate, rfl⟩, ⟨issue, hmem, hopen⟩, ?_⟩
    exact List.isEmpty_eq_false_iff_exists_mem.mpr ⟨issue, hmem⟩

/-- An exposed Apply is reported before acceptance exactly when the manifest can be read and the
exposure is not only by workflows that are enabled while the last one of them is not. -/
theorem fail_open_reported_iff
    (hincomplete : Incomplete iter_errors files recursion_limit document evidence_root) :
    (Opened manifest → Reported iter_errors files recursion_limit document manifest evidence_root) ↔
      (Opened manifest → Readable manifest ∧
        (ApplyEnabled manifest ∨ SomeWorkflow manifest ExecutableWorkflow ∨ LastEnabled manifest)) := by
  refine imp_congr_right fun _ => ?_
  rw [reported_iff_state hincomplete]
  constructor
  · rintro ⟨state, hstate, hflags⟩
    obtain ⟨hreadable, hexposed⟩ := workflow_apply_state_eq hstate
    exact ⟨hreadable, hexposed.mp hflags⟩
  · rintro ⟨hreadable, hexposed⟩
    obtain ⟨state, hstate⟩ := workflow_apply_state_of_readable hreadable
    exact ⟨state, hstate, (workflow_apply_state_eq hstate).2.mpr hexposed⟩

end Verdict

/-! ## A registry whose gate is pending -/

def lab_pending_registry : Value :=
  .dict [("schema_version", .str "1.0"), ("registry_id", .str "lab"),
    ("scope", .dict [("environment", .str "lab"), ("fabric_id", .str "f"), ("release_candidate", .str "r")]),
    ("controls", .dict [("apply_authorization_requested", .bool false), ("apply_workflow_present", .bool false),
      ("device_writes_permitted", .bool false)]),
    ("required_signoff_roles", .list [.str "security_owner"]),
    ("gates", .list [.dict [("id", .str "api"), ("category", .str "software"), ("required", .bool true),
      ("status", .str "pending"), ("owner_roles", .list [.str "security_owner"]), ("dependencies", .list []),
      ("evidence", .list [])]]),
    ("signoffs", .list [.dict [("role", .str "security_owner"), ("status", .str "pending")]])]

/-- The same workflow twice, enabled or not, without steps that run. -/
def lab_workflows (first second : Bool) : Value :=
  .dict [("safety", .dict [("apply_enabled", .bool false)]),
    ("workflows", .list [
      .dict [("id", .str "start_apply"), ("enabled", .bool first), ("steps", .list [])],
      .dict [("id", .str "start_apply"), ("enabled", .bool second), ("steps", .list [])]])]

def lab_check (manifest : Option Value) : Py AcceptanceReport :=
  validate_production_acceptance lab_errors lab_files 10 lab_pending_registry manifest (.of_text "/srv")

theorem lab_pending_incomplete : Incomplete lab_errors lab_files 10 lab_pending_registry (.of_text "/srv") := by
  have hmap : (lab_check none).toOption.map AcceptanceReport.acceptance_complete = some false := by
    decide +kernel
  exact exists_ok_of_map hmap

theorem lab_workflows_opened (second : Bool) : Opened (lab_workflows true second) :=
  .inr (.inl ⟨_, rfl, _, List.mem_cons_self, rfl, rfl⟩)

/-- The second entry hides that the first one is enabled: the release check passes. -/
theorem fail_open_not_reported :
    ¬∀ (iter_errors : Value → List SchemaError) (files : Filesystem) (recursion_limit : Nat)
      (document manifest : Value) (evidence_root : Path),
      Incomplete iter_errors files recursion_limit document evidence_root → Opened manifest →
        Reported iter_errors files recursion_limit document manifest evidence_root := by
  intro hclaim
  obtain ⟨report, hrun, -, hinvalid⟩ :=
    hclaim _ _ _ _ _ _ lab_pending_incomplete (lab_workflows_opened false)
  have hvalid : (lab_check (some (lab_workflows true false))).toOption.map AcceptanceReport.registry_valid =
      some true := by decide +kernel
  obtain ⟨found, hfound, hregistry⟩ := exists_ok_of_map hvalid
  obtain rfl := Except.ok.inj (hrun.symm.trans hfound)
  rw [hregistry] at hinvalid
  cases hinvalid

theorem fail_open_reported_lab :
    Reported lab_errors lab_files 10 lab_pending_registry (lab_workflows true true) (.of_text "/srv") := by
  refine (fail_open_reported_iff lab_pending_incomplete).mpr (fun _ => ⟨?_, .inr (.inr ?_)⟩)
    (lab_workflows_opened true)
  · refine ⟨⟨_, rfl, rfl⟩, _, rfl, fun workflow hworkflow _ => ?_⟩
    simp only [List.mem_cons, List.not_mem_nil, or_false, or_self] at hworkflow
    subst hworkflow
    exact ⟨[], rfl, fun step hstep => absurd hstep List.not_mem_nil⟩
  · exact ⟨_, rfl, _, rfl, rfl, rfl⟩

end orchestrator.acceptance
