import SdaOrchestrator.MerakiWorkflow.BuildPlan

open python orchestrator.acceptance

namespace orchestrator.meraki_workflow_package

/-! ## The rules of a step -/

/-- A step that sends requests names a known operation, and that has the role of the workflow. -/
def KnownOperation (policy : Policy) (target_role : Option Value) (step : Value) : Prop :=
  ∃ name operation role, get_text step "operation" = .ok name ∧
    assoc.lookup name policy.operations = some operation ∧ operation.get "role" = .ok role ∧
    same (target_role.getD .null) role

/-- A step that polls stays within its attempts, its interval and the runtime of the parent. -/
def PollBounded (policy : Policy) (step : Value) : Prop :=
  ∃ attempts interval, int_or_zero step "max_attempts" = .ok attempts ∧
    int_or_zero step "interval_seconds" = .ok interval ∧
    1 ≤ attempts ∧ attempts ≤ 100 ∧ 5 ≤ interval ∧ interval ≤ 60 ∧
    ∀ request_timeout, policy.request_timeout = some request_timeout →
      ∀ max_parent_runtime, policy.max_parent_runtime = some max_parent_runtime →
        attempts * (interval + request_timeout) ≤ max_parent_runtime

/-- The rules that a step has to meet by its activity. -/
structure StepRules (policy : Policy) (target_role : Option Value) (step : Value) : Prop where
  known : ∀ activity ∈ executable_activities, step.get "activity" = .ok (some (.str activity)) →
    KnownOperation policy target_role step
  bounded : step.get "activity" = .ok (some (.str "bounded_poll")) → PollBounded policy step

/-- The step reads alike in the fields that the rules are about. -/
structure SameFields (source step : Value) : Prop where
  activity : step.get "activity" = source.get "activity"
  operation : step.get "operation" = source.get "operation"
  enabled : step.get "enabled" = source.get "enabled"
  max_attempts : step.get "max_attempts" = source.get "max_attempts"
  interval_seconds : step.get "interval_seconds" = source.get "interval_seconds"

theorem get_text_congr {source step : Value} {key : String} (hsame : step.get key = source.get key) :
    get_text step key = get_text source key := by
  simp only [get_text, Value.getD, hsame]

theorem int_or_zero_congr {source step : Value} {key : String} (hsame : step.get key = source.get key) :
    int_or_zero step key = int_or_zero source key := by
  simp only [int_or_zero, hsame]

/-- The rules read nothing else. -/
theorem StepRules.of_same {policy : Policy} {target_role : Option Value} {source step : Value}
    (hsame : SameFields source step) (hrules : StepRules policy target_role source) :
    StepRules policy target_role step := by
  constructor
  · intro activity hmem hactivity
    rw [hsame.activity] at hactivity
    obtain ⟨name, operation, role, hname, hrest⟩ := hrules.known activity hmem hactivity
    exact ⟨name, operation, role, (get_text_congr hsame.operation).trans hname, hrest⟩
  · intro hactivity
    rw [hsame.activity] at hactivity
    obtain ⟨attempts, interval, hattempts, hinterval, hbounds⟩ := hrules.bounded hactivity
    exact ⟨attempts, interval, (int_or_zero_congr hsame.max_attempts).trans hattempts,
      (int_or_zero_congr hsame.interval_seconds).trans hinterval, hbounds⟩

theorem known_of_issues {policy : Policy} {target_role : Option Value} {step_path unknown mismatch : String}
    {step : Value} (hissues : operation_role_issues policy target_role step_path unknown mismatch step = .ok []) :
    KnownOperation policy target_role step := by
  simp only [operation_role_issues, operation_of, bind_eq_ok_iff, pure_eq_ok_iff] at hissues
  obtain ⟨_, ⟨name, hname, rfl⟩, hissues⟩ := hissues
  split at hissues
  · simp at hissues
  · rename_i operation hfound
    simp only [bind_eq_ok_iff, pure_eq_ok_iff, issue_if_eq_nil, Bool.not_eq_false'] at hissues
    obtain ⟨role, hrole, hsame⟩ := hissues
    exact ⟨name, operation, role, hname, (Option.filter_eq_some_iff.mp hfound).1, hrole, hsame⟩

theorem get_text_of_get {step : Value} {key text : String} (hget : step.get key = .ok (some (.str text))) :
    get_text step key = .ok text := by
  simp only [get_text, Value.getD, hget]
  rfl

/-- A step without issues meets its rules. -/
theorem rules_of_step_issues {policy : Policy} {target_role : Option Value} {step_path : String}
    {seen_steps : List String} {step : Value} {next_step : Option Value}
    (hissues : step_issues policy target_role step_path seen_steps step next_step = .ok []) :
    StepRules policy target_role step := by
  simp only [step_issues, bind_eq_ok_iff, pure_eq_ok_iff, List.append_eq_nil_iff] at hissues
  obtain ⟨step_id, -, activity, hactivity, request, hrequest, _, -, ⟨⟨-, -⟩, rfl⟩, -⟩ := hissues
  have hnamed {expected : String} (hget : step.get "activity" = .ok (some (.str expected))) :
      request_issues policy target_role step_path expected step next_step = .ok [] := by
    obtain rfl : activity = expected := Except.ok.inj (hactivity.symm.trans (get_text_of_get hget))
    exact hrequest
  constructor
  · intro expected hmem hget
    have hrules := hnamed hget
    simp only [executable_activities, List.mem_cons, List.not_mem_nil, or_false] at hmem
    obtain rfl | rfl := hmem
    · rw [request_issues, if_pos rfl, http_request_issues] at hrules
      simp only [bind_eq_ok_iff, pure_eq_ok_iff, List.append_eq_nil_iff] at hrules
      obtain ⟨_, hfound, _, -, ⟨rfl, -⟩, -⟩ := hrules
      exact known_of_issues hfound
    · rw [request_issues, if_neg (by decide), if_pos rfl, bounded_poll_issues] at hrules
      simp only [bind_eq_ok_iff, pure_eq_ok_iff, List.append_eq_nil_iff] at hrules
      obtain ⟨_, hfound, _, -, _, -, _, -, ⟨⟨rfl, -⟩, -⟩, -⟩ := hrules
      exact known_of_issues hfound
  · intro hget
    have hrules := hnamed hget
    rw [request_issues, if_neg (by decide), if_pos rfl, bounded_poll_issues] at hrules
    simp only [bind_eq_ok_iff, pure_eq_ok_iff, List.append_eq_nil_iff, issue_if_eq_nil,
      Bool.not_eq_false'] at hrules
    obtain ⟨_, -, attempts, hattempts, interval, hinterval, _, -, ⟨⟨-, hbounds⟩, hfits⟩, -⟩ := hrules
    simp only [poll_bounded, Bool.and_eq_true, decide_eq_true_eq] at hbounds
    obtain ⟨⟨⟨hleast, hmost⟩, hshort⟩, hlong⟩ := hbounds
    refine ⟨attempts, interval, hattempts, hinterval, hleast, hmost, hshort, hlong, ?_⟩
    intro request_timeout htimeout max_parent_runtime hruntime
    simpa [poll_fits, htimeout, hruntime] using hfits

/-- Every step of a list without issues meets its rules. -/
theorem rules_of_steps_issues {policy : Policy} {target_role : Option Value} {workflow_path : String}
    {index : Nat} {steps : List Value} {seen_steps seen : List String}
    (hissues : steps_issues policy target_role workflow_path index steps seen_steps = .ok (seen, [])) :
    ∀ step ∈ steps, StepRules policy target_role step := by
  induction steps generalizing index seen_steps with
  | nil => simp
  | cons step rest ih =>
    rw [steps_issues] at hissues
    split at hissues
    · simp only [bind_eq_ok_iff, pure_eq_ok_iff, Prod.mk.injEq, List.append_eq_nil_iff] at hissues
      obtain ⟨_, hstep, _, -, ⟨seen, _⟩, hrest, rfl, rfl, rfl⟩ := hissues
      exact List.forall_mem_cons.mpr ⟨rules_of_step_issues hstep, ih hrest⟩
    · simp only [bind_eq_ok_iff, pure_eq_ok_iff, Prod.mk.injEq, reduceCtorEq, and_false, exists_false] at hissues

/-! ## The rules of a workflow -/

/-- The workflow passes the rules of the validator under its own identifier. -/
def Passes (policy : Policy) (workflow : Value) : Prop :=
  ∃ id, workflow.get "id" = .ok (some id) ∧ workflow_issues policy id.toStr workflow = .ok []

/-- The validator and the compiler draw the same steps. -/
theorem steps_eq_of_listed {workflow : Value} {items steps : List Value}
    (hlisted : step_list workflow = .ok (some items)) (hsteps : steps_of workflow = .ok steps) : steps = items := by
  simp only [steps_of, Value.getD, bind_eq_ok_iff, pure_eq_ok_iff] at hsteps
  obtain ⟨_, ⟨found, hget, rfl⟩, helements⟩ := hsteps
  simp only [step_list, hget, bind_eq_ok_iff] at hlisted
  obtain ⟨_, hfound, hlisted⟩ := hlisted
  obtain rfl := Except.ok.inj hfound
  cases found with
  | none =>
    obtain rfl : [] = items := by simpa using hlisted
    exact (Except.ok.inj helements).symm
  | some value =>
    cases value with
    | list drawn =>
      obtain rfl : drawn = items := by simpa using hlisted
      exact (Except.ok.inj helements).symm
    | dict entries =>
      cases entries with
      | nil =>
        obtain rfl : [] = items := by simpa [Value.truthy] using hlisted
        exact (Except.ok.inj helements).symm
      | cons entry rest => simp [Value.truthy] at hlisted
    | str text =>
      by_cases hempty : text = ""
      · subst hempty
        obtain rfl : [] = items := by simpa [Value.truthy] using hlisted
        exact (Except.ok.inj helements).symm
      · simp [Value.truthy, hempty] at hlisted
    | _ => simp [Value.elements] at helements

/-- The steps of a workflow that passes meet their rules. -/
theorem rules_of_passes {policy : Policy} {workflow : Value} (hpasses : Passes policy workflow) :
    ∃ target_role, workflow.get "target_role" = .ok target_role ∧
      ∀ steps, steps_of workflow = .ok steps → ∀ step ∈ steps, StepRules policy target_role step := by
  obtain ⟨id, -, hissues⟩ := hpasses
  simp only [workflow_issues, bind_eq_ok_iff] at hissues
  obtain ⟨_, -, _, -, target_role, hrole, _, -, listed, hlisted, hissues⟩ := hissues
  refine ⟨target_role, hrole, fun steps hsteps => ?_⟩
  cases listed with
  | none =>
    simp only [pure_eq_ok_iff, List.append_eq_nil_iff, reduceCtorEq, and_false] at hissues
  | some items =>
    simp only [bind_eq_ok_iff, pure_eq_ok_iff, List.append_eq_nil_iff] at hissues
    obtain ⟨⟨seen, _⟩, hfound, _, -, ⟨-, rfl⟩, -⟩ := hissues
    have hrules := rules_of_steps_issues hfound
    obtain rfl := steps_eq_of_listed hlisted hsteps
    exact hrules

/-! ## What the compiler keeps -/

theorem get_dict (entries : List (String × Value)) (key : String) :
    Value.get (.dict entries) key = .ok (assoc.lookup key entries) := rfl

/-- A key that the compiler writes itself is not one that the rules are about. -/
theorem same_fields_set {entries : List (String × Value)} {key : String} {value source : Value}
    (hkey : key ∉ ["activity", "operation", "enabled", "max_attempts", "interval_seconds"])
    (hsame : SameFields source (.dict entries)) : SameFields source (.dict (assoc.set key value entries)) := by
  have hother (name : String) (hname : name ∈ ["activity", "operation", "enabled", "max_attempts", "interval_seconds"]) :
      Value.get (.dict (assoc.set key value entries)) name = Value.get (.dict entries) name := by
    have hne : key ≠ name := by
      rintro rfl
      exact hkey hname
    rw [get_dict, get_dict, assoc.lookup_set, if_neg hne]
  exact ⟨(hother _ (by simp)).trans hsame.activity, (hother _ (by simp)).trans hsame.operation,
    (hother _ (by simp)).trans hsame.enabled, (hother _ (by simp)).trans hsame.max_attempts,
    (hother _ (by simp)).trans hsame.interval_seconds⟩

theorem same_fields_bind {sources : Sources} {entries bound : List (String × Value)} {source : Value}
    (hbind : bind_statuses sources entries = .ok bound) (hsame : SameFields source (.dict entries)) :
    SameFields source (.dict bound) := by
  unfold bind_statuses at hbind
  split at hbind
  · simp only [bind_eq_ok_iff, pure_eq_ok_iff] at hbind
    obtain ⟨_, -, _, -, rfl⟩ := hbind
    exact same_fields_set (by decide) hsame
  · obtain rfl := Except.ok.inj hbind
    exact hsame

/-- The compiled step reads like its source in the fields of the rules. -/
theorem same_fields_of_compile {sources : Sources} {source step : Value}
    (hcompile : compile_step sources source = .ok step) : SameFields source step := by
  simp only [compile_step, bind_eq_ok_iff] at hcompile
  obtain ⟨entries, hentries, _, -, native_implementation, -, runs, -, hcompile⟩ := hcompile
  obtain rfl : source = .dict entries := by
    cases source with
    | dict rows => rw [Except.ok.inj hentries]
    | _ => cases hentries
  have hstep : SameFields (.dict entries)
      (.dict (assoc.set "native_implementation" native_implementation entries)) :=
    same_fields_set (by decide) ⟨rfl, rfl, rfl, rfl, rfl⟩
  cases runs with
  | false =>
    simp only [bind_eq_ok_iff, pure_eq_ok_iff, Bool.false_eq_true, if_false] at hcompile
    obtain ⟨bound, hbind, rfl⟩ := hcompile
    exact same_fields_bind hbind hstep
  | true =>
    simp only [bind_eq_ok_iff, pure_eq_ok_iff, if_true] at hcompile
    obtain ⟨request, -, bound, hbind, rfl⟩ := hcompile
    exact same_fields_bind hbind (same_fields_set (by decide) hstep)

/-- The compiled entry: its identifier, its flag and its steps, one for each step of the source. -/
theorem compile_workflow_eq_ok {sources : Sources} {workflow entry : Value}
    (hcompile : compile_workflow sources workflow = .ok entry) :
    ∃ id enabled steps compiled, workflow.get "id" = .ok (some id) ∧ entry.get "id" = .ok (some id) ∧
      workflow.get "enabled" = .ok enabled ∧ entry.get "enabled" = .ok (some (enabled.getD (.bool true))) ∧
      steps_of workflow = .ok steps ∧ steps_of entry = .ok compiled ∧ List.Forall₂ SameFields steps compiled := by
  simp only [compile_workflow, Value.getD, bind_eq_ok_iff, pure_eq_ok_iff] at hcompile
  obtain ⟨steps, hsteps, compiled, hall, id, hid, _, -, _, -, _, ⟨enabled, henabled, rfl⟩, _, -, _, -, rfl⟩ := hcompile
  refine ⟨id, enabled, steps, compiled, ?_, rfl, henabled, rfl, hsteps, rfl, ?_⟩
  · cases workflow with
    | dict entries =>
      simp only [Value.item] at hid
      split at hid
      · rename_i found hlookup
        rw [get_dict, hlookup, Except.ok.inj hid]
      · cases hid
    | _ => cases hid
  · exact (mapM_eq_ok_iff.mp hall).imp fun _ _ => same_fields_of_compile

/-! ## The lock of the apply workflow -/

/-- A workflow that is disabled, with all its steps that can send a request. -/
structure Disabled (workflow : Value) : Prop where
  enabled : workflow.get "enabled" = .ok (some (.bool false))
  steps : ∀ steps, steps_of workflow = .ok steps → ∀ step ∈ steps, ∀ activity ∈ executable_activities,
    step.get "activity" = .ok (some (.str activity)) → step.get "enabled" = .ok (some (.bool false))

/-- The apply workflow is disabled. -/
def Locked (workflow : Value) : Prop :=
  workflow.get "id" = .ok (some (.str "start_apply")) → Disabled workflow

theorem is_false_iff {found : Option Value} : is_false found ↔ found = some (.bool false) := by
  unfold is_false
  split <;> simp_all

/-- The compiler keeps the lock, and adds none. -/
theorem locked_iff_of_compile {sources : Sources} {workflow entry : Value}
    (hcompile : compile_workflow sources workflow = .ok entry) : Locked entry ↔ Locked workflow := by
  obtain ⟨id, enabled, steps, compiled, hid, hentry, hsource, hwritten, hsteps, hcompiled, hall⟩ :=
    compile_workflow_eq_ok hcompile
  have hflag : entry.get "enabled" = .ok (some (.bool false)) ↔ workflow.get "enabled" = .ok (some (.bool false)) := by
    rw [hsource, hwritten]
    cases enabled <;> simp
  unfold Locked
  rw [hid, hentry]
  refine forall_congr' fun _ => ⟨fun hdisabled => ⟨hflag.mp hdisabled.enabled, ?_⟩,
    fun hdisabled => ⟨hflag.mpr hdisabled.enabled, ?_⟩⟩
  · intro found hfound source hsource activity hmem hactivity
    obtain rfl := Except.ok.inj (hsteps.symm.trans hfound)
    obtain ⟨step, hstep, hsame⟩ := exists_of_forall₂ hall hsource
    rw [← hsame.enabled]
    exact hdisabled.steps compiled hcompiled step hstep activity hmem (hsame.activity.trans hactivity)
  · intro found hfound step hstep activity hmem hactivity
    obtain rfl := Except.ok.inj (hcompiled.symm.trans hfound)
    obtain ⟨source, hsource, hsame⟩ := exists_of_forall₂ hall.flip hstep
    rw [hsame.enabled]
    exact hdisabled.steps steps hsteps source hsource activity hmem (hsame.activity.symm.trans hactivity)

/-- The validator reads the steps that the compiler draws. -/
theorem steps_eq_of_items {workflow : Value} {items steps : List Value}
    (hitems : get_items workflow "steps" = .ok items) (hsteps : steps_of workflow = .ok steps) : steps = items := by
  simp only [steps_of, Value.getD, bind_eq_ok_iff, pure_eq_ok_iff] at hsteps
  obtain ⟨_, ⟨found, hget, rfl⟩, helements⟩ := hsteps
  simp only [get_items, hget, bind_eq_ok_iff] at hitems
  obtain ⟨_, hfound, hitems⟩ := hitems
  obtain rfl := Except.ok.inj hfound
  cases found with
  | none => exact (Except.ok.inj helements).symm.trans (Except.ok.inj hitems)
  | some value =>
    simp only [Option.getD_some] at helements
    cases htruthy : value.truthy with
    | true =>
      simp only [htruthy, if_true] at hitems
      exact Except.ok.inj (helements.symm.trans hitems)
    | false =>
      simp only [htruthy, Bool.false_eq_true, if_false] at hitems
      obtain rfl := Except.ok.inj hitems
      cases value with
      | list drawn =>
        have hempty : drawn = [] := by simpa [Value.truthy] using htruthy
        rw [← Except.ok.inj helements, hempty]
      | dict entries =>
        have hempty : entries = [] := by simpa [Value.truthy] using htruthy
        rw [← Except.ok.inj helements, hempty]
        rfl
      | str text =>
        have hempty : text = "" := by simpa [Value.truthy] using htruthy
        rw [← Except.ok.inj helements, hempty]
        rfl
      | _ => cases helements

/-- Without issues the executable steps have the flag. -/
theorem flag_of_apply_steps {enabled : Option Value → Bool} {code message : String} {index : Nat}
    {steps : List Value} (hissues : apply_steps_issues enabled code message index steps = .ok []) :
    ∀ step ∈ steps, ∀ activity ∈ executable_activities, step.get "activity" = .ok (some (.str activity)) →
      ∃ flag, step.get "enabled" = .ok flag ∧ enabled flag := by
  induction steps generalizing index with
  | nil => simp
  | cons step rest ih =>
    simp only [apply_steps_issues, bind_eq_ok_iff, pure_eq_ok_iff, List.append_eq_nil_iff] at hissues
    obtain ⟨_, hstep, _, hrest, rfl, rfl⟩ := hissues
    refine List.forall_mem_cons.mpr ⟨fun activity hmem hactivity => ?_, ih hrest⟩
    have hmapping : step.isMapping = true := by
      cases step with
      | dict entries => rfl
      | _ => cases hactivity
    have hruns : executable step = .ok true := by
      simp only [executable, hmapping, if_true, hactivity, bind_eq_ok_iff]
      exact ⟨_, rfl, congrArg Except.ok (List.contains_iff_mem.mpr hmem)⟩
    simp only [apply_step_issues, hruns, bind_eq_ok_iff] at hstep
    obtain ⟨_, hrun, hstep⟩ := hstep
    obtain rfl := Except.ok.inj hrun
    simp only [if_true, bind_eq_ok_iff, pure_eq_ok_iff, issue_if_eq_nil, Bool.not_eq_false'] at hstep
    exact hstep

theorem disabled_of_apply_issues {workflows : List (String × Value)} {workflow : Value}
    (hissues : apply_issues false workflows = .ok [])
    (hlookup : assoc.lookup "start_apply" workflows = some workflow) (htruthy : workflow.truthy = true) :
    Disabled workflow := by
  have hnamed : entry_named workflows "start_apply" = workflow := by
    simp only [entry_named, hlookup, htruthy, if_true]
  simp only [apply_issues, hnamed, bind_eq_ok_iff, Bool.false_eq_true, if_false, pure_eq_ok_iff,
    List.append_eq_nil_iff, issue_if_eq_nil, Bool.not_eq_false', is_false_iff] at hissues
  obtain ⟨enabled, henabled, items, hitems, _, hsteps, rfl, rfl⟩ := hissues
  refine ⟨henabled, fun steps hdrawn step hstep activity hmem hactivity => ?_⟩
  obtain rfl := steps_eq_of_items hitems hdrawn
  obtain ⟨flag, hflag, hfalse⟩ := flag_of_apply_steps hsteps step hstep activity hmem hactivity
  rw [hflag, is_false_iff.mp hfalse]

/-! ## What the validator keeps -/

/-- A workflow that the validator does not keep: it has no identifier, or a later one has the same. -/
def Shadowed (workflow : Value) (later : List Value) : Prop :=
  ∀ id, workflow.get "id" = .ok (some id) → id.truthy = true →
    ∃ other ∈ later, ∃ another, other.get "id" = .ok (some another) ∧ another.truthy = true ∧
      another.toStr = id.toStr

theorem keep_workflow_eq_ok {workflows kept : List (String × Value)} {item : Value}
    (hkeep : keep_workflow workflows item = .ok kept) :
    kept = workflows ∨ ∃ id, item.get "id" = .ok (some id) ∧ id.truthy = true ∧
      kept = assoc.set id.toStr item workflows := by
  unfold keep_workflow at hkeep
  split at hkeep
  · rw [bind_eq_ok_iff] at hkeep
    obtain ⟨found, hid, hkeep⟩ := hkeep
    cases found with
    | none => exact .inl (Except.ok.inj hkeep).symm
    | some id =>
      simp only [pure_eq_ok_iff] at hkeep
      split at hkeep
      · rename_i htruthy
        exact .inr ⟨id, hid, htruthy, hkeep.symm⟩
      · exact .inl hkeep.symm
  · exact .inl (Except.ok.inj hkeep).symm

/-- Workflows with other identifiers leave an entry in place. -/
theorem lookup_of_keep {items : List Value} {workflows kept : List (String × Value)} {name : String}
    {workflow : Value} (hkeep : items.foldlM keep_workflow workflows = .ok kept)
    (hlookup : assoc.lookup name workflows = some workflow)
    (hother : ∀ item ∈ items, ∀ id, item.get "id" = .ok (some id) → id.truthy = true → id.toStr ≠ name) :
    assoc.lookup name kept = some workflow := by
  induction items generalizing workflows with
  | nil =>
    obtain rfl := Except.ok.inj hkeep
    exact hlookup
  | cons item rest ih =>
    rw [List.foldlM_cons, bind_eq_ok_iff] at hkeep
    obtain ⟨middle, hitem, hrest⟩ := hkeep
    refine ih hrest ?_ fun other hmem => hother other (List.mem_cons_of_mem _ hmem)
    obtain rfl | ⟨id, hid, htruthy, rfl⟩ := keep_workflow_eq_ok hitem
    · exact hlookup
    · rw [assoc.lookup_set, if_neg (hother item List.mem_cons_self id hid htruthy)]
      exact hlookup

/-- The last workflow with an identifier is the one that the validator checks. -/
theorem lookup_of_not_shadowed {before later : List Value} {workflow : Value}
    {workflows kept : List (String × Value)}
    (hkeep : (before ++ workflow :: later).foldlM keep_workflow workflows = .ok kept)
    (hlast : ¬Shadowed workflow later) :
    ∃ id, workflow.get "id" = .ok (some id) ∧ id.truthy = true ∧ assoc.lookup id.toStr kept = some workflow := by
  simp only [Shadowed, not_forall] at hlast
  obtain ⟨id, hid, htruthy, hnone⟩ := hlast
  rw [List.foldlM_append, bind_eq_ok_iff] at hkeep
  obtain ⟨middle, -, hkeep⟩ := hkeep
  rw [List.foldlM_cons, bind_eq_ok_iff] at hkeep
  obtain ⟨next, hitem, hlater⟩ := hkeep
  refine ⟨id, hid, htruthy, lookup_of_keep hlater ?_ fun other hother another hanother htrue heq => ?_⟩
  · have hmapping : workflow.isMapping = true := by
      cases workflow with
      | dict entries => rfl
      | _ => cases hid
    have hset : keep_workflow middle workflow = .ok (assoc.set id.toStr workflow middle) := by
      simp only [keep_workflow, hmapping, if_true, hid, bind_eq_ok_iff]
      refine ⟨_, rfl, ?_⟩
      simp only [htruthy, if_true]
      rfl
    obtain rfl := Except.ok.inj (hset.symm.trans hitem)
    rw [assoc.lookup_set, if_pos rfl]
  · exact hnone ⟨other, hother, another, hanother, htrue, heq⟩

/-- What a document that is safe to build was checked for. -/
structure Validated (document : Value) (policy : Policy) (apply_enabled : Bool)
    (workflows : List (String × Value)) : Prop where
  policy_read : policy_of document = .ok policy
  flag_read : apply_enabled_of document = .ok apply_enabled
  kept : _workflow_map document = .ok workflows
  budgets : policy.request_timeout.isSome ∧ policy.max_parent_runtime.isSome
  required : ∀ id ∈ required_workflows, (assoc.lookup id workflows).isSome
  rules : ∀ entry ∈ workflows, workflow_issues policy entry.1 entry.2 = .ok []
  lock : apply_issues apply_enabled workflows = .ok []

/-- Every issue that the validator finds is an error. -/
theorem no_issues_of_safe {found : List Issue}
    (hsafe : ((found.map fun issue => ({ toIssue := issue } : PackageIssue)).filter fun issue =>
      issue.severity = "error").isEmpty = true) : found = [] := by
  cases found with
  | nil => rfl
  | cons issue rest => simp at hsafe

theorem validated_of_safe {document : Value} {report : PackageReport}
    (hreport : validate_workflow_package document = .ok report) (hsafe : report.safe_to_build = true) :
    ∃ policy apply_enabled workflows, Validated document policy apply_enabled workflows := by
  simp only [validate_workflow_package, bind_eq_ok_iff, pure_eq_ok_iff] at hreport
  obtain ⟨switches, hswitches, _, -, operational, hoperational, _, -, _, -, rfl⟩ := hreport
  have hnone := no_issues_of_safe hsafe
  simp only [List.append_eq_nil_iff] at hnone
  obtain ⟨⟨-, rfl⟩, -⟩ := hnone
  simp only [switches_of, bind_eq_ok_iff, pure_eq_ok_iff] at hswitches
  obtain ⟨_, -, _, -, _, -, _, -, apply_enabled, hflag, rfl⟩ := hswitches
  simp only [operational_issues, bind_eq_ok_iff, pure_eq_ok_iff, List.append_eq_nil_iff] at hoperational
  obtain ⟨⟨roles, _⟩, -, _, -, policy, hpolicy, _, -, workflows, hkept, _, hruntime, _, hworkflow, _, -, _, -, _,
    hlock, ⟨⟨⟨⟨⟨-, hmissing⟩, rfl⟩, rfl⟩, -⟩, -⟩, rfl⟩ := hoperational
  refine ⟨policy, apply_enabled, workflows, hpolicy, hflag, hkept, ?_, ?_, ?_, hlock⟩
  · simp only [runtime_issues, bind_eq_ok_iff, pure_eq_ok_iff, List.append_eq_nil_iff, issue_if_eq_nil,
      Option.isNone_eq_false_iff] at hruntime
    obtain ⟨_, -, _, -, ⟨htimeout, hruntime⟩, -⟩ := hruntime
    exact ⟨htimeout, hruntime⟩
  · simpa [missing_workflow_issues, List.filter_eq_nil_iff, Option.isSome_iff_ne_none] using hmissing
  · simp only [workflows_issues, bind_eq_ok_iff, pure_eq_ok_iff] at hworkflow
    obtain ⟨found, hfound, hnil⟩ := hworkflow
    intro entry hentry
    obtain ⟨issues, hissues, hentry⟩ := exists_of_mapM hfound hentry
    rw [hentry, List.flatten_eq_nil_iff.mp hnil issues hissues]

/-! ## Only validated workflows are built -/

/-- What the claim asks of a compiled entry and of the workflow that it was compiled from. -/
structure Built (policy : Policy) (apply_enabled : Bool) (workflow entry : Value) : Prop where
  passes : Passes policy workflow
  rules : ∃ target_role, workflow.get "target_role" = .ok target_role ∧
    ∀ steps, steps_of entry = .ok steps → ∀ step ∈ steps, StepRules policy target_role step
  locked : apply_enabled = false → Locked entry

/-- Every compiled workflow meets the rules of the validator, and the apply workflow is locked while
the package does not enable it. -/
def OnlyValidated (document plan : Value) : Prop :=
  ∃ policy apply_enabled items compiled, policy_of document = .ok policy ∧
    apply_enabled_of document = .ok apply_enabled ∧ document.get "workflows" = .ok (some (.list items)) ∧
    plan.item "workflows" = .ok (.list compiled) ∧
    policy.request_timeout.isSome ∧ policy.max_parent_runtime.isSome ∧
    List.Forall₂ (Built policy apply_enabled) items compiled

/-- The workflows that the validator does not keep meet the rules on their own. -/
def ShadowedPass (document : Value) : Prop :=
  ∀ policy apply_enabled items, policy_of document = .ok policy → apply_enabled_of document = .ok apply_enabled →
    document.get "workflows" = .ok (some (.list items)) →
    ∀ before workflow later, items = before ++ workflow :: later → Shadowed workflow later →
      Passes policy workflow ∧ (apply_enabled = false → Locked workflow)

/-- A workflow that passes and is locked is built as the rules ask. -/
theorem built_of_passes {sources : Sources} {policy : Policy} {apply_enabled : Bool} {workflow entry : Value}
    (hcompile : compile_workflow sources workflow = .ok entry) (hpasses : Passes policy workflow)
    (hlocked : apply_enabled = false → Locked workflow) : Built policy apply_enabled workflow entry := by
  refine ⟨hpasses, ?_, fun hdisabled => (locked_iff_of_compile hcompile).mpr (hlocked hdisabled)⟩
  obtain ⟨target_role, hrole, hrules⟩ := rules_of_passes hpasses
  refine ⟨target_role, hrole, fun found hfound step hstep => ?_⟩
  obtain ⟨_, _, steps, compiled, -, -, -, -, hsteps, hcompiled, hall⟩ := compile_workflow_eq_ok hcompile
  obtain rfl := Except.ok.inj (hcompiled.symm.trans hfound)
  obtain ⟨source, hsource, hsame⟩ := exists_of_forall₂ hall.flip hstep
  exact (hrules steps hsteps source hsource).of_same hsame

theorem listed_of_kept {document : Value} {workflows : List (String × Value)}
    (hkept : _workflow_map document = .ok workflows) (hsome : workflows ≠ []) :
    ∃ items, document.get "workflows" = .ok (some (.list items)) ∧ items.foldlM keep_workflow [] = .ok workflows := by
  simp only [_workflow_map, bind_eq_ok_iff] at hkept
  obtain ⟨found, hget, hkept⟩ := hkept
  split at hkept
  · exact ⟨_, hget, hkept⟩
  · exact absurd (Except.ok.inj hkept).symm hsome

theorem item_of_get {value found : Value} {key : String} (hget : value.get key = .ok (some found)) :
    value.item key = .ok found := by
  cases value with
  | dict entries =>
    have hlookup : assoc.lookup key entries = some found := Except.ok.inj hget
    simp only [Value.item, hlookup]
  | _ => cases hget

theorem truthy_of_id {workflow : Value} {id : Option Value} (hid : workflow.get "id" = .ok id) (hsome : id.isSome) :
    workflow.truthy = true := by
  cases workflow with
  | dict entries =>
    rw [get_dict] at hid
    cases entries with
    | nil =>
      obtain rfl := Except.ok.inj hid
      cases hsome
    | cons entry rest => rfl
  | _ => cases hid

/-- What a build plan was compiled from. -/
theorem compile_eq_ok {document plan : Value} (hplan : compile_workflow_build_plan document = .ok plan) :
    ∃ report compiled, validate_workflow_package document = .ok report ∧ report.safe_to_build = true ∧
      compiled_workflows document = .ok compiled ∧ plan.item "workflows" = .ok (.list compiled) := by
  unfold compile_workflow_build_plan build_plan at hplan
  simp only [bind_eq_ok_iff, raise_if_eq_ok, pure_eq_ok_iff, Bool.not_eq_false'] at hplan
  obtain ⟨report, hreport, _, hsafe, compiled, hcompiled, _, -, _, -, _, -, _, -, _, -, _, -, _, -, rfl⟩ := hplan
  refine ⟨report, compiled, hreport, hsafe, hcompiled, ?_⟩
  simp [Value.item, assoc.lookup_cons]

/-- For every document on which the compiler returns: the build plan holds only validated workflows
exactly when every workflow whose identifier is missing, or comes again later in the list, meets the
rules on its own. -/
theorem only_validated_iff (document plan : Value) (hplan : compile_workflow_build_plan document = .ok plan) :
    OnlyValidated document plan ↔ ShadowedPass document := by
  obtain ⟨report, compiled, hreport, hsafe, hcompiled, hentries⟩ := compile_eq_ok hplan
  obtain ⟨policy, apply_enabled, workflows, hvalidated⟩ := validated_of_safe hreport hsafe
  have hsome : workflows ≠ [] := by
    rintro rfl
    have hstart := hvalidated.required "start_apply" (by decide)
    cases hstart
  obtain ⟨items, hitems, hfold⟩ := listed_of_kept hvalidated.kept hsome
  simp only [compiled_workflows, bind_eq_ok_iff, item_of_get hitems] at hcompiled
  obtain ⟨sources, -, _, hlist, drawn, hdrawn, hall⟩ := hcompiled
  obtain rfl := Except.ok.inj hlist
  obtain rfl := Except.ok.inj hdrawn
  rw [mapM_eq_ok_iff] at hall
  constructor
  · rintro ⟨found_policy, flag, found_items, found, hpolicy, hflag, hfound, hplanned, -, -, hbuilt⟩
    obtain rfl : compiled = found := Value.list.inj (Except.ok.inj (hentries.symm.trans hplanned))
    intro other_policy other_flag other_items hother hotherflag hotheritems before workflow later hsplit _
    obtain rfl : other_policy = found_policy := Except.ok.inj (hother.symm.trans hpolicy)
    obtain rfl : other_flag = flag := Except.ok.inj (hotherflag.symm.trans hflag)
    obtain rfl : items = found_items := Value.list.inj (Option.some.inj (Except.ok.inj (hitems.symm.trans hfound)))
    obtain rfl : items = other_items :=
      Value.list.inj (Option.some.inj (Except.ok.inj (hitems.symm.trans hotheritems)))
    have hmem : workflow ∈ items := hsplit ▸ List.mem_append_right before List.mem_cons_self
    obtain ⟨entry, -, hentry, hcompile⟩ := exists_of_forall₂ (forall₂_and hbuilt hall) hmem
    exact ⟨hentry.passes, fun hdisabled => (locked_iff_of_compile hcompile).mp (hentry.locked hdisabled)⟩
  · intro hshadowed
    refine ⟨policy, apply_enabled, items, compiled, hvalidated.policy_read, hvalidated.flag_read, hitems, hentries,
      hvalidated.budgets.1, hvalidated.budgets.2, forall₂_of_mem hall fun workflow hmem entry hcompile => ?_⟩
    obtain ⟨before, later, hsplit⟩ := List.append_of_mem hmem
    by_cases hlast : Shadowed workflow later
    · obtain ⟨hpasses, hlocked⟩ := hshadowed policy apply_enabled items hvalidated.policy_read
        hvalidated.flag_read hitems before workflow later hsplit hlast
      exact built_of_passes hcompile hpasses hlocked
    -- the validator has kept this workflow, and has checked it
    rw [hsplit] at hfold
    obtain ⟨id, hid, htruthy, hlookup⟩ := lookup_of_not_shadowed hfold hlast
    have hrules := hvalidated.rules _ (assoc.lookup_mem hlookup)
    refine built_of_passes hcompile ⟨id, hid, hrules⟩ fun hdisabled hstart => ?_
    rw [hid] at hstart
    obtain rfl : id = .str "start_apply" := Option.some.inj (Except.ok.inj hstart)
    have hlock := hvalidated.lock
    rw [hdisabled] at hlock
    exact disabled_of_apply_issues hlock hlookup (truthy_of_id hid rfl)

/-! ## Forbidden markers -/

/-- How `adapters.lower` rewrites a character. -/
def lower_char (c : Char) : List Char :=
  if c.toNat = 0x212a then ['k']
  else if c.toNat = 0x130 then ['i', Char.ofNat 0x307]
  else [c.toLower]

/-- A marker is found only in a key or a scalar of the document. -/
theorem markers_of_tokens {document : Value}
    (htokens : ∀ marker ∈ forbidden_markers, ∀ token ∈ document.tokens,
      Value.Lacks lower_char (chars marker.1) token) :
    ∀ marker ∈ forbidden_markers, contains marker.1 (adapters.lower (String.ofList document.dumps)) = false := by
  intro marker hmarker
  have hmarked : chars marker.1 ≠ [] ∧ Value.separators.all (fun c => !(chars marker.1).contains c) := by
    simp only [forbidden_markers, List.mem_cons, List.not_mem_nil, or_false] at hmarker
    obtain rfl | rfl | rfl := hmarker <;> decide
  have hfree : ∀ c ∈ Value.separators, c ∉ chars marker.1 := by
    intro c hc hmem
    have hnone := List.all_eq_true.mp hmarked.2 c hc
    rw [List.contains_iff_mem.mpr hmem] at hnone
    cases hnone
  have hrewrite : ∀ c ∈ Value.separators, lower_char c = [c] := by
    simp only [Value.separators, List.mem_cons, List.not_mem_nil, or_false]
    rintro c (rfl | rfl | rfl | rfl | rfl | rfl | rfl) <;> rfl
  have hlacks := Value.lacks_dumps hrewrite hmarked.1 hfree document (htokens marker hmarker)
  rw [← Bool.not_eq_true, contains_iff, adapters.lower, String.toList_ofList, chars_eq_toList, String.toList_ofList]
  rw [chars_eq_toList] at hlacks
  exact hlacks

/-- A document without forbidden markers passes the transport checks of a strict safety policy. -/
theorem transport_clear {document safety : Value}
    (htokens : ∀ marker ∈ forbidden_markers, ∀ token ∈ document.tokens,
      Value.Lacks lower_char (chars marker.1) token)
    (hurls : safety.get "allow_absolute_request_urls" = .ok (some (.bool false)))
    (hredirects : safety.get "allow_redirects" = .ok (some (.bool false)))
    (hheaders : safety.get "allow_sensitive_header_redirects" = .ok (some (.bool false))) :
    transport_issues document safety = .ok [] := by
  have hmarkers : (forbidden_markers.flatMap fun marker =>
      issue_if (contains marker.1 (adapters.lower (String.ofList document.dumps)))
        ⟨marker.2, "$", "Forbidden production marker found: " ++ marker.1⟩) = [] := by
    rw [List.flatMap_eq_nil_iff]
    intro marker hmarker
    rw [markers_of_tokens htokens marker hmarker]
    rfl
  simp only [transport_issues, hurls, hredirects, hheaders, hmarkers]
  rfl

/-! ## A package with two apply workflows -/

def lab_input (name : String) (fields : List (String × Value)) : Value :=
  .dict (("name", .str name) :: ("required", .bool true) :: fields)

def lab_operator_inputs : Value := .list [
  lab_input "requirements_json" [("type", .str "string"), ("secret", .bool false)],
  lab_input "requested_mode" [
    ("type", .str "enum"),
    ("options", texts ["plan_only", "dry_run", "apply"]),
    ("default", .str "plan_only")],
  lab_input "change_reference" [], lab_input "approval_expires_at" [], lab_input "maintenance_start" [],
  lab_input "maintenance_end" []]

def lab_requirements_intake : Value := .dict [
  ("contract_version", .str "1.0"),
  ("canonical_input", .str "requirements_json"),
  ("requirements_contract", .str "schemas/fabric-requirements.schema.json"),
  ("allocation_authority", .str "orchestrator_postgresql_ledger"),
  ("design_dimensions", texts EXPECTED_REQUIREMENTS_INTAKE_DIMENSIONS),
  ("forbidden_submission_fields", texts FORBIDDEN_REQUIREMENTS_SUBMISSION_FIELDS)]

def lab_activity (expected : String × String) : String × Value :=
  (expected.1, .dict [
    ("type", .str expected.2),
    ("unique_name_prefix", .str "definition_activity_"),
    ("observed_property_keys", texts ((assoc.lookup expected.1 EXPECTED_NATIVE_PROPERTY_KEYS).getD []))])

def lab_native_serialization : Value := .dict [
  ("capture_export_sha256", .str "efb6d7806a1ad26447cafbfeb5c3cabd85f2c01ae9ec5b06547eaa3743ba1187"),
  ("contains_property_values", .bool false),
  ("configured_properties_complete", .bool true),
  ("observed_export_top_level_keys", texts EXPECTED_NATIVE_EXPORT_TOP_LEVEL_KEYS),
  ("workflow", .dict [
    ("type", .str "generic.workflow"),
    ("unique_name_prefix", .str "definition_workflow_"),
    ("observed_top_level_keys", texts EXPECTED_NATIVE_WORKFLOW_TOP_LEVEL_KEYS),
    ("observed_property_keys", texts EXPECTED_NATIVE_WORKFLOW_PROPERTY_KEYS),
    ("variable", .dict [
      ("object_type", .str "variable_workflow"),
      ("unique_name_prefix", .str "variable_workflow_"),
      ("wrapper_keys", texts EXPECTED_NATIVE_VARIABLE_KEYS),
      ("observed_property_keys", texts EXPECTED_NATIVE_VARIABLE_PROPERTY_KEYS)])]),
  ("activities", .dict (EXPECTED_NATIVE_ACTIVITY_TYPES.map lab_activity)),
  ("serialization_topology", EXPECTED_NATIVE_SERIALIZATION_TOPOLOGY)]

def lab_target (role : String) : Value := .dict [
  ("role", .str role),
  ("binding", .str ("target://" ++ role)),
  ("type", .str "http_endpoint"),
  ("account_key_type", .str "http_bearer_authentication"),
  ("trusted_https_required", .bool true)]

def lab_step (id activity : String) : Value := .dict [("id", .str id), ("activity", .str activity)]

def lab_workflow (id kind : String) (fields : List (String × Value)) (steps : List Value) : Value :=
  .dict ([
    ("id", .str id),
    ("name", .str id),
    ("kind", .str kind),
    ("description", .str id),
    ("outputs", (assoc.lookup id EXPECTED_WORKFLOW_OUTPUTS).getD (.list [])),
    ("steps", .list steps)] ++ fields)

/-- A second workflow under the identifier of the apply workflow: it is enabled, and it sends a request. -/
def lab_second_apply : Value :=
  lab_workflow "start_apply" "child" [("target_role", .str "operator"), ("enabled", .bool true)] [
    .dict [
      ("id", .str "create_run"),
      ("activity", .str "http_request"),
      ("operation", .str "create_run"),
      ("enabled", .bool true)]]

def lab_workflows : List Value := [
  lab_second_apply,
  lab_workflow "parent" "parent" [] [
    lab_step "plan" "child_workflow", lab_step "approval" "child_workflow",
    lab_step "dry_run" "child_workflow", lab_step "apply" "child_workflow",
    lab_step "evidence" "child_workflow",
    .dict [
      ("id", .str "show_final_result"),
      ("activity", .str "result_summary"),
      ("template", .str "execution_result"),
      ("wait_for_prompt_response", .bool false),
      ("fields", texts EXPECTED_MASTER_SUMMARY_FIELDS)]],
  lab_workflow "validate_and_plan" "child" [("target_role", .str "planner")] [lab_step "create_plan" "build_json"],
  lab_workflow "request_approval" "child" [("target_role", .str "approver")] [
    .dict [
      ("id", .str "approve"),
      ("activity", .str "request_approval"),
      ("minimum_approvals", .int 1),
      ("require_comment", .bool true),
      ("require_checkbox", .str "Plan reviewed"),
      ("due_at_input", .str "approval_expires_at"),
      ("expires_at_input", .str "approval_expires_at")],
    lab_step "record_approval" "build_json"],
  lab_workflow "start_dry_run" "child" [("target_role", .str "operator")] [lab_step "poll_dry_run" "build_json"],
  lab_workflow "start_apply" "child" [("target_role", .str "operator"), ("enabled", .bool false)]
    [lab_step "poll_apply" "build_json"],
  lab_workflow "export_evidence" "child" [("target_role", .str "auditor")]
    [lab_step "retrieve_evidence" "build_json"]]

def lab_safety : Value := .dict [
  ("apply_enabled", .bool false),
  ("allow_absolute_request_urls", .bool false),
  ("allow_redirects", .bool false),
  ("allow_sensitive_header_redirects", .bool false)]

def lab_package : Value := .dict [
  ("schema_version", .str "1.1"),
  ("package", .dict [
    ("id", .str "lab"),
    ("version", .str "0.3.1"),
    ("requirements_contract", .str "schemas/fabric-requirements.schema.json"),
    ("serialization_state", .str "build_spec_complete")]),
  ("safety", lab_safety),
  ("runtime", .dict [
    ("request_timeout_seconds", .int 30),
    ("max_parent_runtime_seconds", .int 3600),
    ("terminal_statuses", texts EXPECTED_TERMINAL_STATUSES)]),
  ("operator_inputs", lab_operator_inputs),
  ("requirements_intake", lab_requirements_intake),
  ("native_serialization", lab_native_serialization),
  ("native_assembly", EXPECTED_NATIVE_ASSEMBLY_CONTRACT),
  ("targets", .list (EXPECTED_ROLES.map lab_target)),
  ("api_operations", .dict [
    ("create_run", .dict [
      ("role", .str "operator"),
      ("method", .str "POST"),
      ("path", .str "/v1/workflow-actions/run"),
      ("request_fields", (assoc.lookup "create_run" EXPECTED_OPERATION_REQUEST_FIELDS).getD .null),
      ("success_statuses", .list [.int 200])])]),
  ("workflows", .list lab_workflows)]

/-- An entry of the apply workflow that is not disabled. -/
def opens_apply (entry : Value) : Bool :=
  match entry.get "id", entry.get "enabled" with
  | .ok id, .ok enabled => is_text "start_apply" id && !is_false enabled
  | _, _ => false

theorem not_locked_of_opens {entry : Value} (hopens : opens_apply entry = true) : ¬Locked entry := by
  intro hlocked
  unfold opens_apply at hopens
  split at hopens
  · rename_i id enabled hid henabled
    obtain ⟨hstart, hflag⟩ := Bool.and_eq_true_iff.mp hopens
    have hname : id = some (.str "start_apply") := by
      unfold is_text at hstart
      split at hstart
      · rename_i found
        rw [of_decide_eq_true hstart]
      · cases hstart
    have hdisabled := (hlocked (hname ▸ hid)).enabled
    rw [henabled] at hdisabled
    rw [Except.ok.inj hdisabled] at hflag
    cases hflag
  · cases hopens

/-- Everything but the transport checks, evaluated. -/
theorem lab_checks :
    ((metadata_section_issues lab_package ⟨false, false, false, false⟩).toOption.map List.isEmpty) = some true ∧
      ((operational_issues lab_package false).toOption.map List.isEmpty) = some true ∧
      ((compiled_workflows lab_package).toOption.map fun compiled => compiled.any opens_apply) = some true ∧
      (build_plan lab_package "").isOk = true := by
  decide +kernel

/-- No token of the document has a forbidden marker. -/
theorem lab_tokens : ∀ marker ∈ forbidden_markers, ∀ token ∈ lab_package.tokens,
    Value.Lacks lower_char (chars marker.1) token := by
  decide +kernel

/-- The hash of the manifest is only written into a plan. -/
theorem build_plan_isOk {document plan : Value} {manifest_hash : String}
    (hplan : build_plan document manifest_hash = .ok plan) (other_hash : String) :
    ∃ other, build_plan document other_hash = .ok other := by
  simp only [build_plan, bind_eq_ok_iff, pure_eq_ok_iff] at hplan ⊢
  obtain ⟨compiled, hcompiled, id, hid, version, hversion, intake, hintake, inputs, hinputs, assembly, hassembly,
    serialization, hserialization, native, hnative, -⟩ := hplan
  exact ⟨_, compiled, hcompiled, id, hid, version, hversion, intake, hintake, inputs, hinputs, assembly, hassembly,
    serialization, hserialization, native, hnative, rfl⟩

/-- A document is safe to build when no check finds anything. -/
theorem safe_of_no_issues {document safety : Value} {switches : Switches}
    (hswitches : switches_of document = .ok switches)
    (hmetadata : metadata_section_issues document switches = .ok [])
    (hoperational : operational_issues document switches.apply_enabled = .ok [])
    (hsafety : metadata document "safety" = .ok safety) (htransport : transport_issues document safety = .ok []) :
    ∃ report, validate_workflow_package document = .ok report ∧ report.safe_to_build = true := by
  simp only [validate_workflow_package, bind_eq_ok_iff, pure_eq_ok_iff]
  exact ⟨_, ⟨switches, hswitches, [], hmetadata, [], hoperational, safety, hsafety, [], htransport, rfl⟩, rfl⟩

/-- The second apply workflow is built, although the package does not enable it. -/
theorem lab_builds_apply : ∃ plan, compile_workflow_build_plan lab_package = .ok plan ∧
    ¬OnlyValidated lab_package plan := by
  obtain ⟨hmetadata, hoperational, hopens, hplan⟩ := lab_checks
  obtain ⟨found, hmetadata, hnone⟩ := exists_ok_of_map hmetadata
  obtain rfl := List.isEmpty_iff.mp hnone
  obtain ⟨found, hoperational, hnone⟩ := exists_ok_of_map hoperational
  obtain rfl := List.isEmpty_iff.mp hnone
  obtain ⟨opened, hopened, hany⟩ := exists_ok_of_map hopens
  have hsafety : metadata lab_package "safety" = .ok lab_safety := rfl
  have hflag : apply_enabled_of lab_package = .ok false := rfl
  have hswitches : switches_of lab_package = .ok ⟨false, false, false, false⟩ := rfl
  have htransport : transport_issues lab_package lab_safety = .ok [] :=
    transport_clear lab_tokens rfl rfl rfl
  obtain ⟨report, hreport, hsafe⟩ :=
    safe_of_no_issues hswitches hmetadata hoperational hsafety htransport
  obtain ⟨_, hbuilt⟩ := isOk_iff.mp hplan
  obtain ⟨plan, hplan⟩ := build_plan_isOk hbuilt report.manifest_hash
  have hcompile : compile_workflow_build_plan lab_package = .ok plan := by
    simp only [compile_workflow_build_plan, bind_eq_ok_iff, raise_if_eq_ok]
    exact ⟨report, hreport, (), by rw [hsafe]; rfl, hplan⟩
  refine ⟨plan, hcompile, ?_⟩
  rintro ⟨policy, apply_enabled, items, compiled, -, hread, -, hentries, -, -, hall⟩
  obtain ⟨_, other, -, -, hcompiled, hplanned⟩ := compile_eq_ok hcompile
  obtain rfl : other = compiled := Value.list.inj (Except.ok.inj (hplanned.symm.trans hentries))
  obtain rfl : opened = other := Except.ok.inj (hopened.symm.trans hcompiled)
  obtain ⟨entry, hentry, hopens⟩ := List.any_eq_true.mp hany
  obtain ⟨workflow, -, hbuilt⟩ := exists_of_forall₂ hall.flip hentry
  exact not_locked_of_opens hopens (hbuilt.locked (Except.ok.inj (hread.symm.trans hflag)))

/-- The shadowed apply workflow of the lab package breaks the rules. -/
theorem only_validated_iff_lab : ¬ShadowedPass lab_package := by
  intro hshadowed
  obtain ⟨plan, hplan, hnot⟩ := lab_builds_apply
  exact hnot ((only_validated_iff lab_package plan hplan).mpr hshadowed)

theorem shadowed_apply_built :
    ¬∀ document plan, compile_workflow_build_plan document = .ok plan → OnlyValidated document plan := by
  intro hclaim
  obtain ⟨plan, hplan, hnot⟩ := lab_builds_apply
  exact hnot (hclaim lab_package plan hplan)

end orchestrator.meraki_workflow_package
