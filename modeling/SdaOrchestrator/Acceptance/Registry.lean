import SdaOrchestrator.Acceptance.Schema
import SdaOrchestrator.Adapters.IosXe
import SdaOrchestrator.Lib.DepthFirst
import SdaOrchestrator.Lib.Loops
import SdaOrchestrator.Lib.Path
import SdaOrchestrator.Lib.Sha256

/-! `orchestrator/acceptance.py`. The issues of a check are the list it returns. -/

open python

namespace orchestrator.acceptance

structure Issue where
  code : String
  path : String
  message : String
  deriving DecidableEq

/-! ## Values of a document -/

/-- `value.get(key) or []`, drawn from by a loop. -/
def get_items (value : Value) (key : String) : Py (List Value) := do
  match ← value.get key with
  | some found => if found.truthy then found.elements else return []
  | none => return []

/-- `value.get(key) or {}`. -/
def get_mapping (value : Value) (key : String) : Py Value := do
  match ← value.get key with
  | some found => return if found.truthy then found else .dict []
  | none => return .dict []

/-- `str(value.get(key, ""))`. -/
def get_text (value : Value) (key : String) : Py String := do
  return (← value.getD key (.str "")).toStr

/-- `found == text`. -/
def is_text (text : String) : Option Value → Bool
  | some (.str found) => found = text
  | _ => false

def is_true : Option Value → Bool
  | some (.bool true) => true
  | _ => false

def is_false : Option Value → Bool
  | some (.bool false) => true
  | _ => false

def hashable : Value → Bool
  | .list _ => false
  | .dict _ => false
  | _ => true

def unhashable : Raised := TypeError "unhashable type"

/-- `entries[key]` if `key in entries`, for a dictionary with text keys. -/
def find_key {α : Type} (entries : List (String × α)) (key : Value) : Py (Option α) :=
  match key with
  | .str text => .ok (assoc.lookup text entries)
  | key => if hashable key then .ok none else .error unhashable

/-- `found in texts`, for a set of texts. -/
def in_texts (texts : List String) (found : Option Value) : Py Bool :=
  match found with
  | some (.str text) => .ok (texts.contains text)
  | some value => if hashable value then .ok false else .error unhashable
  | none => .ok false

/-- `set(items)`, in the order of the first occurrences. -/
def set_of (items : List Value) : Py (List Value) := do
  raise_if (!items.all hashable) unhashable
  return items.foldl (fun found item => if found.any item.equals then found else found ++ [item]) []

/-- The text of every value, if all are texts. -/
def texts? (items : List Value) : Option (List String) :=
  items.mapM fun item => match item with | .str text => some text | _ => none

/-- `sorted(items)` for a set: texts or numbers, or at most one item. -/
def sorted_set (items : List Value) : Py (List Value) :=
  match texts? items, items.mapM Value.number? with
  | some texts, _ => .ok ((sortedTexts texts).map .str)
  | _, some numbers => .ok ((sortedBy Prod.fst (numbers.zip items)).map Prod.snd)
  | _, _ =>
    if items.length ≤ 1 then .ok items
    else .error (TypeError "'<' not supported between instances")

/-- `[item for item in items if condition(item)]`. -/
def select {α : Type} (condition : α → Py Bool) (items : List α) : Py (List α) :=
  match items with
  | [] => return []
  | item :: rest => do
    let chosen ← condition item
    let others ← select condition rest
    return if chosen then item :: others else others

/-- What is not selected does not meet the condition, and what is does. -/
theorem mem_select {α : Type} {condition : α → Py Bool} {items selected : List α}
    (hselect : select condition items = .ok selected) {item : α} (hitem : item ∈ items) :
    ∃ chosen, condition item = .ok chosen ∧ (chosen = true → item ∈ selected) := by
  induction items generalizing selected with
  | nil => cases hitem
  | cons first rest ih =>
    simp only [select, bind_eq_ok_iff, pure_eq_ok_iff] at hselect
    obtain ⟨chosen, hchosen, others, hothers, rfl⟩ := hselect
    obtain rfl | hitem := List.mem_cons.mp hitem
    · refine ⟨chosen, hchosen, fun htrue => ?_⟩
      rw [if_pos htrue]
      exact List.mem_cons_self
    · obtain ⟨found, hfound, hkept⟩ := ih hothers hitem
      refine ⟨found, hfound, fun htrue => ?_⟩
      split
      · exact List.mem_cons_of_mem _ (hkept htrue)
      · exact hkept htrue

/-! ## Fields that a registry must not have -/

def _SECRET_KEY_FRAGMENTS : List String := [
  "api_key", "authorization", "bearer", "credential", "password", "private_key", "secret_value", "token"]

def _ALLOWED_CONTROL_KEYS : List String := ["apply_authorization_requested"]

/-- `str(key).lower().replace("-", "_")`. -/
def normalized (key : String) : String :=
  String.ofList ((chars (adapters.lower key)).map fun c => if c = '-' then '_' else c)

def is_secret_key (key : String) : Bool :=
  !_ALLOWED_CONTROL_KEYS.contains (normalized key) &&
    _SECRET_KEY_FRAGMENTS.any fun fragment => contains fragment (normalized key)

mutual

def _walk_secret_keys (path : String) (value : Value) : List Issue :=
  match value with
  | .dict entries => (assoc.distinct (walk_entries path entries)).flatMap Prod.snd
  | .list items => walk_items path 0 items
  | _ => []

def walk_entries (path : String) (entries : List (String × Value)) : List (String × List Issue) :=
  match entries with
  | [] => []
  | (key, child) :: rest =>
    let found := if is_secret_key key then
      [⟨"registry.secret_key", path ++ "." ++ key,
        "Acceptance registries may contain references and hashes, not secret-bearing fields"⟩]
      else []
    (key, found ++ _walk_secret_keys (path ++ "." ++ key) child) :: walk_entries path rest

def walk_items (path : String) (index : Nat) (items : List Value) : List Issue :=
  match items with
  | [] => []
  | child :: rest =>
    _walk_secret_keys (path ++ "[" ++ toString index ++ "]") child ++ walk_items path (index + 1) rest

end

/-! ## Gates -/

/-- The issue of an evidence record whose reference names a file. -/
def evidence_file_issues (files : Filesystem) (root : Path) (path : String) (item : Value) :
    Py (List Issue) := do
  let evidence_ref ← get_text item "ref"
  if startswith evidence_ref "evidence://" then
    let candidate_path ← files.resolve (root.join (.of_text (drop 11 evidence_ref)))
    if !candidate_path.is_relative_to root then
      return [⟨"evidence.path_escape", path ++ ".ref", "Evidence reference escapes the approved repository root"⟩]
    else if !files.is_file candidate_path then
      return [⟨"evidence.missing", path ++ ".ref", "Referenced evidence file does not exist"⟩]
    else
      let actual_hash := sha256.hexdigest_of_bytes (← files.read_bytes candidate_path)
      if is_text actual_hash (← item.get "sha256") then return []
      else return [⟨"evidence.hash_mismatch", path ++ ".sha256",
        "Evidence file hash does not match the registry"⟩]
  else return []

/-- The evidence records of a gate, with the identifiers met before. -/
def evidence_issues (files : Filesystem) (root : Path) (gate_path : String) (index : Nat) (items : List Value)
    (evidence_ids : List String) : Py (List String × List Issue) :=
  match items with
  | [] => return (evidence_ids, [])
  | item :: rest =>
    if item.isMapping then do
      let path := gate_path ++ ".evidence[" ++ toString index ++ "]"
      let evidence_id ← get_text item "id"
      let duplicate := if evidence_ids.contains evidence_id then
        [⟨"evidence.duplicate", path ++ ".id", "Duplicate evidence id " ++ evidence_id⟩] else []
      let file ← evidence_file_issues files root path item
      let others ← evidence_issues files root gate_path (index + 1) rest (evidence_id :: evidence_ids)
      return (others.1, duplicate ++ file ++ others.2)
    else evidence_issues files root gate_path (index + 1) rest evidence_ids

/-- An issue under a condition. -/
def issue_if (condition : Bool) (issue : Issue) : List Issue := if condition then [issue] else []

@[simp] theorem issue_if_eq_nil {condition : Bool} {issue : Issue} :
    issue_if condition issue = [] ↔ condition = false := by
  cases condition <;> simp [issue_if]

/-- What the status of a gate asks of its evidence, rationale and scope. -/
def status_issues (gate_path : String) (gate : Value) (evidence : List Value) : Py (List Issue) := do
  let status ← gate.get "status"
  let results ← (evidence.filter Value.isMapping).mapM fun item => item.get "result"
  let rationale ← get_text gate "rationale"
  let required ← gate.get "required"
  return issue_if (is_text "passed" status && (results.isEmpty || results.any fun found => !is_text "passed" found))
      ⟨"gate.passed_without_evidence", gate_path,
        "A passed gate requires at least one passed evidence record and no failed evidence"⟩ ++
    issue_if (is_text "failed" status && !results.any (is_text "failed"))
      ⟨"gate.failed_without_evidence", gate_path, "A failed gate requires failed evidence"⟩ ++
    issue_if (is_text "not_applicable" status && strip rationale = "")
      ⟨"gate.not_applicable_rationale", gate_path, "A not-applicable gate requires an explicit rationale"⟩ ++
    issue_if (is_text "not_applicable" status && !is_false required)
      ⟨"gate.not_applicable_required", gate_path,
        "A not-applicable gate must be explicitly optional for this release scope"⟩

def gate_path (index : Nat) : String := "$.gates[" ++ toString index ++ "]"

/-- The loop over the gates: the gates by id and the issues. -/
def gate_issues (files : Filesystem) (root : Path) (index : Nat) (gates : List Value)
    (gates_by_id : List (String × Value)) (evidence_ids : List String) :
    Py (List (String × Value) × List Issue) :=
  match gates with
  | [] => return (gates_by_id, [])
  | gate :: rest =>
    if gate.isMapping then do
      let gate_id ← get_text gate "id"
      let known := (assoc.lookup gate_id gates_by_id).isSome
      let duplicate := issue_if known
        ⟨"gate.duplicate", gate_path index ++ ".id", "Duplicate gate id " ++ gate_id⟩
      let evidence ← get_items gate "evidence"
      let records ← evidence_issues files root (gate_path index) 0 evidence evidence_ids
      let status ← status_issues (gate_path index) gate evidence
      let others ← gate_issues files root (index + 1) rest
        (if known then gates_by_id else gates_by_id ++ [(gate_id, gate)]) records.1
      return (others.1, duplicate ++ records.2 ++ status ++ others.2)
    else gate_issues files root (index + 1) rest gates_by_id evidence_ids

def dependency_issue (gates_by_id : List (String × Value)) (index : Nat) (gate dependency : Value) :
    Py (List Issue) := do
  let gate_id ← get_text gate "id"
  let path := gate_path index ++ ".dependencies"
  match ← find_key gates_by_id dependency with
  | none =>
    return [⟨"gate.dependency_missing", path, gate_id ++ " references unknown dependency " ++ dependency.toStr⟩]
  | some target =>
    let status ← gate.get "status"
    if is_text "passed" status then
      let reached ← target.get "status"
      return issue_if (!is_text "passed" reached)
        ⟨"gate.dependency_not_passed", path,
          "Passed gate " ++ gate_id ++ " depends on non-passed gate " ++ dependency.toStr⟩
    else return []

/-- The loop over the dependencies of the gates. -/
def dependency_issues (gates_by_id : List (String × Value)) (index : Nat) (gates : List Value) :
    Py (List Issue) :=
  match gates with
  | [] => return []
  | gate :: rest =>
    if gate.isMapping then do
      let dependencies ← get_items gate "dependencies"
      let found ← dependencies.mapM (dependency_issue gates_by_id index gate)
      let others ← dependency_issues gates_by_id (index + 1) rest
      return found.flatten ++ others
    else dependency_issues gates_by_id (index + 1) rest

/-- The gates that a gate depends on. -/
def dependencies_of (gates : List (String × Value)) (gate_id : String) : Py (List String) :=
  match assoc.lookup gate_id gates with
  | none => .error (KeyError gate_id)
  | some gate => do
    let dependencies ← get_items gate "dependencies"
    let found ← dependencies.mapM fun dependency => do
      return if (← find_key gates dependency).isSome then [dependency.toStr] else []
    return found.flatten

def RecursionError : Raised := ⟨"RecursionError", "maximum recursion depth exceeded"⟩

def _detect_dependency_cycles (recursion_limit : Nat) (gates : List (String × Value)) : Py (List Issue) := do
  let found ← depth_first.search (dependencies_of gates) RecursionError recursion_limit (gates.map Prod.fst)
  return found.cycles.map fun cycle =>
    ⟨"gate.dependency_cycle", "$.gates", "Dependency cycle: " ++ join " -> " cycle⟩

/-! ## Sign-offs -/

def required_decision_fields : List String := ["principal_ref", "decision_at", "evidence_ref", "evidence_sha256"]

/-- The loop over the sign-offs: the records by role and the issues. -/
def signoff_issues (index : Nat) (signoffs : List Value) (signoffs_by_role : List (String × Value)) :
    Py (List (String × Value) × List Issue) :=
  match signoffs with
  | [] => return (signoffs_by_role, [])
  | signoff :: rest =>
    if signoff.isMapping then do
      let path := "$.signoffs[" ++ toString index ++ "]"
      let role ← get_text signoff "role"
      let duplicate := issue_if (assoc.lookup role signoffs_by_role).isSome
        ⟨"signoff.duplicate", path ++ ".role", "Duplicate sign-off role " ++ role⟩
      let decided ← in_texts ["approved", "rejected"] (← signoff.get "status")
      let values ← required_decision_fields.mapM fun name => do return (name, ← get_text signoff name)
      let missing := (values.filter fun entry => strip entry.2 = "").map Prod.fst
      let others ← signoff_issues (index + 1) rest (assoc.set role signoff signoffs_by_role)
      return (others.1, duplicate ++
        issue_if (decided && !missing.isEmpty)
          ⟨"signoff.decision_evidence", path, "Decided sign-off is missing: " ++ join ", " missing⟩ ++ others.2)
    else signoff_issues (index + 1) rest signoffs_by_role

/-! ## The workflow manifest -/

structure WorkflowApplyState where
  manifest_supplied : Bool
  apply_enabled : Bool
  apply_workflow_enabled : Bool
  apply_executable_steps_enabled : Bool

/-- The step of a workflow is executable and enabled. -/
def executable_step (step : Value) : Py Bool :=
  if step.isMapping then do
    let listed ← in_texts ["http_request", "bounded_poll"] (← step.get "activity")
    return listed && is_true (← step.get "enabled")
  else return false

/-- One round of the loop over the workflows. -/
def apply_workflow_state (state : WorkflowApplyState) (workflow : Value) : Py WorkflowApplyState :=
  if workflow.isMapping then do
    if is_text "start_apply" (← workflow.get "id") then
      let enabled ← workflow.get "enabled"
      let steps ← (← get_items workflow "steps").mapM executable_step
      return { state with
        apply_workflow_enabled := is_true enabled
        apply_executable_steps_enabled := state.apply_executable_steps_enabled || steps.any id }
    else return state
  else return state

def _workflow_apply_state (workflow_manifest : Option Value) : Py WorkflowApplyState :=
  match workflow_manifest with
  | none => return ⟨false, false, false, false⟩
  | some workflow_manifest => do
    let safety ← get_mapping workflow_manifest "safety"
    let apply_enabled ← safety.get "apply_enabled"
    (← get_items workflow_manifest "workflows").foldlM apply_workflow_state ⟨true, is_true apply_enabled, false, false⟩

/-! ## The verdict -/

inductive PathPart where
  | index (value : Nat)
  | key (name : String)

/-- An error that the schema validator finds. -/
structure SchemaError where
  absolute_path : List PathPart
  message : String

def PathPart.text : PathPart → String
  | .index value => toString value
  | .key name => name

/-- Where an error stands, as the issues write it. -/
def SchemaError.location (error : SchemaError) : String :=
  error.absolute_path.foldl
    (fun location part =>
      match part with
      | .index value => location ++ "[" ++ toString value ++ "]"
      | .key name => location ++ "." ++ name) "$"

def schema_issues (errors : List SchemaError) : List Issue :=
  (sortedBy (fun error => join "/" (error.absolute_path.map PathPart.text)) errors).map fun error =>
    ⟨"registry.schema", error.location, error.message⟩

structure AcceptanceReport where
  registry_valid : Bool
  registry_hash : String
  acceptance_complete : Bool
  ready_for_controlled_enablement : Bool
  production_ready : Bool
  apply_authorization_requested : Bool
  workflow_apply_state : WorkflowApplyState
  required_gate_count : Nat
  passed_required_gate_count : Nat
  incomplete_gate_ids : List String
  rejected_gate_ids : List String
  pending_signoff_roles : List Value
  rejected_signoff_roles : List String
  issues : List Issue
  contains_secret_values : Bool

/-- `sorted(str(gate.get("id")) for gate in gates if ...)`, by the status of the gate. -/
def gate_ids (status : Option Value → Bool) (gates : List Value) : Py (List String) := do
  let found ← select (fun gate => do return status (← gate.get "status")) gates
  let gate_ids ← found.mapM fun gate => do return Value.optStr (← gate.get "id")
  return sortedTexts gate_ids

/-- What the loops and the sign-offs leave to decide. -/
structure Outcome where
  incomplete_gate_ids : List String
  rejected_gate_ids : List String
  pending_signoff_roles : List Value
  rejected_signoff_roles : List String

def Outcome.complete (outcome : Outcome) (issues : List Issue) : Bool :=
  outcome.incomplete_gate_ids.isEmpty && outcome.pending_signoff_roles.isEmpty &&
    outcome.rejected_gate_ids.isEmpty && outcome.rejected_signoff_roles.isEmpty && issues.isEmpty

/-- `signoffs_by_role.get(role, {}).get("status") != "approved"`. -/
def pending_role (signoffs_by_role : List (String × Value)) (role : Value) : Py Bool := do
  match ← find_key signoffs_by_role role with
  | some signoff => return !is_text "approved" (← signoff.get "status")
  | none => return true

/-- The gates and roles that stand in the way of acceptance. -/
def outcome_of (required_gates : List Value) (required_roles : List Value)
    (signoffs_by_role : List (String × Value)) : Py Outcome := do
  let incomplete_gate_ids ← gate_ids (fun status => !is_text "passed" status) required_gates
  let rejected_gate_ids ← gate_ids (is_text "failed") required_gates
  let pending ← select (pending_role signoffs_by_role) required_roles
  let pending_signoff_roles ← sorted_set pending
  let rejected ← select
    (fun entry => do
      return required_roles.any (Value.equals (.str entry.1)) && is_text "rejected" (← entry.2.get "status"))
    signoffs_by_role
  return {
    incomplete_gate_ids
    rejected_gate_ids
    pending_signoff_roles
    rejected_signoff_roles := sortedTexts (rejected.map Prod.fst) }

/-- The issues of switches that are on before the acceptance is complete. -/
def apply_issues (requested claims_write manifest_executable acceptance_complete : Bool) : List Issue :=
  issue_if (requested && !acceptance_complete)
    ⟨"apply.request_before_acceptance", "$.controls.apply_authorization_requested",
      "Apply authorization cannot be requested before every required gate and sign-off passes"⟩ ++
  issue_if (claims_write && !acceptance_complete)
    ⟨"apply.write_before_acceptance", "$.controls",
      "Apply presence or device-write permission cannot be claimed before acceptance is complete"⟩ ++
  issue_if (manifest_executable && !acceptance_complete)
    ⟨"apply.manifest_fail_open", "$.workflow_manifest",
      "The workflow manifest exposes Apply before production acceptance is complete"⟩

def validate_production_acceptance (iter_errors : Value → List SchemaError) (files : Filesystem)
    (recursion_limit : Nat) (document : Value) (workflow_manifest : Option Value) (evidence_root : Path) :
    Py AcceptanceReport := do
  let registry := document
  let schema := schema_issues (iter_errors registry)
  let secret := _walk_secret_keys "$" registry
  let resolved_evidence_root ← files.resolve evidence_root
  let gates ← get_items registry "gates"
  let (gates_by_id, gate_found) ← gate_issues files resolved_evidence_root 0 gates [] []
  let dependency_found ← dependency_issues gates_by_id 0 gates
  let cycles ← _detect_dependency_cycles recursion_limit gates_by_id
  let required_roles ← set_of (← get_items registry "required_signoff_roles")
  let (signoffs_by_role, signoff_found) ← signoff_issues 0 (← get_items registry "signoffs") []
  let missing_signoff_records ← sorted_set
    (required_roles.filter fun role => !(signoffs_by_role.map fun entry => Value.str entry.1).any role.equals)
  let missing : List Issue := missing_signoff_records.map fun role =>
    ⟨"signoff.missing", "$.signoffs", "Missing required sign-off record for " ++ role.toStr⟩
  let required_gates ← select (fun gate => do return is_true (← gate.get "required")) (gates_by_id.map Prod.snd)
  let outcome ← outcome_of required_gates required_roles signoffs_by_role
  let workflow_state ← _workflow_apply_state workflow_manifest
  let controls ← get_mapping registry "controls"
  let requested := is_true (← controls.get "apply_authorization_requested")
  let workflow_present := is_true (← controls.get "apply_workflow_present")
  let writes_permitted := is_true (← controls.get "device_writes_permitted")
  let registry_claims_write := workflow_present || writes_permitted
  let checked := schema ++ secret ++ gate_found ++ dependency_found ++ cycles ++ signoff_found ++ missing
  let manifest_executable := workflow_state.apply_enabled || workflow_state.apply_workflow_enabled ||
    workflow_state.apply_executable_steps_enabled
  let issues := checked ++
    apply_issues requested registry_claims_write manifest_executable (outcome.complete checked)
  -- decided again, now with the issues of the switches
  let acceptance_complete := outcome.complete issues
  let ready_for_controlled_enablement := acceptance_complete && requested
  return {
    registry_valid := issues.isEmpty
    registry_hash := sha256.hexdigest registry.canonical_json
    acceptance_complete
    ready_for_controlled_enablement
    production_ready := ready_for_controlled_enablement && registry_claims_write &&
      workflow_state.manifest_supplied && workflow_state.apply_enabled &&
      workflow_state.apply_workflow_enabled && workflow_state.apply_executable_steps_enabled
    apply_authorization_requested := requested
    workflow_apply_state := workflow_state
    required_gate_count := required_gates.length
    passed_required_gate_count := required_gates.length - outcome.incomplete_gate_ids.length
    incomplete_gate_ids := outcome.incomplete_gate_ids
    rejected_gate_ids := outcome.rejected_gate_ids
    pending_signoff_roles := outcome.pending_signoff_roles
    rejected_signoff_roles := outcome.rejected_signoff_roles
    issues
    contains_secret_values := false }

end orchestrator.acceptance
