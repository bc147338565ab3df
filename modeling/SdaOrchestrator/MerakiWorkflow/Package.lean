import SdaOrchestrator.MerakiWorkflow.Native
import SdaOrchestrator.Lib.Equality
import SdaOrchestrator.Lib.JsonText

/-! `validate_workflow_package` in `orchestrator/meraki_workflow_package.py`. -/

open python orchestrator.acceptance

namespace orchestrator.meraki_workflow_package

/-! ## Targets and operations -/

/-- The loop over the targets: the roles of the targets and the issues. -/
def target_issues (index : Nat) (targets : List Value) (roles bindings : List String) :
    Py (List String × List Issue) :=
  match targets with
  | [] => return (roles, [])
  | target :: rest =>
    let path := "$.targets[" ++ toString index ++ "]"
    if target.isMapping then do
      let role ← get_text target "role"
      let binding ← get_text target "binding"
      let target_type ← target.get "type"
      let account_key_type ← in_texts ALLOWED_ACCOUNT_KEY_TYPES (← target.get "account_key_type")
      let trusted_https ← target.get "trusted_https_required"
      let others ← target_issues (index + 1) rest (roles ++ [role]) (bindings ++ [binding])
      return (others.1,
        issue_if (roles.contains role)
          ⟨"target.role_duplicate", path ++ ".role", "Target role is duplicated"⟩ ++
        issue_if (bindings.contains binding || !startswith binding "target://")
          ⟨"target.binding", path ++ ".binding", "Target binding must be a unique target:// alias"⟩ ++
        issue_if (!is_text "http_endpoint" target_type)
          ⟨"target.type", path ++ ".type", "Only HTTP Endpoint targets are allowed"⟩ ++
        issue_if (!account_key_type)
          ⟨"target.account_key_type", path ++ ".account_key_type",
            "Use a supported HTTP account-key authentication type"⟩ ++
        issue_if (!is_true trusted_https)
          ⟨"target.trusted_https", path ++ ".trusted_https_required", "Trusted HTTPS must be required"⟩ ++
        others.2)
    else do
      let others ← target_issues (index + 1) rest roles bindings
      return (others.1, ⟨"target.type", path, "Target must be an object"⟩ :: others.2)

/-- The roles of `$.targets` and what is wrong with them. -/
def targets_issues (document : Value) : Py (List String × List Issue) := do
  let found ← get_mapping document "targets"
  let (targets, mistyped) : List Value × List Issue := match found with
    | .list items => (items, [])
    | .dict [] => ([], [])
    | _ => ([], [⟨"targets.type", "$.targets", "Targets must be a list"⟩])
  let (roles, item_issues) ← target_issues 0 targets [] []
  return (roles, mistyped ++ item_issues ++
    issue_if (!same_names roles EXPECTED_ROLES)
      ⟨"target.role_set", "$.targets",
        "Exactly planner, approver, operator, and auditor targets are required"⟩)

/-- `isinstance(status, int) and 200 <= status <= 299`. -/
def success_status : Value → Bool
  | .int status => 200 ≤ status && status ≤ 299
  | _ => false

def operation_issues (roles : List String) (entry : String × Value) : Py (List Issue) := do
  let (name, operation) := entry
  let path := "$.api_operations." ++ name
  if operation.isMapping then
    let request_path ← get_text operation "path"
    let method ← operation.get "method"
    let request_fields ← operation.get "request_fields"
    let known_role ← in_texts roles (← operation.get "role")
    let success_statuses ← operation.get "success_statuses"
    let statuses_listed := match success_statuses with
      | some (.list statuses) => !statuses.isEmpty && statuses.all success_status
      | _ => false
    return issue_if
        (!startswith request_path "/v1/workflow-actions/" || contains "://" request_path ||
          contains "$" request_path || contains "\x7b" request_path)
        ⟨"operation.path", path ++ ".path",
          "HTTP Request must use a fixed relative /v1/workflow-actions/ path"⟩ ++
      issue_if (!is_text "POST" method)
        ⟨"operation.method", path ++ ".method", "Operation must use POST"⟩ ++
      issue_if (!same ((assoc.lookup name EXPECTED_OPERATION_REQUEST_FIELDS).getD .null) request_fields)
        ⟨"operation.request_fields", path ++ ".request_fields",
          "Operation request fields must match the pinned API contract"⟩ ++
      issue_if (!known_role)
        ⟨"operation.role", path ++ ".role", "Operation role has no target"⟩ ++
      issue_if (!statuses_listed)
        ⟨"operation.success_statuses", path ++ ".success_statuses",
          "At least one explicit 2xx success status is required"⟩
  else return [⟨"operation.type", path, "Operation must be an object"⟩]

/-! ## Workflows -/

/-- One round of the comprehension: a workflow with an identifier, under its text. -/
def keep_workflow (workflows : List (String × Value)) (item : Value) : Py (List (String × Value)) := do
  if item.isMapping then
    match ← item.get "id" with
    | some id => return if id.truthy then assoc.set id.toStr item workflows else workflows
    | none => return workflows
  else return workflows

/-- `_workflow_map(document)`: of the workflows with one identifier the last one. -/
def _workflow_map (document : Value) : Py (List (String × Value)) := do
  match ← document.get "workflows" with
  | some (.list items) => items.foldlM keep_workflow []
  | _ => return []

def required_workflows : List String := [
  "parent", "validate_and_plan", "request_approval", "start_dry_run", "start_apply", "export_evidence"]

/-- `isinstance(value, int) and not isinstance(value, bool) and value > 0`. -/
def positive_int? : Option Value → Option Int
  | some (.int value) => if 0 < value then some value else none
  | _ => none

/-- What the rules of a workflow read outside of it. -/
structure Policy where
  operations : List (String × Value)
  request_timeout : Option Int
  max_parent_runtime : Option Int

/-- `int(step.get(key, 0) or 0)`. -/
def int_or_zero (step : Value) (key : String) : Py Int := do
  match ← step.get key with
  | some found => if found.truthy then found.toInt else return 0
  | none => return 0

/-- The operation that a step names, if it is known. -/
def operation_of (policy : Policy) (step : Value) : Py (Option Value) := do
  let operation_name ← get_text step "operation"
  return (assoc.lookup operation_name policy.operations).filter Value.isMapping

/-- The operation of a step is known and has the role of the workflow. -/
def operation_role_issues (policy : Policy) (target_role : Option Value) (step_path unknown mismatch : String)
    (step : Value) : Py (List Issue) := do
  match ← operation_of policy step with
  | none => return [⟨"step.operation", step_path ++ ".operation", unknown⟩]
  | some operation =>
    let role ← operation.get "role"
    return issue_if (!same (target_role.getD .null) role)
      ⟨"step.role_mismatch", step_path ++ ".operation", mismatch⟩

/-- The next step branches on the status. -/
def status_branch (next_step : Option Value) : Bool :=
  match next_step with
  | some (.dict entries) =>
    is_text "condition" (assoc.lookup "activity" entries) &&
      is_text "http_status_not_200" (assoc.lookup "rule" entries)
  | _ => false

def http_request_issues (policy : Policy) (target_role : Option Value) (step_path : String) (step : Value)
    (next_step : Option Value) : Py (List Issue) := do
  let operation_found ← operation_role_issues policy target_role step_path
    "HTTP step references an unknown operation" "HTTP operation role does not match the child target role" step
  let continue_on_http_error ← step.get "continue_on_http_error"
  return operation_found ++
    issue_if (!is_true continue_on_http_error)
      ⟨"step.http_error_handling", step_path ++ ".continue_on_http_error",
        "HTTP errors must continue into an explicit status condition"⟩ ++
    issue_if (!status_branch next_step)
      ⟨"step.http_status_branch", step_path,
        "HTTP Request must be followed immediately by an exact status condition"⟩

/-- The polling of a step fits into the parent runtime, if both budgets are valid. -/
def poll_fits (policy : Policy) (attempts interval : Int) : Bool :=
  match policy.request_timeout, policy.max_parent_runtime with
  | some request_timeout, some max_parent_runtime =>
    attempts * (interval + request_timeout) ≤ max_parent_runtime
  | _, _ => true

def poll_bounded (attempts interval : Int) : Bool :=
  1 ≤ attempts && attempts ≤ 100 && 5 ≤ interval && interval ≤ 60

def bounded_poll_issues (policy : Policy) (target_role : Option Value) (step_path : String) (step : Value) :
    Py (List Issue) := do
  let operation_found ← operation_role_issues policy target_role step_path
    "Poll step references an unknown status operation"
    "Poll operation role does not match the child target role" step
  let attempts ← int_or_zero step "max_attempts"
  let interval ← int_or_zero step "interval_seconds"
  let terminal_statuses ← step.get "terminal_statuses"
  return operation_found ++
    issue_if (!poll_bounded attempts interval)
      ⟨"poll.bounds", step_path, "Polling must use 1-100 attempts and a 5-60 second interval"⟩ ++
    issue_if (!poll_fits policy attempts interval)
      ⟨"poll.runtime", step_path, "Worst-case polling exceeds the parent runtime budget"⟩ ++
    issue_if (!Value.optTruthy terminal_statuses)
      ⟨"poll.terminal_statuses", step_path ++ ".terminal_statuses",
        "Bounded poll requires terminal statuses"⟩

/-- The rules of a step that sends requests. -/
def request_issues (policy : Policy) (target_role : Option Value) (step_path activity : String) (step : Value)
    (next_step : Option Value) : Py (List Issue) :=
  if activity = "http_request" then http_request_issues policy target_role step_path step next_step
  else if activity = "bounded_poll" then bounded_poll_issues policy target_role step_path step
  else return []

/-- The rules of one step. -/
def step_issues (policy : Policy) (target_role : Option Value) (step_path : String) (seen_steps : List String)
    (step : Value) (next_step : Option Value) : Py (List Issue) := do
  let step_id ← get_text step "id"
  let activity ← get_text step "activity"
  let request ← request_issues policy target_role step_path activity step next_step
  let wait_for_prompt_response ← step.get "wait_for_prompt_response"
  return issue_if (step_id = "" || seen_steps.contains step_id)
      ⟨"step.id", step_path ++ ".id", "Step ID must be present and unique"⟩ ++
    issue_if (!ALLOWED_ACTIVITIES.contains activity)
      ⟨"step.activity", step_path ++ ".activity", "Unsupported activity"⟩ ++
    request ++
    issue_if (activity = "result_summary" && !is_false wait_for_prompt_response)
      ⟨"summary.blocking", step_path ++ ".wait_for_prompt_response",
        "Result summaries must be non-blocking"⟩

/-- The loop over the steps of a workflow: the step identifiers and the issues. -/
def steps_issues (policy : Policy) (target_role : Option Value) (workflow_path : String) (index : Nat)
    (steps : List Value) (seen_steps : List String) : Py (List String × List Issue) :=
  match steps with
  | [] => return (seen_steps, [])
  | step :: rest =>
    let step_path := workflow_path ++ ".steps[" ++ toString index ++ "]"
    if step.isMapping then do
      let found ← step_issues policy target_role step_path seen_steps step rest.head?
      let step_id ← get_text step "id"
      let others ← steps_issues policy target_role workflow_path (index + 1) rest (seen_steps ++ [step_id])
      return (others.1, found ++ others.2)
    else do
      let others ← steps_issues policy target_role workflow_path (index + 1) rest seen_steps
      return (others.1, ⟨"step.type", step_path, "Step must be an object"⟩ :: others.2)

/-- A non-empty text without line breaks. -/
def single_line : Option Value → Bool
  | some (.str text) => text ≠ "" && !contains "\n" text && !contains "\r" text
  | _ => false

/-- The rules of one output of a workflow. -/
def output_issues (workflow_id output_path : String) (seen_steps : List String) (output : Value) :
    Py (List Issue) := do
  if output.isMapping then
    match ← output.get "source" with
    | some (.dict entries) =>
      let source := Value.dict entries
      let source_step ← get_text source "step"
      let channel ← source.get "channel"
      let source_path ← source.get "path"
      return issue_if (!seen_steps.contains source_step)
          ⟨"workflow.output_step", output_path ++ ".source.step",
            "Workflow output references an unknown step"⟩ ++
        (if workflow_id = "parent" then
          issue_if (!is_text "child_output" channel)
            ⟨"workflow.output_channel", output_path ++ ".source.channel",
              "Parent outputs must come from declared child outputs"⟩
        else
          issue_if (!is_text "response_body" channel)
            ⟨"workflow.output_channel", output_path ++ ".source.channel",
              "Child outputs must come from an authenticated API response body"⟩) ++
        issue_if (!single_line source_path)
          ⟨"workflow.output_path", output_path ++ ".source.path",
            "Workflow output source path must be a non-empty single-line string"⟩
    | _ =>
      return [⟨"workflow.output_source", output_path ++ ".source",
        "Workflow output requires a structured source binding"⟩]
  else return [⟨"workflow.output_type", output_path, "Workflow output must be an object"⟩]

/-- The loop over the outputs of a workflow. -/
def outputs_issues (workflow_id workflow_path : String) (seen_steps : List String) (index : Nat)
    (outputs : List Value) : Py (List Issue) :=
  match outputs with
  | [] => return []
  | output :: rest => do
    let output_path := workflow_path ++ ".outputs[" ++ toString index ++ "]"
    let found ← output_issues workflow_id output_path seen_steps output
    let others ← outputs_issues workflow_id workflow_path seen_steps (index + 1) rest
    return found ++ others

/-- The rules of the outputs, if they are a list. -/
def listed_outputs_issues (workflow_id workflow_path : String) (seen_steps : List String)
    (outputs : Option Value) : Py (List Issue) :=
  match outputs with
  | some (.list items) => outputs_issues workflow_id workflow_path seen_steps 0 items
  | _ => return []

/-- The outputs of a workflow whose outputs are pinned. -/
def output_contract_issues (workflow_id workflow_path : String) (seen_steps : List String) (workflow : Value) :
    Py (List Issue) := do
  match assoc.lookup workflow_id EXPECTED_WORKFLOW_OUTPUTS with
  | none => return []
  | some expected_outputs =>
    let outputs ← workflow.get "outputs"
    let found ← listed_outputs_issues workflow_id workflow_path seen_steps outputs
    return issue_if (!same expected_outputs outputs)
        ⟨"workflow.output_contract", workflow_path ++ ".outputs",
          "Workflow outputs must match the pinned master/child data-flow contract"⟩ ++ found

/-- `workflow.get("steps") or []`, if that is a list. -/
def step_list (workflow : Value) : Py (Option (List Value)) := do
  match ← workflow.get "steps" with
  | some (.list steps) => return some steps
  | some found => return if found.truthy then none else some []
  | none => return some []

/-- `kind != "child" or target_role in EXPECTED_ROLES`. -/
def separated_role (kind target_role : Option Value) : Py Bool :=
  if is_text "child" kind then in_texts EXPECTED_ROLES target_role else return true

/-- The rules of one workflow. -/
def workflow_issues (policy : Policy) (workflow_id : String) (workflow : Value) : Py (List Issue) := do
  let workflow_path := "$.workflows[" ++ workflow_id ++ "]"
  let description ← get_text workflow "description"
  let kind ← workflow.get "kind"
  let target_role ← workflow.get "target_role"
  let known_role ← separated_role kind target_role
  let header := issue_if (strip description = "")
      ⟨"workflow.description", workflow_path ++ ".description", "Workflow description is required"⟩ ++
    issue_if (!known_role)
      ⟨"workflow.target_role", workflow_path ++ ".target_role",
        "Child workflow requires one separated target role"⟩
  match ← step_list workflow with
  | none => return header ++ [⟨"workflow.steps", workflow_path ++ ".steps", "Steps must be a list"⟩]
  | some steps =>
    let (seen_steps, step_found) ← steps_issues policy target_role workflow_path 0 steps []
    let output_found ← output_contract_issues workflow_id workflow_path seen_steps workflow
    return header ++ step_found ++ output_found

/-! ## The parent and the approval -/

/-- `[step for step in workflow.get("steps", []) if isinstance(step, Mapping)]`. -/
def mapping_steps (workflow : Value) : Py (List Value) := do
  return (← (← workflow.getD "steps" (.list [])).elements).filter Value.isMapping

def parent_order : List String := ["plan", "approval", "dry_run", "apply", "evidence"]

/-- The steps of the parent come in order. -/
def parent_ordered (parent_ids : List Value) : Bool :=
  match parent_order.mapM fun item => parent_ids.findIdx? fun id => is_text item (some id) with
  | some indexes => indexes = sortedBy id indexes
  | none => false

/-- The steps with an identifier, by identifier. -/
def steps_by_id (steps : List Value) : Py (List (String × Value)) :=
  steps.foldlM (fun found step => do
    match ← step.get "id" with
    | some id => return if id.truthy then assoc.set id.toStr step found else found
    | none => return found) []

def parent_issues (workflows : List (String × Value)) : Py (List Issue) := do
  let steps ← mapping_steps (entry_named workflows "parent")
  let parent_ids ← steps.mapM fun step => step.getD "id" .null
  let final_summary := entry_named (← steps_by_id steps) "show_final_result"
  let activity ← final_summary.get "activity"
  let template ← final_summary.get "template"
  let wait_for_prompt_response ← final_summary.get "wait_for_prompt_response"
  let fields ← final_summary.get "fields"
  return issue_if (!parent_ordered parent_ids)
      ⟨"workflow.parent_sequence", "$.workflows[parent].steps",
        "Parent must order plan, approval, dry run, apply, then evidence"⟩ ++
    issue_if (!is_text "result_summary" activity || !is_text "execution_result" template ||
        !is_false wait_for_prompt_response || !same (texts EXPECTED_MASTER_SUMMARY_FIELDS) fields ||
        !is_text "show_final_result" parent_ids.getLast?)
      ⟨"workflow.master_summary", "$.workflows[parent].steps",
        "Parent must end with the pinned non-blocking execution result summary"⟩

/-- `next((step for step in steps if isinstance(step, Mapping) and
step.get("activity") == "request_approval"), None)`. -/
def native_approval_of : List Value → Py (Option Value)
  | [] => return none
  | step :: rest =>
    if step.isMapping then do
      if is_text "request_approval" (← step.get "activity") then return some step
      else native_approval_of rest
    else native_approval_of rest

def approval_path : String := "$.workflows[request_approval]"

/-- The first thing that is wrong with the approval task. -/
def approval_issues (workflows : List (String × Value)) : Py (List Issue) := do
  let approval_steps ← get_items (entry_named workflows "request_approval") "steps"
  let missing : Issue := ⟨"approval.native_task", approval_path,
    "A native Meraki approval task with at least one approval is required"⟩
  match ← native_approval_of approval_steps with
  | none => return [missing]
  | some native_approval =>
    let minimum_approvals ← int_or_zero native_approval "minimum_approvals"
    let require_comment ← native_approval.get "require_comment"
    let require_checkbox ← native_approval.get "require_checkbox"
    let acknowledged := match require_checkbox with
      | some (.str text) => strip text ≠ ""
      | _ => false
    let due_at_input ← native_approval.get "due_at_input"
    let expires_at_input ← native_approval.get "expires_at_input"
    return if minimum_approvals < 1 then [missing]
      else if !is_true require_comment then
        [⟨"approval.comment", approval_path, "Approval comment is required"⟩]
      else if !acknowledged then
        [⟨"approval.acknowledgement", approval_path,
          "Approval requires a non-empty plan-review acknowledgement"⟩]
      else if !is_text "approval_expires_at" due_at_input then
        [⟨"approval.due_binding", approval_path,
          "Native approval due date must bind to the reviewed approval_expires_at input"⟩]
      else if !is_text "approval_expires_at" expires_at_input then
        [⟨"approval.expiry_binding", approval_path,
          "Native approval expiry must bind to the reviewed approval_expires_at input"⟩]
      else []

/-! ## The lock of the apply workflow -/

def executable_activities : List String := ["http_request", "bounded_poll"]

/-- A step that can send a request. -/
def executable (step : Value) : Py Bool := do
  if step.isMapping then in_texts executable_activities (← step.get "activity")
  else return false

/-- An executable step of the apply workflow has the flag of the package. -/
def apply_step_issues (enabled : Option Value → Bool) (issue : Issue) (step : Value) : Py (List Issue) := do
  if ← executable step then return issue_if (!enabled (← step.get "enabled")) issue
  else return []

/-- The loop over the steps of the apply workflow. -/
def apply_steps_issues (enabled : Option Value → Bool) (code message : String) (index : Nat)
    (steps : List Value) : Py (List Issue) :=
  match steps with
  | [] => return []
  | step :: rest => do
    let found ← apply_step_issues enabled
      ⟨code, "$.workflows[start_apply].steps[" ++ toString index ++ "]", message⟩ step
    let others ← apply_steps_issues enabled code message (index + 1) rest
    return found ++ others

def apply_issues (apply_enabled : Bool) (workflows : List (String × Value)) : Py (List Issue) := do
  let apply_workflow := entry_named workflows "start_apply"
  let enabled ← apply_workflow.get "enabled"
  let steps ← get_items apply_workflow "steps"
  if apply_enabled then
    let found ← apply_steps_issues is_true "apply.executable_step_disabled"
      "Enabled package apply requires enabled executable steps" 0 steps
    return issue_if (!is_true enabled)
      ⟨"apply.workflow_disabled", "$.workflows[start_apply].enabled",
        "Enabled package apply requires an enabled apply workflow"⟩ ++ found
  else
    let found ← apply_steps_issues is_false "apply.executable_step"
      "Executable apply steps must also be disabled" 0 steps
    return issue_if (!is_false enabled)
      ⟨"apply.workflow_enabled", "$.workflows[start_apply].enabled",
        "Apply workflow must remain disabled while package apply is disabled"⟩ ++ found

/-! ## Transport -/

def forbidden_markers : List (String × String) := [
  ("ngrok", "transport.ngrok"),
  ("verify=false", "transport.tls_disabled"),
  ("/api/v2/", "api.legacy_v2")]

def transport_issues (document safety : Value) : Py (List Issue) := do
  let rendered := adapters.lower (String.ofList document.dumps)
  let allow_absolute_request_urls ← safety.get "allow_absolute_request_urls"
  let allow_redirects ← safety.get "allow_redirects"
  let allow_sensitive_header_redirects ← safety.get "allow_sensitive_header_redirects"
  return (forbidden_markers.flatMap fun marker =>
      issue_if (contains marker.1 rendered)
        ⟨marker.2, "$", "Forbidden production marker found: " ++ marker.1⟩) ++
    issue_if (!is_false allow_absolute_request_urls)
      ⟨"transport.absolute_urls", "$.safety.allow_absolute_request_urls",
        "Absolute request URLs must be forbidden"⟩ ++
    issue_if (!is_false allow_redirects || !is_false allow_sensitive_header_redirects)
      ⟨"transport.redirects", "$.safety", "HTTP and sensitive-header redirects must be forbidden"⟩

/-! ## The verdict -/

structure PackageIssue extends Issue where
  severity : String := "error"
  deriving DecidableEq

structure PackageReport where
  manifest_hash : String
  safe_to_build : Bool
  production_ready : Bool
  importable_exports_present : Bool
  apply_enabled : Bool
  error_count : Nat
  warning_count : Nat
  issues : List PackageIssue

/-- The policy of a document. -/
def policy_of (document : Value) : Py Policy := do
  let operations ← (← metadata document "api_operations").pairs
  let runtime ← metadata document "runtime"
  let request_timeout := positive_int? (← runtime.get "request_timeout_seconds")
  let max_parent_runtime := positive_int? (← runtime.get "max_parent_runtime_seconds")
  return { operations, request_timeout, max_parent_runtime }

def apply_enabled_of (document : Value) : Py Bool := do
  return is_true (← (← metadata document "safety").get "apply_enabled")

def runtime_issues (document : Value) (policy : Policy) : Py (List Issue) := do
  let terminal_statuses ← (← metadata document "runtime").get "terminal_statuses"
  return issue_if policy.request_timeout.isNone
      ⟨"runtime.request_timeout", "$.runtime.request_timeout_seconds",
        "Request timeout must be a positive integer"⟩ ++
    issue_if policy.max_parent_runtime.isNone
      ⟨"runtime.parent_budget", "$.runtime.max_parent_runtime_seconds",
        "Parent runtime budget must be a positive integer"⟩ ++
    issue_if (!same (texts EXPECTED_TERMINAL_STATUSES) terminal_statuses)
      ⟨"runtime.terminal_statuses", "$.runtime.terminal_statuses",
        "Runtime terminal statuses must match every persisted terminal run state"⟩

def missing_workflow_issues (workflows : List (String × Value)) : List Issue :=
  let missing := required_workflows.filter fun id => (assoc.lookup id workflows).isNone
  issue_if (!missing.isEmpty)
    ⟨"workflow.required", "$.workflows",
      "Missing required workflow IDs: " ++ (texts (sortedTexts missing)).repr⟩

/-- The rules of every workflow that `_workflow_map` keeps. -/
def workflows_issues (policy : Policy) (workflows : List (String × Value)) : Py (List Issue) := do
  return (← workflows.mapM fun entry => workflow_issues policy entry.1 entry.2).flatten

/-- The switches of a package. -/
structure Switches where
  importable_exports : Bool
  production_flag : Bool
  exchange_flag : Bool
  apply_enabled : Bool

def switches_of (document : Value) : Py Switches := do
  let package ← metadata document "package"
  let importable_exports := is_true (← package.get "importable_exports_present")
  let production_flag := is_true (← package.get "production_ready")
  let exchange_flag := is_true (← package.get "exchange_publishable")
  let apply_enabled ← apply_enabled_of document
  return { importable_exports, production_flag, exchange_flag, apply_enabled }

/-- The checks of targets, operations and workflows. -/
def operational_issues (document : Value) (apply_enabled : Bool) : Py (List Issue) := do
  let (roles, target_found) ← targets_issues document
  let operations_mistyped ← metadata_issues document "api_operations"
    ⟨"operations.type", "$.api_operations", "API operations must be an object"⟩
  let policy ← policy_of document
  let operation_found ← policy.operations.mapM (operation_issues roles)
  let workflows ← _workflow_map document
  let runtime_found ← runtime_issues document policy
  let workflow_found ← workflows_issues policy workflows
  let parent_found ← parent_issues workflows
  let approval_found ← approval_issues workflows
  let apply_found ← apply_issues apply_enabled workflows
  return target_found ++ operations_mistyped ++ operation_found.flatten ++ missing_workflow_issues workflows ++
    runtime_found ++ workflow_found ++ parent_found ++ approval_found ++ apply_found

/-- The checks of the intake, the switches and the captured serialization. -/
def metadata_section_issues (document : Value) (switches : Switches) : Py (List Issue) := do
  let schema_version ← get_text document "schema_version"
  let package ← metadata document "package"
  let package_missing ← metadata_issues document "package"
    ⟨"package.missing", "$.package", "Package metadata is required"⟩
  let safety_missing ← metadata_issues document "safety"
    ⟨"safety.missing", "$.safety", "Safety policy is required"⟩
  let runtime_missing ← metadata_issues document "runtime"
    ⟨"runtime.missing", "$.runtime", "Runtime policy is required"⟩
  let input_found ← operator_inputs_issues document
  let intake_found ← requirements_intake_issues document package
  let release_found ← release_issues package switches.importable_exports switches.production_flag
    switches.exchange_flag switches.apply_enabled
  let native_found ← native_serialization_issues document
  let assembly_found ← native_assembly_issues document
  return issue_if (schema_version ≠ "1.1")
      ⟨"schema.version", "$.schema_version", "Expected package schema 1.1"⟩ ++
    package_missing ++ safety_missing ++ runtime_missing ++ input_found ++ intake_found ++ release_found ++
    native_found ++ assembly_found

def validate_workflow_package (document : Value) : Py PackageReport := do
  let switches ← switches_of document
  let metadata_found ← metadata_section_issues document switches
  let operational_found ← operational_issues document switches.apply_enabled
  let transport_found ← transport_issues document (← metadata document "safety")
  let issues : List PackageIssue := (metadata_found ++ operational_found ++ transport_found).map fun issue =>
    { toIssue := issue }
  let errors := issues.filter fun issue => issue.severity = "error"
  let warnings := issues.filter fun issue => issue.severity = "warning"
  return {
    manifest_hash := sha256.hexdigest document.canonical_json
    safe_to_build := errors.isEmpty
    production_ready := errors.isEmpty && switches.production_flag && switches.importable_exports &&
      switches.apply_enabled
    importable_exports_present := switches.importable_exports
    apply_enabled := switches.apply_enabled
    error_count := errors.length
    warning_count := warnings.length
    issues }

end orchestrator.meraki_workflow_package
