import SdaOrchestrator.Api.Auth
import SdaOrchestrator.Api.PocIntake
import SdaOrchestrator.Api.Simulator
import SdaOrchestrator.Worker.PocExecution

open python threads regex orchestrator.store orchestrator.auth

namespace orchestrator.api

def API_VERSION : String := "0.6.2"

/-- `REQUEST_ID.fullmatch(text)`. -/
def REQUEST_ID (text : String) : Bool := between 8 128 (alphanumericOr "_.:-") (chars text)

/-! ## Requests and answers -/

/-- The routes of the service, with the parts of their paths that vary. -/
inductive Endpoint where
  | health
  | ready
  | observability_summary
  | validate
  | plan_compatibility
  | persist_intent
  | workflow_action_plan
  | workflow_action_poc_guided_plan
  | workflow_action_poc_guided_options
  | workflow_action_poc_confirm_apply
  | workflow_action_poc_run_status
  | get_intent (intent_id : String)
  | persist_plan (intent_id : String)
  | get_plan (plan_id : String)
  | get_owned_state_baseline (fabric_id : String)
  | adopt_owned_state_baseline (fabric_id : String)
  | render_plan (plan_id : String)
  | approve_plan (plan_id : String)
  | workflow_action_approve
  | workflow_action_adopt_owned_state_baseline
  | workflow_action_owned_state_baseline
  | create_run
  | workflow_action_run
  | get_run (run_id : String)
  | process_run_dry_run (run_id : String)
  | workflow_action_process_dry_run
  | workflow_action_status
  | workflow_action_evidence
  | get_run_evidence (run_id : String)
  | get_audit (aggregate_type aggregate_id : String)

/-- The path of a route. -/
def Endpoint.path : Endpoint → String
  | .health => "/health"
  | .ready => "/ready"
  | .observability_summary => "/v1/observability/summary"
  | .validate => "/v1/intents/validate"
  | .plan_compatibility => "/v1/plans"
  | .persist_intent => "/v1/intents"
  | .workflow_action_plan => "/v1/workflow-actions/plan"
  | .workflow_action_poc_guided_plan => "/v1/workflow-actions/poc-guided-plan"
  | .workflow_action_poc_guided_options => "/v1/workflow-actions/poc-guided-options"
  | .workflow_action_poc_confirm_apply => "/v1/workflow-actions/poc-confirm-apply"
  | .workflow_action_poc_run_status => "/v1/workflow-actions/poc-run-status"
  | .get_intent intent_id => "/v1/intents/" ++ intent_id
  | .persist_plan intent_id => "/v1/intents/" ++ intent_id ++ "/plans"
  | .get_plan plan_id => "/v1/plans/" ++ plan_id
  | .get_owned_state_baseline fabric_id => "/v1/fabrics/" ++ fabric_id ++ "/owned-state-baseline"
  | .adopt_owned_state_baseline fabric_id => "/v1/fabrics/" ++ fabric_id ++ "/owned-state-baselines"
  | .render_plan plan_id => "/v1/plans/" ++ plan_id ++ "/render"
  | .approve_plan plan_id => "/v1/plans/" ++ plan_id ++ "/approvals"
  | .workflow_action_approve => "/v1/workflow-actions/approve"
  | .workflow_action_adopt_owned_state_baseline => "/v1/workflow-actions/adopt-owned-state-baseline"
  | .workflow_action_owned_state_baseline => "/v1/workflow-actions/owned-state-baseline"
  | .create_run => "/v1/runs"
  | .workflow_action_run => "/v1/workflow-actions/run"
  | .get_run run_id => "/v1/runs/" ++ run_id
  | .process_run_dry_run run_id => "/v1/runs/" ++ run_id ++ "/process-dry-run"
  | .workflow_action_process_dry_run => "/v1/workflow-actions/process-dry-run"
  | .workflow_action_status => "/v1/workflow-actions/status"
  | .workflow_action_evidence => "/v1/workflow-actions/evidence"
  | .get_run_evidence run_id => "/v1/runs/" ++ run_id ++ "/evidence"
  | .get_audit aggregate_type aggregate_id => "/v1/audit/" ++ aggregate_type ++ "/" ++ aggregate_id

/-- The roles of which a route asks one. -/
def Endpoint.required_roles : Endpoint → List Role
  | .health => []
  | .ready => []
  | .observability_summary => [.auditor]
  | .validate => [.viewer, .planner, .approver, .operator]
  | .plan_compatibility => [.planner]
  | .persist_intent => [.planner]
  | .workflow_action_plan => [.planner]
  | .workflow_action_poc_guided_plan => [.planner]
  | .workflow_action_poc_guided_options => [.planner]
  | .workflow_action_poc_confirm_apply => [.approver]
  | .workflow_action_poc_run_status => [.viewer, .planner, .approver, .operator, .auditor]
  | .get_intent _ => [.viewer, .planner, .approver, .operator]
  | .persist_plan _ => [.planner]
  | .get_plan _ => [.viewer, .planner, .approver, .operator]
  | .get_owned_state_baseline _ => [.viewer, .planner, .approver, .operator, .auditor]
  | .adopt_owned_state_baseline _ => [.approver]
  | .render_plan _ => [.viewer, .planner, .approver, .operator]
  | .approve_plan _ => [.approver]
  | .workflow_action_approve => [.approver]
  | .workflow_action_adopt_owned_state_baseline => [.approver]
  | .workflow_action_owned_state_baseline => [.viewer, .planner, .approver, .operator, .auditor]
  | .create_run => [.operator]
  | .workflow_action_run => [.operator]
  | .get_run _ => [.viewer, .planner, .approver, .operator]
  | .process_run_dry_run _ => [.operator]
  | .workflow_action_process_dry_run => [.operator]
  | .workflow_action_status => [.viewer, .planner, .approver, .operator, .auditor]
  | .workflow_action_evidence => [.auditor]
  | .get_run_evidence _ => [.viewer, .planner, .approver, .operator, .auditor]
  | .get_audit _ _ => [.viewer, .planner, .approver, .operator, .auditor]

/-- A request on a route: its `Authorization` header, and its body if it is JSON. -/
structure Request where
  endpoint : Endpoint
  authorization : String
  is_json : Bool
  data : String

/-- A status code and a JSON document; without one it is a page of the framework. -/
structure Answer where
  status : Nat
  document : Option Value

def answer (status : Nat) (fields : List (String × Value)) : Answer := ⟨status, some (.dict fields)⟩

/-- The result of the validator: the verdict, and the issues as a document. -/
structure Validation where
  is_valid : Bool
  as_dict : Value

/-- The service: its configuration, and the parts of the program that work on whole documents. -/
structure App where
  platform : Platform
  parse_float : List Char → ℚ × String
  upper : String → String
  backend_name : String
  identities : List (String × Principal)
  execution_enabled : Bool
  secret_provider : String
  guardrails : Py Value
  sjc23_poc_profile : Value
  validate_intent : Value → Py Validation
  create_plan : Value → Option Value → Py Value
  render_configuration : Value → Value → Py Value
  derive_fabric_intent : Derive

section Handlers

variable (app : App)

/-! ## Bodies -/

/-- `json.loads(text)`, where a failure and `null` read as `None`. -/
def App.loads (text : String) : Option Value :=
  match json.loads app.parse_float (chars text) with
  | some .null => none
  | document => document

/-- The object in the body of a request, or the answer that refuses it. -/
def json_object (request : Request) (allow_string_encoded_object : Bool) : Except Answer Value :=
  if !request.is_json then
    .error (answer 415 [("error", .str "content_type"), ("message", .str "Use application/json")])
  else
    let decoded := match app.loads request.data with
      | some (.str text) => if allow_string_encoded_object then app.loads text else some (.str text)
      | document => document
    -- the JSON editor of the workflows can leave the quotes of a value out
    let document :=
      if allow_string_encoded_object && decoded.isNone then
        _repair_meraki_unquoted_scalars app.parse_float request.data
      else decoded
    match document with
    | some (.dict entries) => .ok (.dict entries)
    | _ => .error (answer 400 [("error", .str "body"), ("message", .str "JSON object required")])

def workflow_json_object (request : Request) : Except Answer Value := json_object app request true

/-- `str(document.get(key, default))`. -/
def text_of (document : Value) (key default : String) : Py String := do
  return (← document.getD key (.str default)).toStr

/-- A handler that goes on with the object in the body. -/
def with_object (body : Except Answer Value) (handler : Value → Call Answer) : Call Answer :=
  match body with
  | .ok document => handler document
  | .error refusal => return refusal

/-- An exception of one of the classes is answered with its message. -/
def refusing (body : Call Answer) (classes : List String) (status : Nat) (fields : List (String × Value)) :
    Call Answer :=
  caught body classes fun exception => return answer status (fields ++ [("message", .str exception.message)])

/-! ## Plans -/

def create_state_bound_plan (intent : Value) : Call Value := do
  let fabric_id := (← (← intent.item "fabric").item "id").toStr
  let baseline ← query (latest_owned_state app.platform fabric_id)
  app.create_plan intent baseline

/-- The answer to an intent that is not valid. -/
def validation_failed (validation : Validation) : Answer :=
  answer 422 [
    ("succeeded", .bool false),
    ("status", .str "validation_failed"),
    ("validation", validation.as_dict)]

/-- An intent that is valid is saved, planned and rendered, and the plan is saved with its artifact. -/
def plan_valid_intent (principal : Principal) (intent_document : Value) (validation : Validation)
    (reservation_id : Option String) : Call (List (String × Value)) := do
  let (intent_record, _) ← transact (save_intent app.platform intent_document principal.actor)
  let generated ← create_state_bound_plan app intent_document
  let artifact ← app.render_configuration intent_document generated
  let artifact_hash ← artifact.item "artifact_hash"
  let intent_version := (← intent_document.item "schema_version").toStr
  let (plan_record, _) ← transact
    (save_plan app.platform intent_record.intent_id generated principal.actor artifact_hash.toStr intent_version
      reservation_id)
  let blocking_requirements ← artifact.item "blocking_requirements"
  let devices ← (← artifact.item "devices").elements
  return [
    ("succeeded", .bool true),
    ("status", .str "plan_ready"),
    ("intent_id", .str intent_record.intent_id),
    ("intent_hash", .str intent_record.intent_hash),
    ("plan_id", .str plan_record.plan_id),
    ("plan_hash", .str plan_record.plan_hash),
    ("artifact_hash", artifact_hash),
    ("blocking_requirements", blocking_requirements),
    ("device_count", .int devices.length),
    ("validation", validation.as_dict)]

/-- The reservation for requirements, or the answer that refuses them. -/
def reserved (principal : Principal) (requirements : Value) (idempotency_key : String) :
    Call (Except Answer ReservationRecord) :=
  caught
    (do
      let policy ← app.guardrails
      let (reservation, _created) ← transact
        (reserve_design app.platform app.derive_fabric_intent requirements policy idempotency_key principal.actor)
      return .ok reservation)
    ["AllocationError", "ValueError"] fun exception => return .error <| answer 422 [
      ("succeeded", .bool false),
      ("status", .str "allocation_failed"),
      ("error", .str "requirements_unsatisfied"),
      ("message", .str exception.message)]

/-- The plan of a requirements document, or the answer that refuses it. -/
def plan_from_requirements (principal : Principal) (requirements : Value) (idempotency_key : String) :
    Call (Except Answer (List (String × Value))) := do
  match ← reserved app principal requirements idempotency_key with
  | .error refusal => return .error refusal
  | .ok reservation =>
    let intent_document := reservation.row.intent
    let validation ← app.validate_intent intent_document
    if validation.is_valid then
      let planned ← plan_valid_intent app principal intent_document validation (some reservation.row.reservation_id)
      return .ok (planned ++ [
        ("reservation_id", .str reservation.row.reservation_id),
        ("reservation_state", .str reservation.row.state.text),
        ("requirements_hash", .str reservation.row.requirements_hash),
        ("policy_hash", .str reservation.row.policy_hash),
        ("reservation_hash", .str reservation.row.reservation_hash),
        ("allocation_summary", .dict [
          ("network", .int reservation.network_allocations.length),
          ("scalar", .int reservation.scalar_allocations.length)])])
    else return .error (validation_failed validation)

def validate (request : Request) : Call Answer :=
  with_object (json_object app request false) fun document => do
    let result ← app.validate_intent document
    return ⟨if result.is_valid then 200 else 422, some result.as_dict⟩

def plan_compatibility (request : Request) : Call Answer :=
  with_object (json_object app request false) fun document =>
    caught (do return ⟨201, some (← create_state_bound_plan app document)⟩) ["PlanValidationError"]
      fun _ => do return ⟨422, some (← app.validate_intent document).as_dict⟩

def persist_intent (principal : Principal) (request : Request) : Call Answer :=
  with_object (json_object app request false) fun document => do
    let validation ← app.validate_intent document
    if validation.is_valid then
      let (record, created) ← transact (save_intent app.platform document principal.actor)
      return answer (if created then 201 else 200) (record.record ++ [("validation", validation.as_dict)])
    else return ⟨422, some validation.as_dict⟩

/-- The answer to requirements that are no JSON object. -/
def requirements_refused : Answer :=
  answer 422 [
    ("error", .str "requirements_json"),
    ("message", .str "requirements_json must contain one JSON object")]

/-- The requirements under either name, decoded at most once. -/
def workflow_requirements (document : Value) : Py (Except Answer Value) := do
  let required := answer 422 [("error", .str "intent_or_requirements_required")]
  let requirements ← match ← document.get "requirements" with
    | some requirements => pure (some requirements)
    | none => document.get "requirements_json"
  match requirements with
  | some (.dict entries) => return .ok (.dict entries)
  | some (.str text) =>
    match json.loads app.parse_float (chars text) with
    | some (.dict entries) => return .ok (.dict entries)
    | some _ => return .error required
    | none => return .error requirements_refused
  | _ => return .error required

def workflow_action_plan (principal : Principal) (request : Request) : Call Answer :=
  with_object (workflow_json_object app request) fun document => do
    match ← document.get "intent" with
    | some (.dict entries) =>
      let intent_document := Value.dict entries
      let validation ← app.validate_intent intent_document
      if validation.is_valid then
        return answer 200 (← plan_valid_intent app principal intent_document validation none)
      else return validation_failed validation
    | _ =>
      match ← workflow_requirements app document with
      | .error refusal => return refusal
      | .ok requirements =>
        match ← plan_from_requirements app principal requirements (← text_of document "idempotency_key" "") with
        | .error refusal => return refusal
        | .ok planned => return answer 200 planned

end Handlers

end orchestrator.api
