import SdaOrchestrator.Api.Service
import SdaOrchestrator.Api.ReviewSummary

open python threads orchestrator.store orchestrator.auth

namespace orchestrator.api

section Handlers

variable (app : App)

/-! ## The guided workflow -/

/-- The answer to a form or a key that is no such thing. -/
def malformed (field message : String) : Answer := answer 422 [("error", .str field), ("message", .str message)]

/-- The plan that was made, with a preview and its summary. -/
def with_preview (planned : List (String × Value)) : Call Answer :=
  refusing
    (do
      let result := Value.dict planned
      let intent_record ← query (get_intent (← result.item "intent_id").toStr)
      let plan_record ← query (get_plan (← result.item "plan_id").toStr)
      let artifact ← app.render_configuration intent_record.document plan_record.document
      let policy ← app.guardrails
      let preview ← poc_execution.build_sjc23_poc_deployment_preview intent_record.document plan_record.document
        artifact policy
      let review_summary ← _sjc23_poc_review_summary app.upper preview
      return answer 200 (planned ++ [
        ("poc_deployment_preview", preview),
        ("review_summary", .str review_summary)]))
    ["PocExecutionError", "RenderError", "StoreError"] 422 [("error", .str "poc_deployment_preview")]

/-- The requirements of a form, or the answer that refuses it. -/
def guided_requirements (form_values : Value) : Call (Except Answer Value) :=
  caught
    (do
      let policy ← app.guardrails
      return .ok (← poc_intake.sjc23_poc_requirements app.sjc23_poc_profile form_values policy))
    ["PocIntakeError"] fun exception => return .error (malformed "poc_guided_intake" exception.message)

def workflow_action_poc_guided_plan (principal : Principal) (request : Request) : Call Answer :=
  with_object (workflow_json_object app request) fun document => do
    let form_values ← document.getD "form_values" .null
    let idempotency_key ← document.getD "idempotency_key" .null
    if !form_values.isMapping then return malformed "form_values" "form_values object required"
    else
      match idempotency_key with
      | .str key =>
        if !REQUEST_ID key then return malformed "idempotency_key" "valid idempotency_key required"
        else
          match ← guided_requirements app form_values with
          | .error refusal => return refusal
          | .ok requirements =>
            -- the key of the caller changes with every run: the reservation is keyed by the demand
            let stable_key := "sjc23-poc:" ++ app.platform.sha256_json requirements
            match ← plan_from_requirements app principal requirements stable_key with
            | .error refusal => return refusal
            | .ok planned => with_preview app planned
      | _ => return malformed "idempotency_key" "valid idempotency_key required"

def workflow_action_poc_guided_options : Call Answer :=
  refusing
    (do
      let policy ← app.guardrails
      return ⟨200, some (← poc_intake.sjc23_poc_form_options policy)⟩)
    ["PocIntakeError"] 422 [("error", .str "poc_guided_intake")]

/-- The approval of a confirmed plan, or the answer that refuses it. -/
def confirmed_approval (principal : Principal) (plan_id change_reference : String) (window_end : Datetime) :
    Call (Except Answer Unit) :=
  caught
    (do
      let _approval ← transact
        (record_approval app.platform plan_id "approved" principal.actor change_reference (isoformat window_end))
      return .ok ())
    ["ValueError", "ConflictError"] fun exception => return .error <| answer 409 [
      ("succeeded", .bool false),
      ("error", .str "approval_rejected"),
      ("message", .str exception.message)]

/-- The apply run of a confirmed plan, or the answer that refuses it. -/
def confirmed_run (principal : Principal) (plan_id stored_plan_hash : String) (now window_end : Datetime) :
    Call (Except Answer RunRow) :=
  caught
    (caught
      (do
        let (run_record, _created) ← transact
          (create_run app.platform plan_id "apply" ("poc-apply:" ++ stored_plan_hash) principal.actor
            app.execution_enabled (some (isoformat now)) (some (isoformat window_end)) 1800)
        return .ok run_record)
      ["ExecutionDisabledError"] fun exception => return .error <| answer 409 [
        ("succeeded", .bool false),
        ("status", .str "execution_disabled"),
        ("error", .str "execution_disabled"),
        ("message", .str exception.message)])
    ["ValueError", "ApprovalRequiredError", "MaintenanceWindowError", "ConflictError"] fun exception =>
      return .error <| answer 409 [
        ("succeeded", .bool false),
        ("error", .str "run_rejected"),
        ("message", .str exception.message)]

/-- The plan of an id, or nothing where it is not found. -/
def found_plan (plan_id : String) : Call (Option PlanRow) :=
  caught (do return some (← query (get_plan plan_id))) ["NotFoundError"] fun _ => return none

/-- `document.get("confirm") is True`. -/
def is_confirmed : Option Value → Bool
  | some (.bool value) => value
  | _ => false

def workflow_action_poc_confirm_apply (principal : Principal) (request : Request) : Call Answer :=
  with_object (workflow_json_object app request) fun document => do
    let plan_id ← text_of document "plan_id" ""
    let submitted_plan_hash := strip (← text_of document "plan_hash" "")
    let given_reference := strip (← text_of document "change_reference" "")
    let change_reference := if given_reference = "" then "SJC23-POC-001" else given_reference
    if !is_confirmed (← document.get "confirm") then
      return malformed "confirm_required" "confirm must be true to authorize apply"
    else
      match ← found_plan plan_id with
      | none => return answer 404 [("error", .str "plan_not_found"), ("message", .str "Plan not found")]
      | some plan_record =>
        let stored_plan_hash := plan_record.plan_hash
        if submitted_plan_hash ≠ "" ∧ submitted_plan_hash ≠ stored_plan_hash then
          return answer 409 [
            ("error", .str "plan_hash_mismatch"),
            ("message", .str "Submitted plan_hash does not match the stored plan")]
        else
          let now ← clock
          let window_end := app.platform.seconds_after now 7200
          match ← confirmed_approval app principal plan_id change_reference window_end with
          | .error refusal => return refusal
          | .ok () =>
            match ← confirmed_run app principal plan_id stored_plan_hash now window_end with
            | .error refusal => return refusal
            | .ok run_record => return answer 200 [
              ("succeeded", .bool true),
              ("status", .str run_record.status.text),
              ("run_id", .str run_record.run_id),
              ("plan_hash", .str stored_plan_hash)]

/-- `_meraki_evidence_summary(records)`. -/
def _meraki_evidence_summary (records : List EvidenceRow) : Value :=
  .list <| records.map fun record => .dict [
    ("evidence_id", .str record.evidence_id),
    ("phase_id", .str record.phase_id),
    ("evidence_type", .str record.evidence_type),
    ("payload_hash", .str record.payload_hash),
    ("created_at", .str record.created_at)]

/-- `_meraki_audit_summary(records)`. -/
def _meraki_audit_summary (records : List (Nat × AuditEvent)) : Value :=
  .list <| records.map fun record => .dict [
    ("sequence", .int record.1),
    ("event_type", .str record.2.event_type),
    ("event_hash", .str record.2.event_hash),
    ("previous_hash", .str record.2.previous_hash),
    ("created_at", .str record.2.created_at)]

def workflow_action_poc_run_status (request : Request) : Call Answer :=
  with_object (workflow_json_object app request) fun document => do
    let run_id ← text_of document "run_id" ""
    let run_record ← query (get_run run_id)
    let status := run_record.status.text
    let evidence ← query fun store => .ok (run_evidence run_id store)
    return answer 200 [
      ("succeeded", .bool true),
      ("run_id", .str run_id),
      ("status", .str status),
      ("terminal", .bool !(endswith status "_queued" || endswith status "_running")),
      ("run_succeeded", .bool (endswith status "_succeeded")),
      ("evidence_summary", _meraki_evidence_summary evidence),
      ("contains_secret_values", .bool false),
      ("contains_raw_configuration", .bool false)]

/-! ## Records -/

def get_intent (intent_id : String) : Call Answer := do
  return answer 200 (← query (store.get_intent intent_id)).record

def persist_plan (principal : Principal) (intent_id : String) : Call Answer := do
  let intent_record ← query (store.get_intent intent_id)
  let generated ← create_state_bound_plan app intent_record.document
  let artifact ← app.render_configuration intent_record.document generated
  let artifact_hash ← artifact.item "artifact_hash"
  let intent_version := (← intent_record.document.item "schema_version").toStr
  let (record, created) ← transact
    (save_plan app.platform intent_id generated principal.actor artifact_hash.toStr intent_version none)
  return answer (if created then 201 else 200) record.record

def get_plan (plan_id : String) : Call Answer := do
  return answer 200 (← query (store.get_plan plan_id)).record

/-- The newest baseline of a fabric; without one an exception is raised. -/
def newest_baseline (fabric_id : String) (missing : Raised) : Call Value := do
  match ← query (latest_owned_state app.platform fabric_id) with
  | some baseline => return baseline
  | none => throw missing

def get_owned_state_baseline (fabric_id : String) : Call Answer := do
  return ⟨200, some (← newest_baseline app fabric_id (NotFoundError "Owned-state baseline not found"))⟩

/-- `record_adopted_owned_state`: a transaction, and the baseline read back after it. -/
def recorded_baseline (principal : Principal) (fabric_id : String) (manifest document : Value) : Call Value := do
  let evidence_hash ← text_of document "evidence_hash" ""
  let change_reference ← text_of document "change_reference" ""
  let discovered_by ← text_of document "discovered_by" ""
  let _adopted ← transact fun ambient store =>
    (adopt_manifest app.platform fabric_id manifest evidence_hash change_reference discovered_by principal.actor
      ambient store).map fun next => ((), next)
  newest_baseline app fabric_id (StoreError "Adopted owned-state baseline was not persisted")

/-- The adoption of the manifest in a body. -/
def adopted (principal : Principal) (fabric_id : String) (document : Value) (success : Value → Answer) : Call Answer := do
  match ← document.get "manifest" with
  | some (.dict manifest) =>
    refusing (do return success (← recorded_baseline app principal fabric_id (.dict manifest) document))
      ["ValueError"] 422 [("error", .str "invalid_baseline")]
  | _ => return answer 422 [("error", .str "invalid_manifest")]

def adopt_owned_state_baseline (principal : Principal) (fabric_id : String) (request : Request) : Call Answer :=
  with_object (json_object app request false) fun document =>
    adopted app principal fabric_id document fun baseline => ⟨201, some baseline⟩

/-- `{"succeeded": True, "status": status, **document}`. -/
def succeeded (status : String) : Value → Answer
  | .dict entries => answer 200 ([("succeeded", .bool true), ("status", .str status)] ++ entries)
  | _ => ⟨500, none⟩

def workflow_action_adopt_owned_state_baseline (principal : Principal) (request : Request) : Call Answer :=
  with_object (workflow_json_object app request) fun document => do
    adopted app principal (← text_of document "fabric_id" "") document (succeeded "adopted")

def workflow_action_owned_state_baseline (request : Request) : Call Answer :=
  with_object (workflow_json_object app request) fun document => do
    let fabric_id ← text_of document "fabric_id" ""
    return succeeded "available" (← newest_baseline app fabric_id (NotFoundError "Owned-state baseline not found"))

/-- The artifact of a stored plan. -/
def plan_artifact (plan_id : String) : Call Value := do
  let plan_record ← query (store.get_plan plan_id)
  let intent_record ← query (store.get_intent plan_record.intent_id)
  app.render_configuration intent_record.document plan_record.document

def render_plan (plan_id : String) : Call Answer :=
  refusing (do return ⟨200, some (← plan_artifact app plan_id)⟩) ["RenderError"] 422 [("error", .str "render_failed")]

/-- The approval in a body. -/
def approved_plan (principal : Principal) (plan_id : String) (document : Value) (success : ApprovalRow → Answer) :
    Call Answer :=
  refusing
    (do
      let decision ← text_of document "decision" ""
      let change_reference ← text_of document "change_reference" ""
      let expires_at ← text_of document "expires_at" ""
      let approval ← transact
        (record_approval app.platform plan_id decision principal.actor change_reference expires_at)
      return success approval)
    ["ValueError"] 422 [("error", .str "invalid_approval")]

def approve_plan (principal : Principal) (plan_id : String) (request : Request) : Call Answer :=
  with_object (json_object app request false) fun document =>
    approved_plan app principal plan_id document fun approval => answer 201 approval.record

def workflow_action_approve (principal : Principal) (request : Request) : Call Answer :=
  with_object (workflow_json_object app request) fun document => do
    approved_plan app principal (← text_of document "plan_id" "") document fun approval =>
      answer 200 ([("succeeded", .bool true), ("status", .str approval.decision.text)] ++ approval.record)

/-! ## Runs -/

/-- A bound of a window; a value that is no text is refused as a blank one is. -/
def window_text : Option Value → Option String
  | some (.str text) => some text
  | some value => if value.truthy then some " " else none
  | none => none

/-- The run that a body asks for. -/
def requested_run (principal : Principal) (document : Value) (success : RunRow → Bool → Answer) : Call Answer := do
  let given_window ← document.getD "maintenance_window" .null
  let window := if given_window.truthy then given_window else .dict []
  if !window.isMapping then return answer 422 [("error", .str "invalid_window")]
  else
    refusing
      (do
        let plan_id ← text_of document "plan_id" ""
        let mode ← text_of document "mode" "dry_run"
        let idempotency_key ← text_of document "idempotency_key" ""
        let maintenance_start := window_text (← window.get "start")
        let maintenance_end := window_text (← window.get "end")
        let (record, created) ← transact
          (store.create_run app.platform plan_id mode idempotency_key principal.actor app.execution_enabled
            maintenance_start maintenance_end 1800)
        return success record created)
      ["ValueError"] 422 [("error", .str "invalid_run")]

def create_run (principal : Principal) (request : Request) : Call Answer :=
  with_object (json_object app request false) fun document =>
    requested_run app principal document fun record created => answer (if created then 201 else 200) record.record

/-- `{"succeeded": True, "status": record["status"], "run": record}`. -/
def run_answer (record : RunRow) : Answer :=
  answer 200 [("succeeded", .bool true), ("status", .str record.status.text), ("run", .dict record.record)]

def workflow_action_run (principal : Principal) (request : Request) : Call Answer :=
  with_object (workflow_json_object app request) fun document =>
    requested_run app principal document fun record _ => run_answer record

def get_run (run_id : String) : Call Answer := do
  return answer 200 (← query (store.get_run run_id)).record

def process_run_dry_run (principal : Principal) (run_id : String) : Call Answer := do
  let run_record ← query (store.get_run run_id)
  let artifact ← plan_artifact app run_record.plan_id
  return ⟨200, some (← simulator.process_dry_run app.platform run_id artifact principal.actor)⟩

def workflow_action_process_dry_run (principal : Principal) (request : Request) : Call Answer :=
  with_object (workflow_json_object app request) fun document => do
    process_run_dry_run app principal (← text_of document "run_id" "")

def workflow_action_status (request : Request) : Call Answer :=
  with_object (workflow_json_object app request) fun document => do
    return run_answer (← query (store.get_run (← text_of document "run_id" "")))

/-! ## Evidence and audit -/

/-- `verify_audit_chain()`. -/
def chain_valid : Call Bool := query fun current => .ok (verify_audit_chain app.platform current.audit_events)

def workflow_action_evidence (request : Request) : Call Answer :=
  with_object (workflow_json_object app request) fun document => do
    let run_id ← text_of document "run_id" ""
    let run_record ← query (store.get_run run_id)
    let evidence ← query fun store => .ok (run_evidence run_id store)
    let audit ← query fun store => .ok (audit_events "run" run_id store)
    let valid ← chain_valid app
    return answer 200 [
      ("succeeded", .bool true),
      ("status", .str run_record.status.text),
      ("run_id", .str run_id),
      ("chain_valid", .bool valid),
      ("evidence", _meraki_evidence_summary evidence),
      ("audit", _meraki_audit_summary audit),
      ("contains_secret_values", .bool false),
      ("contains_raw_configuration", .bool false)]

def get_run_evidence (run_id : String) : Call Answer := do
  let _run ← query (store.get_run run_id)
  let evidence ← query fun store => .ok (run_evidence run_id store)
  return answer 200 [
    ("run_id", .str run_id),
    ("evidence", .list (evidence.map fun row => .dict row.record))]

def get_audit (aggregate_type aggregate_id : String) : Call Answer := do
  let valid ← chain_valid app
  let events ← query fun store => .ok (audit_events aggregate_type aggregate_id store)
  return answer 200 [
    ("aggregate_type", .str aggregate_type),
    ("aggregate_id", .str aggregate_id),
    ("chain_valid", .bool valid),
    ("events", .list (events.map fun event => .dict (event.2.record event.1)))]

/-! ## Health -/

def health : Answer :=
  answer 200 [
    ("status", .str "ok"),
    ("service", .str "sda-orchestrator"),
    ("version", .str API_VERSION),
    ("execution_enabled", .bool app.execution_enabled)]

/-- What of the readiness checks succeeds: the guardrails, then the database with its audit chain. -/
def readiness : Call (Bool × Option Bool) :=
  tryCatch
    (do
      let _policy ← app.guardrails
      return (true, some (← chain_valid app)))
    fun _ => return (app.guardrails.isOk, none)

def ready : Call Answer := do
  let (guardrails, database) ← readiness app
  let audit_chain := database.getD false
  let authentication := app.identities ≠ []
  let secret_provider := strip app.secret_provider ≠ ""
  let checks : List (String × Value) := [
    ("authentication", .bool authentication),
    ("guardrails", .bool guardrails),
    ("database", .bool database.isSome),
    ("audit_chain", .bool audit_chain),
    ("execution_enabled", .bool app.execution_enabled)] ++
    (if database.isSome then [("backend", .str app.backend_name)] else []) ++
    (if app.execution_enabled then [("secret_provider", .bool secret_provider)] else [])
  let ready_state := authentication ∧ guardrails ∧ database.isSome ∧ audit_chain ∧
    (!app.execution_enabled ∨ secret_provider)
  return answer (if ready_state then 200 else 503) [
    ("status", .str (if ready_state then "ready" else "not_ready")),
    ("service", .str "sda-orchestrator"),
    ("version", .str API_VERSION),
    ("checks", .dict checks)]

/-- The counts of the store, one query after the other. -/
def observability_summary : Call Answer := do
  let now ← clock
  let current_time := isoformat now
  let status_counts ← query fun store => .ok (run_status_counts store)
  let audit_event_count ← query fun current => .ok current.audit_events.length
  let active_count ← query fun store => .ok (store.fabric_locks.countP fun lock => current_time ≤ lock.expires_at)
  let expired_count ← query fun store => .ok (store.fabric_locks.countP fun lock => lock.expires_at < current_time)
  let valid ← chain_valid app
  return answer 200 [
    ("backend", .str app.backend_name),
    ("database", .bool true),
    ("audit_chain_valid", .bool valid),
    ("audit_event_count", .int audit_event_count),
    ("run_status_counts", .list (status_counts.map fun entry =>
      .dict [("status", .str entry.1), ("count", .int entry.2)])),
    ("fabric_locks", .dict [("active_count", .int active_count), ("expired_count", .int expired_count)]),
    ("service", .str "sda-orchestrator"),
    ("version", .str API_VERSION),
    ("execution_enabled", .bool app.execution_enabled),
    ("contains_secret_values", .bool false),
    ("contains_raw_configuration", .bool false),
    ("contains_raw_identifiers", .bool false)]

/-! ## The service -/

/-- The handler of a route, for a principal with one of its roles. -/
def route (principal : Principal) (request : Request) : Call Answer :=
  match request.endpoint with
  | .health => return health app
  | .ready => ready app
  | .observability_summary => observability_summary app
  | .validate => validate app request
  | .plan_compatibility => plan_compatibility app request
  | .persist_intent => persist_intent app principal request
  | .workflow_action_plan => workflow_action_plan app principal request
  | .workflow_action_poc_guided_plan => workflow_action_poc_guided_plan app principal request
  | .workflow_action_poc_guided_options => workflow_action_poc_guided_options app
  | .workflow_action_poc_confirm_apply => workflow_action_poc_confirm_apply app principal request
  | .workflow_action_poc_run_status => workflow_action_poc_run_status app request
  | .get_intent intent_id => get_intent intent_id
  | .persist_plan intent_id => persist_plan app principal intent_id
  | .get_plan plan_id => get_plan plan_id
  | .get_owned_state_baseline fabric_id => get_owned_state_baseline app fabric_id
  | .adopt_owned_state_baseline fabric_id => adopt_owned_state_baseline app principal fabric_id request
  | .render_plan plan_id => render_plan app plan_id
  | .approve_plan plan_id => approve_plan app principal plan_id request
  | .workflow_action_approve => workflow_action_approve app principal request
  | .workflow_action_adopt_owned_state_baseline => workflow_action_adopt_owned_state_baseline app principal request
  | .workflow_action_owned_state_baseline => workflow_action_owned_state_baseline app request
  | .create_run => create_run app principal request
  | .workflow_action_run => workflow_action_run app principal request
  | .get_run run_id => get_run run_id
  | .process_run_dry_run run_id => process_run_dry_run app principal run_id
  | .workflow_action_process_dry_run => workflow_action_process_dry_run app principal request
  | .workflow_action_status => workflow_action_status app request
  | .workflow_action_evidence => workflow_action_evidence app request
  | .get_run_evidence run_id => get_run_evidence run_id
  | .get_audit aggregate_type aggregate_id => get_audit app aggregate_type aggregate_id

/-- A route asks for a principal. -/
def Endpoint.guarded (endpoint : Endpoint) : Bool := startswith endpoint.path "/v1/" || endpoint.path = "/ready"

/-- The bearer token of a request. -/
def Request.candidate (request : Request) : String :=
  if startswith request.authorization "Bearer " then drop 7 request.authorization else ""

/-- `authorize_v1_requests` on a guarded route: the principal of the request, or the answer that refuses it. -/
def authorize_v1_requests (request : Request) : Except Answer Principal :=
  if request.candidate = "" then .error (answer 401 [("error", .str "unauthorized")])
  else
    match match_hashed_principal app.platform request.candidate app.identities with
    | some principal => .ok principal
    | none =>
      if app.identities ≠ [] then .error (answer 401 [("error", .str "unauthorized"), ("message", .null)])
      else .error (answer 503 [
        ("error", .str "service_not_configured"),
        ("message", .str "API authentication is not configured")])

/-- `require_roles`: a principal without one of the roles is refused. -/
def require_roles (endpoint : Endpoint) (principal : Principal) : Except Answer Unit :=
  if endpoint.required_roles = [] ∨ endpoint.required_roles.any (· ∈ principal.roles) then .ok ()
  else .error (answer 403 [
    ("error", .str "forbidden"),
    ("required_any_role", .list ((sortedTexts (endpoint.required_roles.map Role.text)).map .str))])

/-- The error handlers of the service; any other exception is a page of the framework. -/
def error_answer (exception : Raised) : Answer :=
  let refused (status : Nat) (error : String) := answer status [("error", .str error), ("message", .str exception.message)]
  if exception.type_name = "NotFoundError" then refused 404 "not_found"
  else if exception.type_name = "ConflictError" then refused 409 "conflict"
  else if exception.type_name = "ApprovalRequiredError" then refused 409 "approval_required"
  else if exception.type_name = "ExecutionDisabledError" then refused 409 "execution_disabled"
  else if exception.type_name = "MaintenanceWindowError" then refused 409 "maintenance_window"
  else if exception.type_name = "StoreError" then refused 500 "state_error"
  else ⟨500, none⟩

/-- The answer to what a handler returns or raises. -/
def answered (call : Call Answer) : Thread Ambient Store Answer := do
  match ← call.run with
  | .ok found => return found
  | .error exception => return error_answer exception

/-- A request, from its authorization to its answer. -/
def handle (request : Request) : Thread Ambient Store Answer :=
  if request.endpoint.guarded then
    match authorize_v1_requests app request with
    | .error refusal => return refusal
    | .ok principal =>
      match require_roles request.endpoint principal with
      | .error refusal => return refusal
      | .ok () => answered (route app principal request)
  else return health app

end Handlers

end orchestrator.api
