import SdaOrchestrator.Worker.Operations
import SdaOrchestrator.Worker.PocExecution

open python effects effects.Program orchestrator.store

namespace orchestrator.store

/-- `active_approval(plan_id)`: the latest decision when it is an unexpired approval. -/
def active_approval (platform : Platform) (plan_id : String) (now : Datetime) (store : Store) :
    Py (Option ApprovalRow) := do
  match store.latest_approval plan_id with
  | some row =>
    if row.decision ≠ .approved then return none
    else if (← platform.parse_timestamp row.expires_at) ≤ now then return none
    else return some row
  | none => return none

end orchestrator.store

namespace orchestrator.worker_runtime

open orchestrator.worker

def WorkerRuntimeError (message : String) : Raised := ⟨"WorkerRuntimeError", message⟩

/-- A regular file: the SHA-256 hex digest of its bytes, and the document that
`yaml.safe_load` reads from them, when it does. -/
structure RegularFile where
  sha256 : String
  document : Option Value

/-- What `process_run` takes from the process it runs in and from the other modules: the
environment, the regular files, the renderer and the gates. -/
structure Runtime where
  environment : String → Option String
  regular_file : String → Option RegularFile
  build_secret_provider : Py Unit
  render_configuration : Value → Value → Py Value
  build_gate_plan : Value → Value → Py (List Value)
  evaluate_gate : Value → String → Py GateResult

/-- `str(environment.get(name, ""))`. -/
def Runtime.variable (runtime : Runtime) (name : String) : String :=
  (runtime.environment name).getD ""

/-- `text.lower()` of ASCII letters; no other character has one of the compared
letters and digits as its lower case. -/
def lower (text : String) : String := String.ofList ((chars text).map Char.toLower)

def _enabled (runtime : Runtime) (name : String) : Bool :=
  lower (strip (runtime.variable name)) ∈ ["1", "true", "yes", "on"]

/-- The codes of the one blocker that a separately enabled POC worker may consume. -/
def _sjc23_poc_authorization (runtime : Runtime) (intent plan artifact : Value)
    (authorization : poc_execution.Authorization) : Py (List String) := do
  if !_enabled runtime "ORCHESTRATOR_SJC23_POC_EXECUTION_ENABLED" then return []
  else
    match runtime.regular_file (strip (runtime.variable "ORCHESTRATOR_GUARDRAILS_PATH")) with
    | none =>
      .error (WorkerRuntimeError "SJC23 POC execution requires a regular guardrails file")
    | some file =>
      let expected := lower (strip (runtime.variable "ORCHESTRATOR_SJC23_POC_GUARDRAILS_SHA256"))
      raise_if (len expected ≠ 64 || expected ≠ file.sha256)
        (WorkerRuntimeError "SJC23 POC guardrails hash did not match the approved value")
      match file.document with
      | none => .error (WorkerRuntimeError "SJC23 POC guardrails could not be loaded")
      | some policy =>
        raise_if (!policy.isMapping) (WorkerRuntimeError "SJC23 POC guardrails must be an object")
        match poc_execution.authorize_sjc23_poc_execution intent plan artifact policy authorization with
        | .ok authorized =>
          return (← (← authorized.item "allowed_blocker_codes").elements).map Value.toStr
        | .error exception =>
          if exception.type_name = "PocExecutionError" then
            .error (WorkerRuntimeError "SJC23 POC authorization was rejected")
          else .error exception

/-- The approval that binds the run, else the pins of the environment. -/
def authorization_of (runtime : Runtime) : Option ApprovalRow → poc_execution.Authorization
  | some approval => ⟨approval.change_reference, approval.plan_hash, approval.artifact_hash⟩
  | none => {
      change_reference := runtime.variable "ORCHESTRATOR_SJC23_POC_CHANGE_REFERENCE"
      plan_hash := runtime.variable "ORCHESTRATOR_SJC23_POC_PLAN_HASH"
      artifact_hash := runtime.variable "ORCHESTRATOR_SJC23_POC_ARTIFACT_HASH" }

/-- `environment.get("ORCHESTRATOR_DATABASE_URL") or environment.get("ORCHESTRATOR_DATABASE_PATH")`. -/
def database_location (runtime : Runtime) : String :=
  let url := runtime.variable "ORCHESTRATOR_DATABASE_URL"
  strip (if url = "" then runtime.variable "ORCHESTRATOR_DATABASE_PATH" else url)

/-- The worker of a run, with an ISE executor and no credential resolver. -/
def Runtime.worker (runtime : Runtime) : TransactionWorker where
  actor := (runtime.environment "ORCHESTRATOR_WORKER_IDENTITY").getD "sda-worker"
  credential_resolver := false
  ise_adapter_factory := true
  build_gate_plan := runtime.build_gate_plan
  evaluate_gate := runtime.evaluate_gate

section ProcessRun

variable {platform : Platform} {derive_fabric_intent : Derive} {start : Store}

/-- What `process_run` hands to the worker: the documents of the run and the codes that
it allows. -/
structure Execution where
  intent : Value
  plan : Value
  artifact : Value
  allowed_blocker_codes : List String

/-- The checks of `process_run` on the store, at a clock reading. -/
def admitted (platform : Platform) (runtime : Runtime) (run_id : String) (now : Datetime)
    (current : Store) : Py Execution := do
  let run ← store.get_run run_id current
  raise_if (run.mode ≠ .apply || run.status ≠ .apply_queued)
    (WorkerRuntimeError "Only a queued apply run may be processed")
  let plan_record ← store.get_plan run.plan_id current
  let intent_record ← require (current.find_intent plan_record.intent_id)
    (NotFoundError "Intent not found")
  let artifact ← runtime.render_configuration intent_record.document plan_record.document
  raise_if (!is_text (← artifact.item "artifact_hash") plan_record.artifact_hash)
    (WorkerRuntimeError "Rendered artifact hash changed after approval")
  let approval ← store.active_approval platform run.plan_id now current
  let allowed_blocker_codes ← _sjc23_poc_authorization runtime intent_record.document
    plan_record.document artifact (authorization_of runtime approval)
  runtime.build_secret_provider
  return ⟨intent_record.document, plan_record.document, artifact, allowed_blocker_codes⟩

/-- The checks of `process_run` on its environment. -/
def enabled (runtime : Runtime) : Py Unit := do
  raise_if (!_enabled runtime "ORCHESTRATOR_EXECUTION_ENABLED")
    (WorkerRuntimeError "API execution enablement is false")
  raise_if (!_enabled runtime "ORCHESTRATOR_WORKER_ENABLED")
    (WorkerRuntimeError "Worker enablement is false")
  raise_if (database_location runtime = "")
    (WorkerRuntimeError "A worker database location is required")

/-- `process_run(run_id, environment)`, whose own clock reading is the first one. -/
def process_run (runtime : Runtime) (outside : Outside) (run_id : String) :
    Apply platform derive_fabric_intent start ApplyResult := do
  Program.lift (enabled runtime)
  let now ← Program.read fun state => (outside.ambient state.trace).utc_now 0
  let current ← Program.read fun state => state.session.store
  let execution ← Program.lift (admitted platform runtime run_id now current)
  process_apply runtime.worker outside run_id execution.intent execution.plan execution.artifact
    (some execution.allowed_blocker_codes)

end ProcessRun

end orchestrator.worker_runtime
