import SdaOrchestrator.Worker.Session

open python effects orchestrator.store

namespace orchestrator.worker

def WorkerError (message : String) : Raised := ⟨"WorkerError", message⟩
def PreflightSecretError (message : String) : Raised := ⟨"PreflightSecretError", message⟩

/-- What `evaluate_gate` returns. -/
structure GateResult where
  passed : Bool
  reason : Value
  observations : Value

/-- The worker: its actor, which of its optional collaborators are configured, and
the functions of the gates module that it calls. -/
structure TransactionWorker where
  actor : String
  credential_resolver : Bool
  ise_adapter_factory : Bool
  build_gate_plan : Value → Value → Py (List Value)
  evaluate_gate : Value → String → Py GateResult

/-- What `process_apply` returns. -/
structure ApplyResult where
  succeeded : Bool
  run : RunRow
  rolled_back : Bool
  failure_type : Option String

/-- `value or {}`. -/
def or_empty : Option Value → Value
  | some value => if value.truthy then value else .dict []
  | none => .dict []

/-- `value == text`. -/
def is_text (value : Value) (text : String) : Bool :=
  match value with
  | .str found => found = text
  | _ => false

/-- `dict(value)`. -/
def as_dict : Value → Py Value
  | .dict entries => .ok (.dict entries)
  | _ => .error (TypeError "object is not a mapping")

/-! ## Secret placeholders -/

/-- The secret URI of a placeholder that starts here: `<secret:(secret://[^>]+)>`. -/
def placeholder? (text : List Char) : Option (List Char) :=
  let opening := chars "<secret:secret://"
  if opening.isPrefixOf text then
    let rest := text.drop opening.length
    let body := rest.takeWhile (· ≠ '>')
    if body ≠ [] ∧ body.length < rest.length then some (chars "secret://" ++ body) else none
  else none

/-- A piece of a command: a character to send as it is, or a secret to resolve. -/
inductive Piece where
  | char (c : Char)
  | secret (uri : String)

/-- The pieces of a command, left to right; `skip` characters belong to the last match. -/
def pieces (skip : Nat) : List Char → List Piece
  | [] => []
  | c :: rest =>
    match skip with
    | n + 1 => pieces n rest
    | 0 =>
      match placeholder? (c :: rest) with
      | some uri => .secret (String.ofList uri) :: pieces (uri.length + 8) rest
      | none => .char c :: pieces 0 rest

/-- `list(blockers or [])`. -/
def blocker_items : Option Value → Py (List Value)
  | some value => if value.truthy then value.elements else .ok []
  | none => .ok []

/-- `_unresolved_blocker_codes(blockers, allowed_blocker_codes)`. -/
def _unresolved_blocker_codes (blockers : Option Value) (allowed_blocker_codes : Option (List String)) :
    Py (List String) := do
  let allowed := allowed_blocker_codes.getD []
  let unresolved := (← blocker_items blockers).filterMap fun blocker =>
    match blocker with
    | .dict entries =>
      let code := ((assoc.lookup "code" entries).getD (.str "")).toStr
      if code = "" ∨ code ∉ allowed then some code else none
    | _ => some ""
  return sortedTexts unresolved

/-! ## The checks before the transaction -/

/-- The artifact and plan bindings of the run. -/
def check_binding (platform : Platform) (run : RunRow) (plan artifact : Value) : Py Unit := do
  let artifact_body ← as_dict artifact
  let supplied_artifact_hash := (← artifact_body.getD "artifact_hash" (.str "")).toStr
  let body := reconciliation.without "artifact_hash" artifact_body
  raise_if
    (len supplied_artifact_hash ≠ 64 || platform.sha256_json body ≠ supplied_artifact_hash ||
      supplied_artifact_hash ≠ run.artifact_hash)
    (ConflictError "Artifact integrity or run binding check failed")
  raise_if
    (Value.optStr (← artifact.get "plan_hash") ≠ run.plan_hash ||
      Value.optStr (← plan.get "plan_hash") ≠ run.plan_hash)
    (ConflictError "Plan integrity or run binding check failed")

/-- Add one device of the intent under its id. -/
def add_device (devices : List (String × Value)) (device : Value) : Py (List (String × Value)) := do
  let device_id := (← device.item "id").toStr
  return assoc.set device_id (← as_dict device) devices

/-- A fusion node is a device whose only role is fusion. -/
def add_fusion (devices : List (String × Value)) (fusion : Value) : Py (List (String × Value)) := do
  match ← as_dict fusion with
  | .dict entries =>
    let fusion_device : Value := .dict (assoc.set "roles" (.list [.str "fusion"]) entries)
    return assoc.set (← fusion_device.item "id").toStr fusion_device devices
  | other => return assoc.set (← other.item "id").toStr other devices

/-- A device that only the artifact knows has to be a retired target. -/
def add_retired (devices : List (String × Value)) (entry : String × Value) :
    Py (List (String × Value)) := do
  if (assoc.lookup entry.1 devices).isSome then return devices
  else
    raise_if (!Value.optTruthy (← entry.2.get "retired_target"))
      (WorkerError "Artifact contains an unknown active device")
    match ← entry.2.get "device_descriptor" with
    | some (.dict descriptor) =>
      raise_if (Value.optStr (assoc.lookup "id" descriptor) ≠ entry.1)
        (WorkerError "Retired reconciliation target is invalid")
      return assoc.set entry.1 (.dict descriptor) devices
    | _ => .error (WorkerError "Retired reconciliation target is invalid")

/-- The devices of the intent, its fusion nodes and the retired targets of the
artifact, by id. -/
def device_map (intent artifact : Value) : Py (List (String × Value)) := do
  let devices ← (← (← intent.item "devices").elements).foldlM add_device []
  let fusions ← (← (← intent.getD "fusion_nodes" (.list [])).elements).foldlM add_fusion devices
  (← (← artifact.getD "devices" (.dict [])).pairs).foldlM add_retired fusions

/-- `(artifact.get("external_systems") or {}).get("ise")`. -/
def ise_manifest_of (artifact : Value) : Py (Option Value) := do
  (or_empty (← artifact.get "external_systems")).get "ise"

section Parts

variable {platform : Platform} {derive_fabric_intent : Derive} {start : Store}
  (worker : TransactionWorker) (outside : Outside) (run_id : String)

/-- A call whose exception is reported as an unavailable secret. -/
def preflight (request : Call) (text : String) : Apply platform derive_fabric_intent start Unit := do
  match ← (call outside request).attempt with
  | .ok _ => pure ()
  | .error exception => Program.raise (PreflightSecretError (text ++ exception.message))

/-- The credential checks of `_preflight_secret_sweep`. -/
def preflight_credentials (intent artifact : Value) :
    Apply platform derive_fabric_intent start Unit := do
  let devices ← Program.lift do (← intent.getD "devices" (.list [])).elements
  Program.each devices fun device => do
    let ref := (← Program.lift (device.getD "credential_ref" (.str ""))).toStr
    if ref = "" then pure ()
    else
      let id := (← Program.lift (device.getD "id" (.str "?"))).toStr
      preflight outside (.resolve_credentials ref) ("Credential unavailable for " ++ id ++ ": ")
  let ise := or_empty (← Program.lift (ise_manifest_of artifact))
  let ise_ref := (← Program.lift (ise.getD "credential_ref" (.str ""))).toStr
  if ise_ref = "" then pure ()
  else preflight outside (.resolve_credentials ise_ref) "ISE credential unavailable: "

/-- The values of a mapping's list under a key, `[]` when the key is missing. -/
def entries_of (value : Value) (key : String) : Py (List Value) := do
  (← value.getD key (.list [])).elements

/-- The secret checks of `_preflight_secret_sweep`. -/
def preflight_secrets (artifact : Value) : Apply platform derive_fabric_intent start Unit := do
  let artifact_devices ← Program.lift do (← artifact.getD "devices" (.dict [])).pairs
  Program.each artifact_devices fun artifact_device => do
    let phases ← Program.lift (entries_of artifact_device.2 "phases")
    Program.each phases fun phase => do
      let blocks ← Program.lift (entries_of phase "blocks")
      Program.each blocks fun block => do
        let uris ← Program.lift (entries_of block "secret_refs")
        Program.each uris fun uri =>
          preflight outside (.resolve_value uri.toStr) ("Secret unavailable " ++ uri.toStr ++ ": ")

/-- `_preflight_secret_sweep(artifact, intent, resolve_value, resolve_credentials)`. -/
def _preflight_secret_sweep (intent artifact : Value) :
    Apply platform derive_fabric_intent start Unit := do
  if worker.credential_resolver then
    preflight_credentials outside intent artifact
  preflight_secrets outside artifact

/-- The text of one piece of a command. -/
def resolve_piece : Piece → Apply platform derive_fabric_intent start (List Char)
  | .char c => pure [c]
  | .secret uri => do
    let value := (← call outside (.resolve_value uri)).toStr
    if value = "" ∨ reconciliation.has_line_break value then
      Program.raise (WorkerError "Secret resolver returned an invalid value")
    else pure (chars value)

/-- `_resolve_commands(commands, resolver)`. -/
def _resolve_commands (commands : List Value) : Apply platform derive_fabric_intent start (List String) :=
  Program.collect commands fun command => do
    let texts ← Program.collect (pieces 0 (chars command.toStr)) (resolve_piece outside)
    let rendered := String.ofList texts.flatten
    if contains "<secret:" rendered then
      Program.raise (WorkerError "Unresolved secret placeholder")
    else pure rendered

/-- `adapters[device_id]`. -/
def adapter (device_id : String) : Apply platform derive_fabric_intent start Unit := do
  if ← Program.read fun state => decide (device_id ∈ state.adapters) then pure ()
  else Program.raise (KeyError device_id)

/-- `_record_gate(run_id, gate, adapters[str(gate["device_id"])])`. -/
def _record_gate (gate : Value) : Apply platform derive_fabric_intent start Bool := do
  let device_id := (← Program.lift (gate.item "device_id")).toStr
  adapter device_id
  let command ← Program.lift (gate.item "command")
  let response ← call outside (.run_show device_id command.toStr)
  let result ← Program.lift do worker.evaluate_gate gate (← response.item "output").toStr
  let phase_id := (← Program.lift (gate.item "phase_id")).toStr
  let payload ← Program.lift do
    return Value.dict [
      ("gate_id", ← gate.item "gate_id"),
      ("command", command),
      ("output_hash", ← response.item "output_hash"),
      ("passed", .bool result.passed),
      ("reason", result.reason),
      ("observations", result.observations)]
  add_evidence outside run_id phase_id "operational_gate" payload worker.actor device_id
  Program.modify fun state => state.record (.gate gate result.passed)
  return result.passed

/-! ## The transaction -/

/-- Connect every device, in the order of the ids. -/
def connect_devices (devices : List (String × Value)) : Apply platform derive_fabric_intent start Unit :=
  Program.each (sortedTexts (devices.map Prod.fst)) fun device_id => do
    let device := (assoc.lookup device_id devices).getD .null
    let _ ← call outside (.adapter_factory device_id device)
    let _ ← call outside (.connect device_id)
    Program.modify fun state => { state with adapters := state.adapters ++ [device_id] }

/-- Connect and prepare the ISE executor of an artifact that has an ISE manifest. -/
def prepare_ise (ise_manifest : Option Value) : Apply platform derive_fabric_intent start Unit := do
  if Value.optTruthy ise_manifest then
    let manifest := ise_manifest.getD .null
    if worker.ise_adapter_factory then
      let _ ← call outside (.ise_adapter_factory manifest)
      Program.modify fun state => { state with ise_adapter := true }
      let _ ← call outside .ise_connect
      let preflight ← call outside .ise_prepare
      let verified ← Program.lift (preflight.get "verified")
      if Value.optTruthy verified then
        let device_id := (← Program.lift (manifest.item "write_node_id")).toStr
        add_evidence outside run_id "precheck" "ise_ers_preflight" preflight worker.actor device_id
      else Program.raise (WorkerError "ISE preflight did not return verified evidence")
    else Program.raise (WorkerError "ISE manifest requires an enabled ISE executor")
  else pure ()

/-- `[gate for gate in gate_plan if gate["phase_id"] == phase_id]`. -/
def gates_of (gate_plan : List Value) (phase_id : String) : Py (List Value) :=
  gate_plan.filterM fun gate => do return is_text (← gate.item "phase_id") phase_id

/-- The precheck gates, in order. The first one that fails ends the run. -/
def run_prechecks : List Value → Apply platform derive_fabric_intent start (Option RunRow)
  | [] => pure none
  | gate :: rest => do
    if ← _record_gate worker outside run_id gate then run_prechecks rest
    else
      let gate_id ← Program.lift (gate.item "gate_id")
      let updated ← transition_run outside run_id .apply_failed worker.actor
        (.dict [("reason", .str "precheck_failed"), ("gate_id", gate_id)])
      return some updated

/-- A verified checkpoint of every connected device. -/
def create_checkpoints : Apply platform derive_fabric_intent start Unit := do
  let connected ← Program.read fun state => sortedTexts state.adapters
  Program.each connected fun device_id => do
    let checkpoint ← call outside (.create_checkpoint device_id run_id)
    let verified ← Program.lift (checkpoint.get "verified")
    if Value.optTruthy verified then
      let text := (← Program.lift (checkpoint.item "checkpoint")).toStr
      Program.modify fun state =>
        { state with checkpoints := assoc.set device_id text state.checkpoints }
      add_evidence outside run_id "checkpoint" "device_checkpoint" checkpoint worker.actor device_id
    else Program.raise (WorkerError "Checkpoint verification failed")

/-- `[str(phase["id"]) for phase in plan["phases"]]`. -/
def phase_ids (plan : Value) : Py (List String) := do
  (← (← plan.item "phases").elements).mapM fun phase => do
    return (← phase.item "id").toStr

/-- The phases of the plan that the worker executes. -/
def ordered_phases (plan : Value) : Py (List String) := do
  return (← phase_ids plan).filter fun phase_id =>
    phase_id ∉ ["precheck", "checkpoint", "endpoint_assurance"]

/-- The ISE policy is applied and verified before the devices use it. -/
def apply_ise (ise_manifest : Option Value) (phase_id : String) :
    Apply platform derive_fabric_intent start Unit := do
  if phase_id = "policy_plane" ∧ (← Program.read fun state => state.ise_adapter) then
    let ise_result ← call outside .ise_apply
    let verified ← Program.lift (ise_result.get "verified")
    if Value.optTruthy verified then
      Program.modify fun state => { state with ise_applied := true }
      let device_id := (← Program.lift ((ise_manifest.getD .null).item "write_node_id")).toStr
      add_evidence outside run_id phase_id "ise_ers_transaction" ise_result worker.actor device_id
    else Program.raise (WorkerError "ISE apply did not return verified evidence")
  else pure ()

/-- One configuration block. The device counts as changed before the block is sent. -/
def apply_block (phase_id device_id : String) (block : Value) :
    Apply platform derive_fabric_intent start Unit := do
  let commands ← Program.lift do (← block.item "commands").elements
  let resolved ← _resolve_commands outside commands
  Program.modify fun state =>
    if device_id ∈ state.changed_devices then state
    else { state with changed_devices := state.changed_devices ++ [device_id] }
  adapter device_id
  let evidence ← call outside (.apply_block device_id phase_id block resolved)
  let payload ← Program.lift do
    return Value.dict [
      ("block_id", ← block.item "block_id"),
      ("rendered_command_hash", ← block.item "command_hash"),
      ("applied_command_hash", ← evidence.item "command_hash"),
      ("command_count", ← evidence.item "command_count"),
      ("output_hash", ← evidence.item "output_hash")]
  add_evidence outside run_id phase_id "configuration_block" payload worker.actor device_id

/-- `next((item for item in phases if item["phase_id"] == phase_id), None)`. -/
def first_phase (phase_id : String) : List Value → Py (Option Value)
  | [] => .ok none
  | phase :: rest => do
    if is_text (← phase.item "phase_id") phase_id then return some phase
    else first_phase phase_id rest

/-- `artifact_devices[device_id]["phases"]`. -/
def listed_phases (artifact_devices : Value) (device_id : String) : Py (List Value) := do
  (← (← artifact_devices.item device_id).item "phases").elements

/-- The blocks of a device in a phase. -/
def device_blocks (artifact_devices : Value) (phase_id device_id : String) : Py (List Value) := do
  match ← first_phase phase_id (← listed_phases artifact_devices device_id) with
  | some phase => (← phase.item "blocks").elements
  | none => return []

/-- One phase: its ISE part, its blocks device by device, then its gates. -/
def apply_phase (gate_plan : List Value) (ise_manifest : Option Value) (artifact_devices : Value)
    (device_ids : List String) (phase_id : String) :
    Apply platform derive_fabric_intent start Unit := do
  apply_ise worker outside run_id ise_manifest phase_id
  Program.each device_ids fun device_id => do
    let blocks ← Program.lift (device_blocks artifact_devices phase_id device_id)
    Program.each blocks (apply_block worker outside run_id phase_id device_id)
  let phase_gates ← Program.lift (gates_of gate_plan phase_id)
  Program.each phase_gates fun gate => do
    if ← _record_gate worker outside run_id gate then pure ()
    else Program.raise (WorkerError "Operational gate failed")

/-- Commit the success of the run, then the reservation of its plan. -/
def commit_apply (run : RunRow) (artifact : Value) : Apply platform derive_fabric_intent start RunRow := do
  let artifact_hash := (← Program.lift (artifact.item "artifact_hash")).toStr
  let owned_state ← Program.lift (artifact.item "owned_state")
  let detail ← Program.read fun state => Value.dict [
    ("changed_devices", .list ((sortedTexts state.changed_devices).map .str)),
    ("changed_external_systems",
      if state.ise_adapter ∧ outside.ise_has_changes state.trace then .list [.str "ise"]
      else .list [])]
  let updated ← complete_apply outside run_id artifact_hash owned_state worker.actor detail
  let plan_record ← get_plan run.plan_id
  match given plan_record.reservation_id with
  | some reservation_id =>
    let _ ← transition_design_reservation outside reservation_id .committed worker.actor false
    return updated
  | none => return updated

/-- The body of the `try` statement of `process_apply`. -/
def apply_transaction (run : RunRow) (plan artifact : Value) (devices : List (String × Value))
    (gate_plan : List Value) (ise_manifest : Option Value) :
    Apply platform derive_fabric_intent start ApplyResult := do
  connect_devices outside devices
  prepare_ise worker outside run_id ise_manifest
  let prechecks ← Program.lift (gates_of gate_plan "precheck")
  match ← run_prechecks worker outside run_id prechecks with
  | some updated => return ⟨false, updated, false, none⟩
  | none =>
    create_checkpoints worker outside run_id
    let artifact_devices ← Program.lift (artifact.item "devices")
    let phases ← Program.lift (ordered_phases plan)
    let device_ids ← Program.lift do
      return sortedTexts ((← artifact_devices.pairs).map Prod.fst)
    Program.each phases
      (apply_phase worker outside run_id gate_plan ise_manifest artifact_devices device_ids)
    if ← Program.read fun state => state.ise_adapter && !state.ise_applied then
      Program.raise (WorkerError "ISE manifest was not bound to the policy_plane phase")
    else
      let updated ← commit_apply worker outside run_id run artifact
      return ⟨true, updated, false, none⟩

/-! ## The exception handler -/

/-- A rollback failure in the detail of the final status. -/
def rollback_failure (key name : String) (exception : Raised) : Value :=
  .dict [(key, .str name), ("error_type", .str exception.type_name)]

/-- Roll one device back to its checkpoint. -/
def roll_back_device (device_id : String) : Apply platform derive_fabric_intent start Unit := do
  adapter device_id
  match ← Program.read fun state => assoc.lookup device_id state.checkpoints with
  | none => Program.raise (KeyError device_id)
  | some checkpoint =>
    let result ← call outside (.rollback device_id checkpoint)
    let verified ← Program.lift (result.get "verified")
    if Value.optTruthy verified then
      add_evidence outside run_id "rollback" "configure_replace" result worker.actor device_id
    else Program.raise (WorkerError "Rollback did not return verified evidence")

/-- Roll the ISE executor back. -/
def roll_back_ise (ise_manifest : Option Value) : Apply platform derive_fabric_intent start Unit := do
  let result ← call outside .ise_rollback
  let verified ← Program.lift (result.get "verified")
  if Value.optTruthy verified then
    let device_id := (← Program.lift ((ise_manifest.getD .null).item "write_node_id")).toStr
    add_evidence outside run_id "rollback" "ise_ers_rollback" result worker.actor device_id
  else Program.raise (WorkerError "ISE rollback did not return verified evidence")

/-- Roll back device after device; a failure is noted and the next device is tried. -/
def roll_back_devices : List String → Apply platform derive_fabric_intent start (List Value)
  | [] => pure []
  | device_id :: rest => do
    let outcome ← (roll_back_device worker outside run_id device_id).attempt
    let failures ← roll_back_devices rest
    match outcome with
    | .ok _ => return failures
    | .error exception => return rollback_failure "device_id" device_id exception :: failures

/-- The rollback of everything the run touched: the failures. -/
def roll_back (ise_manifest : Option Value) (ise_has_changes : Bool) :
    Apply platform derive_fabric_intent start (List Value) := do
  let targets ← Program.read fun state =>
    (if state.changed_devices = [] then sortedTexts (state.checkpoints.map Prod.fst)
      else state.changed_devices).reverse
  let failures ← roll_back_devices worker outside run_id targets
  if ise_has_changes then
    match ← (roll_back_ise worker outside run_id ise_manifest).attempt with
    | .ok _ => return failures
    | .error exception => return failures ++ [rollback_failure "external_system" "ise" exception]
  else return failures

/-- The `except` clause of `process_apply`. -/
def handle_failure (run : RunRow) (ise_manifest : Option Value) (exception : Raised) :
    Apply platform derive_fabric_intent start ApplyResult := do
  let ise_has_changes ← Program.read fun state =>
    state.ise_adapter && outside.ise_has_changes state.trace
  let has_checkpoints ← Program.read fun state => !state.checkpoints.isEmpty
  if has_checkpoints || ise_has_changes then
    let _ ← transition_run outside run_id .rollback_running worker.actor
      (.dict [("failure_type", .str exception.type_name)])
    let failures ← roll_back worker outside run_id ise_manifest ise_has_changes
    let final := if failures.isEmpty then RunStatus.rolled_back else .rollback_failed
    let updated ← transition_run outside run_id final worker.actor
      (.dict [("rollback_failures", .list failures)])
    let plan_record ← get_plan run.plan_id
    let result : ApplyResult := ⟨false, updated, failures.isEmpty, some exception.type_name⟩
    match given plan_record.reservation_id with
    | some reservation_id =>
      let _ ← transition_design_reservation outside reservation_id
        (if failures.isEmpty then .released else .quarantined) worker.actor failures.isEmpty
      return result
    | none => return result
  else
    let updated ← transition_run outside run_id .apply_failed worker.actor
      (.dict [("failure_type", .str exception.type_name)])
    return ⟨false, updated, false, some exception.type_name⟩

/-- The `finally` clause of `process_apply`. -/
def close_adapters : Apply platform derive_fabric_intent start Unit := do
  let connected ← Program.read fun state => state.adapters
  Program.each connected fun device_id => do
    let _ ← call outside (.close device_id)
  if ← Program.read fun state => state.ise_adapter then
    let _ ← call outside .ise_close

/-- The `try` statement of `process_apply`. -/
def guarded_transaction (run : RunRow) (plan artifact : Value) (devices : List (String × Value))
    (gate_plan : List Value) (ise_manifest : Option Value) :
    Apply platform derive_fabric_intent start ApplyResult := do
  let outcome ← (do
    match ← (apply_transaction worker outside run_id run plan artifact devices gate_plan
        ise_manifest).attempt with
    | .ok result => return result
    | .error exception =>
      handle_failure worker outside run_id run ise_manifest exception).attempt
  close_adapters outside
  Program.lift outcome

/-- `process_apply(run_id, intent, plan, artifact, allowed_blocker_codes)`. -/
def process_apply (intent plan artifact : Value) (allowed_blocker_codes : Option (List String)) :
    Apply platform derive_fabric_intent start ApplyResult := do
  let run ← get_run run_id
  if run.mode ≠ .apply ∨ run.status ≠ .apply_queued then
    Program.raise (ConflictError "Run is not queued for apply")
  else
    Program.lift (check_binding platform run plan artifact)
    let unresolved_blocker_codes ← Program.lift do
      _unresolved_blocker_codes (← artifact.get "blocking_requirements") allowed_blocker_codes
    if unresolved_blocker_codes ≠ [] then
      let updated ← transition_run outside run_id .apply_failed worker.actor
        (.dict [
          ("reason", .str "artifact_has_blocking_requirements"),
          ("unresolved_blocker_codes", .list (unresolved_blocker_codes.map .str))])
      return ⟨false, updated, false, none⟩
    else
      let devices ← Program.lift (device_map intent artifact)
      let gate_plan ← Program.lift (worker.build_gate_plan intent artifact)
      let ise_manifest ← Program.lift (ise_manifest_of artifact)
      _preflight_secret_sweep worker outside intent artifact
      let _ ← transition_run outside run_id .apply_running worker.actor (.dict [])
      guarded_transaction worker outside run_id run plan artifact devices gate_plan ise_manifest

end Parts

end orchestrator.worker
