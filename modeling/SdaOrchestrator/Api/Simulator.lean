import SdaOrchestrator.Api.Records

open python threads orchestrator.store orchestrator.api

namespace orchestrator.simulator

/-- What a dry run has counted so far. -/
structure Counts where
  phase_count : Nat := 0
  command_blocks : Nat := 0
  command_count : Nat := 0

/-- How many commands the blocks of a phase have. -/
def command_count (blocks : List Value) : Py Nat := do
  let counts ← blocks.mapM fun block => do return (← (← block.item "commands").elements).length
  return counts.sum

section Simulator

variable (platform : Platform)

/-- A phase of a device: its counts, and an evidence row with the hashes of its blocks. -/
def simulate_phase (run_id actor : String) (artifact : Value) (device_id : String) (counts : Counts) (phase : Value) :
    Call Counts := do
  let blocks ← (← phase.item "blocks").elements
  let command_count ← command_count blocks
  let phase_id ← phase.item "phase_id"
  let artifact_hash ← artifact.item "artifact_hash"
  let block_hashes ← (blocks.mapM (·.item "command_hash") : Py (List Value))
  let payload : Value := .dict [
    ("artifact_hash", artifact_hash),
    ("device_id", .str device_id),
    ("phase_id", phase_id),
    ("block_hashes", .list block_hashes),
    ("block_count", .int blocks.length),
    ("command_count", .int command_count),
    ("contains_secret_values", .bool false)]
  let _row ← transact (add_evidence platform run_id phase_id.toStr "rendered_configuration" payload actor (some device_id))
  return {
    phase_count := counts.phase_count + 1
    command_blocks := counts.command_blocks + blocks.length
    command_count := counts.command_count + command_count }

/-- The phases of a device. -/
def simulate_device (run_id actor : String) (artifact : Value) (counts : Counts) (device : String × Value) :
    Call Counts := do
  let phases ← (← device.2.item "phases").elements
  phases.foldlM (simulate_phase platform run_id actor artifact device.1) counts

/-- The part of a dry run that may fail: every device, the summary, and the final status. -/
def simulate (run_id actor : String) (artifact : Value) : Call Value := do
  let devices ← (← artifact.item "devices").pairs
  let counts ← devices.foldlM (simulate_device platform run_id actor artifact) {}
  let blockers ← (← artifact.getD "blocking_requirements" (.list [])).elements
  let summary : Value := .dict [
    ("artifact_hash", ← artifact.item "artifact_hash"),
    ("device_count", .int devices.length),
    ("phase_count", .int counts.phase_count),
    ("command_block_count", .int counts.command_blocks),
    ("command_count", .int counts.command_count),
    ("blocking_requirements", .list blockers)]
  let _row ← transact (add_evidence platform run_id "dry_run_summary" "simulation_summary" summary actor none)
  let final_status := if blockers ≠ [] then RunStatus.dry_run_blocked else RunStatus.dry_run_succeeded
  let updated ← transact (transition_run platform run_id final_status actor summary)
  let evidence ← query fun store => .ok (run_evidence run_id store)
  return .dict [
    ("run", .dict updated.record),
    ("summary", summary),
    ("evidence", .list (evidence.map fun row => .dict row.record))]

/-- A dry run that raises is failed before the exception goes on. -/
def process_dry_run (run_id : String) (artifact : Value) (actor : String) : Call Value := do
  let run ← query (get_run run_id)
  raise_if (run.mode ≠ .dry_run) (ConflictError "Simulator accepts dry_run records only")
  raise_if (run.status ≠ .dry_run_queued) (ConflictError "Dry run is not queued")
  let _running ← transact (transition_run platform run_id .dry_run_running actor (.dict []))
  tryCatch (simulate platform run_id actor artifact) fun exception => do
    let detail : Value := .dict [("error_type", .str exception.type_name)]
    let _failed ← transact (transition_run platform run_id .dry_run_failed actor detail)
    throw exception

end Simulator

end orchestrator.simulator
