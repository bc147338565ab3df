import SdaOrchestrator.Api.Calls
import SdaOrchestrator.Store.AuditChain

open python threads orchestrator.store

/-! The rows of the store as the documents that it hands out. -/

namespace orchestrator.store

/-- `get_intent(intent_id)`. -/
def get_intent (intent_id : String) (store : Store) : Py IntentRow :=
  require (store.find_intent intent_id) (NotFoundError "Intent not found")

def IntentRow.record (row : IntentRow) : List (String × Value) := [
  ("intent_id", .str row.intent_id),
  ("intent_hash", .str row.intent_hash),
  ("fabric_id", .str row.fabric_id),
  ("environment", .str row.environment),
  ("created_at", .str row.created_at),
  ("created_by", .str row.created_by),
  ("document", row.document)]

def PlanRow.record (row : PlanRow) : List (String × Value) := [
  ("plan_id", .str row.plan_id),
  ("plan_hash", .str row.plan_hash),
  ("artifact_hash", .str row.artifact_hash),
  ("intent_version", .str row.intent_version),
  ("reservation_id", Value.ofOption row.reservation_id),
  ("intent_id", .str row.intent_id),
  ("fabric_id", .str row.fabric_id),
  ("created_at", .str row.created_at),
  ("created_by", .str row.created_by),
  ("document", row.document)]

def ApprovalRow.record (row : ApprovalRow) : List (String × Value) := [
  ("approval_id", .str row.approval_id),
  ("plan_id", .str row.plan_id),
  ("plan_hash", .str row.plan_hash),
  ("artifact_hash", .str row.artifact_hash),
  ("intent_version", .str row.intent_version),
  ("decision", .str row.decision.text),
  ("approver", .str row.approver),
  ("change_reference", .str row.change_reference),
  ("expires_at", .str row.expires_at),
  ("created_at", .str row.created_at)]

def RunRow.record (row : RunRow) : List (String × Value) := [
  ("run_id", .str row.run_id),
  ("plan_id", .str row.plan_id),
  ("plan_hash", .str row.plan_hash),
  ("artifact_hash", .str row.artifact_hash),
  ("intent_version", .str row.intent_version),
  ("fabric_id", .str row.fabric_id),
  ("idempotency_key_hash", .str row.idempotency_key_hash),
  ("mode", .str row.mode.text),
  ("status", .str row.status.text),
  ("requested_by", .str row.requested_by),
  ("maintenance_start", Value.ofOption row.maintenance_start),
  ("maintenance_end", Value.ofOption row.maintenance_end),
  ("created_at", .str row.created_at),
  ("updated_at", .str row.updated_at)]

def EvidenceRow.record (row : EvidenceRow) : List (String × Value) := [
  ("evidence_id", .str row.evidence_id),
  ("run_id", .str row.run_id),
  ("phase_id", .str row.phase_id),
  ("device_id", Value.ofOption row.device_id),
  ("evidence_type", .str row.evidence_type),
  ("payload_hash", .str row.payload_hash),
  ("created_at", .str row.created_at),
  ("created_by", .str row.created_by),
  ("payload", row.payload)]

def AuditEvent.record (sequence : Nat) (row : AuditEvent) : List (String × Value) := [
  ("sequence", .int sequence),
  ("event_id", .str row.event_id),
  ("aggregate_type", .str row.aggregate_type),
  ("aggregate_id", .str row.aggregate_id),
  ("event_type", .str row.event_type),
  ("actor", .str row.actor),
  ("previous_hash", .str row.previous_hash),
  ("event_hash", .str row.event_hash),
  ("created_at", .str row.created_at),
  ("payload", row.payload)]

/-- `run_evidence(run_id)`. -/
def run_evidence (run_id : String) (store : Store) : List EvidenceRow :=
  sortedBy (fun row => toLex (row.created_at, row.evidence_id)) (store.evidence.filter fun row => row.run_id = run_id)

/-- `audit_events(aggregate_type, aggregate_id)`, with the sequence numbers. -/
def audit_events (aggregate_type aggregate_id : String) (current : Store) : List (Nat × AuditEvent) :=
  (current.audit_events.zipIdx 1).filterMap fun (row, sequence) =>
    if row.aggregate_type = aggregate_type ∧ row.aggregate_id = aggregate_id then some (sequence, row) else none

/-- How many runs are in each status, in the order of the statuses. -/
def run_status_counts (store : Store) : List (String × Nat) :=
  (sortedSet (store.runs.map (·.status.text))).map fun status =>
    (status, store.runs.countP fun row => row.status.text = status)

end orchestrator.store
