import SdaOrchestrator.Lib.LockedLog
import SdaOrchestrator.Store.AuditChain

open python orchestrator.store hash_chain

namespace orchestrator.postgres_store

/-- What JSONB and TIMESTAMPTZ columns give back: an equal JSON value and the same
instant. -/
structure Columns where
  jsonb : Value → Value
  timestamptz : String → Datetime
  equal_json : ∀ value, (jsonb value).canonical_json = value.canonical_json
  same_instant : ∀ value, timestamptz (isoformat value) = value

/-- A row of `audit_events`; the position is its sequence number. -/
structure AuditRow where
  event_id : String
  aggregate_type : String
  aggregate_id : String
  event_type : String
  actor : String
  payload : Value
  previous_hash : String
  event_hash : String
  created_at : Datetime

/-- The arguments of one `_append_audit`, its clock reading and its identifier. -/
structure Append where
  aggregate_type : String
  aggregate_id : String
  event_type : String
  actor : String
  payload : Value
  now : Datetime
  uuid4_hex : String

/-- The event that `_append_audit` hashes after it read the previous hash. -/
def Append.event (append : Append) (platform : Platform) (previous_hash : String) : AuditEvent :=
  let event : AuditEvent := {
    event_id := "evt_" ++ append.uuid4_hex
    aggregate_type := append.aggregate_type
    aggregate_id := append.aggregate_id
    event_type := append.event_type
    actor := append.actor
    payload := append.payload
    previous_hash
    event_hash := ""
    created_at := isoformat append.now }
  { event with event_hash := platform.sha256_json event.body }

/-- The row that the INSERT leaves. -/
def insert_row (columns : Columns) (platform : Platform) (append : Append) (previous_hash : String) :
    AuditRow :=
  let event := append.event platform previous_hash
  { event_id := event.event_id
    aggregate_type := event.aggregate_type
    aggregate_id := event.aggregate_id
    event_type := event.event_type
    actor := event.actor
    payload := columns.jsonb event.payload
    previous_hash := event.previous_hash
    event_hash := event.event_hash
    created_at := columns.timestamptz event.created_at }

/-- A row as `verify_audit_chain` reads it, with `database_timestamp(row["created_at"])`. -/
def AuditRow.event (row : AuditRow) : AuditEvent where
  event_id := row.event_id
  aggregate_type := row.aggregate_type
  aggregate_id := row.aggregate_id
  event_type := row.event_type
  actor := row.actor
  payload := row.payload
  previous_hash := row.previous_hash
  event_hash := row.event_hash
  created_at := isoformat row.created_at

/-- Every schedule of the statements of transactions that append events: each append
takes the advisory lock, reads the last hash and inserts its row, and the lock is
released when its transaction commits or rolls back. -/
abbrev AuditSchedule (columns : Columns) (platform : Platform)
    (schedule : List ((Nat × locked_log.Statement Append) × locked_log.Log AuditRow String)) : Prop :=
  transition.Run
    (fun log label next => locked_log.exec (insert_row columns platform) AuditRow.event_hash "GENESIS" log
      label = some next)
    locked_log.Log.initial schedule

section Schedules

variable {columns : Columns} {platform : Platform}

/-- A row is read back as the event that was inserted, but for its payload. -/
theorem event_insert_row (append : Append) (previous_hash : String) :
    (insert_row columns platform append previous_hash).event =
      (append.event platform previous_hash).read_back columns.jsonb := by
  simp [insert_row, AuditRow.event, AuditEvent.read_back, Append.event, columns.same_instant]

theorem digest_insert_row (append : Append) (previous_hash : String) :
    platform.sha256_json (insert_row columns platform append previous_hash).event.body =
      (insert_row columns platform append previous_hash).event_hash := by
  rw [event_insert_row, sha256_json_body_read_back (columns.equal_json _)]
  rfl

/-- In every interleaving the committed rows form one chain. -/
theorem committed_chained
    {schedule : List ((Nat × locked_log.Statement Append) × locked_log.Log AuditRow String)}
    (hrun : AuditSchedule columns platform schedule) :
    ∀ log ∈ transition.visited locked_log.Log.initial schedule,
      Chained platform "GENESIS" ((locked_log.ordered log.committed).map AuditRow.event) := by
  intro log hlog
  have hvalid : Valid AuditRow.previous_hash AuditRow.event_hash
      (fun row => platform.sha256_json row.event.body) "GENESIS" (locked_log.ordered log.committed) :=
    locked_log.committed_valid (fun _ _ => rfl) digest_insert_row hrun log hlog
  exact (valid_map (fun _ => rfl) (fun _ => rfl) (fun _ => rfl)).mpr hvalid

end Schedules

/-- After every sequence of store operations, and in every interleaving of transactions
on PostgreSQL, the audit chain verifies and every event records the hash of the event with
the next lower sequence number. -/
theorem audit_chain_valid (platform : Platform) (derive_fabric_intent : Derive) :
    (∀ calls, verify_audit_chain platform (after_calls platform derive_fabric_intent calls).audit_events ∧
      Linked (after_calls platform derive_fabric_intent calls).audit_events) ∧
    ∀ columns schedule, AuditSchedule columns platform schedule →
      ∀ log ∈ transition.visited locked_log.Log.initial schedule,
        verify_audit_chain platform ((locked_log.ordered log.committed).map AuditRow.event) ∧
          Linked ((locked_log.ordered log.committed).map AuditRow.event) := by
  refine ⟨fun calls => ?_, fun columns schedule hrun log hlog => ?_⟩
  · have hchained : Chained platform "GENESIS" (after_calls platform derive_fabric_intent calls).audit_events :=
      chained_after_calls calls
    exact ⟨verify_rows_iff.mpr hchained, hchained.linked⟩
  · have hchained := committed_chained hrun log hlog
    exact ⟨verify_rows_iff.mpr hchained, hchained.linked⟩

end orchestrator.postgres_store
