import SdaOrchestrator.Lib.Table
import SdaOrchestrator.Store.Platform
import SdaOrchestrator.Store.Lifecycle

open python

namespace orchestrator.store

structure IntentRow where
  intent_id : String
  intent_hash : String
  fabric_id : String
  environment : String
  document : Value
  created_at : String
  created_by : String

structure PlanRow where
  plan_id : String
  plan_hash : String
  artifact_hash : String
  intent_version : String
  reservation_id : Option String
  intent_id : String
  fabric_id : String
  document : Value
  created_at : String
  created_by : String

inductive Decision where
  | approved
  | rejected
  deriving DecidableEq, Repr

def Decision.text : Decision → String
  | .approved => "approved"
  | .rejected => "rejected"

structure ApprovalRow where
  approval_id : String
  plan_id : String
  plan_hash : String
  artifact_hash : String
  intent_version : String
  decision : Decision
  approver : String
  change_reference : String
  expires_at : String
  created_at : String
  deriving DecidableEq

inductive Mode where
  | dry_run
  | apply
  deriving DecidableEq, Repr

def Mode.text : Mode → String
  | .dry_run => "dry_run"
  | .apply => "apply"

structure RunRow where
  run_id : String
  plan_id : String
  plan_hash : String
  artifact_hash : String
  intent_version : String
  fabric_id : String
  idempotency_key_hash : String
  mode : Mode
  status : RunStatus
  requested_by : String
  maintenance_start : Option String
  maintenance_end : Option String
  created_at : String
  updated_at : String
  deriving DecidableEq

structure FabricLockRow where
  fabric_id : String
  run_id : String
  acquired_at : String
  expires_at : String
  deriving DecidableEq

structure EvidenceRow where
  evidence_id : String
  run_id : String
  phase_id : String
  device_id : Option String
  evidence_type : String
  payload : Value
  payload_hash : String
  created_at : String
  created_by : String

structure AuditEvent where
  event_id : String
  aggregate_type : String
  aggregate_id : String
  event_type : String
  actor : String
  payload : Value
  previous_hash : String
  event_hash : String
  created_at : String

structure ReservationRow where
  reservation_id : String
  idempotency_key_hash : String
  requirements_hash : String
  policy_hash : String
  reservation_hash : String
  allocation_domain : String
  fabric_id : String
  state : ReservationState
  intent : Value
  created_at : String
  updated_at : String
  created_by : String

structure NetworkAllocationRow where
  reservation_id : String
  allocation_domain : String
  resource_pool_id : String
  fabric_id : String
  pfx : String
  state : ReservationState
  created_at : String
  updated_at : String
  deriving DecidableEq

structure ScalarAllocationRow where
  reservation_id : String
  allocation_domain : String
  resource_type : String
  fabric_id : String
  value : String
  state : ReservationState
  created_at : String
  updated_at : String
  deriving DecidableEq

inductive SourceType where
  | successful_apply
  | adopted_discovery
  deriving DecidableEq, Repr

def SourceType.text : SourceType → String
  | .successful_apply => "successful_apply"
  | .adopted_discovery => "adopted_discovery"

structure OwnedStateRow where
  fabric_id : String
  manifest_hash : String
  source_type : SourceType
  source_reference : String
  source_artifact_hash : Option String
  evidence_hash : Option String
  manifest : Value
  created_at : String
  created_by : String

/-- The tables of the database, each in insertion order: the position of an audit
event or of an owned-state manifest is its sequence number. -/
structure Store where
  intents : List IntentRow := []
  plans : List PlanRow := []
  approvals : List ApprovalRow := []
  runs : List RunRow := []
  fabric_locks : List FabricLockRow := []
  evidence : List EvidenceRow := []
  audit_events : List AuditEvent := []
  design_reservations : List ReservationRow := []
  network_allocations : List NetworkAllocationRow := []
  scalar_allocations : List ScalarAllocationRow := []
  owned_state_manifests : List OwnedStateRow := []

/-- `row = connection.execute("SELECT ... WHERE ...").fetchone(); if not row: raise`. -/
def require {α : Type} (row : Option α) (exception : Raised) : Py α :=
  match row with
  | some found => .ok found
  | none => .error exception

@[simp] theorem require_eq_ok {α : Type} {row : Option α} {exception : Raised} {found : α} :
    require row exception = .ok found ↔ row = some found := by
  cases row <;> simp [require]

/-- A required row followed by the rest of a function. -/
@[simp] theorem require_bind_eq_ok_iff {α β : Type} {row : Option α} {exception : Raised}
    {f : α → Py β} {y : β} :
    (require row exception >>= f) = .ok y ↔ ∃ found, row = some found ∧ f found = .ok y := by
  simp [bind_eq_ok_iff]

/-! ## Lookups by key -/

def Store.find_intent (store : Store) (intent_id : String) : Option IntentRow :=
  table.lookup IntentRow.intent_id intent_id store.intents

def Store.find_plan (store : Store) (plan_id : String) : Option PlanRow :=
  table.lookup PlanRow.plan_id plan_id store.plans

def Store.find_run (store : Store) (run_id : String) : Option RunRow :=
  table.lookup RunRow.run_id run_id store.runs

def Store.find_reservation (store : Store) (reservation_id : String) : Option ReservationRow :=
  table.lookup ReservationRow.reservation_id reservation_id store.design_reservations

/-! ## The audit chain -/

/-- The previous hash that the next event records. -/
def Store.audit_head (store : Store) : String :=
  match store.audit_events.getLast? with
  | some event => event.event_hash
  | none => "GENESIS"

/-- `_append_audit`, whose clock reading and identifier are its last arguments. -/
def Store._append_audit (platform : Platform) (store : Store)
    (aggregate_type aggregate_id event_type actor : String) (payload : Value) (now : Datetime)
    (uuid4_hex : String) : Store :=
  let previous_hash := store.audit_head
  let created_at := isoformat now
  let event_id := "evt_" ++ uuid4_hex
  let body : Value := .dict [
    ("event_id", .str event_id),
    ("aggregate_type", .str aggregate_type),
    ("aggregate_id", .str aggregate_id),
    ("event_type", .str event_type),
    ("actor", .str actor),
    ("payload", payload),
    ("previous_hash", .str previous_hash),
    ("created_at", .str created_at)]
  let event : AuditEvent := {
    event_id, aggregate_type, aggregate_id, event_type, actor
    payload := payload.stored
    previous_hash
    event_hash := platform.sha256_json body
    created_at }
  { store with audit_events := store.audit_events ++ [event] }

/-! ## The core tables -/

/-- The tables that decide what a run may do and which resources are taken. -/
structure CoreTables where
  plans : List PlanRow
  runs : List RunRow
  fabric_locks : List FabricLockRow
  design_reservations : List ReservationRow
  network_allocations : List NetworkAllocationRow
  scalar_allocations : List ScalarAllocationRow
  owned_state_manifests : List OwnedStateRow

def Store.core (store : Store) : CoreTables where
  plans := store.plans
  runs := store.runs
  fabric_locks := store.fabric_locks
  design_reservations := store.design_reservations
  network_allocations := store.network_allocations
  scalar_allocations := store.scalar_allocations
  owned_state_manifests := store.owned_state_manifests

/-- The status of a run. -/
def CoreTables.run_status (tables : CoreTables) (run_id : String) : Option RunStatus :=
  (table.lookup RunRow.run_id run_id tables.runs).map RunRow.status

/-- The state of a reservation. -/
def CoreTables.reservation_state (tables : CoreTables) (reference : String) :
    Option ReservationState :=
  (table.lookup ReservationRow.reservation_id reference tables.design_reservations).map
    ReservationRow.state

/-- The audit chain is none of the core tables. -/
@[simp] theorem append_audit_core (platform : Platform) (store : Store)
    (aggregate_type aggregate_id event_type actor : String) (payload : Value) (now : Datetime)
    (uuid4_hex : String) :
    (store._append_audit platform aggregate_type aggregate_id event_type actor payload now
      uuid4_hex).core = store.core := rfl

end orchestrator.store
