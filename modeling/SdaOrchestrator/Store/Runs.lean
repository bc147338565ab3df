import SdaOrchestrator.Store.Tables

open python

namespace orchestrator.store

/-! ## Approvals -/

/-- The decision texts `record_approval` accepts. -/
def Decision.parse : String → Py Decision
  | "approved" => .ok .approved
  | "rejected" => .ok .rejected
  | _ => .error (ValueError "decision must be approved or rejected")

def record_approval (platform : Platform) (plan_id decision approver change_reference : String)
    (expires_at : String) (ambient : Ambient) (store : Store) : Py (ApprovalRow × Store) := do
  let decision ← Decision.parse decision
  raise_if (strip change_reference = "") (ValueError "change_reference is required")
  let expiry ← platform.parse_timestamp expires_at
  raise_if (expiry ≤ ambient.utc_now 0) (ValueError "expires_at must be in the future")
  let plan ← require (store.find_plan plan_id) (NotFoundError "Plan not found")
  raise_if (plan.created_by = approver) (ConflictError "Planner cannot approve their own plan")
  raise_if (plan.artifact_hash = "") (ConflictError "Plan has no bound rendered artifact")
  let approval_id := "approval_" ++ ambient.uuid4_hex 0
  raise_if (store.approvals.any fun row => row.approval_id = approval_id)
    (IntegrityError "approvals.approval_id")
  let row : ApprovalRow := {
    approval_id, plan_id
    plan_hash := plan.plan_hash
    artifact_hash := plan.artifact_hash
    intent_version := plan.intent_version
    decision, approver
    change_reference := strip change_reference
    expires_at := isoformat expiry
    created_at := isoformat (ambient.utc_now 1) }
  let payload : Value := .dict [
    ("approval_id", .str approval_id),
    ("plan_hash", .str plan.plan_hash),
    ("artifact_hash", .str plan.artifact_hash),
    ("intent_version", .str plan.intent_version),
    ("change_reference", .str (strip change_reference)),
    ("expires_at", .str (isoformat expiry))]
  let inserted := { store with approvals := store.approvals ++ [row] }
  return (row,
    inserted._append_audit platform "plan" plan_id ("plan." ++ decision.text) approver payload
      (ambient.utc_now 2) (ambient.uuid4_hex 1))

/-- `SELECT ... WHERE plan_id = ? ORDER BY created_at DESC LIMIT 1`: the first row of
the latest timestamp text. -/
def Store.latest_approval (store : Store) (plan_id : String) : Option ApprovalRow :=
  (store.approvals.filter fun row => row.plan_id = plan_id).foldl
    (fun best row =>
      match best with
      | some found => if found.created_at < row.created_at then some row else some found
      | none => some row)
    none

def _active_approval (platform : Platform) (plan_id : String) (now : Datetime) (store : Store) :
    Py ApprovalRow := do
  match store.latest_approval plan_id with
  | some row =>
    raise_if (row.decision ≠ .approved) (ApprovalRequiredError "A current approval is required")
    raise_if ((← platform.parse_timestamp row.expires_at) ≤ now)
      (ApprovalRequiredError "The plan approval has expired")
    return row
  | none => .error (ApprovalRequiredError "A current approval is required")

/-! ## Runs -/

/-- The mode texts `create_run` accepts. -/
def Mode.parse : String → Py Mode
  | "dry_run" => .ok .dry_run
  | "apply" => .ok .apply
  | _ => .error (ValueError "mode must be dry_run or apply")

/-- The maintenance window of an apply request, open at the clock reading. -/
def maintenance_window (platform : Platform) (maintenance_start maintenance_end : Option String)
    (now : Datetime) : Py (Datetime × Datetime) := do
  match maintenance_start, maintenance_end with
  | some start_text, some end_text =>
    raise_if (start_text = "" || end_text = "")
      (MaintenanceWindowError "Apply requires a maintenance window")
    let start ← platform.parse_timestamp start_text
    let stop ← platform.parse_timestamp end_text
    raise_if (stop ≤ start) (MaintenanceWindowError "Maintenance window end must follow start")
    raise_if (¬ (start ≤ now ∧ now ≤ stop))
      (MaintenanceWindowError "Current time is outside the maintenance window")
    return (start, stop)
  | _, _ => .error (MaintenanceWindowError "Apply requires a maintenance window")

/-- Only an apply request has a maintenance window. -/
def requested_window (platform : Platform) (mode : Mode)
    (maintenance_start maintenance_end : Option String) (now : Datetime) :
    Py (Option (Datetime × Datetime)) :=
  match mode with
  | .apply => (maintenance_window platform maintenance_start maintenance_end now).map some
  | .dry_run => .ok none

/-- The status a new run is stored with. -/
def Mode.queued : Mode → RunStatus
  | .dry_run => .dry_run_queued
  | .apply => .apply_queued

/-- The fabric lock of a new apply run: an existing lock is never taken over. -/
def take_fabric_lock (platform : Platform) (mode : Mode) (fabric_id run_id created_at : String)
    (lock_ttl_seconds : Int) (now : Datetime) (store : Store) : Py Store :=
  match mode with
  | .dry_run => .ok store
  | .apply => do
    raise_if (store.fabric_locks.any fun row => row.fabric_id = fabric_id)
      (ConflictError "Fabric is locked by another active run")
    let lock : FabricLockRow := {
      fabric_id, run_id
      acquired_at := created_at
      expires_at := isoformat (platform.seconds_after now lock_ttl_seconds) }
    return { store with fabric_locks := store.fabric_locks ++ [lock] }

def create_run (platform : Platform) (plan_id mode idempotency_key requested_by : String)
    (execution_enabled : Bool) (maintenance_start maintenance_end : Option String)
    (lock_ttl_seconds : Int) (ambient : Ambient) (store : Store) :
    Py ((RunRow × Bool) × Store) := do
  let mode ← Mode.parse mode
  raise_if (len (strip idempotency_key) < 12)
    (ValueError "idempotency_key must contain at least 12 characters")
  raise_if (mode = .apply && !execution_enabled)
    (ExecutionDisabledError "Apply execution is disabled")
  let idempotency_key_hash := platform.sha256 (chars (strip idempotency_key))
  let window ← requested_window platform mode maintenance_start maintenance_end (ambient.utc_now 0)
  let plan ← require (store.find_plan plan_id) (NotFoundError "Plan not found")
  match store.runs.find? fun row => row.idempotency_key_hash = idempotency_key_hash with
  | some existing =>
    raise_if (existing.plan_id ≠ plan_id || existing.mode ≠ mode)
      (ConflictError "Idempotency key is already bound to another request")
    return ((existing, false), store)
  | none =>
    let approval ← _active_approval platform plan_id (ambient.utc_now 1) store
    raise_if (approval.plan_hash ≠ plan.plan_hash)
      (ApprovalRequiredError "Approval does not match the stored plan hash")
    raise_if (approval.artifact_hash ≠ plan.artifact_hash)
      (ApprovalRequiredError "Approval does not match the rendered artifact hash")
    raise_if (approval.intent_version ≠ plan.intent_version)
      (ApprovalRequiredError "Approval does not match the intent version")
    let run_id := "run_" ++ ambient.uuid4_hex 0
    raise_if (store.find_run run_id).isSome (IntegrityError "runs.run_id")
    let created_at := isoformat (ambient.utc_now 2)
    let row : RunRow := {
      run_id, plan_id
      plan_hash := plan.plan_hash
      artifact_hash := plan.artifact_hash
      intent_version := plan.intent_version
      fabric_id := plan.fabric_id
      idempotency_key_hash, mode
      status := mode.queued
      requested_by
      maintenance_start := window.map fun w => isoformat w.1
      maintenance_end := window.map fun w => isoformat w.2
      created_at
      updated_at := created_at }
    let inserted := { store with runs := store.runs ++ [row] }
    let locked ← take_fabric_lock platform mode plan.fabric_id run_id created_at lock_ttl_seconds
      (ambient.utc_now 3) inserted
    let payload : Value := .dict [
      ("plan_id", .str plan_id),
      ("plan_hash", .str plan.plan_hash),
      ("artifact_hash", .str plan.artifact_hash),
      ("intent_version", .str plan.intent_version),
      ("fabric_id", .str plan.fabric_id),
      ("mode", .str mode.text),
      ("status", .str mode.queued.text),
      ("approval_id", .str approval.approval_id),
      ("idempotency_key_hash", .str idempotency_key_hash)]
    return ((row, true),
      locked._append_audit platform "run" run_id "run.created" requested_by payload
        (ambient.utc_now 4) (ambient.uuid4_hex 1))

def get_run (run_id : String) (store : Store) : Py RunRow :=
  require (store.find_run run_id) (NotFoundError "Run not found")

/-- `UPDATE runs SET status = ?, updated_at = ? WHERE run_id = ?`. -/
def set_run_status (run_id : String) (status : RunStatus) (updated_at : String)
    (runs : List RunRow) : List RunRow :=
  table.update RunRow.run_id run_id (fun row => { row with status, updated_at }) runs

/-- `DELETE FROM fabric_locks WHERE run_id = ?`. -/
def release_fabric_lock (run_id : String) (fabric_locks : List FabricLockRow) :
    List FabricLockRow :=
  fabric_locks.filter fun row => row.run_id ≠ run_id

/-- The payload of a `run.status_changed` event. -/
def status_changed (source target : RunStatus) (detail : Value) : Value :=
  .dict [("from", .str source.text), ("to", .str target.text), ("detail", detail)]

def transition_run (platform : Platform) (run_id : String) (new_status : RunStatus) (actor : String)
    (detail : Value) (ambient : Ambient) (store : Store) : Py (RunRow × Store) := do
  let run ← require (store.find_run run_id) (NotFoundError "Run not found")
  raise_if (new_status ∉ transition_run.allowed run.status)
    (ConflictError
      ("Invalid run transition from " ++ run.status.text ++ " to " ++ new_status.text))
  let updated_at := isoformat (ambient.utc_now 0)
  let updated := { store with
    runs := set_run_status run_id new_status updated_at store.runs
    fabric_locks :=
      if new_status ∈ transition_run.terminal then release_fabric_lock run_id store.fabric_locks
      else store.fabric_locks }
  return ({ run with status := new_status, updated_at },
    updated._append_audit platform "run" run_id "run.status_changed" actor
      (status_changed run.status new_status detail) (ambient.utc_now 1) (ambient.uuid4_hex 0))

/-! ## What the operations do to the core tables -/

theorem record_approval_core {platform : Platform} {plan_id decision approver : String}
    {change_reference expires_at : String} {ambient : Ambient} {store next : Store}
    {row : ApprovalRow}
    (hresult : record_approval platform plan_id decision approver change_reference expires_at ambient
      store = .ok (row, next)) : next.core = store.core := by
  simp only [record_approval, bind_eq_ok_iff, raise_if_eq_ok, require_eq_ok, pure_eq_ok_iff,
    Prod.mk.injEq] at hresult
  obtain ⟨_, _, _, _, _, _, _, _, _, _, _, _, _, _, _, _, _, rfl⟩ := hresult
  rfl

/-- A new run is queued, under a fresh id, for a stored plan. -/
structure NewRun (store : Store) (row : RunRow) : Prop where
  fresh : store.find_run row.run_id = none
  plan : ∃ plan, store.find_plan row.plan_id = some plan
  queued : row.status = row.mode.queued

theorem take_fabric_lock_core {platform : Platform} {mode : Mode}
    {fabric_id run_id created_at : String} {lock_ttl_seconds : Int} {now : Datetime}
    {store next : Store}
    (hresult : take_fabric_lock platform mode fabric_id run_id created_at lock_ttl_seconds now store =
      .ok next) : next.core = { store.core with fabric_locks := next.fabric_locks } := by
  cases mode with
  | dry_run =>
    cases hresult
    rfl
  | apply =>
    simp only [take_fabric_lock, raise_if_bind_eq_ok_iff, pure_eq_ok_iff] at hresult
    obtain ⟨-, rfl⟩ := hresult
    rfl

/-- `create_run` answers from an existing run or stores one new run. -/
theorem create_run_core {platform : Platform} {plan_id mode idempotency_key requested_by : String}
    {execution_enabled : Bool} {maintenance_start maintenance_end : Option String}
    {lock_ttl_seconds : Int} {ambient : Ambient} {store next : Store} {row : RunRow} {created : Bool}
    (hresult : create_run platform plan_id mode idempotency_key requested_by execution_enabled
      maintenance_start maintenance_end lock_ttl_seconds ambient store = .ok ((row, created), next)) :
    next = store ∨ NewRun store row ∧ ∃ fabric_locks,
      next.core = { store.core with runs := store.runs ++ [row], fabric_locks } := by
  simp only [create_run, bind_eq_ok_iff, raise_if_eq_ok, require_eq_ok] at hresult
  obtain ⟨parsed, -, _, -, _, -, window, -, plan, hplan, hresult⟩ := hresult
  split at hresult
  · simp only [bind_eq_ok_iff, raise_if_eq_ok, pure_eq_ok_iff, Prod.mk.injEq] at hresult
    obtain ⟨_, -, -, rfl⟩ := hresult
    exact .inl rfl
  · simp only [bind_eq_ok_iff, raise_if_eq_ok, pure_eq_ok_iff, Prod.mk.injEq] at hresult
    obtain ⟨approval, -, _, -, _, -, _, -, _, hfresh, locked, hlocked, ⟨rfl, -⟩, rfl⟩ := hresult
    refine .inr ⟨⟨?_, ⟨plan, hplan⟩, rfl⟩, locked.fabric_locks, ?_⟩
    · simpa using hfresh
    · rw [append_audit_core, take_fabric_lock_core hlocked]
      rfl

/-- `transition_run` moves one stored run along the table. -/
theorem transition_run_core {platform : Platform} {run_id : String} {new_status : RunStatus}
    {actor : String} {detail : Value} {ambient : Ambient} {store next : Store} {row : RunRow}
    (hresult : transition_run platform run_id new_status actor detail ambient store = .ok (row, next)) :
    ∃ run updated_at fabric_locks, store.find_run run_id = some run ∧
      new_status ∈ transition_run.allowed run.status ∧
      next.core = { store.core with
        runs := set_run_status run_id new_status updated_at store.runs, fabric_locks } := by
  simp only [transition_run, bind_eq_ok_iff, raise_if_eq_ok, require_eq_ok, pure_eq_ok_iff,
    Prod.mk.injEq, decide_eq_false_iff_not, not_not] at hresult
  obtain ⟨run, hfind, _, hallowed, -, rfl⟩ := hresult
  exact ⟨run, _, _, hfind, hallowed, rfl⟩

end orchestrator.store
