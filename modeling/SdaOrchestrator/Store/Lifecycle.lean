namespace orchestrator.store

/-- The status column of a run. -/
inductive RunStatus where
  | dry_run_queued
  | dry_run_running
  | dry_run_succeeded
  | dry_run_blocked
  | dry_run_failed
  | apply_queued
  | apply_running
  | apply_succeeded
  | apply_failed
  | rollback_running
  | rolled_back
  | rollback_failed
  deriving DecidableEq, Repr

/-- The state column of a design reservation and of its allocation rows. -/
inductive ReservationState where
  | reserved
  | committed
  | quarantined
  | released
  deriving DecidableEq, Repr

def RunStatus.text : RunStatus → String
  | .dry_run_queued => "dry_run_queued"
  | .dry_run_running => "dry_run_running"
  | .dry_run_succeeded => "dry_run_succeeded"
  | .dry_run_blocked => "dry_run_blocked"
  | .dry_run_failed => "dry_run_failed"
  | .apply_queued => "apply_queued"
  | .apply_running => "apply_running"
  | .apply_succeeded => "apply_succeeded"
  | .apply_failed => "apply_failed"
  | .rollback_running => "rollback_running"
  | .rolled_back => "rolled_back"
  | .rollback_failed => "rollback_failed"

def ReservationState.text : ReservationState → String
  | .reserved => "reserved"
  | .committed => "committed"
  | .quarantined => "quarantined"
  | .released => "released"

/-- `state IN ('reserved','committed','quarantined')`. -/
def ReservationState.active : ReservationState → Bool
  | .released => false
  | _ => true

/-- The `allowed` table of `transition_run`; a status without an entry allows nothing. -/
def transition_run.allowed : RunStatus → List RunStatus
  | .dry_run_queued => [.dry_run_running, .dry_run_failed]
  | .dry_run_running => [.dry_run_succeeded, .dry_run_blocked, .dry_run_failed]
  | .apply_queued => [.apply_running, .apply_failed]
  | .apply_running => [.apply_succeeded, .apply_failed, .rollback_running]
  | .rollback_running => [.rolled_back, .rollback_failed]
  | _ => []

/-- The `terminal` set of `transition_run`. -/
def transition_run.terminal : List RunStatus :=
  [.dry_run_succeeded, .dry_run_blocked, .dry_run_failed, .apply_succeeded, .apply_failed,
    .rolled_back, .rollback_failed]

/-- The `allowed` table of `transition_design_reservation`. -/
def transition_design_reservation.allowed : ReservationState → List ReservationState
  | .reserved => [.committed, .released, .quarantined]
  | .committed => [.released, .quarantined]
  | .quarantined => [.released]
  | .released => []

/-- The states a caller may ask `transition_design_reservation` for. -/
def transition_design_reservation.supported : List ReservationState :=
  [.committed, .released, .quarantined]

/-- How far along its lifecycle a run is: no status comes back. -/
def RunStatus.rank : RunStatus → Nat
  | .dry_run_queued | .apply_queued => 0
  | .dry_run_running | .apply_running => 1
  | .rollback_running => 2
  | _ => 3

def ReservationState.rank : ReservationState → Nat
  | .reserved => 0
  | .committed => 1
  | .quarantined => 2
  | .released => 3

theorem run_rank_lt (source : RunStatus) :
    ∀ target ∈ transition_run.allowed source, source.rank < target.rank := by
  cases source <;> decide

theorem reservation_rank_lt (source : ReservationState) :
    ∀ target ∈ transition_design_reservation.allowed source, source.rank < target.rank := by
  cases source <;> decide

/-- A status is terminal exactly when the table allows nothing out of it. -/
theorem terminal_iff_allowed_nil (status : RunStatus) :
    status ∈ transition_run.terminal ↔ transition_run.allowed status = [] := by
  cases status <;> decide

theorem not_active_iff (state : ReservationState) : state.active = false ↔ state = .released := by
  cases state <;> decide

end orchestrator.store
