import SdaOrchestrator.Lib.ReadCommitted
import SdaOrchestrator.Store.Lifecycle

open orchestrator.store read_committed

namespace orchestrator.postgres_store

/-- The concurrent `transition_run` transactions on one run: `new_status tx` is the
argument of transaction `tx`. The SELECT reads the `runs` row without FOR UPDATE,
the test is the `allowed` table, the UPDATE names the row by `run_id` only, and
`_append_audit` takes the advisory lock of the audit chain. -/
def transition_run (new_status : Nat → RunStatus) :
    Row RunStatus → Nat × Statement → Option (Row RunStatus) :=
  exec (fun tx seen => new_status tx ∈ transition_run.allowed seen) new_status

/-- The concurrent `transition_design_reservation` transactions on one reservation,
with the arguments `new_state` and `verified` of each. -/
def transition_design_reservation (new_state : Nat → ReservationState) (verified : Nat → Bool) :
    Row ReservationState → Nat × Statement → Option (Row ReservationState) :=
  exec
    (fun tx seen =>
      new_state tx ∈ transition_design_reservation.supported ∧
        new_state tx ∈ transition_design_reservation.allowed seen ∧
        (new_state tx = .released → verified tx))
    new_state

/-- Every schedule of the statements of `transition_run` transactions. -/
abbrev RunSchedule (new_status : Nat → RunStatus) (start : RunStatus)
    (schedule : List ((Nat × Statement) × Row RunStatus)) : Prop :=
  transition.Run (fun row label next => transition_run new_status row label = some next)
    (Row.initial start) schedule

/-- Every schedule of the statements of `transition_design_reservation` transactions. -/
abbrev ReservationSchedule (new_state : Nat → ReservationState) (verified : Nat → Bool)
    (start : ReservationState) (schedule : List ((Nat × Statement) × Row ReservationState)) : Prop :=
  transition.Run
    (fun row label next => transition_design_reservation new_state verified row label = some next)
    (Row.initial start) schedule

/-- What the committed status edges of a run owe: they are a path of the table,
none leaves one source twice, and one worker at most obtains the queued run. -/
structure RunEdgesLinearizable (start : RunStatus) (row : Row RunStatus) : Prop where
  edges : Linearizable transition_run.allowed start row.edges
  one_worker : ∀ first ∈ row.edges, ∀ second ∈ row.edges,
    first.source = .apply_queued → first.target = .apply_running →
      second.source = .apply_queued → second.target = .apply_running → first.tx = second.tx

/-- What the committed state edges of a reservation owe: they are a path of the
table, none leaves one source twice, and no active value follows a released one. -/
structure ReservationEdgesLinearizable (start : ReservationState) (row : Row ReservationState) :
    Prop where
  edges : Linearizable transition_design_reservation.allowed start row.edges
  released_final : ∀ newer older, values start row.edges = newer ++ .released :: older →
    ∀ state ∈ newer, state.active = false

theorem run_edges_iff (start : RunStatus) (row : Row RunStatus) :
    RunEdgesLinearizable start row ↔ Linearizable transition_run.allowed start row.edges := by
  constructor
  · exact RunEdgesLinearizable.edges
  · intro hedges
    refine ⟨hedges, ?_⟩
    intro first hfirst second hsecond hqueued _ hqueued' _
    exact hedges.single first hfirst second hsecond (hqueued.trans hqueued'.symm)

/-- Nothing follows a released state on a path of the table. -/
theorem released_final_of_path {states : List ReservationState}
    (hpath : states.IsChain fun newer older =>
      newer ∈ transition_design_reservation.allowed older)
    (newer older : List ReservationState) (hsplit : states = newer ++ .released :: older) :
    newer = [] := by
  induction newer generalizing states with
  | nil => rfl
  | cons state rest ih =>
    subst hsplit
    have hrest : rest = [] := ih hpath.of_cons rfl
    subst hrest
    simp [transition_design_reservation.allowed] at hpath

theorem reservation_edges_iff (start : ReservationState) (row : Row ReservationState) :
    ReservationEdgesLinearizable start row ↔
      Linearizable transition_design_reservation.allowed start row.edges := by
  constructor
  · exact ReservationEdgesLinearizable.edges
  · intro hedges
    refine ⟨hedges, ?_⟩
    intro newer older hsplit state hstate
    rw [released_final_of_path hedges.path newer older hsplit] at hstate
    cases hstate

/-- Over every schedule of any number of transactions, the committed status values
of a run, and the committed states of a reservation, are linearizable exactly when
no transaction commits after the row stopped holding the value its SELECT read. -/
theorem status_edges_linearizable_iff (new_status : Nat → RunStatus) (status : RunStatus)
    (run_schedule : List ((Nat × Statement) × Row RunStatus))
    (hrun : RunSchedule new_status status run_schedule)
    (new_state : Nat → ReservationState) (verified : Nat → Bool) (state : ReservationState)
    (reservation_schedule : List ((Nat × Statement) × Row ReservationState))
    (hreservation : ReservationSchedule new_state verified state reservation_schedule) :
    ((∀ row ∈ transition.visited (Row.initial status) run_schedule,
        RunEdgesLinearizable status row) ↔
      transition.Guarded Unchanged (Row.initial status) run_schedule) ∧
    ((∀ row ∈ transition.visited (Row.initial state) reservation_schedule,
        ReservationEdgesLinearizable state row) ↔
      transition.Guarded Unchanged (Row.initial state) reservation_schedule) := by
  constructor
  · simp only [run_edges_iff]
    exact linearizable_iff_unchanged run_rank_lt
      (fun _ _ hcheck => of_decide_eq_true hcheck) hrun
  · simp only [reservation_edges_iff]
    exact linearizable_iff_unchanged reservation_rank_lt
      (fun _ _ hcheck => (of_decide_eq_true hcheck).2.1) hreservation

/-- Two transactions, one after the other: the second finds the edge taken. -/
def one_after_the_other : List (Nat × Statement) :=
  [(0, .select), (0, .update), (0, .append), (0, .commit), (1, .select), (1, .abort)]

/-- Two workers that start one run, and two that commit one reservation, one after the
other: the second cannot update the row, and the committed edges are linearizable. -/
theorem status_edges_linearizable_one_after_the_other :
    ∃ run_schedule reservation_schedule,
      run_schedule.map Prod.fst = one_after_the_other ∧
      reservation_schedule.map Prod.fst = one_after_the_other ∧
      ((∀ row ∈ transition.visited (Row.initial .apply_queued) run_schedule,
          RunEdgesLinearizable .apply_queued row) ↔
        transition.Guarded Unchanged (Row.initial .apply_queued) run_schedule) ∧
      ((∀ row ∈ transition.visited (Row.initial .reserved) reservation_schedule,
          ReservationEdgesLinearizable .reserved row) ↔
        transition.Guarded Unchanged (Row.initial .reserved) reservation_schedule) := by
  obtain ⟨run_schedule, hrun, hrun_labels, -⟩ := transition.execute_run
    (rfl : transition.execute (transition_run fun _ => .apply_running) (Row.initial .apply_queued)
      one_after_the_other = some _)
  obtain ⟨reservation_schedule, hreservation, hreservation_labels, -⟩ := transition.execute_run
    (rfl : transition.execute
      (transition_design_reservation (fun _ => .committed) fun _ => false) (Row.initial .reserved)
      one_after_the_other = some _)
  exact ⟨run_schedule, reservation_schedule, hrun_labels, hreservation_labels,
    status_edges_linearizable_iff (fun _ => .apply_running) .apply_queued run_schedule hrun
      (fun _ => .committed) (fun _ => false) .reserved reservation_schedule hreservation⟩

/-- Two workers read the queued run before either commits, and both obtain it; a
reservation read as reserved by two transactions is released and then committed. -/
theorem status_edges_not_linearizable :
    ¬ ((∀ (new_status : Nat → RunStatus) (start : RunStatus)
        (schedule : List ((Nat × Statement) × Row RunStatus)),
        RunSchedule new_status start schedule →
          ∀ row ∈ transition.visited (Row.initial start) schedule,
            RunEdgesLinearizable start row) ∨
      ∀ (new_state : Nat → ReservationState) (verified : Nat → Bool) (start : ReservationState)
        (schedule : List ((Nat × Statement) × Row ReservationState)),
        ReservationSchedule new_state verified start schedule →
          ∀ row ∈ transition.visited (Row.initial start) schedule,
            ReservationEdgesLinearizable start row) := by
  rintro (hrun | hreservation)
  · obtain ⟨schedule, hschedule, -, hlast⟩ := transition.execute_run
      (rfl : transition.execute (transition_run fun _ => .apply_running)
        (Row.initial .apply_queued)
        [(0, .select), (1, .select), (0, .update), (0, .append), (0, .commit),
          (1, .update), (1, .append), (1, .commit)] = some _)
    have hfinal := hrun _ _ _ hschedule _ (transition.last_mem_visited _ _)
    rw [hlast] at hfinal
    have hone := hfinal.one_worker ⟨1, .apply_queued, .apply_running⟩ (by decide)
      ⟨0, .apply_queued, .apply_running⟩ (by decide) rfl rfl rfl rfl
    cases hone
  · obtain ⟨schedule, hschedule, -, hlast⟩ := transition.execute_run
      (rfl : transition.execute
        (transition_design_reservation (fun tx => if tx = 0 then .released else .committed)
          fun _ => true)
        (Row.initial .reserved)
        [(0, .select), (1, .select), (0, .update), (0, .append), (0, .commit),
          (1, .update), (1, .append), (1, .commit)] = some _)
    have hfinal := hreservation _ _ _ _ hschedule _ (transition.last_mem_visited _ _)
    rw [hlast] at hfinal
    have hreleased := hfinal.released_final [.committed] [.reserved] rfl .committed (by decide)
    cases hreleased

end orchestrator.postgres_store
