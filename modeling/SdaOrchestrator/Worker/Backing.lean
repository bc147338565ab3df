import SdaOrchestrator.Store.Backing
import SdaOrchestrator.Worker.Operations

open python orchestrator.store

namespace orchestrator.store

/-- The reservation of a plan as the worker reads it is the one the plan carries. -/
theorem run_reservation_of_planned {tables : CoreTables} {run : RunRow} {reference : String}
    (hplanned : tables.planned_reservation run.plan_id = some reference) :
    tables.run_reservation run = some reference := by
  obtain ⟨plan, hlookup, hgiven⟩ := Option.bind_eq_some_iff.mp hplanned
  rw [CoreTables.run_reservation, hlookup, Option.bind_some]
  unfold given at hgiven
  split at hgiven
  · rename_i text heq
    split at hgiven
    · cases hgiven
    · rw [heq, hgiven]
  · cases hgiven

/-- A live run whose reservation is released is not backed. -/
theorem not_backed_of_released {store : Store} {run_id plan_id reference : String}
    {status : RunStatus} (hlive : status.live)
    (hrun : (store.find_run run_id).map (fun run => (run.plan_id, run.status)) =
      some (plan_id, status))
    (hplanned : store.core.planned_reservation plan_id = some reference)
    (hreleased : store.core.reservation_state reference = some .released) :
    ¬store.core.Backed := by
  intro hbacked
  obtain ⟨run, hfound, hfields⟩ := Option.map_eq_some_iff.mp hrun
  obtain ⟨rfl, rfl⟩ := Prod.mk.injEq .. ▸ hfields
  have hholds := hbacked run (table.lookup_mem hfound) hlive _ (run_reservation_of_planned hplanned)
  obtain ⟨reservation, hfind, hstate⟩ := Option.map_eq_some_iff.mp hreleased
  have hactive := hholds.reservation
  simp [CoreTables.reservation_active, hfind, hstate, ReservationState.active] at hactive

end orchestrator.store

namespace orchestrator.worker

abbrev lab_history : List ((Transaction × Ambient) × Store) :=
  history cpython lab_derive {} lab_operations

/-- After the lab operations the first run has succeeded and its reservation is released. -/
theorem lab_history_not_backed :
    ¬∀ store ∈ transition.visited {} lab_history, store.core.Backed := by
  intro hbacked
  obtain ⟨-, -, -, -, hrun, -, hplanned, hreleased⟩ := lab_outcome
  have hlast : (store_after cpython lab_derive lab_operations).core.Backed :=
    hbacked _ (transition.last_mem_visited {} lab_history)
  rw [← lab_second_eq] at hlast
  exact not_backed_of_released rfl hrun hplanned hreleased hlast

theorem lab_history_backed_iff_guarded :
    (∀ store ∈ transition.visited {} lab_history, store.core.Backed) ↔
      transition.Guarded (fun store label => BackingGuard store label.1) {} lab_history :=
  backed_iff_guarded (history_run cpython lab_derive {} lab_operations)

end orchestrator.worker
