import SdaOrchestrator.Store.Valid
import SdaOrchestrator.Worker.Quiet

open python effects effects.Program orchestrator.store

namespace orchestrator.store

theorem run_status_set_run_status {tables : CoreTables} {run_id updated_at : String}
    {status : RunStatus} {fabric_locks : List FabricLockRow}
    {owned_state_manifests : List OwnedStateRow} (hrun : tables.run_status run_id ≠ none) :
    CoreTables.run_status { tables with
      runs := set_run_status run_id status updated_at tables.runs
      fabric_locks, owned_state_manifests } run_id = some status := by
  simp only [CoreTables.run_status, set_run_status] at hrun ⊢
  rw [table.lookup_update]
  · cases hfound : table.lookup RunRow.run_id run_id tables.runs with
    | none => simp [hfound] at hrun
    | some run => simp
  · exact fun _ => rfl

theorem reservation_state_set_reservation_state {tables : CoreTables}
    {reference updated_at : String} {state : ReservationState}
    {network_allocations scalar_allocations} :
    CoreTables.reservation_state { tables with
      design_reservations :=
        set_reservation_state reference state updated_at tables.design_reservations
      network_allocations, scalar_allocations } reference =
      (tables.reservation_state reference).map fun _ => state := by
  simp only [CoreTables.reservation_state, lookup_set_reservation_state, if_pos]
  cases table.lookup ReservationRow.reservation_id reference tables.design_reservations <;> rfl

/-- The run has a status, and the plans and the reservations are those of `base`. -/
structure CoreTables.Standing (base : CoreTables) (run_id : String) (status : RunStatus)
    (tables : CoreTables) : Prop where
  status : tables.run_status run_id = some status
  plans : tables.plans = base.plans
  reservations : tables.design_reservations = base.design_reservations

theorem CoreTables.Standing.reservation_state {base tables : CoreTables} {run_id : String}
    {status : RunStatus} (hstanding : base.Standing run_id status tables) (reference : String) :
    tables.reservation_state reference = base.reservation_state reference := by
  simp only [CoreTables.reservation_state, hstanding.reservations]

/-- An allowed transition of a stored run always commits. -/
theorem transition_run_eq_ok {platform : Platform} {run_id : String} {new_status status : RunStatus}
    {actor : String} {detail : Value} {ambient : Ambient} {store : Store}
    (hstatus : store.core.run_status run_id = some status)
    (hallowed : new_status ∈ transition_run.allowed status) :
    ∃ row next, transition_run platform run_id new_status actor detail ambient store =
      .ok (row, next) := by
  simp only [CoreTables.run_status, Option.map_eq_some_iff] at hstatus
  obtain ⟨run, hfind, rfl⟩ := hstatus
  have hrun : store.find_run run_id = some run := hfind
  simp [transition_run, hrun, hallowed, require, raise_if, bind_eq_ok_iff]

/-- A verified release of a reservation that is not released yet always commits. -/
theorem release_eq_ok {platform : Platform} {reference actor : String} {state : ReservationState}
    {ambient : Ambient} {store : Store}
    (hstate : store.core.reservation_state reference = some state) (hactive : state ≠ .released) :
    ∃ record next, transition_design_reservation platform reference .released actor true ambient
      store = .ok (record, next) := by
  simp only [CoreTables.reservation_state, Option.map_eq_some_iff] at hstate
  obtain ⟨row, hfind, rfl⟩ := hstate
  have hrow : store.find_reservation reference = some row := hfind
  have hallowed : .released ∈ transition_design_reservation.allowed row.state := by
    cases hcase : row.state <;> simp_all [transition_design_reservation.allowed]
  simp [transition_design_reservation, transition_design_reservation.supported, hrow, hallowed,
    require, raise_if, bind_eq_ok_iff]

/-- The reservation is released, where `base` has it at all. -/
def CoreTables.Freed (base : CoreTables) (reference : String) (tables : CoreTables) : Prop :=
  tables.reservation_state reference = (base.reservation_state reference).map fun _ => .released

end orchestrator.store

namespace orchestrator.worker

section Standing

variable {platform : Platform} {derive_fabric_intent : Derive} {start : Store}
  {outside : Outside} {base : CoreTables} {run_id : String} {status : RunStatus}
  {P : State platform derive_fabric_intent start → Prop}

theorem stable_standing : Stable fun s : State platform derive_fabric_intent start =>
    base.Standing run_id status s.store.core := by
  intro before after hquiet hstanding
  rw [hquiet.core]
  exact hstanding

/-- An allowed transition commits and changes nothing but the status of the run. -/
theorem transition_run_triple (hP : Lasting P) {new_status : RunStatus} {actor : String}
    {detail : Value} (hallowed : new_status ∈ transition_run.allowed status) :
    Triple (fun s => P s ∧ base.Standing run_id status s.store.core)
      (transition_run outside run_id new_status actor detail)
      (fun _ s => P s ∧ base.Standing run_id new_status s.store.core) (fun _ _ => False) := by
  apply transact_triple
  · intro s exception hs herror
    obtain ⟨row, next, hok⟩ := transition_run_eq_ok hs.2.status hallowed
    rw [hok] at herror
    cases herror
  · intro s t value hs hresult hsilent _
    refine ⟨hP s t hsilent hs.1, ?_⟩
    obtain ⟨run, updated_at, fabric_locks, -, -, hcore⟩ := transition_run_core hresult
    rw [hcore]
    refine ⟨run_status_set_run_status ?_, hs.2.plans, hs.2.reservations⟩
    simp [hs.2.status]

/-- A transition outside the table raises and changes nothing. -/
theorem transition_run_refused {new_status : RunStatus} {actor : String} {detail : Value}
    (hP : ∀ s, P s → s.store.core.run_status run_id = some status)
    (hrefused : new_status ∉ transition_run.allowed status) :
    Triple P (transition_run outside run_id new_status actor detail) (fun _ _ => False)
      (fun _ => P) := by
  apply transact_triple
  · exact fun s exception hs _ => hs
  · intro s t value hs hresult _ _
    obtain ⟨run, _, _, hfind, hallowed, -⟩ := transition_run_core hresult
    have hstatus := hP s hs
    simp only [CoreTables.run_status, Option.map_eq_some_iff] at hstatus
    obtain ⟨found, hfound, rfl⟩ := hstatus
    obtain rfl : run = found := Option.some.inj (hfind.symm.trans hfound)
    exact absurd hallowed hrefused

/-- The success of a run is committed or nothing is. -/
theorem complete_apply_triple (hP : Lasting P) {artifact_hash actor : String}
    {owned_state detail : Value} :
    Triple (fun s => P s ∧ base.Standing run_id .apply_running s.store.core)
      (complete_apply outside run_id artifact_hash owned_state actor detail)
      (fun _ s => P s ∧ base.Standing run_id .apply_succeeded s.store.core)
      (fun _ s => P s ∧ base.Standing run_id .apply_running s.store.core) := by
  apply transact_triple
  · exact fun _ _ hs _ => hs
  · intro s t value hs hresult hsilent _
    refine ⟨hP s t hsilent hs.1, ?_⟩
    obtain ⟨run, updated_at, manifest, -, -, hcore⟩ := complete_apply_core hresult
    rw [hcore]
    refine ⟨run_status_set_run_status ?_, hs.2.plans, hs.2.reservations⟩
    simp [hs.2.status]

/-- Moving a reservation leaves the status of the run as it is. -/
theorem transition_design_reservation_keeps (hP : Lasting P) {reference actor : String}
    {new_state : ReservationState} {verified : Bool} :
    Keeps (fun s => P s ∧ s.store.core.run_status run_id = some status)
      (transition_design_reservation outside reference new_state actor verified) := by
  apply transact_triple
  · exact fun _ _ hs _ => hs
  · intro s t value hs hresult hsilent _
    refine ⟨hP s t hsilent hs.1, ?_⟩
    obtain ⟨row, updated_at, -, -, hcore⟩ := transition_design_reservation_core hresult
    rw [hcore]
    exact hs.2

/-- After a verified release was attempted the reservation is released, whether the
attempt committed or raised. -/
theorem release_triple (hP : Lasting P) {reference actor : String} :
    Triple (fun s => P s ∧ base.Standing run_id status s.store.core)
      (transition_design_reservation outside reference .released actor true)
      (fun _ s => (P s ∧ s.store.core.run_status run_id = some status) ∧
        base.Freed reference s.store.core)
      (fun _ s => (P s ∧ s.store.core.run_status run_id = some status) ∧
        base.Freed reference s.store.core) := by
  apply transact_triple
  · intro s exception hs herror
    refine ⟨⟨hs.1, hs.2.status⟩, ?_⟩
    rw [CoreTables.Freed, hs.2.reservation_state]
    cases hstate : base.reservation_state reference with
    | none => rfl
    | some state =>
      rw [← hs.2.reservation_state] at hstate
      by_cases hreleased : state = .released
      · rw [hreleased]
        rfl
      · obtain ⟨record, next, hok⟩ := release_eq_ok hstate hreleased
        rw [hok] at herror
        cases herror
  · intro s t value hs hresult hsilent _
    obtain ⟨row, updated_at, -, -, hcore⟩ := transition_design_reservation_core hresult
    rw [hcore]
    refine ⟨⟨hP s t hsilent hs.1, hs.2.status⟩, ?_⟩
    rw [CoreTables.Freed, ← hs.2.reservation_state]
    exact reservation_state_set_reservation_state

end Standing

end orchestrator.worker
