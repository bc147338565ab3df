import SdaOrchestrator.Store.Transactions

open python

namespace orchestrator.store

/-- What every committed state of the core tables satisfies: primary keys are unique,
foreign keys resolve, and an allocation row has the state of its reservation. -/
structure CoreTables.Valid (tables : CoreTables) : Prop where
  plan_ids : (tables.plans.map PlanRow.plan_id).Nodup
  run_ids : (tables.runs.map RunRow.run_id).Nodup
  reservation_ids : (tables.design_reservations.map ReservationRow.reservation_id).Nodup
  run_plan : ∀ run ∈ tables.runs, ∃ plan, table.lookup PlanRow.plan_id run.plan_id tables.plans = some plan
  plan_reservation : ∀ plan ∈ tables.plans, ∀ reference, plan.reservation_id = some reference →
    ∃ row, table.lookup ReservationRow.reservation_id reference tables.design_reservations = some row
  network_state : ∀ item ∈ tables.network_allocations, ∃ row,
    table.lookup ReservationRow.reservation_id item.reservation_id tables.design_reservations = some row ∧
      item.state = row.state
  scalar_state : ∀ item ∈ tables.scalar_allocations, ∃ row,
    table.lookup ReservationRow.reservation_id item.reservation_id tables.design_reservations = some row ∧
      item.state = row.state

theorem empty_valid : (({} : Store).core).Valid where
  plan_ids := List.nodup_nil
  run_ids := List.nodup_nil
  reservation_ids := List.nodup_nil
  run_plan := by simp [Store.core]
  plan_reservation := by simp [Store.core]
  network_state := by simp [Store.core]
  scalar_state := by simp [Store.core]

theorem lookup_set_reservation_state (reservation_id other : String) (state : ReservationState)
    (updated_at : String) (rows : List ReservationRow) :
    table.lookup ReservationRow.reservation_id other
        (set_reservation_state reservation_id state updated_at rows) =
      if other = reservation_id then
        (table.lookup ReservationRow.reservation_id reservation_id rows).map
          fun row => { row with state, updated_at }
      else table.lookup ReservationRow.reservation_id other rows := by
  rw [set_reservation_state, table.lookup_update]
  exact fun _ => rfl

theorem lookup_rebind_plan (plan_id other : String) (reservation_id : Option String)
    (plans : List PlanRow) :
    table.lookup PlanRow.plan_id other (rebind_plan plan_id reservation_id plans) =
      if other = plan_id then
        (table.lookup PlanRow.plan_id plan_id plans).map fun row => { row with reservation_id }
      else table.lookup PlanRow.plan_id other plans := by
  rw [rebind_plan, table.lookup_update]
  exact fun _ => rfl

theorem plan_ids_rebind_plan {plan_id : String} {reservation_id : Option String}
    {plans : List PlanRow} (hnodup : (plans.map PlanRow.plan_id).Nodup) :
    ((rebind_plan plan_id reservation_id plans).map PlanRow.plan_id).Nodup := by
  rw [rebind_plan, table.keys_update]
  · exact hnodup
  · exact fun _ => rfl

theorem run_ids_set_run_status {run_id : String} {status : RunStatus} {updated_at : String}
    {runs : List RunRow} (hnodup : (runs.map RunRow.run_id).Nodup) :
    ((set_run_status run_id status updated_at runs).map RunRow.run_id).Nodup := by
  rw [set_run_status, table.keys_update]
  · exact hnodup
  · exact fun _ => rfl

theorem reservation_ids_set_reservation_state {reservation_id : String}
    {state : ReservationState} {updated_at : String} {rows : List ReservationRow}
    (hnodup : (rows.map ReservationRow.reservation_id).Nodup) :
    ((set_reservation_state reservation_id state updated_at rows).map
      ReservationRow.reservation_id).Nodup := by
  rw [set_reservation_state, table.keys_update]
  · exact hnodup
  · exact fun _ => rfl

/-- A status change leaves every run at its plan. -/
theorem run_plan_set_run_status {run_id : String} {status : RunStatus} {updated_at : String}
    {runs : List RunRow} {plans : List PlanRow}
    (hruns : ∀ run ∈ runs, ∃ plan, table.lookup PlanRow.plan_id run.plan_id plans = some plan) :
    ∀ run ∈ set_run_status run_id status updated_at runs,
      ∃ plan, table.lookup PlanRow.plan_id run.plan_id plans = some plan := by
  intro run hrun
  obtain ⟨old, hold, rfl⟩ := table.mem_update.mp hrun
  split <;> exact hruns old hold

/-- Moving a reservation keeps its allocation rows at the state of the reservation. -/
private theorem moved_state {α : Type} {key : α → String} {state_of : α → ReservationState}
    {rows : List ReservationRow} {items : List α} {reservation_id : String}
    {state : ReservationState} {updated_at : String} {change : α → α}
    (hchange : ∀ item, key (change item) = key item ∧ state_of (change item) = state)
    (hitems : ∀ item ∈ items, ∃ row,
      table.lookup ReservationRow.reservation_id (key item) rows = some row ∧
        state_of item = row.state) :
    ∀ item ∈ table.update key reservation_id change items, ∃ row,
      table.lookup ReservationRow.reservation_id (key item)
          (set_reservation_state reservation_id state updated_at rows) = some row ∧
        state_of item = row.state := by
  intro item hitem
  obtain ⟨old, hold, rfl⟩ := table.mem_update.mp hitem
  obtain ⟨row, hrow, hstate⟩ := hitems old hold
  by_cases hkey : key old = reservation_id
  · rw [if_pos hkey, (hchange old).1, (hchange old).2]
    refine ⟨{ row with state, updated_at }, ?_, rfl⟩
    rw [lookup_set_reservation_state, if_pos hkey, ← hkey, hrow]
    rfl
  · rw [if_neg hkey]
    refine ⟨row, ?_, hstate⟩
    rw [lookup_set_reservation_state, if_neg hkey]
    exact hrow

/-- A lookup survives the insertion of a fresh row. -/
private theorem lookup_insert {α : Type} {key : α → String} {rows : List α} {row found : α}
    {k : String} (hfound : table.lookup key k rows = some found) :
    table.lookup key k (rows ++ [row]) = some found := by
  rw [table.lookup_append_singleton, hfound]
  rfl

theorem effect_valid {derive_fabric_intent : Derive} {store : Store} {transaction : Transaction}
    {tables : CoreTables} (hvalid : store.core.Valid)
    (heffect : Effect derive_fabric_intent store transaction tables) : tables.Valid := by
  cases heffect with
  | keep => exact hvalid
  | @reserve _ _ _ _ row derived hnew =>
    have hfresh : table.lookup ReservationRow.reservation_id row.reservation_id
        store.design_reservations = none := hnew.fresh
    have hself : table.lookup ReservationRow.reservation_id row.reservation_id
        (store.design_reservations ++ [row]) = some row := by
      rw [table.lookup_append_singleton, hfresh, if_pos rfl]
      rfl
    refine { hvalid with
      reservation_ids := table.nodup_append_fresh hvalid.reservation_ids hfresh
      plan_reservation := ?_
      network_state := ?_
      scalar_state := ?_ }
    · intro plan hplan reference hreference
      obtain ⟨found, hfound⟩ := hvalid.plan_reservation plan hplan reference hreference
      exact ⟨found, lookup_insert hfound⟩
    · intro item hitem
      rcases List.mem_append.mp hitem with hold | hadded
      · obtain ⟨found, hfound, hstate⟩ := hvalid.network_state item hold
        exact ⟨found, lookup_insert hfound, hstate⟩
      · obtain ⟨reservation, -, rfl⟩ := List.mem_map.mp hadded
        exact ⟨row, hself, hnew.reserved.symm⟩
    · intro item hitem
      rcases List.mem_append.mp hitem with hold | hadded
      · obtain ⟨found, hfound, hstate⟩ := hvalid.scalar_state item hold
        exact ⟨found, lookup_insert hfound, hstate⟩
      · obtain ⟨reservation, -, rfl⟩ := List.mem_map.mp hadded
        exact ⟨row, hself, hnew.reserved.symm⟩
  | @rebind _ plan _ _ _ reservation_id existing hbound =>
    refine { hvalid with
      plan_ids := plan_ids_rebind_plan hvalid.plan_ids
      run_plan := ?_
      plan_reservation := ?_ }
    · intro run hrun
      obtain ⟨found, hfound⟩ :
        ∃ found, table.lookup PlanRow.plan_id run.plan_id store.plans = some found :=
          hvalid.run_plan run hrun
      simp only [lookup_rebind_plan]
      by_cases hplan : run.plan_id = existing.plan_id
      · exact ⟨{ found with reservation_id }, by rw [if_pos hplan, ← hplan, hfound]; rfl⟩
      · exact ⟨found, by rw [if_neg hplan]; exact hfound⟩
    · intro row hrow reference hreference
      obtain ⟨old, hold, rfl⟩ := table.mem_update.mp hrow
      by_cases hplan : old.plan_id = existing.plan_id
      · rw [if_pos hplan] at hreference
        exact hbound.reference reference hreference
      · rw [if_neg hplan] at hreference
        exact hvalid.plan_reservation old hold reference hreference
  | @plan _ _ _ _ _ reservation_id row hnew =>
    refine { hvalid with
      plan_ids := table.nodup_append_fresh hvalid.plan_ids hnew.fresh
      run_plan := ?_
      plan_reservation := ?_ }
    · intro run hrun
      obtain ⟨found, hfound⟩ := hvalid.run_plan run hrun
      exact ⟨found, lookup_insert hfound⟩
    · intro plan hplan reference hreference
      rcases List.mem_append.mp hplan with hold | hadded
      · exact hvalid.plan_reservation plan hold reference hreference
      · rw [List.mem_singleton.mp hadded, hnew.bound] at hreference
        exact hnew.reference reference hreference
  | run hnew =>
    refine { hvalid with
      run_ids := table.nodup_append_fresh hvalid.run_ids hnew.fresh
      run_plan := ?_ }
    intro run hrun
    rcases List.mem_append.mp hrun with hold | hadded
    · exact hvalid.run_plan run hold
    · rw [List.mem_singleton.mp hadded]
      exact hnew.plan
  | @status run_id new_status _ _ run updated_at _ hfind hallowed =>
    exact { hvalid with
      run_ids := run_ids_set_run_status hvalid.run_ids
      run_plan := run_plan_set_run_status hvalid.run_plan }
  | complete hfind hrunning =>
    exact { hvalid with
      run_ids := run_ids_set_run_status hvalid.run_ids
      run_plan := run_plan_set_run_status hvalid.run_plan }
  | @move reservation_id new_state _ _ row updated_at hfind hallowed =>
    refine { hvalid with
      reservation_ids := reservation_ids_set_reservation_state hvalid.reservation_ids
      plan_reservation := ?_
      network_state := moved_state (fun _ => ⟨rfl, rfl⟩) hvalid.network_state
      scalar_state := moved_state (fun _ => ⟨rfl, rfl⟩) hvalid.scalar_state }
    · intro plan hplan reference hreference
      obtain ⟨found, hfound⟩ : ∃ found, table.lookup ReservationRow.reservation_id reference
        store.design_reservations = some found :=
          hvalid.plan_reservation plan hplan reference hreference
      simp only [lookup_set_reservation_state]
      by_cases hsame : reference = reservation_id
      · exact ⟨{ found with state := new_state, updated_at },
          by rw [if_pos hsame, ← hsame, hfound]; rfl⟩
      · exact ⟨found, by rw [if_neg hsame]; exact hfound⟩
  | adopt => exact { hvalid with }

theorem step_valid {platform : Platform} {derive_fabric_intent : Derive} {store next : Store}
    {label : Transaction × Ambient} (hvalid : store.core.Valid)
    (hstep : Step platform derive_fabric_intent store label next) : next.core.Valid :=
  effect_valid hvalid (perform_effect hstep)

theorem Reachable.valid {platform : Platform} {derive_fabric_intent : Derive} {store : Store}
    (hreachable : Reachable platform derive_fabric_intent store) : store.core.Valid := by
  obtain ⟨run, hrun, rfl⟩ := hreachable
  exact hrun.invariant (fun s => s.core.Valid) (fun _ _ _ hvalid hstep => step_valid hvalid hstep)
    empty_valid _ (transition.last_mem_visited _ _)

end orchestrator.store
