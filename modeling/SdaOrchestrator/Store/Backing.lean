import SdaOrchestrator.Store.Valid

open python

namespace orchestrator.store

/-- A run that configures its devices or has configured them for good. -/
def RunStatus.live : RunStatus → Bool
  | .apply_running => true
  | .apply_succeeded => true
  | _ => false

/-- The reservation that the plan of a run carries. -/
def CoreTables.run_reservation (tables : CoreTables) (run : RunRow) : Option String :=
  (table.lookup PlanRow.plan_id run.plan_id tables.plans).bind PlanRow.reservation_id

def CoreTables.reservation_active (tables : CoreTables) (reference : String) : Bool :=
  match table.lookup ReservationRow.reservation_id reference tables.design_reservations with
  | some reservation => reservation.state.active
  | none => false

/-- A reservation holds its resources: it is active, and so is every prefix and
every scalar allocated to it. -/
structure CoreTables.Holds (tables : CoreTables) (reference : String) : Prop where
  reservation : tables.reservation_active reference
  network : ∀ item ∈ tables.network_allocations, item.reservation_id = reference → item.state.active
  scalar : ∀ item ∈ tables.scalar_allocations, item.reservation_id = reference → item.state.active

/-- Every live run is backed by the reservation its plan carries. -/
def CoreTables.Backed (tables : CoreTables) : Prop :=
  ∀ run ∈ tables.runs, run.status.live →
    ∀ reference, tables.run_reservation run = some reference → tables.Holds reference

/-- When the ledger rows follow their reservation, it alone decides. -/
theorem holds_iff_reservation_active {tables : CoreTables} (hvalid : tables.Valid)
    (reference : String) : tables.Holds reference ↔ tables.reservation_active reference := by
  constructor
  · exact CoreTables.Holds.reservation
  · intro hactive
    refine ⟨hactive, ?_, ?_⟩
    · intro item hitem hreference
      obtain ⟨row, hrow, hstate⟩ := hvalid.network_state item hitem
      simpa [CoreTables.reservation_active, ← hreference, hrow, hstate] using hactive
    · intro item hitem hreference
      obtain ⟨row, hrow, hstate⟩ := hvalid.scalar_state item hitem
      simpa [CoreTables.reservation_active, ← hreference, hrow, hstate] using hactive

theorem backed_iff {tables : CoreTables} (hvalid : tables.Valid) :
    tables.Backed ↔ ∀ run ∈ tables.runs, run.status.live →
      ∀ reference, tables.run_reservation run = some reference →
        tables.reservation_active reference := by
  simp only [CoreTables.Backed, holds_iff_reservation_active hvalid]

/-- The plan of a save request is stored, bound to another reservation than the
request names, and some run of it is live. -/
def RebindsLivePlan (store : Store) (plan : Value) (reservation_id : Option String) : Prop :=
  ∃ document existing, plan.item "plan_id" = .ok document ∧
    store.find_plan document.toStr = some existing ∧
    existing.reservation_id.getD "" ≠ reservation_id.getD "" ∧
    ∃ run ∈ store.runs, run.plan_id = existing.plan_id ∧ run.status.live

/-- What a transaction may not do: start a run whose reservation is not active,
release a reservation that a live run relies on, or bind the plan of a live run to
a reservation that is not active. -/
def BackingGuard (store : Store) : Transaction → Prop
  | .transition_run run_id .apply_running _ _ =>
    ∀ run, store.find_run run_id = some run →
      ∀ reference, store.core.run_reservation run = some reference →
        store.core.reservation_active reference
  | .transition_design_reservation reservation_id .released _ _ =>
    ∀ run ∈ store.runs, run.status.live → store.core.run_reservation run ≠ some reservation_id
  | .save_plan _ plan _ _ _ reservation_id =>
    RebindsLivePlan store plan reservation_id →
      ∀ reference, reservation_id = some reference → store.core.reservation_active reference
  | _ => True

/-! ## One transaction -/

section Effects

variable {derive_fabric_intent : Derive} {store : Store}

theorem keep_backing_guard {transaction : Transaction} (hanswered : Answered store transaction) :
    BackingGuard store transaction := by
  cases transaction with
  | save_plan intent_id plan actor artifact_hash intent_version reservation_id =>
    rintro ⟨document, existing, hdocument, hexisting, hchanged, -⟩
    obtain ⟨document', existing', hdocument', hexisting', hsame⟩ := hanswered
    obtain rfl : document = document' := Except.ok.inj (hdocument.symm.trans hdocument')
    obtain rfl : existing = existing' := Option.some.inj (hexisting.symm.trans hexisting')
    exact absurd hsame hchanged
  | transition_run run_id new_status actor detail => cases hanswered
  | transition_design_reservation reservation_id new_state actor verified => cases hanswered
  | _ => trivial

/-- A new reservation leaves the others as they are. -/
theorem reservation_active_insert {row : ReservationRow} {network_allocations scalar_allocations}
    {reference : String} (hactive : store.core.reservation_active reference) :
    CoreTables.reservation_active { store.core with
      design_reservations := store.design_reservations ++ [row]
      network_allocations, scalar_allocations } reference := by
  simp only [CoreTables.reservation_active] at hactive ⊢
  rw [table.lookup_append_singleton]
  cases hfound : table.lookup ReservationRow.reservation_id reference store.design_reservations with
  | none => simp [Store.core, hfound] at hactive
  | some found => simpa [Store.core, hfound] using hactive

/-- A new plan leaves the plans of the stored runs as they are. -/
theorem run_reservation_insert {row : PlanRow} {run : RunRow} (hvalid : store.core.Valid)
    (hrun : run ∈ store.runs) :
    CoreTables.run_reservation { store.core with plans := store.plans ++ [row] } run =
      store.core.run_reservation run := by
  obtain ⟨plan, hplan⟩ : ∃ plan, table.lookup PlanRow.plan_id run.plan_id store.plans = some plan :=
    hvalid.run_plan run hrun
  simp [CoreTables.run_reservation, Store.core, table.lookup_append_singleton, hplan]

theorem run_reservation_rebind {existing : PlanRow} {reservation_id : Option String}
    (hfound : store.find_plan existing.plan_id = some existing) (run : RunRow) :
    CoreTables.run_reservation
        { store.core with plans := rebind_plan existing.plan_id reservation_id store.plans } run =
      if run.plan_id = existing.plan_id then reservation_id else store.core.run_reservation run := by
  simp only [CoreTables.run_reservation, lookup_rebind_plan]
  by_cases hplan : run.plan_id = existing.plan_id
  · have hlookup : table.lookup PlanRow.plan_id existing.plan_id store.plans = some existing := hfound
    simp [hplan, hlookup]
  · simp [hplan, Store.core]

theorem reservation_active_move {reservation_id : String} {new_state : ReservationState}
    {row : ReservationRow} {updated_at : String} {network_allocations scalar_allocations}
    (hfind : store.find_reservation reservation_id = some row) (reference : String) :
    CoreTables.reservation_active { store.core with
        design_reservations :=
          set_reservation_state reservation_id new_state updated_at store.design_reservations
        network_allocations, scalar_allocations } reference =
      if reference = reservation_id then new_state.active
      else store.core.reservation_active reference := by
  simp only [CoreTables.reservation_active, lookup_set_reservation_state]
  by_cases hsame : reference = reservation_id
  · have hlookup : table.lookup ReservationRow.reservation_id reservation_id
        store.design_reservations = some row := hfind
    simp [hsame, hlookup]
  · simp [hsame, Store.core]

/-- A status change of one run: the others keep their status and every run its plan. -/
theorem mem_set_run_status {run_id : String} {status : RunStatus} {updated_at : String}
    {runs : List RunRow} {run : RunRow} (hmem : run ∈ set_run_status run_id status updated_at runs) :
    ∃ old ∈ runs, run.plan_id = old.plan_id ∧
      (run.status = old.status ∨ old.run_id = run_id ∧ run.status = status) := by
  obtain ⟨old, hold, rfl⟩ := table.mem_update.mp hmem
  refine ⟨old, hold, ?_⟩
  by_cases hid : old.run_id = run_id
  · simp [hid]
  · simp [hid]

/-- A transaction keeps every live run backed exactly when it meets the guard. -/
theorem effect_backed_iff {transaction : Transaction} {tables : CoreTables}
    (hvalid : store.core.Valid) (hbacked : store.core.Backed)
    (heffect : Effect derive_fabric_intent store transaction tables) :
    tables.Backed ↔ BackingGuard store transaction := by
  have hnext := effect_valid hvalid heffect
  have hbefore := (backed_iff hvalid).mp hbacked
  rw [backed_iff hnext]
  cases heffect with
  | keep hanswered => exact iff_of_true hbefore (keep_backing_guard hanswered)
  | reserve hnew =>
    refine iff_of_true ?_ trivial
    intro run hrun hlive reference hreference
    exact reservation_active_insert (hbefore run hrun hlive reference hreference)
  | @rebind _ plan _ _ _ reservation_id existing hbound =>
    obtain ⟨document, hdocument, hid⟩ := hbound.plan_id
    constructor
    · rintro hafter ⟨document', existing', hdocument', hexisting', -, run, hrun, hplan, hlive⟩
      obtain rfl : document = document' := Except.ok.inj (hdocument.symm.trans hdocument')
      rw [← hid, hbound.found] at hexisting'
      obtain rfl := Option.some.inj hexisting'
      intro reference hreference
      apply hafter run hrun hlive reference
      rw [run_reservation_rebind hbound.found, if_pos hplan]
      exact hreference
    · intro hguard run hrun hlive reference hreference
      rw [run_reservation_rebind hbound.found] at hreference
      by_cases hplan : run.plan_id = existing.plan_id
      · rw [if_pos hplan] at hreference
        exact hguard ⟨document, existing, hdocument, hid ▸ hbound.found, hbound.changed, run, hrun,
          hplan, hlive⟩ reference hreference
      · rw [if_neg hplan] at hreference
        exact hbefore run hrun hlive reference hreference
  | @plan _ plan _ _ _ reservation_id row hnew =>
    obtain ⟨document, hdocument, hid⟩ := hnew.plan_id
    refine iff_of_true ?_ ?_
    · intro run hrun hlive reference hreference
      rw [run_reservation_insert hvalid hrun] at hreference
      exact hbefore run hrun hlive reference hreference
    · rintro ⟨document', existing, hdocument', hexisting, -⟩
      obtain rfl : document = document' := Except.ok.inj (hdocument.symm.trans hdocument')
      rw [← hid, hnew.fresh] at hexisting
      cases hexisting
  | @run _ mode _ _ _ _ _ _ row _ hnew =>
    refine iff_of_true ?_ trivial
    intro run hrun hlive reference hreference
    rcases List.mem_append.mp hrun with hold | hadded
    · exact hbefore run hold hlive reference hreference
    · rw [List.mem_singleton.mp hadded, hnew.queued] at hlive
      cases hmode : row.mode <;> simp [hmode, Mode.queued, RunStatus.live] at hlive
  | @status run_id new_status _ _ run updated_at _ hfind hallowed =>
    have hself : run ∈ store.runs := table.lookup_mem hfind
    constructor
    · intro hafter
      cases new_status with
      | apply_running =>
        intro found hfound reference hreference
        obtain rfl : run = found := Option.some.inj (hfind.symm.trans hfound)
        refine hafter { run with status := .apply_running, updated_at } ?_ rfl reference hreference
        exact table.mem_update.mpr ⟨run, hself, by rw [if_pos (table.lookup_key hfind)]⟩
      | _ => trivial
    · intro hguard found hfound hlive reference hreference
      obtain ⟨old, hold, hplan, hstatus⟩ := mem_set_run_status hfound
      have hold_reference : store.core.run_reservation old = some reference := by
        rw [← hreference]
        simp only [CoreTables.run_reservation, hplan]
      rcases hstatus with hsame | ⟨hid, hnew⟩
      · exact hbefore old hold (hsame ▸ hlive) reference hold_reference
      · have holdfind : store.find_run run_id = some old :=
          hid ▸ table.lookup_of_mem hvalid.run_ids hold
        obtain rfl : run = old := Option.some.inj (hfind.symm.trans holdfind)
        cases new_status with
        | apply_running => exact hguard run hfind reference hold_reference
        | apply_succeeded =>
          refine hbefore run hself ?_ reference hold_reference
          cases hrun : run.status <;> simp [hrun, transition_run.allowed, RunStatus.live] at hallowed ⊢
        | _ => simp [hnew, RunStatus.live] at hlive
  | @complete run_id _ _ _ _ run updated_at _ hfind hrunning =>
    refine iff_of_true ?_ trivial
    intro found hfound hlive reference hreference
    obtain ⟨old, hold, hplan, hstatus⟩ := mem_set_run_status hfound
    have hold_reference : store.core.run_reservation old = some reference := by
      rw [← hreference]
      simp only [CoreTables.run_reservation, hplan]
    rcases hstatus with hsame | ⟨hid, -⟩
    · exact hbefore old hold (hsame ▸ hlive) reference hold_reference
    · have holdfind : store.find_run run_id = some old :=
        hid ▸ table.lookup_of_mem hvalid.run_ids hold
      obtain rfl : run = old := Option.some.inj (hfind.symm.trans holdfind)
      exact hbefore run hold (by simp [hrunning, RunStatus.live]) reference hold_reference
  | @move reservation_id new_state _ _ row updated_at hfind hallowed =>
    simp only [reservation_active_move hfind]
    constructor
    · intro hafter
      cases new_state with
      | released =>
        intro run hrun hlive hreference
        simpa [ReservationState.active] using hafter run hrun hlive reservation_id hreference
      | _ => trivial
    · intro hguard run hrun hlive reference hreference
      by_cases hsame : reference = reservation_id
      · rw [if_pos hsame]
        cases new_state with
        | released => exact absurd (hsame ▸ hreference) (hguard run hrun hlive)
        | _ => rfl
      · rw [if_neg hsame]
        exact hbefore run hrun hlive reference hreference
  | adopt =>
    refine iff_of_true ?_ trivial
    exact hbefore

end Effects

/-! ## Every sequence of transactions -/

/-- Over every sequence of transactions, every live run stays backed exactly when
each transaction meets the guard in the state it starts from. -/
theorem backed_iff_guarded {platform : Platform} {derive_fabric_intent : Derive}
    {run : List ((Transaction × Ambient) × Store)}
    (hrun : transition.Run (Step platform derive_fabric_intent) {} run) :
    (∀ store ∈ transition.visited {} run, store.core.Backed) ↔
      transition.Guarded (fun store label => BackingGuard store label.1) {} run := by
  apply hrun.invariant_iff_guarded (fun store => store.core.Valid) (fun store => store.core.Backed)
  · exact fun _ _ _ hvalid hstep => step_valid hvalid hstep
  · exact fun _ _ _ hvalid hbacked hstep => effect_backed_iff hvalid hbacked (perform_effect hstep)
  · exact empty_valid
  · simp [CoreTables.Backed, Store.core]

end orchestrator.store
