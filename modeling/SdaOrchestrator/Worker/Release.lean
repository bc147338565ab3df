import SdaOrchestrator.Worker.Safety

open python effects effects.Program orchestrator.store

namespace orchestrator.store

/-- From one state to the other a reservation is released only when it was reserved,
and one that was committed or quarantined keeps its state and all its resources. -/
structure CoreTables.Keeps (before after : CoreTables) (reference : String) : Prop where
  released : before.reservation_state reference ≠ some .released →
    after.reservation_state reference = some .released →
      before.reservation_state reference = some .reserved
  kept : before.reservation_state reference = some .committed ∨
      before.reservation_state reference = some .quarantined →
    after.reservation_state reference = before.reservation_state reference ∧
      (∀ item ∈ after.network_allocations, item.reservation_id = reference → item.state.active) ∧
      ∀ item ∈ after.scalar_allocations, item.reservation_id = reference → item.state.active

/-- A reservation whose verified release was attempted was kept exactly when it was
neither committed nor quarantined. -/
theorem keeps_iff_of_freed {before after : CoreTables} {reference : String}
    (hfreed : before.Freed reference after) :
    before.Keeps after reference ↔
      before.reservation_state reference ≠ some .committed ∧
        before.reservation_state reference ≠ some .quarantined := by
  rw [CoreTables.Freed] at hfreed
  constructor
  · intro hkeeps
    by_contra hheld
    have hcase : before.reservation_state reference = some .committed ∨
        before.reservation_state reference = some .quarantined := by tauto
    obtain ⟨hsame, -⟩ := hkeeps.kept hcase
    rw [hfreed] at hsame
    obtain hstate | hstate := hcase <;> simp [hstate] at hsame
  · rintro ⟨hcommitted, hquarantined⟩
    refine ⟨fun hbefore hafter => ?_, fun hcase => ?_⟩
    · cases hstate : before.reservation_state reference with
      | none => simp [hfreed, hstate] at hafter
      | some state => cases state <;> simp_all
    · tauto

end orchestrator.store

namespace orchestrator.worker

/-- For every store, every queued apply run and every behaviour outside the worker: a
call that ends with the run rolled back keeps the reservation of its plan exactly
when that reservation was neither committed nor quarantined at the start. -/
theorem rolled_back_keeps_iff (platform : Platform) (derive_fabric_intent : Derive) (start : Store)
    (worker : TransactionWorker) (outside : Outside) (run_id : String)
    (intent plan artifact : Value) (allowed_blocker_codes : Option (List String)) (run : RunRow)
    (hrun : start.find_run run_id = some run) (hqueued : run.status = .apply_queued)
    (final : State platform derive_fabric_intent start)
    (hfinal : final = after_apply platform derive_fabric_intent start worker outside run_id intent
      plan artifact allowed_blocker_codes)
    (hrolled : final.store.core.run_status run_id = some .rolled_back) :
    (∀ reference, start.core.planned_reservation run.plan_id = some reference →
      start.core.Keeps final.store.core reference) ↔
    ∀ reference, start.core.planned_reservation run.plan_id = some reference →
      start.core.reservation_state reference ≠ some .committed ∧
        start.core.reservation_state reference ≠ some .quarantined := by
  have hcall : final = .initial ∨ Closed worker intent plan artifact run_id final :=
    hfinal ▸ process_apply_triple.final rfl
  have hfreed (reference : String)
      (hreference : start.core.planned_reservation run.plan_id = some reference) :
      start.core.Freed reference final.store.core := by
    obtain rfl | hclosed := hcall
    · have hstatus : start.core.run_status run_id = some run.status :=
        Option.map_eq_some_iff.mpr ⟨run, hrun, rfl⟩
      rw [hqueued] at hstatus
      have hboth := hstatus.symm.trans hrolled
      simp at hboth
    cases hclosed with
    | unsent hunsent hstatus =>
      rw [hrolled] at hstatus
      simp at hstatus
    | @settled found gate_plan devices hfound hgates hdevices hsettled =>
      obtain rfl : run = found := Option.some.inj (hrun.symm.trans hfound)
      cases hsettled with
      | inl hsucceeded =>
        have hboth := hsucceeded.status.symm.trans hrolled
        simp at hboth
      | inr hended => exact hended.freed hrolled reference hreference
  exact forall₂_congr fun reference hreference => keeps_iff_of_freed (hfreed reference hreference)

/-- The run that is queued for the lab plan after its first run succeeded. -/
theorem lab_second_run :
    ∃ run, lab_requeued.find_run "run_9000" = some run ∧ run.plan_id = "plan_lab" ∧
      run.status = .apply_queued := by
  obtain ⟨-, hrun, -⟩ := lab_outcome
  obtain ⟨run, hfound, hfields⟩ := Option.map_eq_some_iff.mp hrun
  obtain ⟨hplan, hstatus⟩ := Prod.mk.injEq .. ▸ hfields
  exact ⟨run, hfound, hplan, hstatus⟩

/-- The rollback of the second run releases what the first run has configured. -/
theorem rolled_back_keeps_iff_lab :
    ¬∀ reference, lab_requeued.core.planned_reservation "plan_lab" = some reference →
      lab_requeued.core.Keeps lab_second.store.core reference := by
  obtain ⟨run, hrun, hplan, hqueued⟩ := lab_second_run
  obtain ⟨-, -, hplanned, hcommitted, -, hrolled, -⟩ := lab_outcome
  have hiff := rolled_back_keeps_iff cpython lab_derive lab_requeued lab_worker
    (lab_outside 100 true) "run_9000" lab_intent lab_plan lab_artifact none run hrun hqueued
    lab_second rfl hrolled
  rw [hplan] at hiff
  intro hkeeps
  exact (hiff.mp hkeeps "reservation_100" hplanned).1 hcommitted

theorem rolled_back_releases_committed :
    ¬∀ start : Store, Reachable cpython lab_derive start →
      ∀ (worker : TransactionWorker) (outside : Outside) (run_id : String)
        (intent plan artifact : Value) (allowed_blocker_codes : Option (List String)) (run : RunRow),
        start.find_run run_id = some run → run.status = .apply_queued →
          ∀ final : State cpython lab_derive start,
            final = after_apply cpython lab_derive start worker outside run_id intent plan artifact
              allowed_blocker_codes →
            final.store.core.run_status run_id = some .rolled_back →
              ∀ reference, start.core.planned_reservation run.plan_id = some reference →
                start.core.Keeps final.store.core reference := by
  intro hclaim
  obtain ⟨run, hrun, hplan, hqueued⟩ := lab_second_run
  obtain ⟨-, -, hplanned, hcommitted, -, hrolled, -, hreleased⟩ := lab_outcome
  have hreachable : Reachable cpython lab_derive lab_requeued :=
    lab_requeued_eq ▸ store_after_reachable cpython lab_derive _
  have hkeeps := hclaim lab_requeued hreachable lab_worker (lab_outside 100 true) "run_9000"
    lab_intent lab_plan lab_artifact none run hrun hqueued lab_second rfl hrolled
    "reservation_100" (hplan ▸ hplanned)
  have hsame := (hkeeps.kept (.inl hcommitted)).1
  rw [hcommitted] at hsame
  have hboth := hsame.symm.trans hreleased
  simp at hboth

end orchestrator.worker
