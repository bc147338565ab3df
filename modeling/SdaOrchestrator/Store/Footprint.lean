import SdaOrchestrator.Store.Signatures

open python

namespace table

variable {α κ : Type*} [DecidableEq κ] {key : α → κ}

/-- An update under a key leaves the rows that are kept for other keys. -/
theorem filter_update {k : κ} {change : α → α} (kept : α → Bool) (rows : List α)
    (hkept : ∀ row, key row = k → kept row = false ∧ kept (change row) = false) :
    (update key k change rows).filter kept = rows.filter kept := by
  induction rows with
  | nil => rfl
  | cons row rest ih =>
    rw [update, List.map_cons, List.filter_cons, List.filter_cons]
    rw [update] at ih
    split
    · rename_i hkey
      obtain ⟨hrow, hchanged⟩ := hkept row hkey
      rw [hrow, hchanged]
      exact ih
    · rw [ih]

end table

namespace orchestrator.store

/-! ## What the work on a run may write -/

/-- The statuses of an apply that has begun. -/
def apply_statuses : List RunStatus :=
  [.apply_running, .apply_failed, .apply_succeeded, .rollback_running, .rolled_back, .rollback_failed]

/-- The transactions of a worker on a run, whose plan has such a reservation. -/
inductive Writes (actor run_id : String) (reservation : Option String) : Transaction → Prop where
  | transition_run {new_status : RunStatus} {detail : Value} (hstatus : new_status ∈ apply_statuses) :
      Writes actor run_id reservation (.transition_run run_id new_status actor detail)
  | complete_apply {artifact_hash : String} {owned_state detail : Value} :
      Writes actor run_id reservation (.complete_apply run_id artifact_hash owned_state actor detail)
  | transition_design_reservation {reservation_id : String} {new_state : ReservationState} {verified : Bool}
      (hreservation : reservation = some reservation_id) :
      Writes actor run_id reservation (.transition_design_reservation reservation_id new_state actor verified)
  | add_evidence {phase_id evidence_type : String} {payload : Value} {device_id : Option String} :
      Writes actor run_id reservation (.add_evidence run_id phase_id evidence_type payload actor device_id)

/-- Everything that is not of the run or of the reservation stays as it is, and every new event names the actor. -/
structure Untouched (actor run_id : String) (reservation : Option String) (before after : Store) : Prop where
  intents : after.intents = before.intents
  plans : after.plans = before.plans
  approvals : after.approvals = before.approvals
  runs : (after.runs.filter fun row => row.run_id ≠ run_id) = before.runs.filter fun row => row.run_id ≠ run_id
  fabric_locks : (after.fabric_locks.filter fun row => row.run_id ≠ run_id) =
    before.fabric_locks.filter fun row => row.run_id ≠ run_id
  evidence : (after.evidence.filter fun row => row.run_id ≠ run_id) =
    before.evidence.filter fun row => row.run_id ≠ run_id
  design_reservations : (after.design_reservations.filter fun row => some row.reservation_id ≠ reservation) =
    before.design_reservations.filter fun row => some row.reservation_id ≠ reservation
  network_allocations : (after.network_allocations.filter fun row => some row.reservation_id ≠ reservation) =
    before.network_allocations.filter fun row => some row.reservation_id ≠ reservation
  scalar_allocations : (after.scalar_allocations.filter fun row => some row.reservation_id ≠ reservation) =
    before.scalar_allocations.filter fun row => some row.reservation_id ≠ reservation
  owned_state_manifests : (after.owned_state_manifests.filter fun row => row.source_reference ≠ run_id) =
    before.owned_state_manifests.filter fun row => row.source_reference ≠ run_id
  audit_events : ∃ added, after.audit_events = before.audit_events ++ added ∧ ∀ event ∈ added, event.actor = actor

section Untouched

variable {platform : Platform} {derive_fabric_intent : Derive} {ambient : Ambient}
  {actor run_id : String} {reservation : Option String} {before middle after : Store}

theorem Untouched.refl (actor run_id : String) (reservation : Option String) (store : Store) :
    Untouched actor run_id reservation store store where
  intents := rfl
  plans := rfl
  approvals := rfl
  runs := rfl
  fabric_locks := rfl
  evidence := rfl
  design_reservations := rfl
  network_allocations := rfl
  scalar_allocations := rfl
  owned_state_manifests := rfl
  audit_events := ⟨[], (List.append_nil _).symm, List.forall_mem_nil _⟩

theorem Untouched.trans (hfirst : Untouched actor run_id reservation before middle)
    (hsecond : Untouched actor run_id reservation middle after) : Untouched actor run_id reservation before after where
  intents := hsecond.intents.trans hfirst.intents
  plans := hsecond.plans.trans hfirst.plans
  approvals := hsecond.approvals.trans hfirst.approvals
  runs := hsecond.runs.trans hfirst.runs
  fabric_locks := hsecond.fabric_locks.trans hfirst.fabric_locks
  evidence := hsecond.evidence.trans hfirst.evidence
  design_reservations := hsecond.design_reservations.trans hfirst.design_reservations
  network_allocations := hsecond.network_allocations.trans hfirst.network_allocations
  scalar_allocations := hsecond.scalar_allocations.trans hfirst.scalar_allocations
  owned_state_manifests := hsecond.owned_state_manifests.trans hfirst.owned_state_manifests
  audit_events := by
    obtain ⟨first, hbefore, hfirst⟩ := hfirst.audit_events
    obtain ⟨second, hmiddle, hsecond⟩ := hsecond.audit_events
    refine ⟨first ++ second, by rw [hmiddle, hbefore, List.append_assoc], fun event hevent => ?_⟩
    obtain hevent | hevent := List.mem_append.mp hevent
    · exact hfirst event hevent
    · exact hsecond event hevent

/-- An event of the actor touches nothing. -/
theorem Untouched.append_audit (huntouched : Untouched actor run_id reservation before after)
    (aggregate_type aggregate_id event_type : String) (payload : Value) (now : Datetime) (uuid4_hex : String) :
    Untouched actor run_id reservation before
      (after._append_audit platform aggregate_type aggregate_id event_type actor payload now uuid4_hex) := by
  obtain ⟨added, hadded, hactor⟩ := huntouched.audit_events
  refine { huntouched with audit_events := ?_ }
  simp only [Store._append_audit, hadded, List.append_assoc]
  exact ⟨_, rfl, List.forall_mem_append.mpr ⟨hactor, List.forall_mem_singleton.mpr rfl⟩⟩

/-- The rows of a run are left out of what has to stay. -/
theorem filter_run_status (updated_at : String) (status : RunStatus) (runs : List RunRow) :
    ((set_run_status run_id status updated_at runs).filter fun row => row.run_id ≠ run_id) =
      runs.filter fun row => row.run_id ≠ run_id := by
  refine table.filter_update _ runs fun row hkey => ?_
  simp only [hkey, ne_eq, not_true_eq_false, decide_false, and_self]

theorem filter_release (fabric_locks : List FabricLockRow) :
    ((release_fabric_lock run_id fabric_locks).filter fun row => row.run_id ≠ run_id) =
      fabric_locks.filter fun row => row.run_id ≠ run_id := by
  simp only [release_fabric_lock, List.filter_filter, Bool.and_self]

/-- A row that is left out may come in. -/
theorem filter_append_own {α : Type} {kept : α → Bool} (rows : List α) {row : α} (hrow : kept row = false) :
    (rows ++ [row]).filter kept = rows.filter kept := by
  have hnone : [row].filter kept = [] := List.filter_cons_of_neg (ne_true_of_eq_false hrow)
  rw [List.filter_append, hnone, List.append_nil]

/-- A committed transaction of the worker touches nothing else. -/
theorem writes_untouched {transaction : Transaction} (hwrites : Writes actor run_id reservation transaction)
    (hperform : perform platform derive_fabric_intent ambient before transaction = .ok after) :
    Untouched actor run_id reservation before after := by
  have hself := Untouched.refl actor run_id reservation before
  cases hwrites with
  | transition_run hstatus =>
    obtain ⟨row, hvalue⟩ := map_snd_eq_ok_iff.mp hperform
    simp only [transition_run, bind_eq_ok_iff, raise_if_eq_ok, pure_eq_ok_iff, Prod.mk.injEq] at hvalue
    obtain ⟨run, -, _, -, -, rfl⟩ := hvalue
    apply Untouched.append_audit
    refine { hself with runs := filter_run_status _ _ _, fabric_locks := ?_ }
    split
    · exact filter_release _
    · rfl
  | complete_apply =>
    obtain ⟨row, hvalue⟩ := map_snd_eq_ok_iff.mp hperform
    simp only [complete_apply, bind_eq_ok_iff, raise_if_eq_ok, pure_eq_ok_iff, Prod.mk.injEq] at hvalue
    obtain ⟨_, -, _, -, run, -, _, -, _, -, _, -, _, -, _, -, _, -, -, rfl⟩ := hvalue
    apply Untouched.append_audit
    apply Untouched.append_audit
    refine { hself with
      runs := filter_run_status _ _ _
      fabric_locks := filter_release _
      owned_state_manifests := filter_append_own _ ?_ }
    rw [decide_eq_false_iff_not, not_not]
  | transition_design_reservation hreservation =>
    obtain ⟨record, hvalue⟩ := map_snd_eq_ok_iff.mp hperform
    simp only [transition_design_reservation, bind_eq_ok_iff, raise_if_eq_ok, pure_eq_ok_iff, Prod.mk.injEq] at hvalue
    obtain ⟨_, -, row, -, _, -, _, -, -, rfl⟩ := hvalue
    have hown {α : Type} {key : α → String} {change : α → α} (rows : List α) {reservation_id : String}
        (hown : reservation = some reservation_id) (hkey : ∀ row, key (change row) = key row) :
        ((table.update key reservation_id change rows).filter fun row => some (key row) ≠ reservation) =
          rows.filter fun row => some (key row) ≠ reservation := by
      refine table.filter_update _ rows fun row hrow => ?_
      simp only [hkey, hrow, hown, ne_eq, not_true_eq_false, decide_false, and_self]
    apply Untouched.append_audit
    exact { hself with
      design_reservations := hown _ hreservation fun _ => rfl
      network_allocations := hown _ hreservation fun _ => rfl
      scalar_allocations := hown _ hreservation fun _ => rfl }
  | add_evidence =>
    obtain ⟨row, hvalue⟩ := map_snd_eq_ok_iff.mp hperform
    simp only [add_evidence, bind_eq_ok_iff, raise_if_eq_ok] at hvalue
    obtain ⟨_, -, hvalue⟩ := hvalue
    split at hvalue
    · simp only [pure_eq_ok_iff, Prod.mk.injEq] at hvalue
      exact hvalue.2 ▸ hself
    · simp only [pure_eq_ok_iff, Prod.mk.injEq] at hvalue
      obtain ⟨-, rfl⟩ := hvalue
      apply Untouched.append_audit
      refine { hself with evidence := filter_append_own _ ?_ }
      rw [decide_eq_false_iff_not, not_not]

/-- A run of transactions of the worker touches nothing else. -/
theorem untouched_of_run {steps : List ((Transaction × Ambient) × Store)}
    (hsteps : transition.Run (Step platform derive_fabric_intent) before steps)
    (hwrites : ∀ entry ∈ steps, Writes actor run_id reservation entry.1.1) :
    Untouched actor run_id reservation before (transition.last before steps) := by
  induction hsteps with
  | nil store => exact Untouched.refl actor run_id reservation store
  | @cons store next label rest hstep hrest ih =>
    obtain ⟨hfirst, hlater⟩ := List.forall_mem_cons.mp hwrites
    exact (writes_untouched hfirst hstep).trans (ih hlater)

end Untouched

end orchestrator.store
