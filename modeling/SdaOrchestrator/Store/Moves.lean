import SdaOrchestrator.Store.FabricLock
import SdaOrchestrator.Store.Requested

open python

namespace orchestrator.store

/-- The status that a transaction moves a run to. -/
def Transaction.moves (run_id : String) : Transaction → Option RunStatus
  | .transition_run id new_status _ _ => if id = run_id then some new_status else none
  | .complete_apply id _ _ _ _ => if id = run_id then some .apply_succeeded else none
  | _ => none

section Moves

variable {platform : Platform} {derive_fabric_intent : Derive} {run_id : String} {before after : RunStatus}

theorem run_status_set (tables : CoreTables) (id updated_at : String) (status : RunStatus)
    (fabric_locks : List FabricLockRow) (owned_state_manifests : List OwnedStateRow)
    (hbefore : tables.run_status run_id = some before) :
    CoreTables.run_status { tables with
      runs := set_run_status id status updated_at tables.runs, fabric_locks, owned_state_manifests } run_id =
      some (if id = run_id then status else before) := by
  obtain ⟨run, hrun, rfl⟩ := Option.map_eq_some_iff.mp hbefore
  simp only [CoreTables.run_status, lookup_set_run_status]
  split
  · rename_i heq
    rw [if_pos heq.symm, ← heq, hrun]
    rfl
  · rename_i hne
    rw [if_neg (Ne.symm hne), hrun]
    rfl

/-- A transaction moves a stored run along the table, or leaves its status. -/
theorem step_run_status {store next : Store} {label : Transaction × Ambient}
    (hstep : Step platform derive_fabric_intent store label next)
    (hbefore : store.core.run_status run_id = some before) :
    next.core.run_status run_id = some ((label.1.moves run_id).getD before) ∧
      ∀ status, label.1.moves run_id = some status → status ∈ transition_run.allowed before := by
  obtain ⟨transaction, ambient⟩ := label
  have heffect := perform_effect hstep
  obtain ⟨run, hrun, rfl⟩ := Option.map_eq_some_iff.mp hbefore
  generalize next.core = tables at heffect
  have hmoved (id updated_at : String) (status : RunStatus) (source : RunRow) (fabric_locks : List FabricLockRow)
      (owned_state_manifests : List OwnedStateRow) (hfind : store.find_run id = some source)
      (hallowed : status ∈ transition_run.allowed source.status) :
      CoreTables.run_status { store.core with
          runs := set_run_status id status updated_at store.runs, fabric_locks, owned_state_manifests } run_id =
        some ((if id = run_id then some status else none).getD run.status) ∧
      ∀ found, (if id = run_id then some status else none) = some found →
        found ∈ transition_run.allowed run.status := by
    have hset := run_status_set store.core id updated_at status fabric_locks owned_state_manifests hbefore
    split
    · rename_i heq
      rw [if_pos heq] at hset
      refine ⟨hset, fun found hfound => ?_⟩
      obtain rfl := Option.some.inj hfound
      have hsource : store.find_run run_id = some source := heq ▸ hfind
      obtain rfl : source = run := Option.some.inj (hsource.symm.trans hrun)
      exact hallowed
    · rename_i hne
      rw [if_neg hne] at hset
      exact ⟨hset, fun found hfound => by cases hfound⟩
  cases heffect with
  | keep hanswered =>
    cases transaction with
    | transition_run => exact hanswered.elim
    | complete_apply => exact hanswered.elim
    | _ => exact ⟨hbefore, fun status h => by cases h⟩
  | run hnew =>
    refine ⟨?_, fun status h => by cases h⟩
    have hlookup := (table.lookup_append_fresh (k := run_id) hnew.fresh).mpr (.inl hrun)
    exact congrArg (Option.map RunRow.status) hlookup
  | status hfind hallowed => exact hmoved _ _ _ _ _ _ hfind hallowed
  | complete hfind hrunning =>
    have hallowed : RunStatus.apply_succeeded ∈ transition_run.allowed .apply_running := by decide
    exact hmoved _ _ _ _ _ _ hfind (hrunning ▸ hallowed)
  | _ => exact ⟨hbefore, fun status h => by cases h⟩

/-- A run that ends in another status was moved to it. -/
theorem moved_of_run {store : Store} {steps : List ((Transaction × Ambient) × Store)}
    (hsteps : transition.Run (Step platform derive_fabric_intent) store steps)
    (hbefore : store.core.run_status run_id = some before)
    (hafter : (transition.last store steps).core.run_status run_id = some after) :
    after = before ∨ ∃ entry ∈ steps, entry.1.1.moves run_id = some after := by
  induction hsteps generalizing before with
  | nil store => exact .inl (Option.some.inj (hafter.symm.trans hbefore))
  | @cons store next label rest hstep hrest ih =>
    have hnext := (step_run_status hstep hbefore).1
    obtain hsame | ⟨entry, hentry, hmoves⟩ := ih hnext hafter
    · cases hmove : label.1.moves run_id with
      | none =>
        rw [hmove, Option.getD_none] at hsame
        exact .inl hsame
      | some status =>
        rw [hmove, Option.getD_some] at hsame
        exact .inr ⟨_, List.mem_cons_self, hsame ▸ hmove⟩
    · exact .inr ⟨entry, List.mem_cons_of_mem _ hentry, hmoves⟩

/-- A status without a way out is the last one. -/
theorem status_of_final {store : Store} {steps : List ((Transaction × Ambient) × Store)}
    (hsteps : transition.Run (Step platform derive_fabric_intent) store steps)
    (hbefore : store.core.run_status run_id = some before) (hfinal : transition_run.allowed before = []) :
    (transition.last store steps).core.run_status run_id = some before := by
  induction hsteps with
  | nil store => exact hbefore
  | @cons store next label rest hstep hrest ih =>
    obtain ⟨hnext, hallowed⟩ := step_run_status hstep hbefore
    cases hmove : label.1.moves run_id with
    | none =>
      rw [hmove, Option.getD_none] at hnext
      exact ih hnext
    | some status =>
      have hmem := hallowed status hmove
      rw [hfinal] at hmem
      cases hmem

/-- A run that was moved to a status without a way out ends in it. -/
theorem status_of_moves {store : Store} {steps : List ((Transaction × Ambient) × Store)}
    (hsteps : transition.Run (Step platform derive_fabric_intent) store steps)
    (hbefore : store.core.run_status run_id = some before) {entry : (Transaction × Ambient) × Store}
    (hentry : entry ∈ steps) (hmoves : entry.1.1.moves run_id = some after)
    (hfinal : transition_run.allowed after = []) :
    (transition.last store steps).core.run_status run_id = some after := by
  induction hsteps generalizing before with
  | nil store => cases hentry
  | @cons store next label rest hstep hrest ih =>
    have hnext := (step_run_status hstep hbefore).1
    obtain rfl | hlater := List.mem_cons.mp hentry
    · rw [hmoves, Option.getD_some] at hnext
      have hlast := status_of_final hrest hnext hfinal
      exact hlast
    · exact ih hnext hlater

/-- No status comes back: a run never gets less far, and any move has got it further. -/
theorem rank_of_run {store : Store} {steps : List ((Transaction × Ambient) × Store)}
    (hsteps : transition.Run (Step platform derive_fabric_intent) store steps)
    (hbefore : store.core.run_status run_id = some before)
    (hafter : (transition.last store steps).core.run_status run_id = some after) :
    before.rank ≤ after.rank ∧
      ∀ entry ∈ steps, ∀ status, entry.1.1.moves run_id = some status → before.rank < after.rank := by
  induction hsteps generalizing before with
  | nil store =>
    obtain rfl := Option.some.inj (hafter.symm.trans hbefore)
    exact ⟨Nat.le_refl _, fun entry hentry => by cases hentry⟩
  | @cons store next label rest hstep hrest ih =>
    obtain ⟨hnext, hallowed⟩ := step_run_status hstep hbefore
    obtain ⟨hle, hmoved⟩ := ih hnext hafter
    cases hmove : label.1.moves run_id with
    | none =>
      rw [hmove, Option.getD_none] at hle hmoved
      refine ⟨hle, fun entry hentry status hmoves => ?_⟩
      obtain rfl | hlater := List.mem_cons.mp hentry
      · rw [hmove] at hmoves
        cases hmoves
      · exact hmoved entry hlater status hmoves
    | some status =>
      rw [hmove, Option.getD_some] at hle
      have hlt : before.rank < after.rank := (run_rank_lt before status (hallowed status hmove)).trans_le hle
      exact ⟨hlt.le, fun _ _ _ _ => hlt⟩

/-! ## Reachable stores -/

/-- A run of transactions leads from a reachable store to a reachable store. -/
theorem Reachable.last {store : Store} (hreachable : Reachable platform derive_fabric_intent store)
    {steps : List ((Transaction × Ambient) × Store)}
    (hsteps : transition.Run (Step platform derive_fabric_intent) store steps) :
    Reachable platform derive_fabric_intent (transition.last store steps) := by
  obtain ⟨earlier, hearlier, rfl⟩ := hreachable
  exact ⟨earlier ++ steps, hearlier.append hsteps, transition.last_append _ _ _⟩

theorem Reachable.locking {store : Store} (hreachable : Reachable platform derive_fabric_intent store) :
    Locking store.runs store.fabric_locks := by
  obtain ⟨steps, hsteps, rfl⟩ := hreachable
  have hempty : Locking ({} : Store).runs ({} : Store).fabric_locks :=
    ⟨List.nodup_nil, List.nodup_nil, by simp, by simp [locked]⟩
  exact hsteps.invariant (fun s => Locking s.runs s.fabric_locks)
    (fun _ _ _ hlocking hstep => lock_effect_locking hlocking (perform_lock_effect hstep)) hempty _
    (transition.last_mem_visited _ _)

/-- A run in a final status holds no lock. -/
theorem Reachable.unlocked {store : Store} (hreachable : Reachable platform derive_fabric_intent store)
    (hstatus : store.core.run_status run_id = some after) (hfinal : after ∈ transition_run.terminal) :
    ∀ lock ∈ store.fabric_locks, lock.run_id ≠ run_id := by
  obtain ⟨run, hrun, rfl⟩ := Option.map_eq_some_iff.mp hstatus
  have hid : run.run_id = run_id := table.lookup_key hrun
  exact hid ▸ hreachable.locking.locks_exact.terminal run (table.lookup_mem hrun) hfinal

end Moves

end orchestrator.store
