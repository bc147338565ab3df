import SdaOrchestrator.Store.Valid

open python

namespace orchestrator.store

/-- The statuses of an apply run that is not finished. -/
def RunStatus.unfinished_apply (status : RunStatus) : Prop :=
  status = .apply_queued ∨ status = .apply_running ∨ status = .rollback_running

/-- The mode whose runs have a status. -/
def RunStatus.mode : RunStatus → Mode
  | .dry_run_queued | .dry_run_running | .dry_run_succeeded | .dry_run_blocked | .dry_run_failed =>
    .dry_run
  | _ => .apply

theorem allowed_mode {source target : RunStatus} (hallowed : target ∈ transition_run.allowed source) :
    target.mode = source.mode := by
  cases source <;> cases target <;> simp_all [transition_run.allowed, RunStatus.mode]

/-- A status of an apply run is unfinished exactly when it is not terminal. -/
theorem unfinished_apply_iff (status : RunStatus) :
    status.unfinished_apply ↔ status.mode = .apply ∧ status ∉ transition_run.terminal := by
  cases status <;> simp [RunStatus.unfinished_apply, RunStatus.mode, transition_run.terminal]

/-- A row of `fabric_locks` for a fabric and a run. -/
def locked (fabric_locks : List FabricLockRow) (fabric_id run_id : String) : Prop :=
  ∃ lock ∈ fabric_locks, lock.fabric_id = fabric_id ∧ lock.run_id = run_id

/-- What the fabric locks owe: they are exactly the locks of the unfinished apply runs,
so a fabric has at most one such run, and neither a dry run nor a terminal run has any. -/
structure Store.LocksExact (store : Store) : Prop where
  exact : ∀ fabric_id run_id, locked store.fabric_locks fabric_id run_id ↔
    ∃ run ∈ store.runs, run.run_id = run_id ∧ run.fabric_id = fabric_id ∧ run.mode = .apply ∧
      run.status.unfinished_apply
  one_per_fabric : ∀ first ∈ store.runs, ∀ second ∈ store.runs,
    first.fabric_id = second.fabric_id →
      first.mode = .apply → first.status ∉ transition_run.terminal →
        second.mode = .apply → second.status ∉ transition_run.terminal → first = second
  dry_run : ∀ run ∈ store.runs, run.mode = .dry_run → ∀ lock ∈ store.fabric_locks,
    lock.run_id ≠ run.run_id
  terminal : ∀ run ∈ store.runs, run.status ∈ transition_run.terminal →
    ∀ lock ∈ store.fabric_locks, lock.run_id ≠ run.run_id

/-- The invariant of the two tables: one lock a fabric, and a lock for every unfinished
apply run. -/
structure Locking (runs : List RunRow) (fabric_locks : List FabricLockRow) : Prop where
  run_ids : (runs.map RunRow.run_id).Nodup
  fabric_ids : (fabric_locks.map FabricLockRow.fabric_id).Nodup
  mode : ∀ run ∈ runs, run.status.mode = run.mode
  exact : ∀ fabric_id run_id, locked fabric_locks fabric_id run_id ↔
    ∃ run ∈ runs, run.run_id = run_id ∧ run.fabric_id = fabric_id ∧ run.status.unfinished_apply

section Locking

variable {runs : List RunRow} {fabric_locks : List FabricLockRow}
  (hlocking : Locking runs fabric_locks)
include hlocking

theorem Locking.run_eq {first second : RunRow} (hfirst : first ∈ runs) (hsecond : second ∈ runs)
    (hid : first.run_id = second.run_id) : first = second :=
  List.inj_on_of_nodup_map hlocking.run_ids hfirst hsecond hid

/-- A lock belongs to an unfinished apply run. -/
theorem Locking.lock_run {lock : FabricLockRow} {run : RunRow} (hlock : lock ∈ fabric_locks)
    (hrun : run ∈ runs) (hid : lock.run_id = run.run_id) : run.status.unfinished_apply := by
  obtain ⟨owner, howner, hsame, -, hstatus⟩ :=
    (hlocking.exact lock.fabric_id lock.run_id).mp ⟨lock, hlock, rfl, rfl⟩
  have heq : owner = run := hlocking.run_eq howner hrun (hsame.trans hid)
  exact heq ▸ hstatus

/-- No lock belongs to a dry run. -/
theorem Locking.lock_not_dry_run {lock : FabricLockRow} {run : RunRow}
    (hlock : lock ∈ fabric_locks) (hrun : run ∈ runs) (hdry : run.mode = .dry_run) :
    lock.run_id ≠ run.run_id := by
  intro hid
  have happly := ((unfinished_apply_iff _).mp (hlocking.lock_run hlock hrun hid)).1
  rw [hlocking.mode run hrun, hdry] at happly
  cases happly

end Locking

theorem Locking.locks_exact {store : Store} (hlocking : Locking store.runs store.fabric_locks) :
    store.LocksExact where
  exact := by
    intro fabric_id run_id
    rw [hlocking.exact]
    constructor
    · rintro ⟨run, hrun, hid, hfabric, hstatus⟩
      have hmode := ((unfinished_apply_iff _).mp hstatus).1
      exact ⟨run, hrun, hid, hfabric, hlocking.mode run hrun ▸ hmode, hstatus⟩
    · rintro ⟨run, hrun, hid, hfabric, -, hstatus⟩
      exact ⟨run, hrun, hid, hfabric, hstatus⟩
  one_per_fabric := by
    intro first hfirst second hsecond hfabric hfirst_apply hfirst_status hsecond_apply hsecond_status
    have hheld (run : RunRow) (hrun : run ∈ store.runs) (happly : run.mode = .apply)
        (hstatus : run.status ∉ transition_run.terminal) :
        locked store.fabric_locks run.fabric_id run.run_id := by
      have hunfinished : run.status.unfinished_apply :=
        (unfinished_apply_iff _).mpr ⟨(hlocking.mode run hrun).trans happly, hstatus⟩
      exact (hlocking.exact _ _).mpr ⟨run, hrun, rfl, rfl, hunfinished⟩
    obtain ⟨lock, hlock, hlock_fabric, hlock_run⟩ := hheld first hfirst hfirst_apply hfirst_status
    obtain ⟨other, hother, hother_fabric, hother_run⟩ :=
      hheld second hsecond hsecond_apply hsecond_status
    have hfabrics : lock.fabric_id = other.fabric_id := by
      rw [hlock_fabric, hother_fabric, hfabric]
    have hsame : lock = other := List.inj_on_of_nodup_map hlocking.fabric_ids hlock hother hfabrics
    apply hlocking.run_eq hfirst hsecond
    rw [← hlock_run, ← hother_run, hsame]
  dry_run := fun _ hrun hdry _ hlock => hlocking.lock_not_dry_run hlock hrun hdry
  terminal := by
    intro run hrun hterminal lock hlock hid
    exact ((unfinished_apply_iff _).mp (hlocking.lock_run hlock hrun hid)).2 hterminal

/-! ## One transaction -/

/-- A run is queued: a dry run leaves the locks, an apply run takes the free lock of
its fabric. -/
inductive Queued (fabric_locks : List FabricLockRow) (fabric_id run_id : String) :
    Mode → List FabricLockRow → Prop where
  | dry_run : Queued fabric_locks fabric_id run_id .dry_run fabric_locks
  | apply {lock : FabricLockRow} (hfree : ∀ other ∈ fabric_locks, other.fabric_id ≠ fabric_id)
      (hfabric : lock.fabric_id = fabric_id) (hrun : lock.run_id = run_id) :
      Queued fabric_locks fabric_id run_id .apply (fabric_locks ++ [lock])

/-- The run whose status a transaction moves. -/
def Transaction.moved_run : Transaction → Option String
  | .transition_run run_id _ _ _ => some run_id
  | .complete_apply run_id _ _ _ _ => some run_id
  | _ => none

/-- What one transaction can do to the runs and the fabric locks. -/
inductive LockEffect (store : Store) : Transaction → List RunRow → List FabricLockRow → Prop where
  | keep {transaction : Transaction} : LockEffect store transaction store.runs store.fabric_locks
  | queue {plan_id mode idempotency_key requested_by : String} {execution_enabled : Bool}
      {maintenance_start maintenance_end : Option String} {lock_ttl_seconds : Int} {row : RunRow}
      {fabric_locks : List FabricLockRow} (hmode : Mode.parse mode = .ok row.mode)
      (hnew : NewRun store row)
      (hqueued : Queued store.fabric_locks row.fabric_id row.run_id row.mode fabric_locks) :
      LockEffect store
        (.create_run plan_id mode idempotency_key requested_by execution_enabled maintenance_start
          maintenance_end lock_ttl_seconds)
        (store.runs ++ [row]) fabric_locks
  | status {transaction : Transaction} {run_id : String} {new_status : RunStatus} {run : RunRow}
      {updated_at : String} (htransaction : transaction.moved_run = some run_id)
      (hfind : store.find_run run_id = some run)
      (hallowed : new_status ∈ transition_run.allowed run.status) :
      LockEffect store transaction (set_run_status run_id new_status updated_at store.runs)
        (if new_status ∈ transition_run.terminal then release_fabric_lock run_id store.fabric_locks
          else store.fabric_locks)

theorem take_fabric_lock_eq_ok {platform : Platform} {mode : Mode}
    {fabric_id run_id created_at : String} {lock_ttl_seconds : Int} {now : Datetime}
    {store next : Store}
    (hresult : take_fabric_lock platform mode fabric_id run_id created_at lock_ttl_seconds now
      store = .ok next) : Queued store.fabric_locks fabric_id run_id mode next.fabric_locks := by
  cases mode with
  | dry_run =>
    obtain rfl := Except.ok.inj hresult
    exact .dry_run
  | apply =>
    simp only [take_fabric_lock, raise_if_bind_eq_ok_iff, pure_eq_ok_iff] at hresult
    obtain ⟨hfree, rfl⟩ := hresult
    exact .apply (by simpa using hfree) rfl rfl

theorem create_run_locks {platform : Platform} {plan_id mode idempotency_key requested_by : String}
    {execution_enabled : Bool} {maintenance_start maintenance_end : Option String}
    {lock_ttl_seconds : Int} {ambient : Ambient} {store next : Store} {row : RunRow} {created : Bool}
    (hresult : create_run platform plan_id mode idempotency_key requested_by execution_enabled
      maintenance_start maintenance_end lock_ttl_seconds ambient store = .ok ((row, created), next)) :
    next = store ∨ Mode.parse mode = .ok row.mode ∧ NewRun store row ∧
      next.runs = store.runs ++ [row] ∧
      Queued store.fabric_locks row.fabric_id row.run_id row.mode next.fabric_locks := by
  obtain rfl | ⟨hnew, fabric_locks, hcore⟩ := create_run_core hresult
  · exact .inl rfl
  · refine .inr ?_
    simp only [create_run, bind_eq_ok_iff, raise_if_eq_ok, require_eq_ok] at hresult
    obtain ⟨parsed, hparsed, _, -, _, -, window, -, plan, hplan, hresult⟩ := hresult
    split at hresult
    · simp only [bind_eq_ok_iff, raise_if_eq_ok, pure_eq_ok_iff, Prod.mk.injEq] at hresult
      obtain ⟨_, -, -, rfl⟩ := hresult
      have hlength := congrArg (fun tables => tables.runs.length) hcore
      simp [Store.core] at hlength
    · simp only [bind_eq_ok_iff, raise_if_eq_ok, pure_eq_ok_iff, Prod.mk.injEq] at hresult
      obtain ⟨approval, -, _, -, _, -, _, -, _, -, locked, hlocked, ⟨rfl, -⟩, rfl⟩ := hresult
      have hruns := congrArg CoreTables.runs hcore
      have hqueued := take_fabric_lock_eq_ok hlocked
      exact ⟨hparsed, hnew, hruns, hqueued⟩

theorem transition_run_locks {platform : Platform} {run_id : String} {new_status : RunStatus}
    {actor : String} {detail : Value} {ambient : Ambient} {store next : Store} {row : RunRow}
    (hresult : transition_run platform run_id new_status actor detail ambient store =
      .ok (row, next)) :
    ∃ run updated_at, store.find_run run_id = some run ∧
      new_status ∈ transition_run.allowed run.status ∧
      next.runs = set_run_status run_id new_status updated_at store.runs ∧
      next.fabric_locks =
        if new_status ∈ transition_run.terminal then release_fabric_lock run_id store.fabric_locks
        else store.fabric_locks := by
  simp only [transition_run, bind_eq_ok_iff, raise_if_eq_ok, require_eq_ok, pure_eq_ok_iff,
    Prod.mk.injEq, decide_eq_false_iff_not, not_not] at hresult
  obtain ⟨run, hfind, _, hallowed, -, rfl⟩ := hresult
  exact ⟨run, _, hfind, hallowed, rfl, rfl⟩

/-- Every transaction that commits has one of these effects on the locks. -/
theorem perform_lock_effect {platform : Platform} {derive_fabric_intent : Derive}
    {ambient : Ambient} {store next : Store} {transaction : Transaction}
    (hstep : perform platform derive_fabric_intent ambient store transaction = .ok next) :
    LockEffect store transaction next.runs next.fabric_locks := by
  have heffect := perform_effect hstep
  have hcore : next.runs = next.core.runs ∧ next.fabric_locks = next.core.fabric_locks := ⟨rfl, rfl⟩
  rw [hcore.1, hcore.2]
  cases transaction with
  | create_run plan_id mode idempotency_key requested_by execution_enabled maintenance_start
      maintenance_end lock_ttl_seconds =>
    obtain ⟨⟨row, created⟩, hvalue⟩ := map_snd_eq_ok_iff.mp hstep
    obtain rfl | ⟨hmode, hnew, hruns, hqueued⟩ := create_run_locks hvalue
    · exact .keep
    · rw [← hcore.1, hruns]
      exact .queue hmode hnew hqueued
  | transition_run run_id new_status actor detail =>
    obtain ⟨row, hvalue⟩ := map_snd_eq_ok_iff.mp hstep
    obtain ⟨run, updated_at, hfind, hallowed, hruns, hlocks⟩ := transition_run_locks hvalue
    rw [← hcore.1, ← hcore.2, hruns, hlocks]
    exact .status rfl hfind hallowed
  | complete_apply run_id artifact_hash owned_state actor detail =>
    obtain ⟨row, hvalue⟩ := map_snd_eq_ok_iff.mp hstep
    obtain ⟨run, updated_at, manifest, hfind, hrunning, hnext⟩ := complete_apply_core hvalue
    rw [hnext]
    have hallowed : RunStatus.apply_succeeded ∈ transition_run.allowed run.status := by
      rw [hrunning]
      decide
    exact .status rfl hfind hallowed
  | _ =>
    generalize next.core = tables at heffect
    cases heffect <;> exact .keep

/-- Queueing a fresh run keeps the invariant. -/
theorem Locking.queue {store : Store} {row : RunRow} {fabric_locks : List FabricLockRow}
    (hlocking : Locking store.runs store.fabric_locks) (hnew : NewRun store row)
    (hqueued : Queued store.fabric_locks row.fabric_id row.run_id row.mode fabric_locks) :
    Locking (store.runs ++ [row]) fabric_locks := by
  have hmode : ∀ run ∈ store.runs ++ [row], run.status.mode = run.mode := by
    intro run hrun
    obtain hold | hadded := List.mem_append.mp hrun
    · exact hlocking.mode run hold
    · rw [List.mem_singleton.mp hadded, hnew.queued]
      cases row.mode <;> rfl
  have hrun_ids := table.nodup_append_fresh hlocking.run_ids hnew.fresh
  have hstatus := hnew.queued
  generalize row.mode = mode at hqueued hstatus
  cases hqueued with
  | dry_run =>
    refine ⟨hrun_ids, hlocking.fabric_ids, hmode, ?_⟩
    intro fabric_id run_id
    rw [hlocking.exact]
    simp [hstatus, Mode.queued, RunStatus.unfinished_apply]
  | @apply lock hfree hfabric hrun =>
    refine ⟨hrun_ids, ?_, hmode, ?_⟩
    · apply table.nodup_append_fresh hlocking.fabric_ids
      rw [table.lookup_eq_none_iff, hfabric]
      exact hfree
    · intro fabric_id run_id
      have hold := hlocking.exact fabric_id run_id
      unfold locked at hold ⊢
      simp only [List.mem_append, List.mem_singleton, or_and_right, exists_or, hold, exists_eq_left,
        hfabric, hrun]
      simp [hstatus, Mode.queued, RunStatus.unfinished_apply, and_comm]

/-- The unfinished apply runs after a status change. -/
theorem unfinished_set_run_status {runs : List RunRow} {run : RunRow} {new_status : RunStatus}
    {updated_at : String} (hnodup : (runs.map RunRow.run_id).Nodup) (hrun : run ∈ runs)
    (fabric_id run_id : String) :
    (∃ found ∈ set_run_status run.run_id new_status updated_at runs, found.run_id = run_id ∧
        found.fabric_id = fabric_id ∧ found.status.unfinished_apply) ↔
      if run_id = run.run_id then run.fabric_id = fabric_id ∧ new_status.unfinished_apply
      else ∃ found ∈ runs, found.run_id = run_id ∧ found.fabric_id = fabric_id ∧
        found.status.unfinished_apply := by
  by_cases hid : run_id = run.run_id
  · rw [if_pos hid, hid]
    constructor
    · rintro ⟨found, hfound, hsame, hfabric, hstatus⟩
      obtain ⟨old, hold, rfl⟩ := table.mem_update.mp hfound
      have hold_id : old.run_id = run.run_id := by
        by_contra hne
        rw [if_neg hne] at hsame
        exact hne hsame
      obtain rfl : old = run := List.inj_on_of_nodup_map hnodup hold hrun hold_id
      rw [if_pos rfl] at hfabric hstatus
      exact ⟨hfabric, hstatus⟩
    · rintro ⟨hfabric, hstatus⟩
      have hmem : { run with status := new_status, updated_at } ∈
          set_run_status run.run_id new_status updated_at runs :=
        table.mem_update.mpr ⟨run, hrun, by rw [if_pos rfl]⟩
      exact ⟨_, hmem, rfl, hfabric, hstatus⟩
  · rw [if_neg hid]
    constructor
    · rintro ⟨found, hfound, hsame, hfabric, hstatus⟩
      obtain ⟨old, hold, rfl⟩ := table.mem_update.mp hfound
      have hother : old.run_id ≠ run.run_id := by
        intro heq
        rw [if_pos heq] at hsame
        exact hid (hsame.symm.trans heq)
      rw [if_neg hother] at hsame hfabric hstatus
      exact ⟨old, hold, hsame, hfabric, hstatus⟩
    · rintro ⟨found, hfound, hsame, hfabric, hstatus⟩
      have hother : found.run_id ≠ run.run_id := hsame ▸ hid
      exact ⟨found, table.mem_update.mpr ⟨found, hfound, by rw [if_neg hother]⟩, hsame, hfabric,
        hstatus⟩

/-- Moving a run along the table keeps the invariant, when a terminal status deletes
the lock of the run. -/
theorem Locking.status {runs : List RunRow} {fabric_locks : List FabricLockRow} {run : RunRow}
    {new_status : RunStatus} {updated_at : String} (hlocking : Locking runs fabric_locks)
    (hrun : run ∈ runs) (hallowed : new_status ∈ transition_run.allowed run.status) :
    Locking (set_run_status run.run_id new_status updated_at runs)
      (if new_status ∈ transition_run.terminal then release_fabric_lock run.run_id fabric_locks
        else fabric_locks) := by
  have hopen : run.status ∉ transition_run.terminal := by
    rw [terminal_iff_allowed_nil]
    intro hnil
    rw [hnil] at hallowed
    cases hallowed
  have hsame_mode := allowed_mode hallowed
  refine ⟨run_ids_set_run_status hlocking.run_ids, ?_, ?_, ?_⟩
  · split
    · exact hlocking.fabric_ids.sublist (List.filter_sublist.map _)
    · exact hlocking.fabric_ids
  · intro found hfound
    obtain ⟨old, hold, rfl⟩ := table.mem_update.mp hfound
    split
    · rename_i hid
      obtain rfl : old = run := hlocking.run_eq hold hrun hid
      exact hsame_mode.trans (hlocking.mode old hold)
    · exact hlocking.mode old hold
  · intro fabric_id run_id
    rw [unfinished_set_run_status hlocking.run_ids hrun]
    by_cases hid : run_id = run.run_id
    · rw [if_pos hid, hid]
      split
      · rename_i hterminal
        have hfinished : ¬new_status.unfinished_apply := fun hunfinished =>
          ((unfinished_apply_iff _).mp hunfinished).2 hterminal
        simp only [locked, release_fabric_lock, List.mem_filter, decide_eq_true_eq, hfinished,
          and_false, iff_false]
        rintro ⟨lock, ⟨-, hother⟩, -, hlock_run⟩
        exact hother hlock_run
      · rename_i hnonterminal
        rw [hlocking.exact, unfinished_apply_iff, hsame_mode]
        constructor
        · rintro ⟨found, hfound, hsame, hfabric, hstatus⟩
          obtain rfl := hlocking.run_eq hfound hrun hsame
          exact ⟨hfabric, ((unfinished_apply_iff _).mp hstatus).1, hnonterminal⟩
        · rintro ⟨hfabric, happly, -⟩
          exact ⟨run, hrun, rfl, hfabric, (unfinished_apply_iff _).mpr ⟨happly, hopen⟩⟩
    · rw [if_neg hid, ← hlocking.exact]
      split
      · unfold locked release_fabric_lock
        constructor
        · rintro ⟨lock, hlock, hfabric, hlock_run⟩
          exact ⟨lock, (List.mem_filter.mp hlock).1, hfabric, hlock_run⟩
        · rintro ⟨lock, hlock, hfabric, hlock_run⟩
          refine ⟨lock, List.mem_filter.mpr ⟨hlock, ?_⟩, hfabric, hlock_run⟩
          rw [hlock_run]
          exact decide_eq_true hid
      · exact Iff.rfl

/-- A transaction keeps the invariant of the lock table. -/
theorem lock_effect_locking {store : Store} {transaction : Transaction} {runs : List RunRow}
    {fabric_locks : List FabricLockRow} (hlocking : Locking store.runs store.fabric_locks)
    (heffect : LockEffect store transaction runs fabric_locks) : Locking runs fabric_locks := by
  cases heffect with
  | keep => exact hlocking
  | queue _ hnew hqueued => exact hlocking.queue hnew hqueued
  | status _ hfind hallowed =>
    obtain rfl := table.lookup_key hfind
    exact hlocking.status (table.lookup_mem hfind) hallowed

/-- What a transaction does for a dry run. -/
def Transaction.on_dry_run (store : Store) : Transaction → Prop
  | .create_run _ mode _ _ _ _ _ _ => mode = Mode.dry_run.text
  | transaction => ∃ run_id run, transaction.moved_run = some run_id ∧
      store.find_run run_id = some run ∧ run.mode = .dry_run

/-- A dry run neither takes nor releases a lock. -/
theorem lock_effect_on_dry_run {store : Store} {transaction : Transaction} {runs : List RunRow}
    {fabric_locks : List FabricLockRow} (hlocking : Locking store.runs store.fabric_locks)
    (heffect : LockEffect store transaction runs fabric_locks)
    (hdry : transaction.on_dry_run store) : fabric_locks = store.fabric_locks := by
  cases heffect with
  | keep => rfl
  | @queue _ mode _ _ _ _ _ _ row _ hmode _ hqueued =>
    obtain rfl : mode = "dry_run" := hdry
    obtain hrow : Mode.dry_run = row.mode := Except.ok.inj hmode
    rw [← hrow] at hqueued
    cases hqueued
    rfl
  | @status _ run_id new_status run _ htransaction hfind _ =>
    have hmoved : ∃ run_id run, transaction.moved_run = some run_id ∧
        store.find_run run_id = some run ∧ run.mode = .dry_run := by
      cases transaction <;> first | exact hdry | cases htransaction
    obtain ⟨moved, found, hmoved, hfound, hdry⟩ := hmoved
    obtain rfl := Option.some.inj (htransaction.symm.trans hmoved)
    obtain rfl := Option.some.inj (hfind.symm.trans hfound)
    split
    · refine List.filter_eq_self.mpr fun lock hlock => decide_eq_true ?_
      rw [← table.lookup_key hfind]
      exact hlocking.lock_not_dry_run hlock (table.lookup_mem hfind) hdry
    · rfl

/-! ## Every sequence of calls -/

theorem called_locking {platform : Platform} {derive_fabric_intent : Derive} {store : Store}
    {label : Transaction × Ambient} (hlocking : Locking store.runs store.fabric_locks) :
    Locking (called platform derive_fabric_intent store label).runs
      (called platform derive_fabric_intent store label).fabric_locks := by
  obtain hstep | hsame := called_cases platform derive_fabric_intent store label
  · exact lock_effect_locking hlocking (perform_lock_effect hstep)
  · rw [hsame]
    exact hlocking

theorem called_on_dry_run {platform : Platform} {derive_fabric_intent : Derive} {store : Store}
    {label : Transaction × Ambient} (hlocking : Locking store.runs store.fabric_locks)
    (hdry : label.1.on_dry_run store) :
    (called platform derive_fabric_intent store label).fabric_locks = store.fabric_locks := by
  obtain hstep | hsame := called_cases platform derive_fabric_intent store label
  · exact lock_effect_on_dry_run hlocking (perform_lock_effect hstep) hdry
  · rw [hsame]

/-- Over every sequence of calls, those that raise included: the locks are exactly
those of the unfinished apply runs, and no call for a dry run changes them. -/
theorem fabric_locks_exact (platform : Platform) (derive_fabric_intent : Derive)
    (calls : List (Transaction × Ambient)) :
    let history := transition.trace (called platform derive_fabric_intent) {} calls
    (∀ store ∈ transition.visited {} history, store.LocksExact) ∧
      ∀ entry ∈ transition.steps {} history, entry.2.1.1.on_dry_run entry.1 →
        entry.2.2.fabric_locks = entry.1.fabric_locks := by
  intro history
  have hrun := transition.trace_run (called platform derive_fabric_intent) {} calls
  have hempty : Locking ({} : Store).runs ({} : Store).fabric_locks :=
    ⟨List.nodup_nil, List.nodup_nil, by simp, by simp [locked]⟩
  have hpreserve (store : Store) (label : Transaction × Ambient) (next : Store)
      (hlocking : Locking store.runs store.fabric_locks)
      (hnext : next = called platform derive_fabric_intent store label) :
      Locking next.runs next.fabric_locks := hnext ▸ called_locking hlocking
  constructor
  · intro store hstore
    exact (hrun.invariant (fun s => Locking s.runs s.fabric_locks) hpreserve hempty store
      hstore).locks_exact
  · intro entry hentry hdry
    obtain ⟨hlocking, hnext⟩ :=
      hrun.invariant_steps (fun s => Locking s.runs s.fabric_locks) hpreserve hempty entry hentry
    rw [hnext]
    exact called_on_dry_run hlocking hdry

end orchestrator.store
