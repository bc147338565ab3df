import Mathlib.Logic.Function.Basic
import SdaOrchestrator.Lib.HashChain
import SdaOrchestrator.Lib.Python
import SdaOrchestrator.Lib.Transition

open hash_chain

/-! A log to which READ COMMITTED transactions append under a lock that each keeps until
it ends. -/

namespace locked_log

variable {α η ι : Type}

/-- Where a transaction stands. From `selected` on it carries the hash that its SELECT
returned. -/
inductive Phase (η : Type) where
  | idle
  | locked
  | selected (previous : η)
  | finished

/-- The statements of an append, in its order, and the ends of a transaction. -/
inductive Statement (ι : Type) where
  | lock
  | select
  | insert (entry : ι)
  | commit
  | rollback

/-- The committed rows with their sequence numbers, the next number, which no rollback
gives back, the holder of the lock, and the phase and the rows of every open transaction. -/
structure Log (α η : Type) where
  committed : List (Nat × α)
  next_sequence : Nat
  holder : Option Nat
  phase : Nat → Phase η
  pending : Nat → List (Nat × α)

def Log.initial : Log α η where
  committed := []
  next_sequence := 1
  holder := none
  phase := fun _ => .idle
  pending := fun _ => []

/-- `SELECT * FROM rows ORDER BY sequence`. -/
def ordered (rows : List (Nat × α)) : List α := (python.sortedBy Prod.fst rows).map Prod.snd

namespace Log

/-- The hash of the last row that a transaction sees: its own rows and the committed ones. -/
def seen (hash : α → η) (start : η) (log : Log α η) (tx : Nat) : η :=
  head hash start (ordered (log.committed ++ log.pending tx))

def set_phase (log : Log α η) (tx : Nat) (phase : Phase η) : Log α η :=
  { log with phase := Function.update log.phase tx phase }

def acquire (log : Log α η) (tx : Nat) : Log α η :=
  { log.set_phase tx .locked with holder := some tx }

/-- A row takes the next sequence number. -/
def insert (log : Log α η) (tx : Nat) (row : α) : Log α η :=
  { log.set_phase tx .idle with
    next_sequence := log.next_sequence + 1
    pending := Function.update log.pending tx (log.pending tx ++ [(log.next_sequence, row)]) }

/-- A transaction that ends gives its lock back. -/
def finish (log : Log α η) (tx : Nat) : Log α η where
  committed := log.committed
  next_sequence := log.next_sequence
  holder := if log.holder = some tx then none else log.holder
  phase := Function.update log.phase tx .finished
  pending := Function.update log.pending tx []

def commit (log : Log α η) (tx : Nat) : Log α η :=
  { log.finish tx with committed := log.committed ++ log.pending tx }

end Log

/-- One statement of a transaction. There is no step when it has to wait for the lock. -/
def exec (make : ι → η → α) (hash : α → η) (start : η) (log : Log α η) :
    Nat × Statement ι → Option (Log α η)
  | (tx, .lock) =>
    match log.phase tx with
    | .idle =>
      if log.holder = none ∨ log.holder = some tx then some (log.acquire tx) else none
    | _ => none
  | (tx, .select) =>
    match log.phase tx with
    | .locked => some (log.set_phase tx (.selected (log.seen hash start tx)))
    | _ => none
  | (tx, .insert entry) =>
    match log.phase tx with
    | .selected previous => some (log.insert tx (make entry previous))
    | _ => none
  | (tx, .commit) =>
    match log.phase tx with
    | .idle => some (log.commit tx)
    | _ => none
  | (tx, .rollback) =>
    match log.phase tx with
    | .finished => none
    | _ => some (log.finish tx)

/-- What one statement can do. -/
inductive Effect (make : ι → η → α) (hash : α → η) (start : η) (log : Log α η) (tx : Nat) : Log α η → Prop where
  | lock (hfree : log.holder = none ∨ log.holder = some tx) :
      Effect make hash start log tx (log.acquire tx)
  | select (hphase : log.phase tx = .locked) :
      Effect make hash start log tx (log.set_phase tx (.selected (log.seen hash start tx)))
  | insert {entry : ι} {previous : η} (hphase : log.phase tx = .selected previous) :
      Effect make hash start log tx (log.insert tx (make entry previous))
  | commit : Effect make hash start log tx (log.commit tx)
  | rollback : Effect make hash start log tx (log.finish tx)

theorem exec_effect {make : ι → η → α} {hash : α → η} {start : η} {log next : Log α η}
    {label : Nat × Statement ι} (hstep : exec make hash start log label = some next) :
    Effect make hash start log label.1 next := by
  obtain ⟨tx, statement⟩ := label
  cases statement with
  | lock =>
    simp only [exec] at hstep
    split at hstep
    · simp only [Option.ite_none_right_eq_some, Option.some.injEq] at hstep
      obtain ⟨hfree, rfl⟩ := hstep
      exact .lock hfree
    · cases hstep
  | select =>
    simp only [exec] at hstep
    split at hstep
    · obtain rfl := Option.some.inj hstep
      exact .select ‹_›
    · cases hstep
  | insert entry =>
    simp only [exec] at hstep
    split at hstep
    · obtain rfl := Option.some.inj hstep
      exact .insert ‹_›
    · cases hstep
  | commit =>
    simp only [exec] at hstep
    split at hstep
    · obtain rfl := Option.some.inj hstep
      exact .commit
    · cases hstep
  | rollback =>
    simp only [exec] at hstep
    split at hstep
    · cases hstep
    · obtain rfl := Option.some.inj hstep
      exact .rollback

/-! ## The invariant -/

/-- The rows of the transaction that holds the lock. -/
def Log.held (log : Log α η) : List (Nat × α) :=
  match log.holder with
  | some tx => log.pending tx
  | none => []

/-- Committed and held rows stand in order of their numbers and form one chain; only the
holder of the lock has rows or is in the middle of an append. -/
structure Consistent (previous hash digest : α → η) (start : η) (log : Log α η) : Prop where
  sorted : (log.committed ++ log.held).Pairwise fun first second => first.1 < second.1
  below : ∀ row ∈ log.committed ++ log.held, row.1 < log.next_sequence
  valid : Valid previous hash digest start ((log.committed ++ log.held).map Prod.snd)
  outside : ∀ tx, log.holder ≠ some tx →
    log.pending tx = [] ∧ (log.phase tx = .idle ∨ log.phase tx = .finished)
  current : ∀ tx hash_seen, log.phase tx = .selected hash_seen →
    hash_seen = head hash start ((log.committed ++ log.held).map Prod.snd)

theorem ordered_of_sorted {rows : List (Nat × α)}
    (hsorted : rows.Pairwise fun first second => first.1 < second.1) : ordered rows = rows.map Prod.snd := by
  have hle : rows.Pairwise fun first second => first.1 ≤ second.1 := hsorted.imp fun hlt => Nat.le_of_lt hlt
  rw [ordered, python.sortedBy, hle.insertionSort_eq]

section Invariant

variable {previous hash digest : α → η} {start : η} {make : ι → η → α} {log next : Log α η}

theorem initial_consistent : Consistent previous hash digest start (Log.initial : Log α η) where
  sorted := List.Pairwise.nil
  below := by simp [Log.initial, Log.held]
  valid := trivial
  outside tx _ := ⟨rfl, .inl rfl⟩
  current tx hash_seen hphase := nomatch hphase

theorem Consistent.holds (h : Consistent previous hash digest start log) {tx : Nat}
    (hidle : log.phase tx ≠ .idle) (hfinished : log.phase tx ≠ .finished) : log.holder = some tx := by
  by_contra hother
  obtain ⟨-, hphase | hphase⟩ := h.outside tx hother
  · exact hidle hphase
  · exact hfinished hphase

theorem held_of_holder {tx : Nat} (hholder : log.holder = some tx) : log.held = log.pending tx := by
  rw [Log.held, hholder]

/-- Only the holder of the lock has seen a hash. -/
theorem Consistent.holder_of_selected (h : Consistent previous hash digest start log) {tx : Nat}
    {hash_seen : η} (hphase : log.phase tx = .selected hash_seen) : log.holder = some tx :=
  h.holds (by simp [hphase]) (by simp [hphase])

theorem finish_held {tx : Nat} :
    (log.finish tx).held = if log.holder = some tx then [] else log.held := by
  unfold Log.held Log.finish
  by_cases hholder : log.holder = some tx
  · simp [hholder]
  · simp only [if_neg hholder]
    cases hother : log.holder with
    | none => rfl
    | some other =>
      have hne : other ≠ tx := fun heq => hholder (heq ▸ hother)
      simp [hne]

/-- A transaction that ends leaves the others where they are. -/
theorem Consistent.finish_outside (h : Consistent previous hash digest start log) {tx other : Nat}
    (hother : (log.finish tx).holder ≠ some other) :
    (log.finish tx).pending other = [] ∧
      ((log.finish tx).phase other = .idle ∨ (log.finish tx).phase other = .finished) := by
  by_cases hsame : other = tx
  · subst hsame
    simp [Log.finish]
  · have hholder : log.holder ≠ some other := by
      intro hholder
      refine hother ?_
      simp [Log.finish, hholder, hsame]
    simp only [Log.finish, Function.update_of_ne hsame]
    exact h.outside other hholder

theorem Consistent.finish_selected (h : Consistent previous hash digest start log) {tx other : Nat}
    {hash_seen : η} (hphase : (log.finish tx).phase other = .selected hash_seen) :
    log.phase other = .selected hash_seen ∧ log.holder ≠ some tx := by
  by_cases hsame : other = tx
  · simp [Log.finish, hsame] at hphase
  · simp only [Log.finish, Function.update_of_ne hsame] at hphase
    refine ⟨hphase, fun hholder => hsame ?_⟩
    exact Option.some.inj ((h.holder_of_selected hphase).symm.trans hholder)

theorem Consistent.rollback (h : Consistent previous hash digest start log) (tx : Nat) :
    Consistent previous hash digest start (log.finish tx) := by
  have hkept : (log.committed ++ (log.finish tx).held) <+: log.committed ++ log.held := by
    rw [finish_held]
    split
    · rw [List.append_nil]
      exact List.prefix_append _ _
    · exact List.prefix_rfl
  obtain ⟨dropped, hdropped⟩ := hkept
  have hsorted := h.sorted
  have hvalid := h.valid
  rw [← hdropped] at hsorted hvalid
  rw [List.map_append, valid_append] at hvalid
  refine ⟨(List.pairwise_append.mp hsorted).1, fun row hrow => h.below row ?_, hvalid.1,
    fun other => h.finish_outside, fun other hash_seen hphase => ?_⟩
  · rw [← hdropped]
    exact List.mem_append_left _ hrow
  · obtain ⟨hselected, hholder⟩ := h.finish_selected hphase
    rw [finish_held, if_neg hholder]
    exact h.current other hash_seen hselected

theorem Consistent.commit (h : Consistent previous hash digest start log) (tx : Nat) :
    Consistent previous hash digest start (log.commit tx) := by
  -- the rows of the holder become committed ones
  have hrows : (log.commit tx).committed ++ (log.commit tx).held = log.committed ++ log.held := by
    show log.committed ++ log.pending tx ++ (log.finish tx).held = _
    rw [finish_held]
    by_cases hholder : log.holder = some tx
    · rw [if_pos hholder, held_of_holder hholder, List.append_nil]
    · rw [if_neg hholder, (h.outside tx hholder).1, List.append_nil]
  refine ⟨?_, ?_, ?_, fun other => h.finish_outside, fun other hash_seen hphase => ?_⟩
  · rw [hrows]
    exact h.sorted
  · rw [hrows]
    exact h.below
  · rw [hrows]
    exact h.valid
  · rw [hrows]
    exact h.current other hash_seen (h.finish_selected hphase).1

theorem step_consistent (hprevious : ∀ entry hash_seen, previous (make entry hash_seen) = hash_seen)
    (hdigest : ∀ entry hash_seen, digest (make entry hash_seen) = hash (make entry hash_seen))
    {label : Nat × Statement ι} (h : Consistent previous hash digest start log)
    (hstep : exec make hash start log label = some next) : Consistent previous hash digest start next := by
  obtain ⟨tx, statement⟩ := label
  have heffect := exec_effect hstep
  simp only at heffect
  clear hstep
  cases heffect with
  | lock hfree =>
    have hheld : (log.acquire tx).held = log.held := by
      show log.pending tx = log.held
      obtain hnone | hsome := hfree
      · rw [(h.outside tx (by simp [hnone])).1, Log.held, hnone]
      · exact (held_of_holder hsome).symm
    have hothers {other : Nat} (hother : other ≠ tx) : log.holder ≠ some other := by
      obtain hnone | hsome := hfree
      · simp [hnone]
      · simpa [hsome] using hother.symm
    refine ⟨?_, ?_, ?_, fun other hother => ?_, fun other hash_seen hphase => ?_⟩
    · rw [hheld]
      exact h.sorted
    · rw [hheld]
      exact h.below
    · rw [hheld]
      exact h.valid
    · have hne : other ≠ tx := fun heq => hother (congrArg some heq.symm)
      simp only [Log.acquire, Log.set_phase, Function.update_of_ne hne]
      exact h.outside other (hothers hne)
    · by_cases hsame : other = tx
      · simp [Log.acquire, Log.set_phase, hsame] at hphase
      · simp only [Log.acquire, Log.set_phase, Function.update_of_ne hsame] at hphase
        exact absurd (h.holder_of_selected hphase) (hothers hsame)
  | select hphase =>
    have hholder : log.holder = some tx := h.holds (by simp [hphase]) (by simp [hphase])
    refine ⟨h.sorted, h.below, h.valid, fun other hother => ?_, fun other hash_seen hselected => ?_⟩
    · have hne : other ≠ tx := fun heq => hother (heq ▸ hholder)
      simp only [Log.set_phase, Function.update_of_ne hne]
      exact h.outside other hother
    · by_cases hsame : other = tx
      · subst hsame
        simp only [Log.set_phase, Function.update_self, Phase.selected.injEq] at hselected
        have hsorted := h.sorted
        rw [held_of_holder hholder] at hsorted
        rw [← hselected, Log.seen, ordered_of_sorted hsorted, ← held_of_holder hholder]
        rfl
      · simp only [Log.set_phase, Function.update_of_ne hsame] at hselected
        exact h.current other hash_seen hselected
  | @insert entry hash_seen hphase =>
    have hholder := h.holder_of_selected hphase
    have hrows : (log.insert tx (make entry hash_seen)).committed ++ (log.insert tx (make entry hash_seen)).held =
        log.committed ++ log.held ++ [(log.next_sequence, make entry hash_seen)] := by
      rw [@held_of_holder _ _ (log.insert tx (make entry hash_seen)) tx hholder, held_of_holder hholder,
        List.append_assoc]
      simp [Log.insert, Log.set_phase]
    refine ⟨?_, ?_, ?_, fun other hother => ?_, fun other seen hselected => ?_⟩
    · rw [hrows, List.pairwise_append]
      refine ⟨h.sorted, List.pairwise_singleton _ _, fun row hrow last hlast => ?_⟩
      rw [List.mem_singleton.mp hlast]
      exact h.below row hrow
    · rw [hrows]
      intro row hrow
      obtain hrow | hrow := List.mem_append.mp hrow
      · exact Nat.lt_succ_of_lt (h.below row hrow)
      · rw [List.mem_singleton.mp hrow]
        exact Nat.lt_succ_self _
    · rw [hrows, List.map_append, List.map_singleton, valid_concat]
      exact ⟨h.valid, (hprevious entry hash_seen).trans (h.current tx hash_seen hphase), hdigest entry hash_seen⟩
    · have hne : other ≠ tx := fun heq => hother (heq ▸ hholder)
      simp only [Log.insert, Log.set_phase, Function.update_of_ne hne]
      exact h.outside other hother
    · by_cases hsame : other = tx
      · simp [Log.insert, Log.set_phase, hsame] at hselected
      · simp only [Log.insert, Log.set_phase, Function.update_of_ne hsame] at hselected
        exact absurd (Option.some.inj ((h.holder_of_selected hselected).symm.trans hholder)) hsame
  | commit => exact h.commit tx
  | rollback => exact h.rollback tx

/-- In every interleaving the committed rows, in order of their numbers, form one chain. -/
theorem committed_valid (hprevious : ∀ entry hash_seen, previous (make entry hash_seen) = hash_seen)
    (hdigest : ∀ entry hash_seen, digest (make entry hash_seen) = hash (make entry hash_seen))
    {schedule : List ((Nat × Statement ι) × Log α η)}
    (hrun : transition.Run (fun log label next => exec make hash start log label = some next)
      Log.initial schedule) :
    ∀ log ∈ transition.visited Log.initial schedule, Valid previous hash digest start (ordered log.committed) := by
  intro log hlog
  have h := hrun.invariant (Consistent previous hash digest start)
    (fun _ _ _ h hstep => step_consistent hprevious hdigest h hstep) initial_consistent log hlog
  have hvalid := h.valid
  rw [List.map_append, valid_append] at hvalid
  rw [ordered_of_sorted (List.pairwise_append.mp h.sorted).1]
  exact hvalid.1

end Invariant

end locked_log
