import Mathlib.Data.List.Pairwise
import Mathlib.Logic.Function.Basic
import SdaOrchestrator.Lib.Transition

/-! READ COMMITTED transactions that add rows to tables, each after it has read the tables
under a lock that it keeps until it ends. -/

namespace locked_table

/-- Where a transaction stands. Under its lock it carries the rows that it has read, by table. -/
inductive Phase (α τ : Type) where
  | idle
  | locked (seen : τ → Option (List α))
  | inserted
  | finished

/-- The committed rows of all tables, the holders of the locks, and the phase and the rows of
every open transaction. -/
structure Database (α κ τ : Type) where
  committed : List α
  holder : κ → Option Nat
  phase : Nat → Phase α τ
  pending : Nat → List α

def Database.initial {α κ τ : Type} : Database α κ τ where
  committed := []
  holder := fun _ => none
  phase := fun _ => .idle
  pending := fun _ => []

/-- What the transactions have in common: the lock of a request and of a row, the table of a
row, the rows that a request comes to from what was read, and which rows go together. -/
structure Rules (α κ ι τ : Type) where
  lock : ι → κ
  row_lock : α → κ
  row_table : α → τ
  derive : ι → (τ → Option (List α)) → Option (List α)
  Apart : α → α → Prop

/-- The rows of a request have its lock, go with one another and with every row it has read,
and it has read all tables. -/
structure Rules.Sound {α κ ι τ : Type} (rules : Rules α κ ι τ) : Prop where
  symm : ∀ {row other}, rules.Apart row other → rules.Apart other row
  other_lock : ∀ {row other}, rules.row_lock row ≠ rules.row_lock other → rules.Apart row other
  own_lock : ∀ {request seen rows}, rules.derive request seen = some rows →
    ∀ row ∈ rows, rules.row_lock row = rules.lock request
  pairwise : ∀ {request seen rows}, rules.derive request seen = some rows → rows.Pairwise rules.Apart
  free : ∀ {request seen rows}, rules.derive request seen = some rows →
    ∀ table, ∃ known, seen table = some known ∧
      ∀ old ∈ known, rules.row_table old = table → ∀ row ∈ rows, rules.Apart old row

section Steps

variable {α κ ι τ : Type}

/-- The statements of a transaction and its ends; another one changes committed rows. -/
inductive Statement (α τ : Type) where
  | lock
  | select (table : τ)
  | insert
  | commit
  | rollback
  | update (change : α → α)

def Statement.is_update : Statement α τ → Bool
  | .update _ => true
  | _ => false

namespace Database

def set_phase (db : Database α κ τ) (tx : Nat) (phase : Phase α τ) : Database α κ τ :=
  { db with phase := Function.update db.phase tx phase }

def acquire [DecidableEq κ] (db : Database α κ τ) (tx : Nat) (lock : κ) : Database α κ τ :=
  { db.set_phase tx (.locked fun _ => none) with holder := Function.update db.holder lock (some tx) }

/-- A transaction reads the committed rows of a table. -/
def read [DecidableEq τ] (rules : Rules α κ ι τ) (db : Database α κ τ) (tx : Nat) (seen : τ → Option (List α)) (table : τ) :
    Database α κ τ :=
  db.set_phase tx (.locked (Function.update seen table
    (some (db.committed.filter fun row => rules.row_table row = table))))

/-- The rows of a transaction, which no other one sees. -/
def insert (db : Database α κ τ) (tx : Nat) (rows : List α) : Database α κ τ :=
  { db.set_phase tx .inserted with pending := Function.update db.pending tx rows }

/-- A transaction that ends gives its lock back. -/
def finish (db : Database α κ τ) (tx : Nat) : Database α κ τ where
  committed := db.committed
  holder := fun lock => if db.holder lock = some tx then none else db.holder lock
  phase := Function.update db.phase tx .finished
  pending := Function.update db.pending tx []

def commit (db : Database α κ τ) (tx : Nat) : Database α κ τ :=
  { db.finish tx with committed := db.committed ++ db.pending tx }

end Database

/-- A change of a row keeps its lock and its table, and takes nothing that goes with it. -/
def Rules.Weakens (rules : Rules α κ ι τ) (row changed : α) : Prop :=
  rules.row_lock changed = rules.row_lock row ∧ rules.row_table changed = rules.row_table row ∧
    ∀ other, rules.Apart row other → rules.Apart changed other

/-- One statement. There is no step when it has to wait for the lock. -/
inductive Step [DecidableEq κ] [DecidableEq τ] (rules : Rules α κ ι τ) (request : Nat → ι) (db : Database α κ τ) :
    Nat × Statement α τ → Database α κ τ → Prop where
  | lock {tx : Nat} : db.phase tx = .idle → db.holder (rules.lock (request tx)) = none →
    Step rules request db (tx, .lock) (db.acquire tx (rules.lock (request tx)))
  | select {tx : Nat} {seen : τ → Option (List α)} {table : τ} : db.phase tx = .locked seen →
    Step rules request db (tx, .select table) (db.read rules tx seen table)
  | insert {tx : Nat} {seen : τ → Option (List α)} {rows : List α} : db.phase tx = .locked seen →
    rules.derive (request tx) seen = some rows → Step rules request db (tx, .insert) (db.insert tx rows)
  | commit {tx : Nat} : Step rules request db (tx, .commit) (db.commit tx)
  | rollback {tx : Nat} : Step rules request db (tx, .rollback) (db.finish tx)
  | update {tx : Nat} {change : α → α} : (∀ row ∈ db.committed, rules.Weakens row (change row)) →
    Step rules request db (tx, .update change) { db with committed := db.committed.map change }

/-! ## The invariant -/

/-- Under its lock, no committed row is beyond what a transaction has read. -/
structure Consistent (rules : Rules α κ ι τ) (request : Nat → ι) (db : Database α κ τ) : Prop where
  apart : db.committed.Pairwise rules.Apart
  locked : ∀ {tx seen}, db.phase tx = .locked seen → db.holder (rules.lock (request tx)) = some tx
  inserted : ∀ {tx}, db.pending tx ≠ [] → db.holder (rules.lock (request tx)) = some tx
  current : ∀ {tx seen table known}, db.phase tx = .locked seen → seen table = some known →
    ∀ row ∈ db.committed, rules.row_lock row = rules.lock (request tx) → rules.row_table row = table →
      ∃ old ∈ known, rules.row_table old = table ∧ ∀ other, rules.Apart old other → rules.Apart row other
  pairwise : ∀ tx, (db.pending tx).Pairwise rules.Apart
  own_lock : ∀ tx, ∀ row ∈ db.pending tx, rules.row_lock row = rules.lock (request tx)
  free : ∀ tx, ∀ row ∈ db.pending tx, ∀ old ∈ db.committed, rules.Apart old row

variable {rules : Rules α κ ι τ} {request : Nat → ι} {db next : Database α κ τ}

theorem initial_consistent : Consistent rules request Database.initial where
  apart := .nil
  locked hphase := nomatch hphase
  inserted hpending := absurd rfl hpending
  current hphase := nomatch hphase
  pairwise _ := .nil
  own_lock _ := List.forall_mem_nil _
  free _ := List.forall_mem_nil _

/-- Two transactions with rows of one lock are one. -/
theorem Consistent.same_tx (h : Consistent rules request db) {tx other : Nat} {row : α}
    (hrow : row ∈ db.pending tx) (hlock : rules.row_lock row = rules.lock (request other))
    (hholder : db.holder (rules.lock (request other)) = some other) : tx = other := by
  have htx := h.inserted (List.ne_nil_of_mem hrow)
  rw [← h.own_lock tx row hrow, hlock, hholder] at htx
  exact (Option.some.inj htx).symm

theorem Consistent.finish (h : Consistent rules request db) (tx : Nat) :
    Consistent rules request (db.finish tx) := by
  have hpending (other : Nat) (row : α) (hrow : row ∈ (db.finish tx).pending other) :
      other ≠ tx ∧ row ∈ db.pending other := by
    simp only [Database.finish] at hrow
    by_cases hsame : other = tx
    · rw [hsame, Function.update_self] at hrow
      cases hrow
    · rw [Function.update_of_ne hsame] at hrow
      exact ⟨hsame, hrow⟩
  have hphase {other : Nat} {seen : τ → Option (List α)} (hlocked : (db.finish tx).phase other = .locked seen) :
      other ≠ tx ∧ db.phase other = .locked seen := by
    simp only [Database.finish] at hlocked
    by_cases hsame : other = tx
    · rw [hsame, Function.update_self] at hlocked
      cases hlocked
    · rw [Function.update_of_ne hsame] at hlocked
      exact ⟨hsame, hlocked⟩
  have hholder {other : Nat} {lock : κ} (hne : other ≠ tx) (hheld : db.holder lock = some other) :
      (db.finish tx).holder lock = some other := by
    simp only [Database.finish, hheld, Option.some.injEq, if_neg hne]
  refine {
    apart := h.apart
    locked := fun hlocked => hholder (hphase hlocked).1 (h.locked (hphase hlocked).2)
    inserted := ?_
    current := fun hlocked => h.current (hphase hlocked).2
    pairwise := ?_
    own_lock := fun other row hrow => h.own_lock other row (hpending other row hrow).2
    free := fun other row hrow => h.free other row (hpending other row hrow).2 }
  · intro other hsome
    obtain ⟨row, hrow⟩ := List.exists_mem_of_ne_nil _ hsome
    obtain ⟨hne, hmem⟩ := hpending other row hrow
    exact hholder hne (h.inserted (List.ne_nil_of_mem hmem))
  · intro other
    simp only [Database.finish]
    by_cases hsame : other = tx
    · rw [hsame, Function.update_self]
      exact .nil
    · rw [Function.update_of_ne hsame]
      exact h.pairwise other

theorem Consistent.commit (hsound : rules.Sound) (h : Consistent rules request db) (tx : Nat) :
    Consistent rules request (db.commit tx) := by
  have hfinish := h.finish tx
  have hother {other : Nat} {row : α} (hne : other ≠ tx) (hrow : row ∈ db.pending tx)
      (hheld : db.holder (rules.lock (request other)) = some other) :
      rules.row_lock row ≠ rules.lock (request other) :=
    fun hlock => hne (h.same_tx hrow hlock hheld).symm
  refine { hfinish with apart := ?_, current := ?_, free := ?_ }
  · exact List.pairwise_append.mpr ⟨h.apart, h.pairwise tx, fun old hold row hrow => h.free tx row hrow old hold⟩
  · intro other seen table known hphase hknown row hrow hlock htable
    obtain hrow | hrow := List.mem_append.mp hrow
    · exact hfinish.current hphase hknown row hrow hlock htable
    · -- a row of the lock would be one of its holder
      have hne : other ≠ tx := by
        rintro rfl
        simp only [Database.commit, Database.finish, Function.update_self] at hphase
        cases hphase
      have hlocked : db.phase other = .locked seen := by
        simpa only [Database.commit, Database.finish, Function.update_of_ne hne] using hphase
      exact absurd hlock (hother hne hrow (h.locked hlocked))
  · intro other row hrow old hold
    obtain hold | hold := List.mem_append.mp hold
    · exact hfinish.free other row hrow old hold
    · by_cases hsame : other = tx
      · rw [hsame] at hrow
        simp only [Database.commit, Database.finish, Function.update_self] at hrow
        cases hrow
      · have hmem : row ∈ db.pending other := by
          simpa only [Database.commit, Database.finish, Function.update_of_ne hsame] using hrow
        refine hsound.other_lock ?_
        rw [h.own_lock other row hmem]
        exact hother hsame hold (h.inserted (List.ne_nil_of_mem hmem))

theorem step_consistent [DecidableEq κ] [DecidableEq τ] (hsound : rules.Sound) (h : Consistent rules request db)
    {label : Nat × Statement α τ} (hstep : Step rules request db label next) : Consistent rules request next := by
  cases hstep with
  | @lock tx hidle hfree =>
    have hholder {other : Nat} (hheld : db.holder (rules.lock (request other)) = some other) :
        (db.acquire tx (rules.lock (request tx))).holder (rules.lock (request other)) = some other := by
      have hne : rules.lock (request other) ≠ rules.lock (request tx) := by
        intro hsame
        rw [hsame, hfree] at hheld
        cases hheld
      simpa only [Database.acquire, Function.update_of_ne hne] using hheld
    refine { h with
      locked := ?_
      inserted := fun hsome => hholder (h.inserted hsome)
      current := ?_ }
    · intro other seen hphase
      by_cases hsame : other = tx
      · subst hsame
        exact Function.update_self ..
      · simp only [Database.acquire, Database.set_phase, Function.update_of_ne hsame] at hphase
        exact hholder (h.locked hphase)
    · intro other seen table known hphase hknown
      by_cases hsame : other = tx
      · subst hsame
        simp only [Database.acquire, Database.set_phase, Function.update_self, Phase.locked.injEq] at hphase
        rw [← hphase] at hknown
        cases hknown
      · simp only [Database.acquire, Database.set_phase, Function.update_of_ne hsame] at hphase
        exact h.current hphase hknown
  | @select tx seen table hphase =>
    refine { h with locked := ?_, current := ?_ }
    · intro other found hlocked
      by_cases hsame : other = tx
      · subst hsame
        exact h.locked hphase
      · simp only [Database.read, Database.set_phase, Function.update_of_ne hsame] at hlocked
        exact h.locked hlocked
    · intro other found of_table known hlocked hknown row hrow hlock htable
      by_cases hsame : other = tx
      · subst hsame
        simp only [Database.read, Database.set_phase, Function.update_self, Phase.locked.injEq] at hlocked
        rw [← hlocked] at hknown
        by_cases hread : of_table = table
        · rw [hread, Function.update_self] at hknown
          rw [← Option.some.inj hknown]
          refine ⟨row, List.mem_filter.mpr ⟨hrow, ?_⟩, htable, fun _ hapart => hapart⟩
          exact decide_eq_true (htable.trans hread)
        · rw [Function.update_of_ne hread] at hknown
          exact h.current hphase hknown row hrow hlock htable
      · simp only [Database.read, Database.set_phase, Function.update_of_ne hsame] at hlocked
        exact h.current hlocked hknown row hrow hlock htable
  | @insert tx seen rows hphase hderive =>
    have hphase_of {other : Nat} {found : τ → Option (List α)}
        (hlocked : (db.insert tx rows).phase other = .locked found) : db.phase other = .locked found := by
      by_cases hsame : other = tx
      · rw [hsame] at hlocked
        simp only [Database.insert, Database.set_phase, Function.update_self] at hlocked
        cases hlocked
      · simpa only [Database.insert, Database.set_phase, Function.update_of_ne hsame] using hlocked
    refine { h with
      locked := fun hlocked => h.locked (hphase_of hlocked)
      inserted := ?_
      current := fun hlocked => h.current (hphase_of hlocked)
      pairwise := ?_
      own_lock := ?_
      free := ?_ }
    · intro other hsome
      by_cases hsame : other = tx
      · subst hsame
        exact h.locked hphase
      · simp only [Database.insert, Function.update_of_ne hsame] at hsome
        exact h.inserted hsome
    · intro other
      simp only [Database.insert]
      by_cases hsame : other = tx
      · rw [hsame, Function.update_self]
        exact hsound.pairwise hderive
      · rw [Function.update_of_ne hsame]
        exact h.pairwise other
    · intro other row hrow
      by_cases hsame : other = tx
      · subst hsame
        simp only [Database.insert, Function.update_self] at hrow
        exact hsound.own_lock hderive row hrow
      · simp only [Database.insert, Function.update_of_ne hsame] at hrow
        exact h.own_lock other row hrow
    · intro other row hrow old hold
      by_cases hsame : other = tx
      · subst hsame
        simp only [Database.insert, Function.update_self] at hrow
        by_cases hlock : rules.row_lock old = rules.lock (request other)
        · obtain ⟨known, hknown, hfree⟩ := hsound.free hderive (rules.row_table old)
          obtain ⟨read, hread, htable, hcovers⟩ := h.current hphase hknown old hold hlock rfl
          exact hcovers row (hfree read hread htable row hrow)
        · refine hsound.other_lock ?_
          rw [hsound.own_lock hderive row hrow]
          exact hlock
      · simp only [Database.insert, Function.update_of_ne hsame] at hrow
        exact h.free other row hrow old hold
  | commit => exact h.commit hsound _
  | rollback => exact h.finish _
  | @update tx change hweakens =>
    refine { h with apart := ?_, current := ?_, free := ?_ }
    · rw [List.pairwise_map]
      refine h.apart.imp_of_mem fun {row other} hrow hother hapart => ?_
      have hchanged := (hweakens row hrow).2.2 other hapart
      exact hsound.symm ((hweakens other hother).2.2 _ (hsound.symm hchanged))
    · intro other seen table known hphase hknown row hrow hlock htable
      obtain ⟨old, hold, rfl⟩ := List.mem_map.mp hrow
      obtain ⟨hsame_lock, hsame_table, hcovers⟩ := hweakens old hold
      obtain ⟨read, hread, hread_table, hread_covers⟩ := h.current hphase hknown old hold (hsame_lock.symm.trans hlock)
        (hsame_table.symm.trans htable)
      exact ⟨read, hread, hread_table, fun row hapart => hcovers row (hread_covers row hapart)⟩
    · intro other row hrow changed hchanged
      obtain ⟨old, hold, rfl⟩ := List.mem_map.mp hchanged
      exact (hweakens old hold).2.2 row (h.free other row hrow old hold)

end Steps

end locked_table
