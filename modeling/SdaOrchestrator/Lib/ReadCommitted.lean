import SdaOrchestrator.Lib.Transition

namespace read_committed

variable {Status : Type}

/-- Where a check-then-write transaction on one row stands. From `selected` on it
carries the status its plain SELECT returned. -/
inductive Phase (Status : Type) where
  | ready
  | selected (seen : Status)
  | updated (seen : Status)
  | appended (seen : Status)
  | committed
  | aborted
  deriving DecidableEq

/-- The statements of a check-then-write transaction, in its order; `abort` may
come at any point before the commit. -/
inductive Statement where
  | select
  | update
  | append
  | commit
  | abort
  deriving DecidableEq

/-- A committed status change: the status its transaction read and the one it wrote. -/
structure Edge (Status : Type) where
  tx : Nat
  source : Status
  target : Status
  deriving DecidableEq

/-- One row under READ COMMITTED: its last committed status, the transaction that
holds its lock, the holder of the log's advisory lock, the phase of every
transaction, and the committed changes, newest first. -/
structure Row (Status : Type) where
  status : Status
  row_lock : Option Nat
  log_lock : Option Nat
  phase : Nat → Phase Status
  edges : List (Edge Status)

def Row.initial (start : Status) : Row Status where
  status := start
  row_lock := none
  log_lock := none
  phase := fun _ => .ready
  edges := []

def Row.set_phase (row : Row Status) (tx : Nat) (phase : Phase Status) : Row Status :=
  { row with phase := fun other => if other = tx then phase else row.phase other }

/-- The locks a transaction holds are free again when it ends. -/
def Row.unlock (row : Row Status) (tx : Nat) : Row Status :=
  { row with
    row_lock := if row.row_lock = some tx then none else row.row_lock
    log_lock := if row.log_lock = some tx then none else row.log_lock }

@[simp] theorem set_phase_status (row : Row Status) (tx : Nat) (phase : Phase Status) :
    (row.set_phase tx phase).status = row.status := rfl

@[simp] theorem set_phase_edges (row : Row Status) (tx : Nat) (phase : Phase Status) :
    (row.set_phase tx phase).edges = row.edges := rfl

@[simp] theorem set_phase_phase (row : Row Status) (tx other : Nat) (phase : Phase Status) :
    (row.set_phase tx phase).phase other = if other = tx then phase else row.phase other := rfl

@[simp] theorem unlock_status (row : Row Status) (tx : Nat) :
    (row.unlock tx).status = row.status := rfl

@[simp] theorem unlock_edges (row : Row Status) (tx : Nat) :
    (row.unlock tx).edges = row.edges := rfl

@[simp] theorem unlock_phase (row : Row Status) (tx : Nat) :
    (row.unlock tx).phase = row.phase := rfl

/-- One statement of one transaction. `check tx seen` is the test between its
SELECT and its UPDATE and `target tx` the status it writes. A plain SELECT reads
the last committed row and takes no lock; the UPDATE and the append to the log
wait for their locks, so they are no step while another transaction holds them. -/
def exec (check : Nat → Status → Bool) (target : Nat → Status) (row : Row Status) :
    Nat × Statement → Option (Row Status)
  | (tx, .select) =>
    match row.phase tx with
    | .ready => some (row.set_phase tx (.selected row.status))
    | _ => none
  | (tx, .update) =>
    match row.phase tx with
    | .selected seen =>
      if check tx seen ∧ row.row_lock = none then
        some ({ row with row_lock := some tx }.set_phase tx (.updated seen))
      else none
    | _ => none
  | (tx, .append) =>
    match row.phase tx with
    | .updated seen =>
      if row.log_lock = none then
        some ({ row with log_lock := some tx }.set_phase tx (.appended seen))
      else none
    | _ => none
  | (tx, .commit) =>
    match row.phase tx with
    | .appended seen =>
      -- the write was unconditional: it lands whatever the row holds by now
      some (({ row with
        status := target tx
        edges := ⟨tx, seen, target tx⟩ :: row.edges }.unlock tx).set_phase tx .committed)
    | _ => none
  | (tx, .abort) =>
    match row.phase tx with
    | .committed => none
    | .aborted => none
    | _ => some ((row.unlock tx).set_phase tx .aborted)

/-- What a statement that runs does to the row. -/
inductive Effect (check : Nat → Status → Bool) (target : Nat → Status) (row : Row Status) (tx : Nat) :
    Statement → Row Status → Prop where
  | select (hready : row.phase tx = .ready) :
      Effect check target row tx .select (row.set_phase tx (.selected row.status))
  | update {seen : Status} (hseen : row.phase tx = .selected seen) (hcheck : check tx seen)
      (hfree : row.row_lock = none) :
      Effect check target row tx .update
        ({ row with row_lock := some tx }.set_phase tx (.updated seen))
  | append {seen : Status} (hseen : row.phase tx = .updated seen) (hfree : row.log_lock = none) :
      Effect check target row tx .append
        ({ row with log_lock := some tx }.set_phase tx (.appended seen))
  | commit {seen : Status} (hseen : row.phase tx = .appended seen) :
      Effect check target row tx .commit
        (({ row with
          status := target tx
          edges := ⟨tx, seen, target tx⟩ :: row.edges }.unlock tx).set_phase tx .committed)
  | abort (hcommitted : row.phase tx ≠ .committed) (haborted : row.phase tx ≠ .aborted) :
      Effect check target row tx .abort ((row.unlock tx).set_phase tx .aborted)

theorem exec_effect {check : Nat → Status → Bool} {target : Nat → Status} {row next : Row Status}
    {tx : Nat} {statement : Statement} (hexec : exec check target row (tx, statement) = some next) :
    Effect check target row tx statement next := by
  cases statement <;> cases hphase : row.phase tx <;>
    simp only [exec, hphase, Option.some.injEq, reduceCtorEq, Option.ite_none_right_eq_some] at hexec
  case select.ready => exact hexec ▸ .select hphase
  case update.selected seen => exact hexec.2 ▸ .update hphase hexec.1.1 hexec.1.2
  case append.updated seen => exact hexec.2 ▸ .append hphase hexec.1
  case commit.appended seen => exact hexec ▸ .commit hphase
  all_goals exact hexec ▸ .abort (by simp [hphase]) (by simp [hphase])

/-! ## The committed status values -/

/-- The committed values of the row, newest first. -/
def values (start : Status) (edges : List (Edge Status)) : List Status :=
  edges.map Edge.target ++ [start]

/-- The last committed value. -/
def landing (start : Status) : List (Edge Status) → Status
  | [] => start
  | edge :: _ => edge.target

/-- Every change starts where the change before it ended, along the table. -/
def Path (allowed : Status → List Status) (start : Status) : List (Edge Status) → Prop
  | [] => True
  | edge :: older =>
    edge.source = landing start older ∧ edge.target ∈ allowed edge.source ∧ Path allowed start older

/-- What always holds of the committed changes: a change is allowed from the value
its transaction read, that value had been committed before, and a transaction
commits once. -/
def Recorded (allowed : Status → List Status) (start : Status) : List (Edge Status) → Prop
  | [] => True
  | edge :: older =>
    edge.target ∈ allowed edge.source ∧ edge.source ∈ values start older ∧
      (∀ other ∈ older, other.tx ≠ edge.tx) ∧ Recorded allowed start older

/-- The committed values follow the table, and no two transactions commit a change
out of one source. -/
structure Linearizable (allowed : Status → List Status) (start : Status)
    (edges : List (Edge Status)) : Prop where
  path : (values start edges).IsChain fun newer older => newer ∈ allowed older
  single : ∀ first ∈ edges, ∀ second ∈ edges, first.source = second.source → first.tx = second.tx

@[simp] theorem values_cons (start : Status) (edge : Edge Status) (older : List (Edge Status)) :
    values start (edge :: older) = edge.target :: values start older := rfl

theorem values_eq_landing_cons (start : Status) (edges : List (Edge Status)) :
    ∃ rest, values start edges = landing start edges :: rest := by
  cases edges with
  | nil => exact ⟨[], rfl⟩
  | cons edge older => exact ⟨values start older, rfl⟩

/-- On a path every value but the last has been left by a change. -/
theorem Path.left {allowed : Status → List Status} {start value : Status}
    {edges : List (Edge Status)} (hpath : Path allowed start edges)
    (hvalue : value ∈ values start edges) (hlast : value ≠ landing start edges) :
    ∃ edge ∈ edges, edge.source = value := by
  induction edges with
  | nil => simp_all [values, landing]
  | cons edge older ih =>
    obtain ⟨hsource, -, holder⟩ := hpath
    rw [values_cons, List.mem_cons] at hvalue
    rcases hvalue with rfl | hvalue
    · exact absurd rfl hlast
    · by_cases hhere : value = landing start older
      · exact ⟨edge, List.mem_cons_self, by rw [hsource, hhere]⟩
      · obtain ⟨found, hfound, heq⟩ := ih holder hvalue hhere
        exact ⟨found, List.mem_cons_of_mem _ hfound, heq⟩

theorem Path.isChain {allowed : Status → List Status} {start : Status}
    {edges : List (Edge Status)} (hpath : Path allowed start edges) :
    (values start edges).IsChain fun newer older => newer ∈ allowed older := by
  induction edges with
  | nil => simp [values]
  | cons edge older ih =>
    obtain ⟨hsource, htarget, holder⟩ := hpath
    obtain ⟨rest, hrest⟩ := values_eq_landing_cons start older
    have hchain := ih holder
    rw [values_cons]
    rw [hrest] at hchain ⊢
    exact List.isChain_cons_cons.mpr ⟨hsource ▸ htarget, hchain⟩

/-- Along a table without cycles the rank of the last value bounds the sources. -/
theorem Path.rank_lt {allowed : Status → List Status} {rank : Status → Nat}
    (hrank : ∀ source, ∀ target ∈ allowed source, rank source < rank target) {start : Status}
    {edges : List (Edge Status)} (hpath : Path allowed start edges) :
    ∀ edge ∈ edges, rank edge.source < rank (landing start edges) := by
  induction edges with
  | nil => simp
  | cons edge older ih =>
    obtain ⟨hsource, htarget, holder⟩ := hpath
    have hstep : rank edge.source < rank edge.target := hrank _ _ htarget
    intro found hfound
    rcases List.mem_cons.mp hfound with rfl | hfound
    · exact hstep
    · have hearlier := ih holder found hfound
      rw [← hsource] at hearlier
      exact Nat.lt_trans hearlier hstep

theorem Path.single {allowed : Status → List Status} {rank : Status → Nat}
    (hrank : ∀ source, ∀ target ∈ allowed source, rank source < rank target) {start : Status}
    {edges : List (Edge Status)} (hpath : Path allowed start edges) :
    ∀ first ∈ edges, ∀ second ∈ edges, first.source = second.source → first.tx = second.tx := by
  induction edges with
  | nil => simp
  | cons edge older ih =>
    obtain ⟨hsource, -, holder⟩ := hpath
    have hlater : ∀ found ∈ older, found.source ≠ edge.source := by
      intro found hfound heq
      have hlt := holder.rank_lt hrank found hfound
      rw [heq, hsource] at hlt
      omega
    intro first hfirst second hsecond heq
    rw [List.mem_cons] at hfirst hsecond
    rcases hfirst with hfirst | hfirst <;> rcases hsecond with hsecond | hsecond
    · rw [hfirst, hsecond]
    · exact absurd (heq.symm.trans (by rw [hfirst])) (hlater second hsecond)
    · exact absurd (heq.trans (by rw [hsecond])) (hlater first hfirst)
    · exact ih holder first hfirst second hsecond heq

/-- For a table without cycles the two readings agree: the committed changes are
linearizable exactly when each starts where the one before it ended. -/
theorem linearizable_iff_path {allowed : Status → List Status} {rank : Status → Nat}
    (hrank : ∀ source, ∀ target ∈ allowed source, rank source < rank target) {start : Status}
    {edges : List (Edge Status)} (hrecorded : Recorded allowed start edges) :
    Linearizable allowed start edges ↔ Path allowed start edges := by
  constructor
  · intro hlinear
    induction edges with
    | nil => trivial
    | cons edge older ih =>
      obtain ⟨htarget, hsource, honce, holder⟩ := hrecorded
      have hpath : Path allowed start older := by
        apply ih holder
        refine ⟨hlinear.path.of_cons, ?_⟩
        intro first hfirst second hsecond
        exact hlinear.single first (List.mem_cons_of_mem _ hfirst) second
          (List.mem_cons_of_mem _ hsecond)
      refine ⟨?_, htarget, hpath⟩
      by_contra hstale
      -- the value read had been left by an earlier change: two changes out of one source
      obtain ⟨found, hfound, heq⟩ := hpath.left hsource hstale
      exact honce found hfound
        (hlinear.single found (List.mem_cons_of_mem _ hfound) edge List.mem_cons_self heq)
  · intro hpath
    exact ⟨hpath.isChain, hpath.single hrank⟩

/-! ## Every interleaving -/

section Interleaving

variable (check : Nat → Status → Bool) (target : Nat → Status) (allowed : Status → List Status)

/-- Any number of transactions, their statements in any order. -/
abbrev Step (row : Row Status) (label : Nat × Statement) (next : Row Status) : Prop :=
  exec check target row label = some next

/-- The status a transaction in flight has read. -/
def Phase.seen : Phase Status → Option Status
  | .selected seen => some seen
  | .updated seen => some seen
  | .appended seen => some seen
  | _ => none

/-- A transaction past its check. -/
def Phase.checked : Phase Status → Option Status
  | .updated seen => some seen
  | .appended seen => some seen
  | _ => none

/-- What holds in every state of every interleaving. -/
structure Consistent (start : Status) (row : Row Status) : Prop where
  status_eq : row.status = landing start row.edges
  recorded : Recorded allowed start row.edges
  once : ∀ edge ∈ row.edges, row.phase edge.tx = .committed
  seen_mem : ∀ tx seen, (row.phase tx).seen = some seen → seen ∈ values start row.edges
  checked : ∀ tx seen, (row.phase tx).checked = some seen → check tx seen

/-- A commit does not overtake another: the row still holds the status that the
transaction read. -/
def Unchanged (row : Row Status) (label : Nat × Statement) : Prop :=
  label.2 = .commit → ∀ seen, row.phase label.1 = .appended seen → seen = row.status

theorem initial_consistent (start : Status) :
    Consistent check allowed start (Row.initial start) where
  status_eq := rfl
  recorded := trivial
  once := by simp [Row.initial]
  seen_mem := by simp [Row.initial, Phase.seen]
  checked := by simp [Row.initial, Phase.checked]

variable {check target allowed}

theorem Consistent.status_mem {start : Status} {row : Row Status}
    (hrow : Consistent check allowed start row) : row.status ∈ values start row.edges := by
  obtain ⟨rest, hrest⟩ := values_eq_landing_cons start row.edges
  rw [hrest, hrow.status_eq]
  exact List.mem_cons_self

/-- Moving one transaction to a phase it may enter, edges and status unchanged. -/
theorem Consistent.of_set_phase {start : Status} {row : Row Status} (next : Row Status) {tx : Nat}
    {phase : Phase Status} (hrow : Consistent check allowed start row)
    (hstatus : next.status = row.status) (hedges : next.edges = row.edges)
    (hphase : ∀ other, next.phase other = if other = tx then phase else row.phase other)
    (hbefore : row.phase tx ≠ .committed)
    (hseen : ∀ seen, phase.seen = some seen → seen ∈ values start row.edges)
    (hchecked : ∀ seen, phase.checked = some seen → check tx seen) :
    Consistent check allowed start next where
  status_eq := by rw [hstatus, hedges]; exact hrow.status_eq
  recorded := hedges ▸ hrow.recorded
  once := by
    rw [hedges]
    intro edge hedge
    have hcommitted := hrow.once edge hedge
    have hother : edge.tx ≠ tx := fun h => hbefore (h ▸ hcommitted)
    rw [hphase, if_neg hother, hcommitted]
  seen_mem := by
    rw [hedges]
    intro other seen
    rw [hphase]
    split
    · exact hseen seen
    · exact hrow.seen_mem other seen
  checked := by
    intro other seen
    rw [hphase]
    split
    · rename_i heq; exact heq ▸ hchecked seen
    · exact hrow.checked other seen

theorem step_consistent (hallowed : ∀ tx seen, check tx seen → target tx ∈ allowed seen)
    {start : Status} {row next : Row Status} {label : Nat × Statement}
    (hrow : Consistent check allowed start row) (hstep : Step check target row label next) :
    Consistent check allowed start next := by
  obtain ⟨tx, statement⟩ := label
  cases exec_effect hstep with
  | select hready =>
    refine Consistent.of_set_phase _ hrow rfl rfl (fun _ => rfl) (by simp [hready]) ?_ ?_
    · intro seen hseen
      cases hseen
      exact hrow.status_mem
    · simp [Phase.checked]
  | @update seen hseen hcheck hfree =>
    refine Consistent.of_set_phase _ hrow rfl rfl (fun _ => rfl) (by simp [hseen]) ?_ ?_
    · intro found hfound
      cases hfound
      exact hrow.seen_mem tx seen (by rw [hseen]; rfl)
    · intro found hfound
      cases hfound
      exact hcheck
  | @append seen hseen hfree =>
    refine Consistent.of_set_phase _ hrow rfl rfl (fun _ => rfl) (by simp [hseen]) ?_ ?_
    · intro found hfound
      cases hfound
      exact hrow.seen_mem tx seen (by rw [hseen]; rfl)
    · intro found hfound
      cases hfound
      exact hrow.checked tx seen (by rw [hseen]; rfl)
  | @commit seen hseen =>
    have hcheck : check tx seen := hrow.checked tx seen (by rw [hseen]; rfl)
    have hmem : seen ∈ values start row.edges := hrow.seen_mem tx seen (by rw [hseen]; rfl)
    have hother : ∀ edge ∈ row.edges, edge.tx ≠ tx := by
      intro edge hedge heq
      have hcommitted := hrow.once edge hedge
      rw [heq, hseen] at hcommitted
      cases hcommitted
    refine ⟨rfl, ⟨hallowed tx seen hcheck, hmem, hother, hrow.recorded⟩, ?_, ?_, ?_⟩
    · intro edge hedge
      rcases List.mem_cons.mp hedge with rfl | hedge
      · simp
      · simp [hother edge hedge, hrow.once edge hedge]
    · intro other found hfound
      simp only [set_phase_phase, unlock_phase] at hfound
      split at hfound
      · cases hfound
      · exact List.mem_cons_of_mem _ (hrow.seen_mem other found hfound)
    · intro other found hfound
      simp only [set_phase_phase, unlock_phase] at hfound
      split at hfound
      · cases hfound
      · exact hrow.checked other found hfound
  | abort hcommitted haborted =>
    exact Consistent.of_set_phase _ hrow rfl rfl (fun _ => rfl) hcommitted (by simp [Phase.seen])
      (by simp [Phase.checked])

/-- A statement keeps the committed changes a path exactly when it is no commit
over a status that changed after it was read. -/
theorem step_path_iff {start : Status} {row next : Row Status} {label : Nat × Statement}
    (hallowed : ∀ tx seen, check tx seen → target tx ∈ allowed seen)
    (hrow : Consistent check allowed start row) (hpath : Path allowed start row.edges)
    (hstep : Step check target row label next) :
    Path allowed start next.edges ↔ Unchanged row label := by
  obtain ⟨tx, statement⟩ := label
  cases exec_effect hstep with
  | @commit seen hseen =>
    have hcheck : check tx seen := hrow.checked tx seen (by rw [hseen]; rfl)
    have hsame : Unchanged row (tx, .commit) ↔ seen = row.status := by
      simp [Unchanged, hseen]
    rw [hsame, hrow.status_eq]
    exact ⟨fun h => h.1, fun h => ⟨h, hallowed tx seen hcheck, hpath⟩⟩
  | select _ => exact iff_of_true hpath (by simp [Unchanged])
  | update _ _ _ => exact iff_of_true hpath (by simp [Unchanged])
  | append _ _ => exact iff_of_true hpath (by simp [Unchanged])
  | abort _ _ => exact iff_of_true hpath (by simp [Unchanged])

/-- In every interleaving, the committed changes stay linearizable exactly when no
transaction commits over a status that changed after it read it. -/
theorem linearizable_iff_unchanged {rank : Status → Nat}
    (hrank : ∀ source, ∀ target ∈ allowed source, rank source < rank target)
    (hallowed : ∀ tx seen, check tx seen → target tx ∈ allowed seen) {start : Status}
    {run : List ((Nat × Statement) × Row Status)}
    (hrun : transition.Run (Step check target) (Row.initial start) run) :
    (∀ row ∈ transition.visited (Row.initial start) run, Linearizable allowed start row.edges) ↔
      transition.Guarded Unchanged (Row.initial start) run := by
  have hconsistent := hrun.invariant (Consistent check allowed start)
    (fun _ _ _ hrow hstep => step_consistent hallowed hrow hstep)
    (initial_consistent check allowed start)
  rw [← hrun.invariant_iff_guarded (Consistent check allowed start)
    (fun row => Path allowed start row.edges) Unchanged
    (fun _ _ _ hrow hstep => step_consistent hallowed hrow hstep)
    (fun _ _ _ hrow hpath hstep => step_path_iff hallowed hrow hpath hstep)
    (initial_consistent check allowed start) trivial]
  constructor
  · intro hall row hrow
    exact (linearizable_iff_path hrank (hconsistent row hrow).recorded).mp (hall row hrow)
  · intro hall row hrow
    exact (linearizable_iff_path hrank (hconsistent row hrow).recorded).mpr (hall row hrow)

end Interleaving

end read_committed
