import Mathlib.Data.List.Chain
import Mathlib.Logic.Relation
import Mathlib.Logic.Function.Basic

/-! The three-colour search for cycles in a directed graph whose edges are
computed, and may fail to be. The depth of the recursion is limited. -/

namespace depth_first

/-- What the search knows of a node. -/
inductive Mark where
  | fresh | active | finished
  deriving DecidableEq

/-- The marks of the nodes and the cycles that were met, in order. -/
structure Search (α : Type) where
  marks : α → Mark
  cycles : List (List α)

variable {α ε : Type}

namespace Search

def initial : Search α := ⟨fun _ => .fresh, []⟩

variable [DecidableEq α]

def set (state : Search α) (node : α) (mark : Mark) : Search α :=
  { state with marks := Function.update state.marks node mark }

@[simp] theorem set_cycles (state : Search α) (node : α) (mark : Mark) :
    (state.set node mark).cycles = state.cycles := rfl

@[simp] theorem set_marks_self (state : Search α) (node : α) (mark : Mark) :
    (state.set node mark).marks node = mark := by
  simp [set]

theorem set_marks_of_ne {state : Search α} {node other : α} (mark : Mark) (hne : other ≠ node) :
    (state.set node mark).marks other = state.marks other := by
  simp [set, hne]

end Search

section

variable [DecidableEq α]

/-- The part of the stack from a node on, and the node again. -/
def cycle_through (stack : List α) (node : α) : List α :=
  (if node ∈ stack then stack.drop (stack.idxOf node) else stack) ++ [node]

/-- Visit a node with a stack of active nodes above it. -/
def visit (children : α → Except ε (List α)) (overflow : ε) (depth : Nat) (stack : List α) (node : α)
    (state : Search α) : Except ε (Search α) :=
  match depth with
  | 0 => .error overflow
  | depth + 1 =>
    match state.marks node with
    | .finished => .ok state
    | .active => .ok { state with cycles := state.cycles ++ [cycle_through stack node] }
    | .fresh => do
      let next ← children node
      let state ← next.foldlM
        (fun state child => visit children overflow depth (stack ++ [node]) child state)
        (state.set node .active)
      return state.set node .finished

/-- Visit the nodes that are still fresh, in order. -/
def search (children : α → Except ε (List α)) (overflow : ε) (depth : Nat) (nodes : List α) :
    Except ε (Search α) :=
  nodes.foldlM
    (fun state node =>
      if state.marks node = .fresh then visit children overflow depth [] node state else .ok state)
    .initial

end

/-! ## Acyclic graphs -/

/-- There is an edge between two nodes. -/
def Edge (children : α → Except ε (List α)) (node child : α) : Prop :=
  ∃ next, children node = .ok next ∧ child ∈ next

/-- The finished nodes are closed under edges and on no cycle. -/
structure Sound (children : α → Except ε (List α)) (state : Search α) : Prop where
  closed : ∀ {node child}, state.marks node = .finished → Edge children node child →
    state.marks child = .finished
  acyclic : ∀ {node}, state.marks node = .finished → ¬Relation.TransGen (Edge children) node node

/-- What a part of the search that meets no cycle does to the marks. -/
structure Grown (before after : Search α) : Prop where
  finished : ∀ {node}, before.marks node = .finished → after.marks node = .finished
  active : ∀ node, after.marks node = .active ↔ before.marks node = .active

theorem Grown.refl (state : Search α) : Grown state state := ⟨id, fun _ => Iff.rfl⟩

theorem Grown.trans {first second third : Search α} (hfirst : Grown first second)
    (hsecond : Grown second third) : Grown first third :=
  ⟨fun h => hsecond.finished (hfirst.finished h),
    fun node => (hsecond.active node).trans (hfirst.active node)⟩

section

variable {children : α → Except ε (List α)} {overflow : ε}

theorem Sound.initial : Sound children Search.initial :=
  ⟨fun h => (by cases h), fun h => (by cases h)⟩

/-- What is reached from a finished node is finished. -/
theorem Sound.reached {state : Search α} (hsound : Sound children state) {node other : α}
    (hnode : state.marks node = .finished) (hpath : Relation.ReflTransGen (Edge children) node other) :
    state.marks other = .finished := by
  induction hpath with
  | refl => exact hnode
  | tail _ hedge ih => exact hsound.closed ih hedge

/-- A node can be finished once its children are. -/
theorem Sound.finish [DecidableEq α] {state : Search α} (hsound : Sound children state) {node : α}
    (hnode : state.marks node ≠ .finished)
    (hchildren : ∀ child, Edge children node child → state.marks child = .finished) :
    Sound children (state.set node .finished) := by
  have hkept : ∀ {other}, state.marks other = .finished → (state.set node .finished).marks other = .finished := by
    intro other hother
    by_cases heq : other = node
    · rw [heq, Search.set_marks_self]
    · rw [Search.set_marks_of_ne _ heq, hother]
  have hold : ∀ {other}, (state.set node .finished).marks other = .finished → other ≠ node →
      state.marks other = .finished := by
    intro other hother hne
    rwa [Search.set_marks_of_ne _ hne] at hother
  constructor
  · intro other child hother hedge
    by_cases heq : other = node
    · exact hkept (hchildren child (heq ▸ hedge))
    · exact hkept (hsound.closed (hold hother heq) hedge)
  · intro other hother hcycle
    by_cases heq : other = node
    · -- a cycle through the node passes a finished child and comes back
      subst heq
      obtain ⟨child, hedge, hpath⟩ := Relation.TransGen.head'_iff.mp hcycle
      exact hnode (hsound.reached (hchildren child hedge) hpath)
    · exact hsound.acyclic (hold hother heq) hcycle

/-- The steps of a loop over nodes, one by one. -/
theorem foldlM_cons_eq_ok {step : Search α → α → Except ε (Search α)} {node : α} {rest : List α}
    {state after : Search α} (hrun : (node :: rest).foldlM step state = .ok after) :
    ∃ middle, step state node = .ok middle ∧ rest.foldlM step middle = .ok after := by
  rw [List.foldlM_cons] at hrun
  cases hstep : step state node with
  | error exception =>
    rw [hstep] at hrun
    cases hrun
  | ok middle =>
    rw [hstep] at hrun
    exact ⟨middle, rfl, hrun⟩

/-- The cycles met before a loop are still there after it. -/
theorem foldlM_cycles {step : Search α → α → Except ε (Search α)}
    (hstep : ∀ state node after, step state node = .ok after → state.cycles <+: after.cycles)
    {nodes : List α} {state after : Search α} (hrun : nodes.foldlM step state = .ok after) :
    state.cycles <+: after.cycles := by
  induction nodes generalizing state with
  | nil =>
    obtain rfl := Except.ok.inj hrun
    exact List.prefix_refl _
  | cons node rest ih =>
    obtain ⟨middle, hnode, hrest⟩ := foldlM_cons_eq_ok hrun
    exact (hstep _ _ _ hnode).trans (ih hrest)

/-- A loop whose steps finish their nodes when no cycle is met finishes all its nodes. -/
theorem foldlM_sound {step : Search α → α → Except ε (Search α)} {start : Search α}
    (hcycles : ∀ state node after, step state node = .ok after → state.cycles <+: after.cycles)
    (hstep : ∀ state node after, step state node = .ok after → after.cycles = [] → Grown start state →
      Sound children state → Sound children after ∧ Grown state after ∧ after.marks node = .finished)
    {nodes : List α} {state after : Search α} (hrun : nodes.foldlM step state = .ok after)
    (hnone : after.cycles = []) (hstart : Grown start state) (hsound : Sound children state) :
    Sound children after ∧ Grown state after ∧ ∀ node ∈ nodes, after.marks node = .finished := by
  induction nodes generalizing state with
  | nil =>
    obtain rfl := Except.ok.inj hrun
    exact ⟨hsound, .refl _, fun node hnode => absurd hnode List.not_mem_nil⟩
  | cons node rest ih =>
    obtain ⟨middle, hnode, hrest⟩ := foldlM_cons_eq_ok hrun
    have hmiddle : middle.cycles = [] := List.prefix_nil.mp (hnone ▸ foldlM_cycles hcycles hrest)
    obtain ⟨hsound, hfirst, hfinished⟩ := hstep _ _ _ hnode hmiddle hstart hsound
    obtain ⟨hsound, hsecond, hothers⟩ := ih hrest (hstart.trans hfirst) hsound
    exact ⟨hsound, hfirst.trans hsecond, List.forall_mem_cons.mpr ⟨hsecond.finished hfinished, hothers⟩⟩

variable [DecidableEq α]

/-- The visit of a fresh node. -/
theorem visit_fresh {depth : Nat} {stack : List α} {node : α} {state after : Search α}
    (hfresh : state.marks node = .fresh)
    (hvisit : visit children overflow (depth + 1) stack node state = .ok after) :
    ∃ next middle, children node = .ok next ∧
      next.foldlM (fun state child => visit children overflow depth (stack ++ [node]) child state)
        (state.set node .active) = .ok middle ∧
      after = middle.set node .finished := by
  rw [visit] at hvisit
  simp only [hfresh] at hvisit
  cases hnext : children node with
  | error exception =>
    rw [hnext] at hvisit
    cases hvisit
  | ok next =>
    rw [hnext] at hvisit
    change (next.foldlM (fun state child => visit children overflow depth (stack ++ [node]) child state)
        (state.set node .active) >>= fun middle => pure (middle.set node .finished)) = _ at hvisit
    cases hloop : next.foldlM
        (fun state child => visit children overflow depth (stack ++ [node]) child state)
        (state.set node .active) with
    | error exception =>
      rw [hloop] at hvisit
      cases hvisit
    | ok middle =>
      rw [hloop] at hvisit
      exact ⟨next, middle, rfl, hloop, (Except.ok.inj hvisit).symm⟩

theorem visit_cycles {depth : Nat} {stack : List α} {node : α} {state after : Search α}
    (hvisit : visit children overflow depth stack node state = .ok after) :
    state.cycles <+: after.cycles := by
  induction depth generalizing stack node state after with
  | zero => cases hvisit
  | succ depth ih =>
    cases hmark : state.marks node with
    | finished =>
      simp only [visit, hmark] at hvisit
      obtain rfl := Except.ok.inj hvisit
      exact List.prefix_refl _
    | active =>
      simp only [visit, hmark] at hvisit
      obtain rfl := Except.ok.inj hvisit
      exact List.prefix_append _ _
    | fresh =>
      obtain ⟨next, middle, -, hloop, rfl⟩ := visit_fresh hmark hvisit
      have hbody := foldlM_cycles (fun _ _ _ h => ih h) hloop
      exact hbody

/-- A visit that meets no cycle finishes its node. -/
theorem visit_sound {depth : Nat} {stack : List α} {node : α} {state after : Search α}
    (hvisit : visit children overflow depth stack node state = .ok after) (hnone : after.cycles = [])
    (hsound : Sound children state) :
    Sound children after ∧ Grown state after ∧ after.marks node = .finished := by
  induction depth generalizing stack node state after with
  | zero => cases hvisit
  | succ depth ih =>
    cases hmark : state.marks node with
    | finished =>
      simp only [visit, hmark] at hvisit
      obtain rfl := Except.ok.inj hvisit
      exact ⟨hsound, .refl _, hmark⟩
    | active =>
      simp only [visit, hmark] at hvisit
      obtain rfl := Except.ok.inj hvisit
      simp at hnone
    | fresh =>
      obtain ⟨next, middle, hnext, hloop, rfl⟩ := visit_fresh hmark hvisit
      have hentered : Sound children (state.set node .active) := by
        have hsame : ∀ other, (state.set node .active).marks other = .finished ↔
            state.marks other = .finished := by
          intro other
          by_cases heq : other = node
          · simp [heq, hmark]
          · rw [Search.set_marks_of_ne _ heq]
        exact ⟨fun h hedge => (hsame _).mpr (hsound.closed ((hsame _).mp h) hedge),
          fun h => hsound.acyclic ((hsame _).mp h)⟩
      obtain ⟨hmiddle, hgrown, hchildren⟩ :=
        foldlM_sound (fun _ _ _ h => visit_cycles h) (fun _ _ _ h hnone _ => ih h hnone) hloop hnone
          (.refl _) hentered
      have hactive : middle.marks node = .active := (hgrown.active node).mpr (Search.set_marks_self _ _ _)
      have hfinish : Sound children (middle.set node .finished) := by
        apply hmiddle.finish (by simp [hactive])
        rintro child ⟨found, hfound, hchild⟩
        rw [hnext] at hfound
        obtain rfl := Except.ok.inj hfound
        exact hchildren child hchild
      refine ⟨hfinish, ⟨?_, ?_⟩, Search.set_marks_self _ _ _⟩
      · intro other hother
        have hne : other ≠ node := by
          rintro rfl
          simp [hmark] at hother
        rw [Search.set_marks_of_ne _ hne]
        apply hgrown.finished
        rwa [Search.set_marks_of_ne _ hne]
      · intro other
        by_cases heq : other = node
        · simp [heq, hmark]
        · rw [Search.set_marks_of_ne _ heq, hgrown.active, Search.set_marks_of_ne _ heq]

/-- A search that meets no cycle shows that no node it was given is on one. -/
theorem search_acyclic {depth : Nat} {nodes : List α} {found : Search α}
    (hsearch : search children overflow depth nodes = .ok found) (hnone : found.cycles = []) :
    ∀ node ∈ nodes, ¬Relation.TransGen (Edge children) node node := by
  have hmonotone : ∀ (state : Search α) (node : α) (after : Search α),
      (if state.marks node = .fresh then visit children overflow depth [] node state else .ok state) =
        .ok after → state.cycles <+: after.cycles := by
    intro state node after hstep
    split at hstep
    · exact visit_cycles hstep
    · obtain rfl := Except.ok.inj hstep
      exact List.prefix_refl _
  have hsound : Sound children found ∧ Grown .initial found ∧ ∀ node ∈ nodes, found.marks node = .finished := by
    apply foldlM_sound hmonotone ?_ hsearch hnone (.refl _) .initial
    intro state node after hstep hnone hstart hsound
    split at hstep
    · exact visit_sound hstep hnone hsound
    · rename_i hknown
      obtain rfl := Except.ok.inj hstep
      refine ⟨hsound, .refl _, ?_⟩
      cases hmark : state.marks node with
      | finished => rfl
      | fresh => exact absurd hmark hknown
      | active =>
        -- between two visits no node is active
        cases (hstart.active node).mp hmark
  intro node hnode
  exact hsound.1.acyclic (hsound.2.2 node hnode)

end

/-! ## What ends a search -/

section Ends

variable {children : α → Except ε (List α)} {overflow : ε}

/-- A loop whose steps keep a condition, and succeed under it, succeeds. -/
theorem exists_foldlM (Inv : Search α → Prop) {step : Search α → α → Except ε (Search α)} {nodes : List α}
    (hstep : ∀ state, Inv state → ∀ node ∈ nodes, ∃ after, step state node = .ok after ∧ Inv after)
    {state : Search α} (hstate : Inv state) : ∃ after, nodes.foldlM step state = .ok after ∧ Inv after := by
  induction nodes generalizing state with
  | nil => exact ⟨state, rfl, hstate⟩
  | cons node rest ih =>
    obtain ⟨middle, hnode, hmiddle⟩ := hstep state hstate node List.mem_cons_self
    obtain ⟨after, hrest, hafter⟩ := ih (fun state h other hother => hstep state h other (.tail node hother)) hmiddle
    exact ⟨after, by rw [List.foldlM_cons, hnode]; exact hrest, hafter⟩

/-- A loop keeps what its steps keep. -/
theorem foldlM_invariant {step : Search α → α → Except ε (Search α)} {Inv : Search α → Prop} {nodes : List α}
    (hstep : ∀ state node after, node ∈ nodes → step state node = .ok after → Inv state → Inv after)
    {state after : Search α} (hrun : nodes.foldlM step state = .ok after) (hstate : Inv state) : Inv after := by
  induction nodes generalizing state with
  | nil =>
    obtain rfl := Except.ok.inj hrun
    exact hstate
  | cons node rest ih =>
    obtain ⟨middle, hnode, hrest⟩ := foldlM_cons_eq_ok hrun
    refine ih (fun between other after hother => hstep between other after (.tail node hother)) hrest ?_
    exact hstep state node middle List.mem_cons_self hnode hstate

/-- A loop that fails has failed at one of its nodes. -/
theorem foldlM_eq_error {step : Search α → α → Except ε (Search α)} {nodes : List α} {state : Search α} {raised : ε}
    (hrun : nodes.foldlM step state = .error raised) :
    ∃ node ∈ nodes, ∃ between, step between node = .error raised := by
  induction nodes generalizing state with
  | nil => cases hrun
  | cons node rest ih =>
    rw [List.foldlM_cons] at hrun
    cases hnode : step state node with
    | error exception =>
      rw [hnode] at hrun
      obtain rfl := Except.error.inj hrun
      exact ⟨node, List.mem_cons_self, state, hnode⟩
    | ok middle =>
      rw [hnode] at hrun
      obtain ⟨other, hother, between, hfailed⟩ := ih hrun
      exact ⟨other, .tail node hother, between, hfailed⟩

/-- The edges of known nodes are computed, and lead to known nodes. -/
def Closed (children : α → Except ε (List α)) (known : List α) : Prop :=
  ∀ node ∈ known, ∃ next, children node = .ok next ∧ ∀ child ∈ next, child ∈ known

/-- The known nodes that are still fresh. -/
def fresh_count (known : List α) (state : Search α) : Nat :=
  known.countP fun node => state.marks node = .fresh

/-- Every node that is fresh now was fresh before. -/
def Shrunk (before after : Search α) : Prop :=
  ∀ node, after.marks node = .fresh → before.marks node = .fresh

theorem Shrunk.fresh_count_le {before after : Search α} (hshrunk : Shrunk before after) (known : List α) :
    fresh_count known after ≤ fresh_count known before :=
  List.countP_mono_left fun node _ hfresh => decide_eq_true (hshrunk node (of_decide_eq_true hfresh))

variable [DecidableEq α]

theorem shrunk_set {state : Search α} {node : α} {mark : Mark} (hmark : mark ≠ .fresh) :
    Shrunk state (state.set node mark) := by
  intro other hother
  by_cases heq : other = node
  · rw [heq, Search.set_marks_self] at hother
    exact absurd hother hmark
  · rwa [Search.set_marks_of_ne _ heq] at hother

/-- Entering a node leaves fewer fresh ones. -/
theorem fresh_count_set_lt {known : List α} {state : Search α} {node : α} (hnode : node ∈ known)
    (hfresh : state.marks node = .fresh) : fresh_count known (state.set node .active) < fresh_count known state := by
  obtain ⟨first, rest, rfl⟩ := List.append_of_mem hnode
  have hshrunk : Shrunk state (state.set node .active) := shrunk_set (by decide)
  have hfirst := hshrunk.fresh_count_le first
  have hrest := hshrunk.fresh_count_le rest
  simp only [fresh_count, List.countP_append, List.countP_cons, Search.set_marks_self, hfresh] at hfirst hrest ⊢
  simp only [reduceCtorEq, decide_false, Bool.false_eq_true, ↓reduceIte, decide_true]
  omega

/-- A visit that may go deeper than there are fresh nodes ends. -/
theorem exists_visit {known : List α} (hclosed : Closed children known) {depth : Nat} {stack : List α} {node : α}
    {state : Search α} (hnode : node ∈ known) (hdepth : fresh_count known state < depth) :
    ∃ after, visit children overflow depth stack node state = .ok after ∧ Shrunk state after := by
  induction depth generalizing stack node state with
  | zero => exact absurd hdepth (Nat.not_lt_zero _)
  | succ depth ih =>
    rw [visit]
    cases hmark : state.marks node with
    | finished => exact ⟨state, rfl, fun _ => id⟩
    | active => exact ⟨_, rfl, fun _ => id⟩
    | fresh =>
      obtain ⟨next, hnext, hknown⟩ := hclosed node hnode
      have hentered := fresh_count_set_lt hnode hmark
      obtain ⟨after, hloop, hafter⟩ : ∃ after, next.foldlM
          (fun state child => visit children overflow depth (stack ++ [node]) child state)
          (state.set node .active) = .ok after ∧ Shrunk (state.set node .active) after := by
        refine exists_foldlM (Shrunk (state.set node .active)) ?_ fun _ => id
        intro between hbetween child hchild
        have hle := hbetween.fresh_count_le known
        have hless : fresh_count known between < depth := by omega
        obtain ⟨after, hvisit, hafter⟩ := ih (hknown child hchild) hless
        exact ⟨after, hvisit, fun other hother => hbetween other (hafter other hother)⟩
      refine ⟨after.set node .finished, ?_, fun other hother => ?_⟩
      · simp only [hnext, bind, Except.bind, hloop, pure, Except.pure]
      · exact shrunk_set (by decide) other (hafter other (shrunk_set (by decide) other hother))

/-- A search that may go deeper than there are nodes ends. -/
theorem exists_search {known : List α} (hclosed : Closed children known) {depth : Nat}
    (hdepth : known.length < depth) : ∃ found, search children overflow depth known = .ok found := by
  obtain ⟨found, hfound, -⟩ : ∃ found, search children overflow depth known = .ok found ∧ Shrunk .initial found := by
    refine exists_foldlM (Shrunk .initial) ?_ fun _ => id
    intro state hstate node hnode
    have hle := hstate.fresh_count_le known
    have hlength : fresh_count known .initial ≤ known.length := List.countP_le_length
    split
    · have hless : fresh_count known state < depth := by omega
      obtain ⟨after, hvisit, hafter⟩ := exists_visit hclosed hnode hless
      exact ⟨after, hvisit, fun other hother => hstate other (hafter other hother)⟩
    · exact ⟨state, rfl, hstate⟩
  exact ⟨found, hfound⟩

/-- A visit of a known node fails only when it goes too deep. -/
theorem visit_error {known : List α} (hclosed : Closed children known) {depth : Nat} {stack : List α} {node : α}
    {state : Search α} {raised : ε} (hnode : node ∈ known)
    (hvisit : visit children overflow depth stack node state = .error raised) : raised = overflow := by
  induction depth generalizing stack node state with
  | zero => exact (Except.error.inj hvisit).symm
  | succ depth ih =>
    rw [visit] at hvisit
    cases hmark : state.marks node with
    | finished =>
      simp only [hmark] at hvisit
      cases hvisit
    | active =>
      simp only [hmark] at hvisit
      cases hvisit
    | fresh =>
      obtain ⟨next, hnext, hknown⟩ := hclosed node hnode
      simp only [hmark, hnext, bind, Except.bind, pure, Except.pure] at hvisit
      split at hvisit
      · rename_i found hloop
        obtain ⟨child, hchild, between, hfailed⟩ := foldlM_eq_error hloop
        obtain rfl := Except.error.inj hvisit
        exact ih (hknown child hchild) hfailed
      · cases hvisit

/-- A search among known nodes fails only when it goes too deep. -/
theorem search_error {known : List α} (hclosed : Closed children known) {depth : Nat} {raised : ε}
    (hsearch : search children overflow depth known = .error raised) : raised = overflow := by
  obtain ⟨node, hnode, state, hfailed⟩ := foldlM_eq_error hsearch
  split at hfailed
  · exact visit_error hclosed hnode hfailed
  · cases hfailed

end Ends

/-! ## The cycles that are met -/

section Rounds

variable {children : α → Except ε (List α)} {overflow : ε}

/-- A way along edges that comes back to its start. -/
def Round (children : α → Except ε (List α)) (cycle : List α) : Prop :=
  ∃ node inner, cycle = node :: (inner ++ [node]) ∧ cycle.IsChain (Edge children)

theorem transGen_of_isChain {R : α → α → Prop} {first last : α} {inner : List α}
    (hchain : (first :: (inner ++ [last])).IsChain R) : Relation.TransGen R first last := by
  induction inner generalizing first with
  | nil => exact .single (List.isChain_pair.mp hchain)
  | cons next rest ih =>
    obtain ⟨hedge, hrest⟩ := List.isChain_cons_cons.mp hchain
    exact .head hedge (ih hrest)

theorem Round.transGen {cycle : List α} (hround : Round children cycle) :
    ∃ node, Relation.TransGen (Edge children) node node := by
  obtain ⟨node, inner, rfl, hchain⟩ := hround
  exact ⟨node, transGen_of_isChain hchain⟩

/-- The active nodes are those of the stack, and the cycles met so far are rounds. -/
structure Tracked (children : α → Except ε (List α)) (stack : List α) (state : Search α) : Prop where
  active : ∀ node, state.marks node = .active ↔ node ∈ stack
  rounds : ∀ cycle ∈ state.cycles, Round children cycle

theorem Tracked.initial : Tracked children [] Search.initial :=
  ⟨fun node => ⟨fun h => (by cases h), fun h => absurd h List.not_mem_nil⟩, List.forall_mem_nil _⟩

variable [DecidableEq α]

/-- An active node that is met again closes a round. -/
theorem round_cycle_through {stack : List α} {node : α} (hnode : node ∈ stack)
    (hpath : (stack ++ [node]).IsChain (Edge children)) : Round children (cycle_through stack node) := by
  have hlt : stack.idxOf node < stack.length := List.idxOf_lt_length_iff.mpr hnode
  have hdrop : stack.drop (stack.idxOf node) = node :: stack.drop (stack.idxOf node + 1) := by
    rw [List.drop_eq_getElem_cons hlt, List.getElem_idxOf hlt]
  refine ⟨node, stack.drop (stack.idxOf node + 1), ?_, ?_⟩
  · rw [cycle_through, if_pos hnode, hdrop, List.cons_append]
  · rw [cycle_through, if_pos hnode]
    refine hpath.suffix ⟨stack.take (stack.idxOf node), ?_⟩
    rw [← List.append_assoc, List.take_append_drop]

/-- A visit along an edge from the top of the stack meets rounds only. -/
theorem visit_tracked {depth : Nat} {stack : List α} {node : α} {state after : Search α}
    (hvisit : visit children overflow depth stack node state = .ok after)
    (hpath : (stack ++ [node]).IsChain (Edge children)) (htracked : Tracked children stack state) :
    Tracked children stack after := by
  induction depth generalizing stack node state after with
  | zero => cases hvisit
  | succ depth ih =>
    cases hmark : state.marks node with
    | finished =>
      simp only [visit, hmark] at hvisit
      obtain rfl := Except.ok.inj hvisit
      exact htracked
    | active =>
      simp only [visit, hmark] at hvisit
      obtain rfl := Except.ok.inj hvisit
      refine ⟨htracked.active, fun cycle hcycle => ?_⟩
      obtain hold | hnew := List.mem_append.mp hcycle
      · exact htracked.rounds cycle hold
      · obtain rfl := List.mem_singleton.mp hnew
        exact round_cycle_through ((htracked.active node).mp hmark) hpath
    | fresh =>
      obtain ⟨next, middle, hnext, hloop, rfl⟩ := visit_fresh hmark hvisit
      have hnode : node ∉ stack := by
        intro hmem
        rw [(htracked.active node).mpr hmem] at hmark
        cases hmark
      have hentered : Tracked children (stack ++ [node]) (state.set node .active) := by
        refine ⟨fun other => ?_, htracked.rounds⟩
        rw [List.mem_append, List.mem_singleton]
        by_cases heq : other = node
        · simp [heq]
        · rw [Search.set_marks_of_ne _ heq, htracked.active, or_iff_left heq]
      have hmiddle : Tracked children (stack ++ [node]) middle := by
        refine foldlM_invariant ?_ hloop hentered
        intro between child reached hchild hstep hbetween
        refine ih hstep (List.isChain_append.mpr ⟨hpath, List.isChain_singleton child, ?_⟩) hbetween
        simp only [List.getLast?_concat, List.head?_cons, Option.mem_some_iff, forall_eq']
        exact ⟨next, hnext, hchild⟩
      refine ⟨fun other => ?_, hmiddle.rounds⟩
      by_cases heq : other = node
      · simp [heq, hnode]
      · rw [Search.set_marks_of_ne _ heq, hmiddle.active, List.mem_append, List.mem_singleton, or_iff_left heq]

/-- The cycles that a search meets are rounds. -/
theorem search_rounds {depth : Nat} {nodes : List α} {found : Search α}
    (hsearch : search children overflow depth nodes = .ok found) : ∀ cycle ∈ found.cycles, Round children cycle := by
  have htracked : Tracked children [] found := by
    refine foldlM_invariant ?_ hsearch .initial
    intro state node after hnode hstep hstate
    split at hstep
    · exact visit_tracked hstep (List.isChain_singleton node) hstate
    · obtain rfl := Except.ok.inj hstep
      exact hstate
  exact htracked.rounds

end Rounds

end depth_first
