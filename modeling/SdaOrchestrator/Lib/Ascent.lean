import Mathlib.Data.List.Basic
import Mathlib.Data.List.Nodup
import Mathlib.Data.List.Perm.Subperm
import Mathlib.Tactic.Common

/-! Climbing from a node along its parents to a node that is known. -/

namespace ascent

variable {α : Type} (parent : α → Option α)

/-- The node so many steps up. -/
def ancestor : Nat → α → Option α
  | 0, node => some node
  | steps + 1, node => (parent node).bind (ancestor steps)

/-- The nodes from one on a way up to its cursor; the highest first. -/
inductive Ladder (start : α) : List α → α → Prop
  | start : Ladder start [] start
  | step {rungs : List α} {cursor above : α} :
    Ladder start rungs cursor → parent cursor = some above → Ladder start (cursor :: rungs) above

/-- Where a climb ends. -/
inductive Climb (α : Type) where
  | reached (trail : List α) (cursor : α)
  | root (trail : List α) (cursor : α)
  | cycle (cursor : α)
  | exhausted

/-- The climb from a cursor; the trail is the way that led to it. -/
def climb [DecidableEq α] (known : α → Bool) : Nat → List α → α → Climb α
  | 0, _, _ => .exhausted
  | fuel + 1, trail, cursor =>
    if known cursor then .reached trail cursor
    else if cursor ∈ trail then .cycle cursor
    else
      match parent cursor with
      | none => .root (trail ++ [cursor]) cursor
      | some above => climb known fuel (trail ++ [cursor]) above

variable {parent} {start cursor root node : α} {rungs : List α} {steps more : Nat}

/-! ## Ancestors -/

theorem ancestor_add (steps more : Nat) (node : α) :
    ancestor parent (steps + more) node = (ancestor parent steps node).bind (ancestor parent more) := by
  induction steps generalizing node with
  | zero =>
    rw [Nat.zero_add]
    rfl
  | succ steps ih =>
    rw [Nat.succ_add, ancestor, ancestor]
    cases parent node with
    | none => rfl
    | some above => exact ih above

/-- A node without a parent has no ancestor but itself. -/
theorem eq_zero_of_root (hroot : parent root = none) (hancestor : ancestor parent steps root = some node) :
    steps = 0 := by
  cases steps with
  | zero => rfl
  | succ steps =>
    rw [ancestor, hroot] at hancestor
    cases hancestor

/-- The number of steps to the root is one. -/
theorem steps_unique (hroot : parent root = none) (hsteps : ancestor parent steps node = some root)
    (hmore : ancestor parent more node = some root) : steps = more := by
  wlog hle : steps ≤ more generalizing steps more
  · exact (this hmore hsteps (Nat.le_of_not_le hle)).symm
  obtain ⟨rest, rfl⟩ := Nat.exists_eq_add_of_le hle
  rw [ancestor_add, hsteps, Option.bind_some] at hmore
  rw [eq_zero_of_root hroot hmore, Nat.add_zero]

/-- On the way to the root every ancestor has the rest of the way before it. -/
theorem ancestor_of_le (hroot : parent root = none) (hsteps : ancestor parent steps node = some root)
    (hmore : ancestor parent more node = some cursor) :
    more ≤ steps ∧ ancestor parent (steps - more) cursor = some root := by
  have hle : more ≤ steps := by
    by_contra hlt
    obtain ⟨rest, rfl⟩ := Nat.exists_eq_add_of_le (Nat.le_of_not_le hlt)
    rw [ancestor_add, hsteps, Option.bind_some] at hmore
    have hzero := eq_zero_of_root hroot hmore
    omega
  refine ⟨hle, ?_⟩
  obtain ⟨rest, rfl⟩ := Nat.exists_eq_add_of_le hle
  rw [ancestor_add, hmore, Option.bind_some] at hsteps
  rwa [Nat.add_sub_cancel_left]

/-- A node on a cycle does not lead to the root. -/
theorem not_root_of_cycle (hroot : parent root = none) (hcycle : ancestor parent more cursor = some cursor)
    (hmore : 0 < more) : ancestor parent steps cursor ≠ some root := by
  induction steps using Nat.strongRecOn with
  | _ steps ih =>
    intro hsteps
    obtain ⟨hle, hrest⟩ := ancestor_of_le hroot hsteps hcycle
    exact ih (steps - more) (by omega) hrest

/-! ## Ladders -/

theorem Ladder.ancestor (hladder : Ladder parent start rungs cursor) :
    ascent.ancestor parent rungs.length start = some cursor := by
  induction hladder with
  | start => rfl
  | @step rungs cursor above _ hparent ih =>
    have hone : ascent.ancestor parent 1 cursor = some above := by
      rw [ascent.ancestor, hparent]
      rfl
    rw [List.length_cons, ancestor_add, ih, Option.bind_some, hone]

/-- A rung lies below the cursor. -/
theorem Ladder.ancestor_of_mem (hladder : Ladder parent start rungs cursor) (hnode : node ∈ rungs) :
    ∃ steps, 0 < steps ∧ ascent.ancestor parent steps node = some cursor := by
  induction hladder with
  | start => cases hnode
  | @step rungs cursor above _ hparent ih =>
    have hone : ascent.ancestor parent 1 cursor = some above := by
      rw [ascent.ancestor, hparent]
      rfl
    obtain rfl | hmem := List.mem_cons.mp hnode
    · exact ⟨1, Nat.zero_lt_one, hone⟩
    · obtain ⟨steps, -, hsteps⟩ := ih hmem
      refine ⟨steps + 1, Nat.succ_pos steps, ?_⟩
      rw [ancestor_add, hsteps, Option.bind_some, hone]

theorem Ladder.start_mem (hladder : Ladder parent start rungs cursor) : start ∈ cursor :: rungs := by
  induction hladder with
  | start => exact List.mem_cons_self
  | step _ _ ih => exact List.mem_cons_of_mem _ ih

theorem Ladder.isSome_of_mem (hladder : Ladder parent start rungs cursor) (hnode : node ∈ rungs) :
    (parent node).isSome := by
  induction hladder with
  | start => cases hnode
  | step _ hparent ih =>
    obtain rfl | hmem := List.mem_cons.mp hnode
    · rw [hparent]
      rfl
    · exact ih hmem

/-- A ladder that comes back to one of its rungs does not lead to the root. -/
theorem Ladder.not_root (hladder : Ladder parent start rungs cursor) (hcycle : cursor ∈ rungs)
    (hroot : parent root = none) : ascent.ancestor parent steps start ≠ some root := by
  intro hsteps
  obtain ⟨more, hmore, hback⟩ := hladder.ancestor_of_mem hcycle
  obtain ⟨-, hrest⟩ := ancestor_of_le hroot hsteps hladder.ancestor
  exact not_root_of_cycle hroot hback hmore hrest

/-! ## Climbs -/

/-- What a climb has found: a way of unknown nodes up to where it ends. -/
def Climb.Found (parent : α → Option α) (known : α → Bool) (start : α) : Climb α → Prop
  | .reached trail cursor => ∃ rungs, trail = rungs.reverse ∧ Ladder parent start rungs cursor ∧ rungs.Nodup ∧
      (∀ rung ∈ rungs, known rung = false) ∧ known cursor = true
  | .root trail cursor => ∃ rungs, trail = rungs.reverse ++ [cursor] ∧ Ladder parent start rungs cursor ∧
      parent cursor = none ∧ known cursor = false
  | .cycle cursor => ∃ rungs, Ladder parent start rungs cursor ∧ cursor ∈ rungs
  | .exhausted => False

/-- A climb ends: it visits no node twice, and each node it leaves has a parent. -/
theorem climb_found [DecidableEq α] {known : α → Bool} {nodes : List α} {fuel : Nat}
    (hnodes : ∀ node, (parent node).isSome → node ∈ nodes) (hladder : Ladder parent start rungs cursor)
    (hnodup : rungs.Nodup) (hunknown : ∀ rung ∈ rungs, known rung = false)
    (hfuel : nodes.length < fuel + rungs.length) :
    (climb parent known fuel rungs.reverse cursor).Found parent known start := by
  have hshort : rungs.length ≤ nodes.length :=
    (hnodup.subperm fun rung hrung => hnodes rung (hladder.isSome_of_mem hrung)).length_le
  induction fuel generalizing rungs cursor with
  | zero => omega
  | succ fuel ih =>
    rw [climb]
    split
    · rename_i hknown
      exact ⟨rungs, rfl, hladder, hnodup, hunknown, hknown⟩
    · rename_i hknown
      have hcursor : known cursor = false := Bool.eq_false_iff.mpr hknown
      split
      · rename_i hcycle
        exact ⟨rungs, hladder, List.mem_reverse.mp hcycle⟩
      · rename_i hnew
        rw [List.mem_reverse] at hnew
        split
        · rename_i hparent
          exact ⟨rungs, rfl, hladder, hparent, hcursor⟩
        · rename_i above hparent
          rw [← List.reverse_cons]
          have hnext := hladder.step hparent
          have hnodup' : (cursor :: rungs).Nodup := List.nodup_cons.mpr ⟨hnew, hnodup⟩
          refine ih hnext hnodup' (List.forall_mem_cons.mpr ⟨hcursor, hunknown⟩) ?_ ?_
          · rw [List.length_cons]
            omega
          · exact (hnodup'.subperm fun rung hrung => hnodes rung (hnext.isSome_of_mem hrung)).length_le

end ascent
