import Mathlib.Data.Prod.Lex
import SdaOrchestrator.Allocator.Pools
import SdaOrchestrator.Intent.Hierarchy
import SdaOrchestrator.Lib.Ascent
import SdaOrchestrator.Lib.Loops
import SdaOrchestrator.Lib.Regex
import SdaOrchestrator.Lib.Threaded

open python orchestrator.store

namespace orchestrator.allocator

open orchestrator.intent

/-! ## The hierarchy of the requirements -/

def id_text (content : List Char) : Bool :=
  1 ≤ content.length && content.length ≤ 64 && content.all (regex.alphanumericOr "_.-")

/-- `^[A-Za-z0-9_.-]{1,64}$`, where `$` also matches before a last line feed. -/
def id_pattern (text : String) : Bool :=
  id_text (chars text) || (endswith text "\n" && id_text (chars text).dropLast)

/-- A node of the hierarchy as the schema of the requirements admits it. -/
def admitted_node (node : HierarchyNode) : Bool :=
  id_pattern node.id && 1 ≤ len node.name && len node.name ≤ 128 && node.parent_id.all id_pattern &&
    node.address.all (len · ≤ 512) &&
    node.latitude.all (fun number => -90 ≤ number.value && number.value ≤ 90) &&
    node.longitude.all (fun number => -180 ≤ number.value && number.value ≤ 180) &&
    node.timezone.all (fun zone => 1 ≤ len zone && len zone ≤ 64)

/-- The `site_hierarchy` of a document that passes the schema of the requirements. -/
def admitted_hierarchy (nodes : List HierarchyNode) : Bool :=
  2 ≤ nodes.length && nodes.length ≤ 8192 && nodes.all admitted_node

/-- `node_by_id`, from the nodes that are left and those found. -/
def node_by_id : List HierarchyNode → List (String × HierarchyNode) → Py (List (String × HierarchyNode))
  | [], found => .ok found
  | node :: rest, found => do
    raise_if (node.id ∈ found.map Prod.fst) (AllocationError ("Duplicate hierarchy node id " ++ node.id))
    node_by_id rest (found ++ [(node.id, node)])

/-- `global_nodes[0]`, when there is one. -/
def only_global (nodes : List HierarchyNode) : Py HierarchyNode :=
  match nodes.filter (·.type = .global) with
  | [node] => .ok node
  | _ => .error (AllocationError "Site hierarchy requires exactly one global node")

/-- The parent that a node adds to `parents`; the global node adds none. -/
def parent_of (nodes : List (String × HierarchyNode)) (node : HierarchyNode) : Py (Option (String × String)) :=
  if node.type = .global then do
    raise_if node.parent_id.isSome (AllocationError "Global hierarchy node cannot have a parent")
    return none
  else do
    let unknown := AllocationError s!"Hierarchy node {node.id} references an unknown parent"
    let parent_id ← require (node.parent_id.filter (· ≠ "")) unknown
    let parent ← require (assoc.lookup parent_id nodes) unknown
    raise_if (node.type ∉ allowed_hierarchy_children parent.type) (AllocationError
      s!"Hierarchy type {node.type.text} cannot be a child of {parent.type.text}")
    return some (node.id, parent_id)

/-! ## The depths of the nodes -/

section Depths

variable (max_depth : Int) (nodes : Nat) (parents : List (String × String))

/-- `for node_id in reversed(trail)`: every node lies one below its parent. -/
def assign_depths : List String → Nat → List (String × Nat) → Py (List (String × Nat))
  | [], _, depths => .ok depths
  | node_id :: rest, depth, depths =>
    match assoc.lookup node_id depths with
    | some known => assign_depths rest known depths
    | none => do
      raise_if (max_depth < (depth : Int) + 1)
        (AllocationError s!"Site hierarchy exceeds maximum depth {max_depth}")
      assign_depths rest (depth + 1) (assoc.set node_id (depth + 1) depths)

/-- The `while cursor not in depths` loop. -/
def climb (depths : List (String × Nat)) (start : String) : ascent.Climb String :=
  ascent.climb (assoc.lookup · parents) (fun cursor => (assoc.lookup cursor depths).isSome) (nodes + 1) [] start

/-- What no run of the loop comes to. -/
def unfinished : Raised := ⟨"RuntimeError", "The climb has not ended"⟩

/-- One round of the loop over the nodes. -/
def depth_of (depths : List (String × Nat)) (start : String) : Py (List (String × Nat)) :=
  match climb nodes parents depths start with
  | .reached trail cursor =>
    assign_depths max_depth trail.reverse ((assoc.lookup cursor depths).getD 0) depths
  | .root trail cursor => assign_depths max_depth trail.reverse 0 (assoc.set cursor 0 depths)
  | .cycle _ => .error (AllocationError "Site hierarchy contains a parent cycle")
  | .exhausted => .error unfinished

end Depths

/-- The nodes that `_derive_site_context` goes on with, past its checks of the hierarchy. -/
def site_hierarchy (max_depth : Int) (site_hierarchy : List HierarchyNode) : Py (List HierarchyNode) := do
  let by_id ← node_by_id (sortedBy (·.id) site_hierarchy) []
  let nodes := by_id.map Prod.snd
  let global_node ← only_global nodes
  let found ← nodes.mapM (parent_of by_id)
  let parents := found.filterMap id
  raise_if (max_depth < 1 || (MAX_HIERARCHY_DEPTH : Int) < max_depth) (AllocationError
    s!"Guardrail hierarchy.max_depth must be between 1 and {MAX_HIERARCHY_DEPTH}")
  let depths ← (sortedTexts (by_id.map Prod.fst)).foldlM (depth_of max_depth nodes.length parents)
    [(global_node.id, 0)]
  let placed ← nodes.mapM fun node => do
    return (← require (assoc.lookup node.id depths) (KeyError node.id), node)
  return (sortedBy (fun entry => toLex (entry.1, entry.2.id)) placed).map Prod.snd

/-! ## What a hierarchy is -/

/-- The nodes that lead to the global node, with their distance from it. -/
inductive Below (nodes : List HierarchyNode) : HierarchyNode → Nat → Prop
  | global {node : HierarchyNode} : node ∈ nodes → node.type = .global → node.parent_id = none → Below nodes node 0
  | child {parent node : HierarchyNode} {depth : Nat} : Below nodes parent depth → node ∈ nodes →
    node.parent_id = some parent.id → node.type ∈ allowed_hierarchy_children parent.type →
      Below nodes node (depth + 1)

structure SoundHierarchy (nodes : List HierarchyNode) (max_depth : Int) : Prop where
  ids : (nodes.map (·.id)).Nodup
  global : (nodes.filter (·.type = .global)).length = 1
  below : ∀ node ∈ nodes, ∃ depth : Nat, Below nodes node depth ∧ depth ≤ max_depth

/-! ## The nodes and their parents -/

theorem node_by_id_eq_ok {nodes : List HierarchyNode} {found by_id : List (String × HierarchyNode)} :
    node_by_id nodes found = .ok by_id ↔ by_id = found ++ nodes.map (fun node => (node.id, node)) ∧
      (nodes.map (·.id)).Nodup ∧ ∀ node ∈ nodes, node.id ∉ found.map Prod.fst := by
  induction nodes generalizing found with
  | nil => simp [node_by_id, eq_comm]
  | cons node rest ih =>
    rw [node_by_id, raise_if_bind_eq_ok_iff, ih]
    simp only [decide_eq_false_iff_not, List.map_append, List.map_cons, List.map_nil, List.mem_append,
      List.mem_singleton, List.append_assoc, List.singleton_append, List.nodup_cons, List.forall_mem_cons,
      List.mem_map, not_exists, not_and, not_or]
    constructor
    · rintro ⟨hnew, rfl, hnodup, hrest⟩
      exact ⟨rfl, ⟨fun other hother => (hrest other hother).2, hnodup⟩, hnew, fun other hother =>
        (hrest other hother).1⟩
    · rintro ⟨rfl, ⟨hdistinct, hnodup⟩, hnew, hrest⟩
      exact ⟨hnew, rfl, hnodup, fun other hother => ⟨hrest other hother, hdistinct other hother⟩⟩

theorem only_global_eq_ok {nodes : List HierarchyNode} {global_node : HierarchyNode} :
    only_global nodes = .ok global_node ↔ nodes.filter (·.type = .global) = [global_node] := by
  rw [only_global]
  split
  · rename_i node heq
    rw [heq, Except.ok.injEq, List.cons.injEq, and_iff_left rfl]
  · rename_i hother
    exact ⟨nofun, fun heq => absurd heq (hother global_node)⟩

/-- The global node is nobody's child. -/
theorem not_global_of_allowed {child above : HierarchyType} (hchild : child ∈ allowed_hierarchy_children above) :
    child ≠ .global := by
  rintro rfl
  cases above <;> simp [allowed_hierarchy_children] at hchild

/-- A node is global and has no parent, or it may lie below its parent. -/
def Placed (nodes : List HierarchyNode) (node : HierarchyNode) : Prop :=
  (node.type = .global ∧ node.parent_id = none) ∨ (node.type ≠ .global ∧ ∃ parent ∈ nodes,
    node.parent_id = some parent.id ∧ node.type ∈ allowed_hierarchy_children parent.type)

/-- The entry of a node in `parents`. -/
def parent_entry (node : HierarchyNode) : Option (String × String) :=
  if node.type = .global then none else node.parent_id.map (node.id, ·)

section Nodes

variable {nodes : List HierarchyNode} {node parent : HierarchyNode}

theorem lookup_node (hids : (nodes.map (·.id)).Nodup) {id : String} :
    assoc.lookup id (nodes.map fun node => (node.id, node)) = some node ↔ node ∈ nodes ∧ node.id = id := by
  have hkeys : ((nodes.map fun node => (node.id, node)).map Prod.fst).Nodup := by
    rwa [List.map_map]
  constructor
  · intro hlookup
    obtain ⟨other, hother, heq⟩ := List.mem_map.mp (assoc.lookup_mem hlookup)
    cases heq
    exact ⟨hother, rfl⟩
  · rintro ⟨hnode, rfl⟩
    exact assoc.lookup_of_mem hkeys (List.mem_map_of_mem hnode)

theorem parent_of_eq_ok (hids : (nodes.map (·.id)).Nodup) (hnamed : ∀ node ∈ nodes, node.id ≠ "")
    {entry : Option (String × String)} :
    parent_of (nodes.map fun node => (node.id, node)) node = .ok entry ↔
      Placed nodes node ∧ entry = parent_entry node := by
  unfold parent_of Placed parent_entry
  by_cases hglobal : node.type = .global
  · simp only [hglobal, ↓reduceIte, bind_eq_ok_iff, raise_if_eq_ok, pure_eq_ok_iff,
      Option.isSome_eq_false_iff, Option.isNone_iff_eq_none]
    constructor
    · rintro ⟨_, hparent, rfl⟩
      exact ⟨.inl ⟨trivial, hparent⟩, rfl⟩
    · rintro ⟨⟨-, hparent⟩ | ⟨hother, -⟩, rfl⟩
      · exact ⟨(), hparent, rfl⟩
      · exact absurd rfl hother
  · simp only [hglobal, ↓reduceIte, bind_eq_ok_iff, require_eq_ok, raise_if_eq_ok, pure_eq_ok_iff,
      lookup_node hids, Option.filter_eq_some_iff, decide_eq_true_eq, decide_eq_false_iff_not, not_not]
    constructor
    · rintro ⟨_, ⟨hparent, -⟩, parent, ⟨hmem, rfl⟩, -, hchild, rfl⟩
      exact ⟨.inr ⟨hglobal, parent, hmem, hparent, hchild⟩, by rw [hparent]; rfl⟩
    · rintro ⟨⟨hfalse, -⟩ | ⟨-, parent, hmem, hparent, hchild⟩, rfl⟩
      · cases hfalse
      exact ⟨parent.id, ⟨hparent, hnamed parent hmem⟩, parent, ⟨hmem, rfl⟩, (), hchild, by rw [hparent]; rfl⟩

end Nodes

/-- A parent function that follows a hierarchy with one global node, where every node is placed. -/
structure Follows (nodes : List HierarchyNode) (global_node : HierarchyNode) (parent : String → Option String) :
    Prop where
  ids : (nodes.map (·.id)).Nodup
  global : nodes.filter (·.type = .global) = [global_node]
  placed : ∀ node ∈ nodes, Placed nodes node
  parent_eq : ∀ node ∈ nodes, parent node.id = if node.type = .global then none else node.parent_id
  known : ∀ id, (parent id).isSome → id ∈ nodes.map (·.id)

namespace Follows

variable {nodes : List HierarchyNode} {global_node node : HierarchyNode} {parent : String → Option String}
variable (hfollows : Follows nodes global_node parent)

include hfollows

theorem mem_global : global_node ∈ nodes ∧ global_node.type = .global := by
  have hmem : global_node ∈ nodes.filter (·.type = .global) := by
    rw [hfollows.global]
    exact List.mem_singleton_self global_node
  simpa using hmem

theorem eq_global (hnode : node ∈ nodes) (htype : node.type = .global) : node = global_node := by
  have hmem : node ∈ nodes.filter (·.type = .global) := List.mem_filter.mpr ⟨hnode, by simpa using htype⟩
  rw [hfollows.global] at hmem
  exact List.mem_singleton.mp hmem

theorem eq_of_id {other : HierarchyNode} (hnode : node ∈ nodes) (hother : other ∈ nodes) (hid : node.id = other.id) :
    node = other :=
  List.inj_on_of_nodup_map hfollows.ids hnode hother hid

theorem parent_global : parent global_node.id = none := by
  obtain ⟨hmem, htype⟩ := hfollows.mem_global
  rw [hfollows.parent_eq global_node hmem, if_pos htype]

/-- Only the global node has no parent. -/
theorem eq_global_of_parent (hnode : node ∈ nodes) (hparent : parent node.id = none) : node = global_node := by
  rw [hfollows.parent_eq node hnode] at hparent
  obtain ⟨htype, -⟩ | ⟨htype, above, -, habove, -⟩ := hfollows.placed node hnode
  · exact hfollows.eq_global hnode htype
  · rw [if_neg htype, habove] at hparent
    cases hparent

/-- A parent is a node itself. -/
theorem exists_parent (hnode : node ∈ nodes) {id : String} (hparent : parent node.id = some id) :
    ∃ above ∈ nodes, above.id = id ∧ node.parent_id = some above.id ∧
      node.type ∈ allowed_hierarchy_children above.type := by
  rw [hfollows.parent_eq node hnode] at hparent
  obtain ⟨htype, -⟩ | ⟨htype, above, hmem, habove, hchild⟩ := hfollows.placed node hnode
  · rw [if_pos htype] at hparent
    cases hparent
  · rw [if_neg htype, habove] at hparent
    exact ⟨above, hmem, Option.some.inj hparent, habove, hchild⟩

theorem mem_of_ladder {start cursor : String} {rungs : List String} (hstart : start ∈ nodes.map (·.id))
    (hladder : ascent.Ladder parent start rungs cursor) :
    cursor ∈ nodes.map (·.id) ∧ ∀ rung ∈ rungs, rung ∈ nodes.map (·.id) := by
  induction hladder with
  | start => exact ⟨hstart, nofun⟩
  | step _ hparent ih =>
    obtain ⟨hcursor, hrungs⟩ := ih
    refine ⟨?_, List.forall_mem_cons.mpr ⟨hcursor, hrungs⟩⟩
    obtain ⟨node, hnode, rfl⟩ := List.mem_map.mp hcursor
    obtain ⟨above, hmem, rfl, -⟩ := hfollows.exists_parent hnode hparent
    exact List.mem_map_of_mem hmem

/-- A node lies as far below the global node as there are steps to it. -/
theorem below_iff {depth : Nat} :
    Below nodes node depth ↔ node ∈ nodes ∧ ascent.ancestor parent depth node.id = some global_node.id := by
  constructor
  · intro hbelow
    induction hbelow with
    | @global node hnode htype _ =>
      refine ⟨hnode, ?_⟩
      rw [hfollows.eq_global hnode htype]
      rfl
    | @child above node depth _ hnode hparent hchild ih =>
      have htype := not_global_of_allowed hchild
      refine ⟨hnode, ?_⟩
      rw [ascent.ancestor, hfollows.parent_eq node hnode, if_neg htype, hparent, Option.bind_some]
      exact ih.2
  · rintro ⟨hnode, hancestor⟩
    induction depth generalizing node with
    | zero =>
      obtain ⟨hmem, htype⟩ := hfollows.mem_global
      have heq : node = global_node := hfollows.eq_of_id hnode hmem (Option.some.inj hancestor)
      obtain ⟨-, hparent⟩ | ⟨hother, -⟩ := hfollows.placed node hnode
      · exact .global hnode (heq ▸ htype) hparent
      · exact absurd (heq ▸ htype) hother
    | succ depth ih =>
      rw [ascent.ancestor] at hancestor
      cases hparent : parent node.id with
      | none =>
        rw [hparent] at hancestor
        cases hancestor
      | some id =>
        obtain ⟨above, hmem, rfl, hid, hchild⟩ := hfollows.exists_parent hnode hparent
        rw [hparent, Option.bind_some] at hancestor
        exact .child (ih hmem hancestor) hnode hid hchild

end Follows

/-! ## The depths that the loop writes down -/

/-- The depths that are known: the distance of each node from the root, within the limit. -/
structure Memo (parent : String → Option String) (root : String) (max_depth : Int) (depths : List (String × Nat)) :
    Prop where
  root_parent : parent root = none
  zero : assoc.lookup root depths = some 0
  exact : ∀ node depth, assoc.lookup node depths = some depth →
    ascent.ancestor parent depth node = some root ∧ depth ≤ max_depth

/-- A node is too deep, or does not lead to the root. -/
def Unsound (parent : String → Option String) (root : String) (max_depth : Int) (node : String) : Prop :=
  ∀ depth : Nat, ascent.ancestor parent depth node = some root → max_depth < depth

section Loop

variable {parent : String → Option String} {root start cursor : String} {max_depth : Int}
variable {depths : List (String × Nat)} {rungs : List String} {depth : Nat}

theorem Memo.set {node : String} (hmemo : Memo parent root max_depth depths)
    (hnew : assoc.lookup node depths = none) (hnode : ascent.ancestor parent depth node = some root)
    (hdepth : depth ≤ max_depth) : Memo parent root max_depth (assoc.set node depth depths) where
  root_parent := hmemo.root_parent
  zero := by
    have hne : node ≠ root := by
      rintro rfl
      rw [hmemo.zero] at hnew
      cases hnew
    rw [assoc.lookup_set, if_neg hne]
    exact hmemo.zero
  exact := by
    intro other found hlookup
    rw [assoc.lookup_set] at hlookup
    split at hlookup
    · rename_i heq
      subst heq
      cases hlookup
      exact ⟨hnode, hdepth⟩
    · exact hmemo.exact other found hlookup

/-- The way down a ladder: the rungs get their depths, unless one of them is too deep. -/
theorem assign_depths_spec (hmemo : Memo parent root max_depth depths)
    (hcursor : assoc.lookup cursor depths = some depth) (hladder : ascent.Ladder parent start rungs cursor)
    (hnodup : rungs.Nodup) (hunknown : ∀ rung ∈ rungs, assoc.lookup rung depths = none) :
    (∃ after, assign_depths max_depth rungs depth depths = .ok after ∧ Memo parent root max_depth after ∧
      ∀ node, (assoc.lookup node depths).isSome ∨ node ∈ rungs → (assoc.lookup node after).isSome) ∨
    ∃ message, assign_depths max_depth rungs depth depths = .error (AllocationError message) ∧
      ∃ rung ∈ rungs, Unsound parent root max_depth rung := by
  induction rungs generalizing cursor depth depths with
  | nil => exact .inl ⟨depths, rfl, hmemo, fun node hnode => hnode.resolve_right List.not_mem_nil⟩
  | cons rung lower ih =>
    cases hladder with
    | step hlower hparent =>
      have hancestor : ascent.ancestor parent (depth + 1) rung = some root := by
        rw [ascent.ancestor, hparent, Option.bind_some]
        exact (hmemo.exact cursor depth hcursor).1
      have hrung := hunknown rung List.mem_cons_self
      rw [List.nodup_cons] at hnodup
      simp only [assign_depths, hrung]
      by_cases hdeep : max_depth < (depth : Int) + 1
      · refine .inr ⟨s!"Site hierarchy exceeds maximum depth {max_depth}", ?_, rung, List.mem_cons_self, ?_⟩
        · simp only [hdeep, decide_true]
          rfl
        · intro steps hsteps
          rw [ascent.steps_unique hmemo.root_parent hsteps hancestor]
          exact_mod_cast hdeep
      · simp only [hdeep, decide_false]
        have hmemo' := hmemo.set hrung hancestor (by exact_mod_cast not_lt.mp hdeep)
        have hset : assoc.lookup rung (assoc.set rung (depth + 1) depths) = some (depth + 1) := by
          rw [assoc.lookup_set, if_pos rfl]
        have hunknown' : ∀ other ∈ lower, assoc.lookup other (assoc.set rung (depth + 1) depths) = none := by
          intro other hother
          have hne : rung ≠ other := fun heq => hnodup.1 (heq ▸ hother)
          rw [assoc.lookup_set, if_neg hne]
          exact hunknown other (List.mem_cons_of_mem _ hother)
        obtain ⟨after, hok, hafter, hkeys⟩ | ⟨message, herror, other, hother, hunsound⟩ :=
          ih hmemo' hset hlower hnodup.2 hunknown'
        · refine .inl ⟨after, hok, hafter, fun node hnode => hkeys node ?_⟩
          rw [assoc.lookup_set]
          obtain hknown | hmem := hnode
          · left
            split
            · rfl
            · exact hknown
          · obtain rfl | hmem := List.mem_cons.mp hmem
            · left
              rw [if_pos rfl]
              rfl
            · exact .inr hmem
        · exact .inr ⟨message, herror, other, List.mem_cons_of_mem _ hother, hunsound⟩

end Loop

/-- What the climb finds, for every parent graph and every memory of depths. -/
theorem climb_found {nodes : Nat} {parents : List (String × String)} (hnodes : parents.length ≤ nodes)
    (depths : List (String × Nat)) (start : String) : (climb nodes parents depths start).Found
      (assoc.lookup · parents) (fun cursor => (assoc.lookup cursor depths).isSome) start := by
  have hkeys : ∀ node, (assoc.lookup node parents).isSome → node ∈ parents.map Prod.fst :=
    fun node => assoc.lookup_isSome_iff.mp
  exact ascent.climb_found hkeys .start List.nodup_nil nofun (by rw [List.length_map, List.length_nil]; omega)

/-- The climb ends. -/
theorem climb_ends {nodes : Nat} {parents : List (String × String)} (hnodes : parents.length ≤ nodes)
    (depths : List (String × Nat)) (start : String) : climb nodes parents depths start ≠ .exhausted := by
  intro hexhausted
  have hfound := climb_found hnodes depths start
  rwa [hexhausted] at hfound

section Rounds

variable {nodes : List HierarchyNode} {global_node : HierarchyNode} {parents : List (String × String)}
variable {max_depth : Int} {depths : List (String × Nat)} {count : Nat}

/-- A round gives the start its depth, or finds a node that is too deep or does not lead to the root. -/
theorem depth_of_spec (hfollows : Follows nodes global_node (assoc.lookup · parents))
    (hcount : parents.length ≤ count)
    (hmemo : Memo (assoc.lookup · parents) global_node.id max_depth depths) {start : String}
    (hstart : start ∈ nodes.map (·.id)) :
    (∃ after, depth_of max_depth count parents depths start = .ok after ∧
      Memo (assoc.lookup · parents) global_node.id max_depth after ∧
      ∀ node, (assoc.lookup node depths).isSome ∨ node = start → (assoc.lookup node after).isSome) ∨
    ∃ message, depth_of max_depth count parents depths start = .error (AllocationError message) ∧
      ∃ node ∈ nodes.map (·.id), Unsound (assoc.lookup · parents) global_node.id max_depth node := by
  have hfound := climb_found hcount depths start
  rw [depth_of]
  cases hclimb : climb count parents depths start with
  | reached trail cursor =>
    rw [hclimb] at hfound
    obtain ⟨rungs, rfl, hladder, hnodup, hunknown, hknown⟩ := hfound
    obtain ⟨depth, hdepth⟩ := Option.isSome_iff_exists.mp hknown
    have hunknown' : ∀ rung ∈ rungs, assoc.lookup rung depths = none :=
      fun rung hrung => Option.isSome_eq_false_iff.mp (hunknown rung hrung) |> Option.isNone_iff_eq_none.mp
    simp only [List.reverse_reverse, hdepth, Option.getD_some]
    obtain ⟨after, hok, hafter, hkeys⟩ | ⟨message, herror, rung, hrung, hunsound⟩ :=
      assign_depths_spec hmemo hdepth hladder hnodup hunknown'
    · refine .inl ⟨after, hok, hafter, fun node hnode => hkeys node ?_⟩
      obtain hold | rfl := hnode
      · exact .inl hold
      · obtain rfl | hmem := List.mem_cons.mp hladder.start_mem
        · exact .inl hknown
        · exact .inr hmem
    · exact .inr ⟨message, herror, rung, (hfollows.mem_of_ladder hstart hladder).2 rung hrung, hunsound⟩
  | root trail cursor =>
    rw [hclimb] at hfound
    obtain ⟨rungs, -, hladder, hparent, hunknown⟩ := hfound
    -- only the global node has no parent, and its depth is known
    obtain ⟨node, hnode, rfl⟩ := List.mem_map.mp (hfollows.mem_of_ladder hstart hladder).1
    have hnone : (assoc.lookup node.id depths).isSome = false := hunknown
    rw [hfollows.eq_global_of_parent hnode hparent, hmemo.zero] at hnone
    cases hnone
  | cycle cursor =>
    rw [hclimb] at hfound
    obtain ⟨rungs, hladder, hcycle⟩ := hfound
    refine .inr ⟨_, rfl, start, hstart, fun depth hdepth => ?_⟩
    exact absurd hdepth (hladder.not_root hcycle hmemo.root_parent)
  | exhausted => exact absurd hclimb (climb_ends hcount depths start)

/-- The loop gives every node its depth, or finds a node that is too deep or does not lead to the root. -/
theorem depths_spec (hfollows : Follows nodes global_node (assoc.lookup · parents))
    (hcount : parents.length ≤ count)
    (hmemo : Memo (assoc.lookup · parents) global_node.id max_depth depths) {starts : List String}
    (hstarts : ∀ start ∈ starts, start ∈ nodes.map (·.id)) :
    (∃ after, starts.foldlM (depth_of max_depth count parents) depths = .ok after ∧
      Memo (assoc.lookup · parents) global_node.id max_depth after ∧
      ∀ node, (assoc.lookup node depths).isSome ∨ node ∈ starts → (assoc.lookup node after).isSome) ∨
    ∃ message, starts.foldlM (depth_of max_depth count parents) depths = .error (AllocationError message) ∧
      ∃ node ∈ nodes.map (·.id), Unsound (assoc.lookup · parents) global_node.id max_depth node := by
  induction starts generalizing depths with
  | nil => exact .inl ⟨depths, rfl, hmemo, fun node hnode => hnode.resolve_right List.not_mem_nil⟩
  | cons start rest ih =>
    obtain ⟨hstart, hrest⟩ := List.forall_mem_cons.mp hstarts
    simp only [List.foldlM_cons]
    obtain ⟨between, hok, hbetween, hkeys⟩ | ⟨message, herror, hunsound⟩ := depth_of_spec hfollows hcount hmemo hstart
    · obtain ⟨after, hloop, hafter, hkeys'⟩ | ⟨message, herror, hunsound⟩ := ih hbetween hrest
      · refine .inl ⟨after, by rw [hok]; exact hloop, hafter, fun node hnode => hkeys' node ?_⟩
        obtain hold | hmem := hnode
        · exact .inl (hkeys node (.inl hold))
        · obtain rfl | hmem := List.mem_cons.mp hmem
          · exact .inl (hkeys node (.inr rfl))
          · exact .inr hmem
      · exact .inr ⟨message, by rw [hok]; exact herror, hunsound⟩
    · exact .inr ⟨message, by rw [herror]; rfl, hunsound⟩

end Rounds

/-! ## The hierarchies that are accepted -/

/-- A loop whose body returns what a function gives for the items that meet a condition. -/
theorem mapM_eq_ok_of_iff {α β : Type} {f : α → Py β} {g : α → β} {meets : α → Prop} {items : List α}
    {results : List β} (hbody : ∀ item ∈ items, ∀ result, f item = .ok result ↔ meets item ∧ result = g item) :
    items.mapM f = .ok results ↔ (∀ item ∈ items, meets item) ∧ results = items.map g := by
  induction items generalizing results with
  | nil =>
    rw [List.mapM_nil, pure_eq_ok_iff]
    simp [eq_comm]
  | cons item rest ih =>
    obtain ⟨hitem, hrest⟩ := List.forall_mem_cons.mp hbody
    simp only [List.mapM_cons, bind_eq_ok_iff, pure_eq_ok_iff, hitem, ih hrest, List.forall_mem_cons, List.map_cons]
    constructor
    · rintro ⟨_, ⟨hhead, rfl⟩, _, ⟨htail, rfl⟩, rfl⟩
      exact ⟨⟨hhead, htail⟩, rfl⟩
    · rintro ⟨⟨hhead, htail⟩, rfl⟩
      exact ⟨_, ⟨hhead, rfl⟩, _, ⟨htail, rfl⟩, rfl⟩

section Hierarchy

variable {nodes sorted : List HierarchyNode} {global_node : HierarchyNode} {max_depth : Int}

theorem parent_entry_eq_some {node : HierarchyNode} {id above : String} : parent_entry node = some (id, above) ↔
    node.id = id ∧ node.type ≠ .global ∧ node.parent_id = some above := by
  rw [parent_entry]
  split <;> cases node.parent_id <;> simp_all

theorem keys_parents_nodup (hids : (nodes.map (·.id)).Nodup) :
    ((nodes.filterMap parent_entry).map Prod.fst).Nodup := by
  refine hids.sublist ?_
  clear hids
  induction nodes with
  | nil => exact List.Sublist.refl _
  | cons node rest ih =>
    rw [List.filterMap_cons, List.map_cons]
    cases hnode : parent_entry node with
    | none => exact ih.cons _
    | some entry =>
      rw [List.map_cons, ← (parent_entry_eq_some.mp hnode).1]
      exact ih.cons_cons _

theorem lookup_parents (hids : (nodes.map (·.id)).Nodup) {id above : String} :
    assoc.lookup id (nodes.filterMap parent_entry) = some above ↔
      ∃ node ∈ nodes, node.id = id ∧ node.type ≠ .global ∧ node.parent_id = some above := by
  constructor
  · intro hlookup
    obtain ⟨node, hnode, heq⟩ := List.mem_filterMap.mp (assoc.lookup_mem hlookup)
    exact ⟨node, hnode, parent_entry_eq_some.mp heq⟩
  · rintro ⟨node, hnode, heq⟩
    exact assoc.lookup_of_mem (keys_parents_nodup hids)
      (List.mem_filterMap.mpr ⟨node, hnode, parent_entry_eq_some.mpr heq⟩)

/-- The parents that the nodes declare follow a hierarchy of placed nodes. -/
theorem follows_of_placed (hids : (nodes.map (·.id)).Nodup) (hglobal : nodes.filter (·.type = .global) = [global_node])
    (hplaced : ∀ node ∈ nodes, Placed nodes node) :
    Follows nodes global_node (assoc.lookup · (nodes.filterMap parent_entry)) where
  ids := hids
  global := hglobal
  placed := hplaced
  parent_eq := by
    intro node hnode
    apply Option.ext
    intro above
    rw [lookup_parents hids]
    constructor
    · rintro ⟨other, hother, hid, htype, hparent⟩
      rw [List.inj_on_of_nodup_map hids hother hnode hid] at htype hparent
      rw [if_neg htype, hparent]
    · intro hparent
      split at hparent
      · cases hparent
      · exact ⟨node, hnode, rfl, ‹_›, hparent⟩
  known := by
    intro id hsome
    obtain ⟨above, habove⟩ := Option.isSome_iff_exists.mp hsome
    obtain ⟨node, hnode, rfl, -⟩ := (lookup_parents hids).mp habove
    exact List.mem_map_of_mem hnode

/-- The hierarchy says where its nodes are. -/
theorem SoundHierarchy.placed (hsound : SoundHierarchy nodes max_depth) {node : HierarchyNode} (hnode : node ∈ nodes) :
    Placed nodes node := by
  obtain ⟨depth, hbelow, -⟩ := hsound.below node hnode
  cases hbelow with
  | global _ htype hparent => exact .inl ⟨htype, hparent⟩
  | @child above _ depth habove _ hparent hchild =>
    refine .inr ⟨not_global_of_allowed hchild, above, ?_, hparent, hchild⟩
    cases habove <;> assumption

theorem below_congr (hsame : ∀ node, node ∈ nodes ↔ node ∈ sorted) {node : HierarchyNode} {depth : Nat}
    (hbelow : Below nodes node depth) : Below sorted node depth := by
  induction hbelow with
  | global hnode htype hparent => exact .global ((hsame _).mp hnode) htype hparent
  | child _ hnode hparent hchild ih => exact .child ih ((hsame _).mp hnode) hparent hchild

theorem SoundHierarchy.perm (hsound : SoundHierarchy nodes max_depth) (hperm : nodes.Perm sorted) :
    SoundHierarchy sorted max_depth where
  ids := (hperm.map _).nodup_iff.mp hsound.ids
  global := by
    rw [← hsound.global]
    exact (hperm.filter _).length_eq.symm
  below := by
    intro node hnode
    obtain ⟨depth, hbelow, hdepth⟩ := hsound.below node (hperm.mem_iff.mpr hnode)
    exact ⟨depth, below_congr (fun _ => hperm.mem_iff) hbelow, hdepth⟩

theorem named_of_admitted (hadmitted : admitted_hierarchy nodes) : ∀ node ∈ nodes, node.id ≠ "" := by
  intro node hnode hempty
  simp only [admitted_hierarchy, Bool.and_eq_true, List.all_eq_true] at hadmitted
  have hid := hadmitted.2 node hnode
  simp only [admitted_node, Bool.and_eq_true] at hid
  rw [hempty] at hid
  exact absurd hid.1.1.1.1.1.1.1 (by decide)

/-- The depth that a memory gives a node. -/
def depth_in (depths : List (String × Nat)) (node : HierarchyNode) : Nat := (assoc.lookup node.id depths).getD 0

/-- The nodes by their depths, then by their ids. -/
def by_depth (depths : List (String × Nat)) (nodes : List HierarchyNode) : List HierarchyNode :=
  (sortedBy (fun entry => toLex (entry.1, entry.2.id)) (nodes.map fun node => (depth_in depths node, node))).map
    Prod.snd

/-- What the checks let through: placed nodes under one global node, whose depths the loop has found. -/
theorem site_hierarchy_eq_ok_iff (hnamed : ∀ node ∈ nodes, node.id ≠ "") (hmin : 1 ≤ max_depth)
    (hmax : max_depth ≤ MAX_HIERARCHY_DEPTH) {ordered : List HierarchyNode} (hsorted : sortedBy (·.id) nodes = sorted) :
    site_hierarchy max_depth nodes = .ok ordered ↔ (sorted.map (·.id)).Nodup ∧
      (∀ node ∈ sorted, Placed sorted node) ∧ ∃ global_node depths, sorted.filter (·.type = .global) = [global_node] ∧
        (sortedTexts (sorted.map (·.id))).foldlM
            (depth_of max_depth sorted.length (sorted.filterMap parent_entry)) [(global_node.id, 0)] = .ok depths ∧
          (∀ node ∈ sorted, (assoc.lookup node.id depths).isSome) ∧ ordered = by_depth depths sorted := by
  have hnamed' : ∀ node ∈ sorted, node.id ≠ "" := fun node hnode => hnamed node (mem_sortedBy.mp (hsorted ▸ hnode))
  have hlimit : (decide (max_depth < 1) || decide ((MAX_HIERARCHY_DEPTH : Int) < max_depth)) = false := by
    simp only [Bool.or_eq_false_iff, decide_eq_false_iff_not]
    omega
  have hplaced {depths : List (String × Nat)} (node : HierarchyNode) (result : Nat × HierarchyNode) :
      (do return (← require (assoc.lookup node.id depths) (KeyError node.id), node) : Py (Nat × HierarchyNode)) =
        .ok result ↔ (assoc.lookup node.id depths).isSome ∧ result = (depth_in depths node, node) := by
    rw [depth_in]
    cases assoc.lookup node.id depths <;> simp [require, eq_comm]
  unfold site_hierarchy
  rw [hsorted]
  simp only [bind_eq_ok_iff, node_by_id_eq_ok, List.nil_append, List.map_nil, List.not_mem_nil, not_false_eq_true,
    implies_true, and_true, raise_if_eq_ok, pure_eq_ok_iff, only_global_eq_ok, hlimit, true_and]
  have hids : (sorted.map fun node => (node.id, node)).map Prod.fst = sorted.map (·.id) := by
    rw [List.map_map]
    rfl
  have hnodes : (sorted.map fun node => (node.id, node)).map Prod.snd = sorted := by
    rw [List.map_map]
    exact List.map_id sorted
  constructor
  · rintro ⟨_, ⟨rfl, hnodup⟩, global_node, hone, found, hfound, -, depths, hdepths, placed, hok, rfl⟩
    rw [hnodes] at hone hfound hok hdepths
    rw [hids] at hdepths
    obtain ⟨hall, rfl⟩ := (mapM_eq_ok_of_iff fun node _ _ => parent_of_eq_ok hnodup hnamed').mp hfound
    obtain ⟨hknown, rfl⟩ := (mapM_eq_ok_of_iff fun node _ => hplaced node).mp hok
    rw [List.filterMap_map] at hdepths
    exact ⟨hnodup, hall, global_node, depths, hone, hdepths, hknown, rfl⟩
  · rintro ⟨hnodup, hall, global_node, depths, hone, hdepths, hknown, rfl⟩
    refine ⟨_, ⟨rfl, hnodup⟩, global_node, ?_, sorted.map parent_entry, ?_, (), depths, ?_,
      sorted.map fun node => (depth_in depths node, node), ?_, rfl⟩
    · rw [hnodes]
      exact hone
    · rw [hnodes]
      exact (mapM_eq_ok_of_iff fun node _ _ => parent_of_eq_ok hnodup hnamed').mpr ⟨hall, rfl⟩
    · rw [hids, hnodes, List.filterMap_map]
      exact hdepths
    · rw [hnodes]
      exact (mapM_eq_ok_of_iff fun node _ => hplaced node).mpr ⟨hknown, rfl⟩

theorem sorted_perm (hsorted : sortedBy (·.id) nodes = sorted) : sorted.Perm nodes :=
  hsorted ▸ List.perm_insertionSort _ nodes

theorem memo_start (hfollows : Follows nodes global_node (assoc.lookup · (nodes.filterMap parent_entry)))
    (hmin : 0 ≤ max_depth) :
    Memo (assoc.lookup · (nodes.filterMap parent_entry)) global_node.id max_depth [(global_node.id, 0)] where
  root_parent := hfollows.parent_global
  zero := by
    rw [assoc.lookup_cons, if_pos rfl]
  exact := by
    intro node depth hlookup
    rw [assoc.lookup_cons] at hlookup
    split at hlookup
    · rename_i heq
      cases hlookup
      exact ⟨by rw [← heq]; rfl, hmin⟩
    · cases hlookup

/-- The checks let every sound hierarchy through. -/
theorem site_hierarchy_of_sound (hnamed : ∀ node ∈ nodes, node.id ≠ "") (hmin : 1 ≤ max_depth)
    (hmax : max_depth ≤ MAX_HIERARCHY_DEPTH) (hsound : SoundHierarchy nodes max_depth) :
    ∃ ordered, site_hierarchy max_depth nodes = .ok ordered := by
  obtain ⟨sorted, hsorted⟩ : ∃ sorted, sortedBy (·.id) nodes = sorted := ⟨_, rfl⟩
  have hzero : 0 ≤ max_depth := by omega
  have hsound' := hsound.perm (sorted_perm hsorted).symm
  obtain ⟨global_node, hglobal⟩ := List.length_eq_one_iff.mp hsound'.global
  have hplaced : ∀ node ∈ sorted, Placed sorted node := fun node => hsound'.placed
  have hfollows := follows_of_placed hsound'.ids hglobal hplaced
  have hstarts : ∀ start ∈ sortedTexts (sorted.map (·.id)), start ∈ sorted.map (·.id) :=
    fun start => mem_sortedTexts.mp
  obtain ⟨depths, hdepths, -, hkeys⟩ | ⟨message, -, id, hid, hunsound⟩ :=
    depths_spec hfollows (List.length_filterMap_le _ _) (memo_start hfollows hzero) hstarts
  · refine ⟨by_depth depths sorted, (site_hierarchy_eq_ok_iff hnamed hmin hmax hsorted).mpr ?_⟩
    refine ⟨hsound'.ids, hplaced, global_node, depths, hglobal, hdepths, fun node hnode => ?_, rfl⟩
    exact hkeys node.id (.inr (mem_sortedTexts.mpr (List.mem_map_of_mem hnode)))
  · obtain ⟨node, hnode, rfl⟩ := List.mem_map.mp hid
    obtain ⟨depth, hbelow, hdepth⟩ := hsound'.below node hnode
    exact absurd hdepth (not_le.mpr (hunsound depth (hfollows.below_iff.mp hbelow).2))

/-- What the checks let through is sound, and is put in the order of the depths. -/
theorem sound_of_site_hierarchy (hnamed : ∀ node ∈ nodes, node.id ≠ "") (hmin : 1 ≤ max_depth)
    (hmax : max_depth ≤ MAX_HIERARCHY_DEPTH) {ordered : List HierarchyNode}
    (hok : site_hierarchy max_depth nodes = .ok ordered) :
    SoundHierarchy nodes max_depth ∧ ordered.Perm nodes ∧ ∃ depth_of : HierarchyNode → Nat,
      (∀ node ∈ nodes, ∀ depth, Below nodes node depth ↔ depth = depth_of node) ∧
        ordered.Pairwise fun first second => depth_of first ≤ depth_of second := by
  obtain ⟨sorted, hsorted⟩ : ∃ sorted, sortedBy (·.id) nodes = sorted := ⟨_, rfl⟩
  have hzero : 0 ≤ max_depth := by omega
  have hperm := sorted_perm hsorted
  obtain ⟨hids, hplaced, global_node, depths, hglobal, hdepths, hknown, rfl⟩ :=
    (site_hierarchy_eq_ok_iff hnamed hmin hmax hsorted).mp hok
  have hfollows := follows_of_placed hids hglobal hplaced
  have hstarts : ∀ start ∈ sortedTexts (sorted.map (·.id)), start ∈ sorted.map (·.id) :=
    fun start => mem_sortedTexts.mp
  have hmemo : Memo (assoc.lookup · (sorted.filterMap parent_entry)) global_node.id max_depth depths := by
    obtain ⟨after, hafter, hmemo, -⟩ | ⟨message, herror, -⟩ :=
      depths_spec hfollows (List.length_filterMap_le _ _) (memo_start hfollows hzero) hstarts
    · rw [hdepths] at hafter
      cases hafter
      exact hmemo
    · rw [hdepths] at herror
      cases herror
  have hbelow : ∀ node ∈ sorted, Below sorted node (depth_in depths node) ∧ (depth_in depths node : Int) ≤ max_depth := by
    intro node hnode
    obtain ⟨depth, hdepth⟩ := Option.isSome_iff_exists.mp (hknown node hnode)
    obtain ⟨hancestor, hle⟩ := hmemo.exact node.id depth hdepth
    rw [depth_in, hdepth, Option.getD_some]
    exact ⟨hfollows.below_iff.mpr ⟨hnode, hancestor⟩, hle⟩
  have hsound : SoundHierarchy sorted max_depth := {
    ids := hids
    global := by rw [hglobal]; rfl
    below := fun node hnode => ⟨_, hbelow node hnode⟩ }
  refine ⟨hsound.perm hperm, ?_, depth_in depths, ?_, ?_⟩
  · have hplaced : (sortedBy (fun entry => toLex (entry.1, entry.2.id))
        (sorted.map fun node => (depth_in depths node, node))).Perm _ := List.perm_insertionSort _ _
    have hnodes : (sorted.map fun node => (depth_in depths node, node)).map Prod.snd = sorted := by
      rw [List.map_map]
      exact List.map_id sorted
    have hmap := hplaced.map Prod.snd
    rw [hnodes] at hmap
    exact hmap.trans hperm
  · intro node hnode depth
    have hnode' := (hbelow node (hperm.mem_iff.mpr hnode)).1
    constructor
    · intro hother
      have hother' := below_congr (fun _ => hperm.mem_iff.symm) hother
      exact ascent.steps_unique hmemo.root_parent (hfollows.below_iff.mp hother').2 (hfollows.below_iff.mp hnode').2
    · rintro rfl
      exact below_congr (fun _ => hperm.mem_iff) hnode'
  · rw [by_depth, List.pairwise_map]
    have hsorted := pairwise_sortedBy (fun entry : Nat × HierarchyNode => toLex (entry.1, entry.2.id))
      (sorted.map fun node => (depth_in depths node, node))
    refine hsorted.imp_of_mem ?_
    intro first second hfirst hsecond hle
    have hentry {entry : Nat × HierarchyNode} (hmem : entry ∈ sortedBy (fun entry => toLex (entry.1, entry.2.id))
        (sorted.map fun node => (depth_in depths node, node))) : entry.1 = depth_in depths entry.2 := by
      obtain ⟨node, -, rfl⟩ := List.mem_map.mp (mem_sortedBy.mp hmem)
      rfl
    rw [← hentry hfirst, ← hentry hsecond]
    obtain hlt | ⟨heq, -⟩ := Prod.Lex.le_iff.mp hle
    · exact le_of_lt hlt
    · exact le_of_eq heq

/-- In the order of the depths a parent comes before its children. -/
theorem parent_precedes {ordered : List HierarchyNode} {depth_of : HierarchyNode → Nat}
    (hperm : ordered.Perm nodes)
    (hbelow : ∀ node ∈ nodes, ∀ depth, Below nodes node depth ↔ depth = depth_of node)
    (hordered : ordered.Pairwise fun first second => depth_of first ≤ depth_of second)
    {before after : List HierarchyNode} {node : HierarchyNode} (hnode : ordered = before ++ node :: after)
    {id : String} (hparent : node.parent_id = some id) : ∃ parent ∈ before, parent.id = id := by
  have hmem : node ∈ ordered := by rw [hnode]; simp
  have hdepth := (hbelow node (hperm.mem_iff.mp hmem) _).mpr rfl
  generalize hequal : depth_of node = depth at hdepth
  cases hdepth with
  | global _ _ hnone =>
    rw [hnone] at hparent
    cases hparent
  | @child parent _ above hparent' _ hid _ =>
    rw [hparent, Option.some.injEq] at hid
    have hparent_mem : parent ∈ nodes := by cases hparent' <;> assumption
    have habove := (hbelow parent hparent_mem above).mp hparent'
    have hplace := hperm.mem_iff.mpr hparent_mem
    rw [hnode, List.mem_append] at hplace
    refine ⟨parent, hplace.resolve_right fun hlate => ?_, hid.symm⟩
    obtain rfl | hlate := List.mem_cons.mp hlate
    · omega
    · rw [hnode, List.pairwise_append] at hordered
      have hle := (List.pairwise_cons.mp hordered.2.1).1 parent hlate
      omega

end Hierarchy

/-! ## The checks end -/

section Ends

variable {α β : Type} {exception : Raised}

theorem mapM_ne_error {f : α → Py β} {items : List α} (hbody : ∀ item ∈ items, f item ≠ .error exception) :
    items.mapM f ≠ .error exception := by
  induction items with
  | nil => exact nofun
  | cons item rest ih =>
    obtain ⟨hitem, hrest⟩ := List.forall_mem_cons.mp hbody
    intro hraised
    rw [List.mapM_cons, bind_eq_error_iff] at hraised
    obtain hraised | ⟨result, -, hraised⟩ := hraised
    · exact hitem hraised
    · obtain hraised | ⟨results, -, hraised⟩ := bind_eq_error_iff.mp hraised
      · exact ih hrest hraised
      · cases hraised

theorem foldlM_ne_error {f : β → α → Py β} {items : List α} (hbody : ∀ state, ∀ item, f state item ≠ .error exception)
    (state : β) : items.foldlM f state ≠ .error exception := by
  induction items generalizing state with
  | nil => exact nofun
  | cons item rest ih =>
    intro hraised
    rw [List.foldlM_cons, bind_eq_error_iff] at hraised
    obtain hraised | ⟨between, -, hraised⟩ := hraised
    · exact hbody state item hraised
    · exact ih between hraised

theorem allocationError_ne_unfinished {message : String} : AllocationError message ≠ unfinished := by
  intro heq
  have hname : "AllocationError" = "RuntimeError" := congrArg Raised.type_name heq
  exact absurd hname (by decide)

theorem raise_if_ne_unfinished {condition : Bool} {message : String} :
    raise_if condition (AllocationError message) ≠ .error unfinished := by
  intro hraised
  rw [raise_if] at hraised
  split at hraised
  · exact allocationError_ne_unfinished (Except.error.inj hraised)
  · cases hraised

theorem require_ne_unfinished {row : Option α} {message : String} :
    require row (AllocationError message) ≠ .error unfinished := by
  intro hraised
  unfold require at hraised
  split at hraised
  · cases hraised
  · exact allocationError_ne_unfinished (Except.error.inj hraised)

theorem assign_depths_ne_unfinished {max_depth : Int} (rungs : List String) (depth : Nat)
    (depths : List (String × Nat)) : assign_depths max_depth rungs depth depths ≠ .error unfinished := by
  induction rungs generalizing depth depths with
  | nil => exact nofun
  | cons rung lower ih =>
    rw [assign_depths]
    split
    · exact ih _ _
    · intro hraised
      obtain hraised | ⟨_, -, hraised⟩ := bind_eq_error_iff.mp hraised
      · exact raise_if_ne_unfinished hraised
      · exact ih _ _ hraised

theorem depth_of_ne_unfinished {max_depth : Int} {count : Nat} {parents : List (String × String)}
    (hcount : parents.length ≤ count) (depths : List (String × Nat)) (start : String) :
    depth_of max_depth count parents depths start ≠ .error unfinished := by
  rw [depth_of]
  cases hclimb : climb count parents depths start with
  | reached trail cursor => exact assign_depths_ne_unfinished _ _ _
  | root trail cursor => exact assign_depths_ne_unfinished _ _ _
  | cycle cursor => exact fun hraised => allocationError_ne_unfinished (Except.error.inj hraised)
  | exhausted => exact absurd hclimb (climb_ends hcount depths start)

theorem node_by_id_ne_unfinished (nodes : List HierarchyNode) (found : List (String × HierarchyNode)) :
    node_by_id nodes found ≠ .error unfinished := by
  induction nodes generalizing found with
  | nil => exact nofun
  | cons node rest ih =>
    intro hraised
    rw [node_by_id, bind_eq_error_iff] at hraised
    obtain hraised | ⟨_, -, hraised⟩ := hraised
    · exact raise_if_ne_unfinished hraised
    · exact ih _ hraised

theorem parent_of_ne_unfinished {nodes : List (String × HierarchyNode)} {node : HierarchyNode} :
    parent_of nodes node ≠ .error unfinished := by
  intro hraised
  rw [parent_of] at hraised
  split at hraised
  · obtain hraised | ⟨_, -, hraised⟩ := bind_eq_error_iff.mp hraised
    · exact raise_if_ne_unfinished hraised
    · cases hraised
  · obtain hraised | ⟨_, -, hraised⟩ := bind_eq_error_iff.mp hraised
    · exact require_ne_unfinished hraised
    · obtain hraised | ⟨_, -, hraised⟩ := bind_eq_error_iff.mp hraised
      · exact require_ne_unfinished hraised
      · obtain hraised | ⟨_, -, hraised⟩ := bind_eq_error_iff.mp hraised
        · exact raise_if_ne_unfinished hraised
        · cases hraised

/-- The checks end for every hierarchy. -/
theorem site_hierarchy_ends (max_depth : Int) (nodes : List HierarchyNode) :
    site_hierarchy max_depth nodes ≠ .error unfinished := by
  intro hraised
  rw [site_hierarchy, bind_eq_error_iff] at hraised
  obtain hraised | ⟨by_id, -, hraised⟩ := hraised
  · exact node_by_id_ne_unfinished _ _ hraised
  obtain hraised | ⟨global_node, -, hraised⟩ := bind_eq_error_iff.mp hraised
  · rw [only_global] at hraised
    split at hraised
    · cases hraised
    · exact allocationError_ne_unfinished (Except.error.inj hraised)
  obtain hraised | ⟨found, hfound, hraised⟩ := bind_eq_error_iff.mp hraised
  · exact mapM_ne_error (fun node _ => parent_of_ne_unfinished) hraised
  obtain hraised | ⟨_, -, hraised⟩ := bind_eq_error_iff.mp hraised
  · exact raise_if_ne_unfinished hraised
  have hcount : (found.filterMap id).length ≤ (by_id.map Prod.snd).length :=
    (List.length_filterMap_le _ _).trans (mapM_eq_ok_iff.mp hfound).length_eq.ge
  obtain hraised | ⟨depths, -, hraised⟩ := bind_eq_error_iff.mp hraised
  · exact foldlM_ne_error (depth_of_ne_unfinished hcount) _ hraised
  obtain hraised | ⟨placed, -, hraised⟩ := bind_eq_error_iff.mp hraised
  · refine mapM_ne_error (fun node _ hraised => ?_) hraised
    obtain hraised | ⟨_, -, hraised⟩ := bind_eq_error_iff.mp hraised
    · unfold require at hraised
      split at hraised
      · cases hraised
      · have hname : "KeyError" = "RuntimeError" := congrArg Raised.type_name (Except.error.inj hraised)
        exact absurd hname (by decide)
    · cases hraised
  · cases hraised

end Ends

end orchestrator.allocator
