import SdaOrchestrator.Allocator.SiteHierarchy
import SdaOrchestrator.Intent.PlainTexts

open python regex

namespace orchestrator.allocator

open orchestrator.intent

/-! ## The checks of the validator -/

/-- The checks of the hierarchy that `validate_intent` makes. -/
def hierarchy_check_issues (hierarchy : List HierarchyNode) : List ValidationIssue :=
  each hierarchy node_issues ++
    add_if ((hierarchy.filter (·.type = .global)).length ≠ 1) "hierarchy.global_count"
      "$.site_hierarchy" "Exactly one global node is required" ++
    (hierarchy_parents hierarchy).flatMap (fun entry => parent_issues hierarchy entry.1 entry.2) ++
    depth_issues hierarchy

/-- The validator makes them between those of the field and those of the fabric sites. -/
theorem hierarchy_check_issues_infix {intent : FabricIntent} (hversion : intent.schema_version.has_hierarchy) :
    hierarchy_check_issues intent.hierarchy <:+: hierarchy_issues intent := by
  rw [hierarchy_issues, hversion, Bool.not_true, if_neg Bool.false_ne_true]
  refine ⟨_required_string (intent.deployment_model.map DeploymentModel.text) "$.deployment_model" ++
    _list intent.site_hierarchy "$.site_hierarchy", ?_⟩
  simp only [hierarchy_check_issues, List.append_assoc, List.append_cancel_left_eq]
  exact ⟨_, rfl⟩

/-- A node whose texts the validator can read: none is blank or has a line break. -/
def Readable (node : HierarchyNode) : Prop :=
  (required_string node.id).isSome ∧ (required_string node.name).isSome ∧
    ∀ parent_id, node.parent_id = some parent_id → (required_string parent_id).isSome

/-- The id of a node is read as it stands. -/
theorem required_string_of_id {id : String} (hid : id_pattern id) (hread : (required_string id).isSome) :
    required_string (some id) = some id := by
  have hplain : id_text (chars id) := by
    simp only [id_pattern, Bool.or_eq_true, Bool.and_eq_true] at hid
    obtain hplain | ⟨hends, -⟩ := hid
    · exact hplain
    · have hline : '\n' ∈ id.toList := by
        rw [endswith, List.isSuffixOf_iff_suffix, chars_eq_toList, chars_eq_toList] at hends
        exact hends.subset (by decide)
      simp [required_string, hline] at hread
  simp only [id_text, Bool.and_eq_true, decide_eq_true_eq, List.all_eq_true, chars_eq_toList] at hplain
  refine required_string_of_alphanumeric ?_ fun c hc => ?_
  · rintro rfl
    exact absurd hplain.1.1 (by decide)
  · have hsigns := hplain.2 c hc
    simp only [alphanumericOr, Bool.or_eq_true, List.contains_iff_mem] at hsigns ⊢
    refine hsigns.imp_right fun hmem => ?_
    exact (by decide : "_.-".toList ⊆ "_.:-".toList) hmem

/-! ## The entries of the validator -/

section Entries

variable {nodes : List HierarchyNode} {global_node : HierarchyNode}

theorem set_of_new {κ α : Type*} [DecidableEq κ] {key : κ} {value : α} {entries : List (κ × α)}
    (hnew : key ∉ entries.map Prod.fst) : assoc.set key value entries = entries ++ [(key, value)] := by
  induction entries with
  | nil => rfl
  | cons entry rest ih =>
    rw [List.map_cons, List.mem_cons, not_or] at hnew
    rw [assoc.set, if_neg (Ne.symm hnew.1), ih hnew.2, List.cons_append]

/-- A dictionary that is filled under distinct keys holds its entries in order. -/
theorem dict_of_eq_self {κ α : Type*} [DecidableEq κ] {entries : List (κ × α)}
    (hnodup : (entries.map Prod.fst).Nodup) : dict_of entries = entries := by
  induction entries using List.reverseRecOn with
  | nil => rfl
  | append_singleton init last ih =>
    rw [List.map_append, List.nodup_append] at hnodup
    obtain ⟨hinit, -, hdisjoint⟩ := hnodup
    have hfold : dict_of (init ++ [last]) = assoc.set last.1 last.2 (dict_of init) := by
      rw [dict_of, List.foldl_append]
      rfl
    have hnew : last.1 ∉ init.map Prod.fst := fun hmem => hdisjoint _ hmem _ (by simp) rfl
    rw [hfold, ih hinit, set_of_new hnew]

/-- The validator reads the id of every node, and its parent. -/
structure ReadAsIs (nodes : List HierarchyNode) : Prop where
  id : ∀ node ∈ nodes, node.node_id = some node.id
  parent : ∀ node ∈ nodes, node.parent = if node.type = .global then none else node.parent_id

theorem readAsIs_of_readable (hadmitted : ∀ node ∈ nodes, admitted_node node)
    (hreadable : ∀ node ∈ nodes, Readable node) : ReadAsIs nodes where
  id := by
    intro node hnode
    have hid := hadmitted node hnode
    simp only [admitted_node, Bool.and_eq_true] at hid
    exact required_string_of_id hid.1.1.1.1.1.1.1 (hreadable node hnode).1
  parent := by
    intro node hnode
    rw [HierarchyNode.parent]
    split
    · rfl
    · have hparent := hadmitted node hnode
      simp only [admitted_node, Bool.and_eq_true] at hparent
      have hpattern := hparent.1.1.1.1.2
      cases hid : node.parent_id with
      | none => rfl
      | some parent_id =>
        rw [hid, Option.all_some] at hpattern
        exact required_string_of_id hpattern ((hreadable node hnode).2.2 parent_id hid)

namespace ReadAsIs

variable (hread : ReadAsIs nodes)

include hread

theorem keys : (hierarchy_node_ids nodes).map Prod.fst = nodes.map (·.id) := by
  rw [hierarchy_node_ids, keys_declared]
  exact List.filterMap_eq_map_iff_forall_eq_some.mpr fun node hnode => hread.id node hnode

theorem types : hierarchy_types nodes = dict_of (nodes.map fun node => (node.id, node.type)) := by
  rw [hierarchy_types]
  congr 1
  refine List.filterMap_eq_map_iff_forall_eq_some.mpr fun node hnode => ?_
  rw [hread.id node hnode]
  rfl

theorem parents : hierarchy_parents nodes = dict_of (nodes.filterMap parent_entry) := by
  rw [hierarchy_parents]
  congr 1
  refine List.filterMap_congr fun node hnode => ?_
  rw [hread.id node hnode, hread.parent node hnode, parent_entry]
  split
  · rfl
  · cases node.parent_id <;> rfl

end ReadAsIs

/-- The check of a parent finds nothing when the parent is a node that may have the child. -/
theorem clean_parent_issues_iff (hread : ReadAsIs nodes) (hids : (nodes.map (·.id)).Nodup) {node : HierarchyNode}
    (hnode : node ∈ nodes) {parent_id : String} :
    Clean (parent_issues nodes node.id parent_id) ↔
      ∃ parent ∈ nodes, parent.id = parent_id ∧ node.type ∈ allowed_hierarchy_children parent.type := by
  have hkeys : ((nodes.map fun node => (node.id, node.type)).map Prod.fst).Nodup := by
    rwa [List.map_map]
  have htype {node : HierarchyNode} (hnode : node ∈ nodes) :
      assoc.lookup node.id (hierarchy_types nodes) = some node.type := by
    rw [hread.types, dict_of_eq_self hkeys]
    exact assoc.lookup_of_mem hkeys (List.mem_map_of_mem (f := fun node => (node.id, node.type)) hnode)
  rw [parent_issues, hread.keys]
  by_cases hknown : parent_id ∈ nodes.map (·.id)
  · obtain ⟨parent, hparent, rfl⟩ := List.mem_map.mp hknown
    rw [if_neg (not_not_intro hknown), clean_add_if, htype hnode, htype hparent]
    simp only [Option.map_some, Option.getD_some, Option.all_some, decide_eq_false_iff_not, not_not]
    constructor
    · exact fun hchild => ⟨parent, hparent, rfl, hchild⟩
    · rintro ⟨other, hother, hid, hchild⟩
      rwa [List.inj_on_of_nodup_map hids hother hparent hid] at hchild
  · rw [if_pos hknown]
    refine ⟨fun hclean => absurd hclean (not_clean_add _ _ _), ?_⟩
    rintro ⟨parent, hparent, rfl, -⟩
    exact absurd (List.mem_map_of_mem hparent) hknown

/-- The checks of the nodes find nothing when their texts can be read, their ids are distinct, and each of them
has a parent unless it is global. -/
theorem clean_node_issues_iff (hadmitted : ∀ node ∈ nodes, admitted_node node) :
    Clean (each nodes node_issues) ↔ (∀ node ∈ nodes, Readable node) ∧ (nodes.map (·.id)).Nodup ∧
      ∀ node ∈ nodes, (node.type = .global ↔ node.parent_id = none) := by
  have hbody {earlier : List HierarchyNode} {node : HierarchyNode} : Clean (node_issues earlier node) ↔
      (required_string node.id).isSome ∧ (required_string node.name).isSome ∧
        (∀ id, node.node_id = some id → id ∉ (hierarchy_node_ids earlier).map Prod.fst) ∧
          if node.type = .global then node.parent_id = none else (required_string node.parent_id).isSome := by
    rw [node_issues]
    split <;> simp [*]
  constructor
  · intro hclean
    have hnode : ∀ node ∈ nodes, Readable node ∧ (node.type = .global ↔ node.parent_id = none) := by
      intro node hnode
      obtain ⟨earlier, -, -, hnode⟩ := clean_each_mem hclean hnode
      obtain ⟨hid, hname, -, hparent⟩ := hbody.mp hnode
      split at hparent
      · rename_i htype
        exact ⟨⟨hid, hname, by simp [hparent]⟩, by simp [htype, hparent]⟩
      · rename_i htype
        obtain ⟨parent_id, heq, hread⟩ := exists_required_string hparent
        refine ⟨⟨hid, hname, fun other hother => ?_⟩, by simp [htype, heq]⟩
        rw [hother] at hparent
        exact hparent
    have hread := readAsIs_of_readable hadmitted fun node hmem => (hnode node hmem).1
    refine ⟨fun node hmem => (hnode node hmem).1, ?_, fun node hmem => (hnode node hmem).2⟩
    refine List.pairwise_map.mpr (pairwise_of_clean_each hclean ?_)
    intro earlier item rest hitems hclean first hfirst heq
    have hnew := (hbody.mp hclean).2.2.1 item.id (hread.id item (by rw [hitems]; simp))
    refine hnew ?_
    rw [hierarchy_node_ids, keys_declared, List.mem_filterMap]
    refine ⟨first, hfirst, ?_⟩
    rw [hread.id first (by rw [hitems]; simp [hfirst]), heq]
  · rintro ⟨hreadable, hids, hparents⟩
    have hread := readAsIs_of_readable hadmitted hreadable
    rw [clean_each]
    intro earlier item rest hitems
    have hitem : item ∈ nodes := by rw [hitems]; simp
    refine hbody.mpr ⟨(hreadable item hitem).1, (hreadable item hitem).2.1, ?_, ?_⟩
    · intro id hid hmem
      rw [hread.id item hitem, Option.some.injEq] at hid
      subst hid
      rw [hierarchy_node_ids, keys_declared, List.mem_filterMap] at hmem
      obtain ⟨first, hfirst, hsame⟩ := hmem
      rw [hread.id first (by rw [hitems]; simp [hfirst]), Option.some.injEq] at hsame
      rw [hitems, List.map_append, List.nodup_append] at hids
      exact hids.2.2 _ (List.mem_map_of_mem hfirst) _ (by simp) hsame
    · split
      · exact (hparents item hitem).mp ‹_›
      · cases hparent : item.parent_id with
        | none => exact absurd ((hparents item hitem).mpr hparent) ‹_›
        | some parent_id => exact (hreadable item hitem).2.2 parent_id hparent

end Entries

/-! ## The depths of the validator -/

/-- Where the climb of the validator ends when the other climb ends somewhere. -/
def ending : ascent.Climb String → intent.Climb
  | .reached trail cursor => .reached trail cursor
  | .root trail cursor => .root trail cursor
  | .cycle cursor => .cycle cursor
  | .exhausted => .unknown

section Depths

variable {nodes : List HierarchyNode} {parents : List (String × String)}

/-- Among known nodes both climbs are the same. -/
theorem climb_eq (hparents : ∀ id, assoc.lookup id (hierarchy_parents nodes) = assoc.lookup id parents)
    (hknown : ∀ id above, assoc.lookup id parents = some above → above ∈ (hierarchy_node_ids nodes).map Prod.fst)
    (depths : List (String × Nat)) (fuel : Nat) (trail : List String) {cursor : String}
    (hcursor : cursor ∈ (hierarchy_node_ids nodes).map Prod.fst) :
    intent.climb nodes depths fuel trail cursor =
      ending (ascent.climb (assoc.lookup · parents) (fun cursor => (assoc.lookup cursor depths).isSome) fuel trail
        cursor) := by
  induction fuel generalizing trail cursor with
  | zero => rfl
  | succ fuel ih =>
    rw [intent.climb, ascent.climb, hparents]
    by_cases hdepth : (assoc.lookup cursor depths).isSome
    · rw [if_pos hdepth, if_pos hdepth]
      rfl
    · rw [if_neg hdepth, if_neg hdepth]
      by_cases hcycle : cursor ∈ trail
      · rw [if_pos hcycle, if_pos hcycle]
        rfl
      · rw [if_neg hcycle, if_neg hcycle, if_neg (not_not_intro hcursor)]
        cases habove : assoc.lookup cursor parents with
        | none => rfl
        | some above => exact ih (trail ++ [cursor]) (hknown cursor above habove)

/-- Issues are only added. -/
theorem clean_of_assign_depths {rungs : List String} {depth : Nat} {state : DepthState}
    (hclean : Clean (intent.assign_depths nodes rungs depth state).issues) : Clean state.issues := by
  induction rungs generalizing depth state with
  | nil => exact hclean
  | cons rung lower ih =>
    rw [intent.assign_depths] at hclean
    split at hclean
    · exact ih hclean
    · exact (clean_append.mp (ih hclean)).1

theorem clean_of_depth_of {state : DepthState} {start : String}
    (hclean : Clean (intent.depth_of nodes state start).issues) : Clean state.issues := by
  rw [intent.depth_of] at hclean
  split at hclean
  · exact clean_of_assign_depths hclean
  · have hbefore := clean_of_assign_depths hclean
    exact hbefore
  · exact (clean_append.mp hclean).1
  · exact hclean

theorem clean_of_depths {starts : List String} {state : DepthState}
    (hclean : Clean (starts.foldl (intent.depth_of nodes) state).issues) : Clean state.issues := by
  induction starts generalizing state with
  | nil => exact hclean
  | cons start rest ih => exact clean_of_depth_of (ih hclean)

/-- What the validator makes of a step that may raise: it goes on with the same depths, or reports an issue. -/
def Agrees (result : Py (List (String × Nat))) (state after : DepthState) : Prop :=
  match result with
  | .ok depths => after = { state with depths }
  | .error _ => ¬ Clean after.issues

theorem assign_depths_agrees (rungs : List String) (depth : Nat) (state : DepthState) :
    Agrees (assign_depths MAX_HIERARCHY_DEPTH rungs depth state.depths) state
      (intent.assign_depths nodes rungs depth state) := by
  induction rungs generalizing depth state with
  | nil => exact rfl
  | cons rung lower ih =>
    rw [assign_depths, intent.assign_depths]
    cases hrung : assoc.lookup rung state.depths with
    | some known => exact ih known state
    | none =>
      dsimp only
      by_cases hdeep : MAX_HIERARCHY_DEPTH < depth + 1
      · have hraised : decide ((MAX_HIERARCHY_DEPTH : Int) < (depth : Int) + 1) = true := by
          rw [decide_eq_true_eq]
          exact_mod_cast hdeep
        rw [hraised]
        intro hclean
        have hissue := (clean_append.mp (clean_of_assign_depths hclean)).2
        rw [clean_add_if, decide_eq_false_iff_not] at hissue
        exact hissue hdeep
      · have hfine : decide ((MAX_HIERARCHY_DEPTH : Int) < (depth : Int) + 1) = false := by
          rw [decide_eq_false_iff_not]
          exact_mod_cast hdeep
        have hissues : add_if (MAX_HIERARCHY_DEPTH < depth + 1) "hierarchy.too_deep" (hierarchy_parent_path nodes rung)
            s!"Site hierarchy exceeds maximum depth {MAX_HIERARCHY_DEPTH}" = [] := by
          rw [decide_eq_false hdeep]
          rfl
        rw [hfine, hissues, List.append_nil]
        exact ih (depth + 1) { state with depths := assoc.set rung (depth + 1) state.depths }

variable (hparents : ∀ id, assoc.lookup id (hierarchy_parents nodes) = assoc.lookup id parents)
variable (hknown : ∀ id above, assoc.lookup id parents = some above → above ∈ (hierarchy_node_ids nodes).map Prod.fst)
variable (hcount : parents.length ≤ nodes.length)

include hparents hknown hcount

theorem depth_of_agrees {start : String} (hstart : start ∈ (hierarchy_node_ids nodes).map Prod.fst)
    (state : DepthState) (hreported : state.cycle_reported = true → ¬ Clean state.issues) :
    Agrees (depth_of MAX_HIERARCHY_DEPTH nodes.length parents state.depths start) state
      (intent.depth_of nodes state start) := by
  have hclimb := climb_eq hparents hknown state.depths (nodes.length + 1) [] hstart
  rw [depth_of, intent.depth_of, hclimb, climb]
  cases hend : ascent.climb (assoc.lookup · parents) (fun cursor => (assoc.lookup cursor state.depths).isSome)
      (nodes.length + 1) [] start with
  | reached trail cursor => exact assign_depths_agrees _ _ state
  | root trail cursor => exact assign_depths_agrees _ _ { state with depths := assoc.set cursor 0 state.depths }
  | cycle cursor =>
    intro hclean
    obtain ⟨hbefore, hissue⟩ := clean_append.mp hclean
    rw [clean_add_if, Bool.not_eq_false'] at hissue
    exact hreported hissue hbefore
  | exhausted => exact absurd hend (climb_ends hcount state.depths start)

/-- The validator's loop reports nothing when the other loop raises nothing. -/
theorem depths_agree {starts : List String} (hstarts : ∀ start ∈ starts, start ∈ (hierarchy_node_ids nodes).map Prod.fst)
    {state : DepthState} (hclean : Clean state.issues) (hreported : state.cycle_reported = false) :
    Clean (starts.foldl (intent.depth_of nodes) state).issues ↔
      ∃ depths, starts.foldlM (depth_of MAX_HIERARCHY_DEPTH nodes.length parents) state.depths = .ok depths := by
  induction starts generalizing state with
  | nil => exact ⟨fun _ => ⟨state.depths, rfl⟩, fun _ => hclean⟩
  | cons start rest ih =>
    obtain ⟨hstart, hrest⟩ := List.forall_mem_cons.mp hstarts
    have hagrees := depth_of_agrees hparents hknown hcount hstart state (by rw [hreported]; exact nofun)
    rw [List.foldl_cons, List.foldlM_cons]
    cases hround : depth_of MAX_HIERARCHY_DEPTH nodes.length parents state.depths start with
    | ok between =>
      rw [hround] at hagrees
      have hafter : intent.depth_of nodes state start = { state with depths := between } := hagrees
      rw [hafter]
      exact ih hrest hclean hreported
    | error exception =>
      rw [hround] at hagrees
      refine ⟨fun hafter => absurd (clean_of_depths hafter) hagrees, ?_⟩
      rintro ⟨_, hloop⟩
      cases hloop

end Depths

/-! ## Both checks -/

section Both

variable {nodes : List HierarchyNode} {max_depth : Int}

/-- A sorted list of distinct texts does not depend on the order that they come in. -/
theorem sortedSet_eq_of_perm {first second : List String} (hnodup : first.Nodup) (hperm : first.Perm second) :
    sortedSet first = sortedTexts second := by
  have hfirst : (sortedTexts first).Perm first := List.perm_insertionSort _ first
  have hsecond : (sortedTexts second).Perm second := List.perm_insertionSort _ second
  rw [sortedSet, hnodup.dedup]
  exact ((hfirst.trans hperm).trans hsecond.symm).eq_of_pairwise
    (fun _ _ _ _ => le_antisymm) (pairwise_sortedBy id first) (pairwise_sortedBy id second)

theorem lookup_dict_of_nodup {κ α : Type*} [DecidableEq κ] {entries : List (κ × α)}
    (hnodup : (entries.map Prod.fst).Nodup) (key : κ) :
    assoc.lookup key (dict_of entries) = assoc.lookup key entries := by
  rw [dict_of_eq_self hnodup]

/-- The depths that the validator starts with. -/
theorem start_depths {global_node : HierarchyNode} (hread : ReadAsIs nodes) (hids : (nodes.map (·.id)).Nodup)
    (hglobal : nodes.filter (·.type = .global) = [global_node]) :
    ((hierarchy_types nodes).filter (·.2 = .global)).map (fun entry => (entry.1, 0)) = [(global_node.id, 0)] := by
  have hkeys : ((nodes.map fun node => (node.id, node.type)).map Prod.fst).Nodup := by
    rwa [List.map_map]
  have hfilter : (nodes.map fun node => (node.id, node.type)).filter (fun entry => entry.2 = .global) =
      (nodes.filter (·.type = .global)).map fun node => (node.id, node.type) := by
    rw [List.filter_map]
    rfl
  rw [hread.types, dict_of_eq_self hkeys, hfilter, hglobal]
  rfl

/-- The checks let a hierarchy through when its nodes are placed and the loop over the depths raises nothing. -/
theorem exists_site_hierarchy_iff (hnamed : ∀ node ∈ nodes, node.id ≠ "") (hmin : 1 ≤ max_depth)
    (hmax : max_depth ≤ MAX_HIERARCHY_DEPTH) {sorted : List HierarchyNode} (hsorted : sortedBy (·.id) nodes = sorted) :
    (∃ ordered, site_hierarchy max_depth nodes = .ok ordered) ↔ (sorted.map (·.id)).Nodup ∧
      (∀ node ∈ sorted, Placed sorted node) ∧ ∃ global_node, sorted.filter (·.type = .global) = [global_node] ∧
        ∃ depths, (sortedTexts (sorted.map (·.id))).foldlM
          (depth_of max_depth sorted.length (sorted.filterMap parent_entry)) [(global_node.id, 0)] = .ok depths := by
  constructor
  · rintro ⟨ordered, hok⟩
    obtain ⟨hids, hplaced, global_node, depths, hglobal, hdepths, -, -⟩ :=
      (site_hierarchy_eq_ok_iff hnamed hmin hmax hsorted).mp hok
    exact ⟨hids, hplaced, global_node, hglobal, depths, hdepths⟩
  · rintro ⟨hids, hplaced, global_node, hglobal, depths, hdepths⟩
    have hzero : 0 ≤ max_depth := by omega
    have hfollows := follows_of_placed hids hglobal hplaced
    refine ⟨by_depth depths sorted, (site_hierarchy_eq_ok_iff hnamed hmin hmax hsorted).mpr
      ⟨hids, hplaced, global_node, depths, hglobal, hdepths, fun node hnode => ?_, rfl⟩⟩
    have hstart : node.id ∈ sortedTexts (sorted.map (·.id)) := mem_sortedTexts.mpr (List.mem_map_of_mem hnode)
    obtain ⟨after, hafter, -, hkeys⟩ | ⟨message, herror, -⟩ := depths_spec hfollows (List.length_filterMap_le _ _)
      (memo_start hfollows hzero) fun start => mem_sortedTexts.mp
    · rw [hdepths] at hafter
      cases hafter
      exact hkeys node.id (.inr hstart)
    · rw [hdepths] at herror
      cases herror

/-- The checks of the parents find nothing when every node is placed. -/
theorem clean_parents_iff (hread : ReadAsIs nodes) (hids : (nodes.map (·.id)).Nodup)
    (hparent : ∀ node ∈ nodes, (node.type = .global ↔ node.parent_id = none)) :
    Clean ((hierarchy_parents nodes).flatMap fun entry => parent_issues nodes entry.1 entry.2) ↔
      ∀ node ∈ nodes, Placed nodes node := by
  have hmem {id above : String} : (id, above) ∈ hierarchy_parents nodes ↔
      ∃ node ∈ nodes, node.id = id ∧ node.type ≠ .global ∧ node.parent_id = some above := by
    rw [← lookup_parents hids, ← lookup_dict_of_nodup (keys_parents_nodup hids), ← hread.parents]
    refine ⟨assoc.lookup_of_mem ?_, assoc.lookup_mem⟩
    rw [hread.parents]
    exact keys_dict_of_nodup _
  rw [clean_flatMap]
  constructor
  · intro hclean node hnode
    by_cases htype : node.type = .global
    · exact .inl ⟨htype, (hparent node hnode).mp htype⟩
    · obtain ⟨above, habove⟩ := Option.ne_none_iff_exists'.mp (mt (hparent node hnode).mpr htype)
      have hentry := hclean (node.id, above) (hmem.mpr ⟨node, hnode, rfl, htype, habove⟩)
      obtain ⟨parent, hmem, rfl, hchild⟩ := (clean_parent_issues_iff hread hids hnode).mp hentry
      exact .inr ⟨htype, parent, hmem, habove, hchild⟩
  · rintro hplaced ⟨id, above⟩ hentry
    obtain ⟨node, hnode, rfl, htype, habove⟩ := hmem.mp hentry
    refine (clean_parent_issues_iff hread hids hnode).mpr ?_
    obtain ⟨hglobal, -⟩ | ⟨-, parent, hparent, hid, hchild⟩ := hplaced node hnode
    · exact absurd hglobal htype
    · rw [habove, Option.some.injEq] at hid
      exact ⟨parent, hparent, hid.symm, hchild⟩

/-- The check of the depths finds nothing when the loop of the allocator raises nothing. -/
theorem clean_depth_issues_iff {sorted : List HierarchyNode} {global_node : HierarchyNode}
    (hperm : sorted.Perm nodes) (hread : ReadAsIs nodes) (hids : (nodes.map (·.id)).Nodup)
    (hplaced : ∀ node ∈ nodes, Placed nodes node) (hglobal : nodes.filter (·.type = .global) = [global_node]) :
    Clean (depth_issues nodes) ↔ ∃ depths, (sortedTexts (sorted.map (·.id))).foldlM
      (depth_of MAX_HIERARCHY_DEPTH sorted.length (sorted.filterMap parent_entry)) [(global_node.id, 0)] =
        .ok depths := by
  have hfollows := follows_of_placed hids hglobal hplaced
  have hids' : (sorted.map (·.id)).Nodup := (hperm.map _).nodup_iff.mpr hids
  have hlookup : ∀ id, assoc.lookup id (nodes.filterMap parent_entry) =
      assoc.lookup id (sorted.filterMap parent_entry) := by
    intro id
    apply Option.ext
    intro above
    rw [lookup_parents hids, lookup_parents hids']
    simp only [hperm.mem_iff]
  have hparents : ∀ id, assoc.lookup id (hierarchy_parents nodes) =
      assoc.lookup id (sorted.filterMap parent_entry) := by
    intro id
    rw [hread.parents, lookup_dict_of_nodup (keys_parents_nodup hids), hlookup]
  have hknown : ∀ id above, assoc.lookup id (sorted.filterMap parent_entry) = some above →
      above ∈ (hierarchy_node_ids nodes).map Prod.fst := by
    intro id above habove
    rw [← hlookup] at habove
    obtain ⟨node, hnode, rfl⟩ := List.mem_map.mp (hfollows.known id (Option.isSome_of_eq_some habove))
    obtain ⟨parent, hparent, rfl, -⟩ := hfollows.exists_parent hnode habove
    rw [hread.keys]
    exact List.mem_map_of_mem hparent
  have hcount : (sorted.filterMap parent_entry).length ≤ nodes.length :=
    (List.length_filterMap_le _ _).trans hperm.length_eq.le
  have hstarts : sortedSet ((hierarchy_node_ids nodes).map Prod.fst) = sortedTexts (sorted.map (·.id)) := by
    rw [hread.keys]
    exact sortedSet_eq_of_perm hids (hperm.map _).symm
  rw [depth_issues, start_depths hread hids hglobal, hstarts, hperm.length_eq]
  refine depths_agree hparents hknown hcount (fun start hstart => ?_) clean_nil rfl
  rw [hread.keys]
  exact (hperm.map _).mem_iff.mp (mem_sortedTexts.mp hstart)

/-- The validator accepts the hierarchies that the allocator accepts at the greatest depth, when it can read
their texts. -/
theorem clean_hierarchy_check_iff (hadmitted : ∀ node ∈ nodes, admitted_node node)
    (hnamed : ∀ node ∈ nodes, node.id ≠ "") :
    Clean (hierarchy_check_issues nodes) ↔
      (∃ ordered, site_hierarchy MAX_HIERARCHY_DEPTH nodes = .ok ordered) ∧ ∀ node ∈ nodes, Readable node := by
  obtain ⟨sorted, hsorted⟩ : ∃ sorted, sortedBy (·.id) nodes = sorted := ⟨_, rfl⟩
  have hperm := sorted_perm hsorted
  have hplaced : (∀ node ∈ sorted, Placed sorted node) ↔ ∀ node ∈ nodes, Placed nodes node := by
    simp only [Placed, hperm.mem_iff]
  have hglobal {global_node : HierarchyNode} : sorted.filter (·.type = .global) = [global_node] ↔
      nodes.filter (·.type = .global) = [global_node] := by
    rw [← List.perm_singleton, ← List.perm_singleton]
    exact ⟨(hperm.filter _).symm.trans, (hperm.filter _).trans⟩
  simp only [hierarchy_check_issues, clean_append, clean_node_issues_iff hadmitted, clean_add_if,
    exists_site_hierarchy_iff hnamed (by decide) le_rfl hsorted, (hperm.map _).nodup_iff, hplaced, hglobal,
    decide_eq_false_iff_not, not_not]
  constructor
  · rintro ⟨⟨⟨⟨hreadable, hids, hparent⟩, hone⟩, hparents⟩, hdepths⟩
    have hread := readAsIs_of_readable hadmitted hreadable
    obtain ⟨global_node, hfound⟩ := List.length_eq_one_iff.mp hone
    rw [clean_parents_iff hread hids hparent] at hparents
    rw [clean_depth_issues_iff hperm hread hids hparents hfound] at hdepths
    exact ⟨⟨hids, hparents, global_node, hfound, hdepths⟩, hreadable⟩
  · rintro ⟨⟨hids, hparents, global_node, hfound, hdepths⟩, hreadable⟩
    have hread := readAsIs_of_readable hadmitted hreadable
    have hparent : ∀ node ∈ nodes, (node.type = .global ↔ node.parent_id = none) := by
      intro node hnode
      obtain ⟨htype, hnone⟩ | ⟨htype, parent, -, hsome, -⟩ := hparents node hnode
      · simp [htype, hnone]
      · simp [htype, hsome]
    refine ⟨⟨⟨⟨hreadable, hids, hparent⟩, by rw [hfound]; rfl⟩, ?_⟩, ?_⟩
    · exact (clean_parents_iff hread hids hparent).mpr hparents
    · exact (clean_depth_issues_iff hperm hread hids hparents hfound).mpr hdepths

/-- The checks of the allocator let exactly the sound hierarchies through, in the order of the depths, and end
for every hierarchy; those of the validator accept the same ones, when it can read their texts. -/
theorem site_hierarchy_exact (nodes : List HierarchyNode) (max_depth : Int) (hadmitted : admitted_hierarchy nodes)
    (hmin : 1 ≤ max_depth) (hmax : max_depth ≤ MAX_HIERARCHY_DEPTH) :
    ((∃ ordered, site_hierarchy max_depth nodes = .ok ordered) ↔ SoundHierarchy nodes max_depth) ∧
      (∀ ordered, site_hierarchy max_depth nodes = .ok ordered → ordered.Perm nodes ∧
        (∃ depth_of : HierarchyNode → Nat,
          (∀ node ∈ nodes, ∀ depth, Below nodes node depth ↔ depth = depth_of node) ∧
          ordered.Pairwise fun first second => depth_of first ≤ depth_of second) ∧
        ∀ before node after id, ordered = before ++ node :: after → node.parent_id = some id →
          ∃ parent ∈ before, parent.id = id) ∧
      (site_hierarchy max_depth nodes ≠ .error unfinished ∧
        ∀ (parents : List (String × String)) (depths : List (String × Nat)) (start : String),
          climb parents.length parents depths start ≠ .exhausted) ∧
      (max_depth = MAX_HIERARCHY_DEPTH → (Clean (hierarchy_check_issues nodes) ↔
        (∃ ordered, site_hierarchy max_depth nodes = .ok ordered) ∧ ∀ node ∈ nodes, Readable node)) := by
  have hnamed := named_of_admitted hadmitted
  refine ⟨⟨?_, site_hierarchy_of_sound hnamed hmin hmax⟩, ?_, ⟨site_hierarchy_ends max_depth nodes, ?_⟩, ?_⟩
  · rintro ⟨ordered, hok⟩
    exact (sound_of_site_hierarchy hnamed hmin hmax hok).1
  · intro ordered hok
    obtain ⟨-, hperm, depth_of, hbelow, hordered⟩ := sound_of_site_hierarchy hnamed hmin hmax hok
    exact ⟨hperm, ⟨depth_of, hbelow, hordered⟩, fun before node after id hnode hparent =>
      parent_precedes hperm hbelow hordered hnode hparent⟩
  · exact fun parents depths start => climb_ends le_rfl depths start
  · rintro rfl
    simp only [admitted_hierarchy, Bool.and_eq_true, List.all_eq_true] at hadmitted
    exact clean_hierarchy_check_iff hadmitted.2 hnamed

end Both

/-! ## A hierarchy of two nodes -/

/-- A global node of a name, and an area below it. -/
def lab_hierarchy (name : String) : List HierarchyNode :=
  let node : HierarchyNode := {
    id := "global", name, type := .global, parent_id := none, address := none, latitude := none,
    longitude := none, timezone := none }
  [{ node with id := "area-01", type := .area, parent_id := some "global" }, node]

theorem site_hierarchy_exact_lab :
    ∃ ordered, site_hierarchy 4 (lab_hierarchy "campus") = .ok ordered ∧ ordered.Perm (lab_hierarchy "campus") := by
  have hsound : SoundHierarchy (lab_hierarchy "campus") 4 := {
    ids := by decide
    global := by decide
    below := by
      have hglobal : Below (lab_hierarchy "campus") _ 0 := .global (List.mem_cons_of_mem _ List.mem_cons_self) rfl rfl
      have harea : Below (lab_hierarchy "campus") _ 1 := .child hglobal List.mem_cons_self rfl (by decide)
      refine List.forall_mem_cons.mpr ⟨⟨1, harea, by decide⟩, List.forall_mem_singleton.mpr ⟨0, hglobal, by decide⟩⟩ }
  obtain ⟨hexact, hordered, -, -⟩ := site_hierarchy_exact (lab_hierarchy "campus") 4 (by decide) (by decide) (by decide)
  obtain ⟨ordered, hok⟩ := hexact.mpr hsound
  exact ⟨ordered, hok, (hordered ordered hok).1⟩

/-- A blank name passes the schema of the requirements and the allocator, and the validator rejects it. -/
theorem blank_name_not_accepted : ∃ nodes, admitted_hierarchy nodes ∧
    (∃ ordered, site_hierarchy MAX_HIERARCHY_DEPTH nodes = .ok ordered) ∧ ¬ Clean (hierarchy_check_issues nodes) := by
  have hadmitted : admitted_hierarchy (lab_hierarchy " ") := by decide
  have hok : ((site_hierarchy MAX_HIERARCHY_DEPTH (lab_hierarchy " ")).toOption.map (List.map (·.id))) =
      some ["global", "area-01"] := by decide +kernel
  refine ⟨lab_hierarchy " ", hadmitted, ?_, fun hclean => ?_⟩
  · cases hresult : site_hierarchy MAX_HIERARCHY_DEPTH (lab_hierarchy " ") with
    | ok ordered => exact ⟨ordered, rfl⟩
    | error exception =>
      rw [hresult] at hok
      cases hok
  · simp only [hierarchy_check_issues, clean_append] at hclean
    obtain ⟨earlier, -, -, hnode⟩ := clean_each_mem hclean.1.1.1 List.mem_cons_self
    rw [node_issues, clean_append, clean_append, clean_append, clean_required_string, clean_required_string] at hnode
    exact absurd hnode.1.1.2 (by decide)

end orchestrator.allocator
