import SdaOrchestrator.Acceptance.Sound

open python

namespace orchestrator.acceptance

/-- Every gate lists its dependencies, and a dependency is a value that may be looked up. -/
def DependencyMap (gates : List (String × Value)) : Prop :=
  ∀ entry ∈ gates, ∃ dependencies, get_items entry.2 "dependencies" = .ok dependencies ∧
    ∀ dependency ∈ dependencies, hashable dependency = true

/-- A gate lists another gate as its dependency. -/
def KnownDependency (gates : List (String × Value)) (gate_id dependency : String) : Prop :=
  ∃ gate dependencies, assoc.lookup gate_id gates = some gate ∧ get_items gate "dependencies" = .ok dependencies ∧
    .str dependency ∈ dependencies ∧ dependency ∈ gates.map Prod.fst

section Edges

variable {gates : List (String × Value)} {gate_id dependency : String} {value : Value}

/-- A value that may be looked up names one gate or none. -/
def names (gates : List (String × Value)) : Value → List String
  | .str dependency => if dependency ∈ gates.map Prod.fst then [dependency] else []
  | _ => []

theorem mem_names : dependency ∈ names gates value ↔ value = .str dependency ∧ dependency ∈ gates.map Prod.fst := by
  unfold names
  split
  · rename_i text
    simp only [Value.str.injEq]
    split
    · rename_i hknown
      rw [List.mem_singleton]
      constructor
      · rintro rfl
        exact ⟨rfl, hknown⟩
      · rintro ⟨rfl, -⟩
        rfl
    · rename_i hunknown
      simp only [List.not_mem_nil, false_iff, not_and]
      rintro rfl
      exact hunknown
  · rename_i hother
    simp only [List.not_mem_nil, false_iff, not_and]
    intro htext
    exact absurd htext (hother dependency)

theorem named_of_hashable (hvalue : hashable value = true) :
    (do return if (← find_key gates value).isSome then [value.toStr] else [] : Py (List String)) =
      .ok (names gates value) := by
  have hother (hnone : ∀ text, value ≠ .str text) : find_key gates value = .ok none ∧ names gates value = [] := by
    cases value with
    | str text => exact absurd rfl (hnone text)
    | list items => cases hvalue
    | dict entries => cases hvalue
    | _ => exact ⟨rfl, rfl⟩
  by_cases htext : ∃ text, value = .str text
  · obtain ⟨text, rfl⟩ := htext
    have hknown : (assoc.lookup text gates).isSome = true ↔ text ∈ gates.map Prod.fst := assoc.lookup_isSome_iff
    simp only [find_key_text, names, hknown, Value.toStr, bind, Except.bind, pure, Except.pure]
  · rw [not_exists] at htext
    obtain ⟨hfind, hnames⟩ := hother htext
    rw [hfind, hnames]
    rfl

/-- The dependencies that a search follows are the known ones. -/
theorem dependencies_of_map (hmap : DependencyMap gates) (hgate : gate_id ∈ gates.map Prod.fst) :
    ∃ gate dependencies, assoc.lookup gate_id gates = some gate ∧ get_items gate "dependencies" = .ok dependencies ∧
      dependencies_of gates gate_id = .ok (dependencies.flatMap (names gates)) := by
  obtain ⟨gate, hlookup⟩ := Option.isSome_iff_exists.mp (assoc.lookup_isSome_iff.mpr hgate)
  obtain ⟨dependencies, hitems, hhashable⟩ := hmap (gate_id, gate) (assoc.lookup_mem hlookup)
  refine ⟨gate, dependencies, hlookup, hitems, ?_⟩
  have hnamed : dependencies.mapM (fun dependency => (do
      return if (← find_key gates dependency).isSome then [dependency.toStr] else [] : Py (List String))) =
        .ok (dependencies.map (names gates)) :=
    mapM_of_ok fun dependency hdependency => named_of_hashable (hhashable dependency hdependency)
  simp only [dependencies_of, hlookup, hitems, bind_eq_ok_iff, Except.ok.injEq, exists_eq_left', pure_eq_ok_iff]
  exact ⟨_, hnamed, rfl⟩

theorem closed_of_map (hmap : DependencyMap gates) :
    depth_first.Closed (dependencies_of gates) (gates.map Prod.fst) := by
  intro gate_id hgate
  obtain ⟨gate, dependencies, -, -, hnext⟩ := dependencies_of_map hmap hgate
  refine ⟨_, hnext, fun dependency hdependency => ?_⟩
  obtain ⟨value, -, hnamed⟩ := List.mem_flatMap.mp hdependency
  exact (mem_names.mp hnamed).2

/-- An edge of the search is a dependency between known gates. -/
theorem edge_iff (hmap : DependencyMap gates) :
    depth_first.Edge (dependencies_of gates) gate_id dependency ↔ KnownDependency gates gate_id dependency := by
  have hmem {dependencies : List Value} : dependency ∈ dependencies.flatMap (names gates) ↔
      .str dependency ∈ dependencies ∧ dependency ∈ gates.map Prod.fst := by
    simp only [List.mem_flatMap, mem_names]
    constructor
    · rintro ⟨value, hvalue, rfl, hknown⟩
      exact ⟨hvalue, hknown⟩
    · rintro ⟨hlisted, hknown⟩
      exact ⟨_, hlisted, rfl, hknown⟩
  by_cases hgate : gate_id ∈ gates.map Prod.fst
  · obtain ⟨gate, dependencies, hlookup, hitems, hnext⟩ := dependencies_of_map hmap hgate
    constructor
    · rintro ⟨next, hfound, hdependency⟩
      rw [hnext] at hfound
      obtain rfl := Except.ok.inj hfound
      exact ⟨gate, dependencies, hlookup, hitems, hmem.mp hdependency⟩
    · rintro ⟨other, others, hother, hothers, hdependency⟩
      rw [hlookup] at hother
      obtain rfl := Option.some.inj hother
      rw [hitems] at hothers
      obtain rfl := Except.ok.inj hothers
      exact ⟨_, hnext, hmem.mpr hdependency⟩
  · have hnone : assoc.lookup gate_id gates = none := assoc.lookup_eq_none_iff.mpr hgate
    constructor
    · rintro ⟨next, hfound, -⟩
      rw [dependencies_of, hnone] at hfound
      cases hfound
    · rintro ⟨gate, dependencies, hlookup, -⟩
      rw [hnone] at hlookup
      cases hlookup

end Edges

/-! ## The verdict of the search -/

section Verdict

variable {gates : List (String × Value)}

theorem transGen_iff (hmap : DependencyMap gates) {gate_id : String} :
    Relation.TransGen (depth_first.Edge (dependencies_of gates)) gate_id gate_id ↔
      Relation.TransGen (KnownDependency gates) gate_id gate_id :=
  ⟨fun hpath => hpath.lift id fun _ _ => (edge_iff hmap).mp,
    fun hpath => hpath.lift id fun _ _ => (edge_iff hmap).mpr⟩

/-- A search meets a cycle when there is one. -/
theorem cycles_ne_nil_iff (hmap : DependencyMap gates) {recursion_limit : Nat} {found : depth_first.Search String}
    (hsearch : depth_first.search (dependencies_of gates) RecursionError recursion_limit (gates.map Prod.fst) =
      .ok found) :
    found.cycles ≠ [] ↔ ∃ gate_id, Relation.TransGen (KnownDependency gates) gate_id gate_id := by
  constructor
  · intro hne
    obtain ⟨cycle, rest, hcycles⟩ := List.exists_cons_of_ne_nil hne
    obtain ⟨gate_id, hpath⟩ := (depth_first.search_rounds hsearch cycle (hcycles ▸ List.mem_cons_self)).transGen
    exact ⟨gate_id, (transGen_iff hmap).mp hpath⟩
  · rintro ⟨gate_id, hpath⟩ hnone
    have hknown : gate_id ∈ gates.map Prod.fst := by
      obtain ⟨dependency, ⟨gate, -, hlookup, -⟩, -⟩ := Relation.TransGen.head'_iff.mp hpath
      exact assoc.lookup_isSome_iff.mp (by rw [hlookup, Option.isSome_some])
    exact depth_first.search_acyclic hsearch hnone gate_id hknown ((transGen_iff hmap).mpr hpath)

/-- The search for cycles reports an issue when the known gates depend on each other in a circle and only then.
It ends with a report unless the interpreter's recursion limit is at most the number of gates. -/
theorem detect_dependency_cycles_exact (hmap : DependencyMap gates) (recursion_limit : Nat) :
    (∀ issues, _detect_dependency_cycles recursion_limit gates = .ok issues →
      (issues ≠ [] ↔ ∃ gate_id, Relation.TransGen (KnownDependency gates) gate_id gate_id)) ∧
    (gates.length < recursion_limit → ∃ issues, _detect_dependency_cycles recursion_limit gates = .ok issues) ∧
    ∀ raised, _detect_dependency_cycles recursion_limit gates = .error raised → raised = RecursionError := by
  have hclosed := closed_of_map hmap
  refine ⟨fun issues hok => ?_, fun hdepth => ?_, fun raised herror => ?_⟩
  · simp only [_detect_dependency_cycles, bind_eq_ok_iff, pure_eq_ok_iff] at hok
    obtain ⟨found, hsearch, rfl⟩ := hok
    rw [← cycles_ne_nil_iff hmap hsearch, ne_eq, List.map_eq_nil_iff]
  · have hknown : (gates.map Prod.fst).length < recursion_limit := by rwa [List.length_map]
    obtain ⟨found, hsearch⟩ : ∃ found, depth_first.search (dependencies_of gates) RecursionError recursion_limit
      (gates.map Prod.fst) = .ok found := depth_first.exists_search hclosed hknown
    rw [_detect_dependency_cycles, hsearch]
    exact ⟨_, rfl⟩
  · cases hsearch : depth_first.search (dependencies_of gates) RecursionError recursion_limit (gates.map Prod.fst) with
    | ok found =>
      rw [_detect_dependency_cycles, hsearch] at herror
      cases herror
    | error exception =>
      rw [_detect_dependency_cycles, hsearch] at herror
      obtain rfl := Except.error.inj herror
      exact depth_first.search_error hclosed hsearch

/-- Two gates that depend on each other, and one of them on an unknown gate too. -/
def lab_dependencies : List (String × Value) := [
  ("pilot", .dict [("dependencies", .list [.str "rollback", .str "retired"])]),
  ("rollback", .dict [("dependencies", .list [.str "pilot"])])]

theorem lab_detect_dependency_cycles_exact :
    _detect_dependency_cycles 3 lab_dependencies =
      .ok [⟨"gate.dependency_cycle", "$.gates", "Dependency cycle: pilot -> rollback -> pilot"⟩] ∧
    ∃ gate_id, Relation.TransGen (KnownDependency lab_dependencies) gate_id gate_id := by
  have hmap : DependencyMap lab_dependencies := by
    rw [DependencyMap, lab_dependencies, List.forall_mem_cons, List.forall_mem_singleton]
    exact ⟨⟨_, rfl, by simp [hashable]⟩, ⟨_, rfl, by simp [hashable]⟩⟩
  have hissues : _detect_dependency_cycles 3 lab_dependencies =
      .ok [⟨"gate.dependency_cycle", "$.gates", "Dependency cycle: pilot -> rollback -> pilot"⟩] := by
    rfl
  exact ⟨hissues, ((detect_dependency_cycles_exact hmap 3).1 _ hissues).mp (List.cons_ne_nil _ _)⟩

end Verdict

end orchestrator.acceptance
