import SdaOrchestrator.Lib.Python

/-! Loops whose body may raise. -/

namespace python

variable {α β : Type}

theorem mapM_eq_ok_iff {f : α → Py β} {items : List α} {results : List β} :
    items.mapM f = .ok results ↔ List.Forall₂ (fun item result => f item = .ok result) items results := by
  induction items generalizing results with
  | nil =>
    rw [List.mapM_nil, pure_eq_ok_iff]
    constructor
    · rintro rfl
      exact List.Forall₂.nil
    · rintro ⟨⟩
      rfl
  | cons item rest ih =>
    simp only [List.mapM_cons, bind_eq_ok_iff, pure_eq_ok_iff, ih]
    constructor
    · rintro ⟨result, hitem, others, hothers, rfl⟩
      exact List.Forall₂.cons hitem hothers
    · rintro ⟨⟩
      rename_i hitem hothers
      exact ⟨_, hitem, _, hothers, rfl⟩

theorem mapM_of_ok {f : α → Py β} {g : α → β} {items : List α}
    (hok : ∀ item ∈ items, f item = .ok (g item)) : items.mapM f = .ok (items.map g) := by
  rw [mapM_eq_ok_iff, List.forall₂_map_right_iff, List.forall₂_same]
  exact hok

theorem mapM_ok_of_forall {body : α → Py β} {items : List α}
    (hok : ∀ item ∈ items, ∃ result, body item = .ok result) :
    ∃ results, items.mapM body = .ok results := by
  induction items with
  | nil => exact ⟨[], rfl⟩
  | cons item rest ih =>
    obtain ⟨result, hresult⟩ := hok item List.mem_cons_self
    obtain ⟨results, hresults⟩ := ih fun other hother => hok other (List.mem_cons_of_mem _ hother)
    refine ⟨result :: results, ?_⟩
    rw [mapM_eq_ok_iff]
    exact .cons hresult (mapM_eq_ok_iff.mp hresults)

/-- What is related to a list item by item is related to some item of it. -/
theorem exists_of_forall₂ {α β : Type*} {R : α → β → Prop} {items : List α} {others : List β}
    (hall : List.Forall₂ R items others) {item : α} (hitem : item ∈ items) :
    ∃ other ∈ others, R item other := by
  induction hall with
  | nil => cases hitem
  | cons hhead hrest ih =>
    obtain rfl | htail := List.mem_cons.mp hitem
    · exact ⟨_, List.mem_cons_self, hhead⟩
    · obtain ⟨other, hother, hrel⟩ := ih htail
      exact ⟨other, List.mem_cons_of_mem _ hother, hrel⟩

theorem forall₂_of_mem {R S : α → β → Prop} {items : List α} {others : List β} (hall : List.Forall₂ R items others)
    (himp : ∀ item ∈ items, ∀ other, R item other → S item other) : List.Forall₂ S items others := by
  induction hall with
  | nil => exact .nil
  | cons hitem _ ih =>
    refine .cons (himp _ List.mem_cons_self _ hitem) (ih fun item hitem => ?_)
    exact himp item (List.mem_cons_of_mem _ hitem)

theorem forall₂_and {R S : α → β → Prop} {items : List α} {others : List β} (hfirst : List.Forall₂ R items others)
    (hsecond : List.Forall₂ S items others) : List.Forall₂ (fun item other => R item other ∧ S item other) items others := by
  induction hfirst with
  | nil => exact .nil
  | cons hitem _ ih =>
    cases hsecond with
    | cons hother hrest => exact .cons ⟨hitem, hother⟩ (ih hrest)

/-- Two lists that go together are in one order. -/
theorem pairwise_of_forall₂ {R : α → β → Prop} {S : α → α → Prop} {T : β → β → Prop}
    {items : List α} {others : List β}
    (hall : List.Forall₂ R items others) (hpairs : items.Pairwise S)
    (himp : ∀ first ∈ items, ∀ second ∈ items, ∀ other another, R first other → R second another →
      S first second → T other another) : others.Pairwise T := by
  induction hall with
  | nil => exact .nil
  | cons hitem hrest ih =>
    rename_i item other rest rest_others
    rw [List.pairwise_cons] at hpairs ⊢
    refine ⟨fun another hanother => ?_, ih hpairs.2 fun first hfirst second hsecond => ?_⟩
    · obtain ⟨second, hsecond, hrel⟩ := exists_of_forall₂ hrest.flip hanother
      exact himp item List.mem_cons_self second (List.mem_cons_of_mem _ hsecond) other another hitem hrel
        (hpairs.1 second hsecond)
    · exact himp first (List.mem_cons_of_mem _ hfirst) second (List.mem_cons_of_mem _ hsecond)

/-- The results of a loop that raises nothing are those of its body. -/
theorem mem_of_mapM {f : α → Py β} {items : List α} {results : List β}
    (hok : items.mapM f = .ok results) {result : β} (hresult : result ∈ results) :
    ∃ item ∈ items, f item = .ok result :=
  exists_of_forall₂ (mapM_eq_ok_iff.mp hok).flip hresult

theorem exists_of_mapM {f : α → Py β} {items : List α} {results : List β}
    (hok : items.mapM f = .ok results) {item : α} (hitem : item ∈ items) :
    ∃ result ∈ results, f item = .ok result :=
  exists_of_forall₂ (mapM_eq_ok_iff.mp hok) hitem

/-- What the body keeps of every item, the loop keeps of the items. -/
theorem map_of_mapM {γ : Type} {f : α → Py β} {g : α → γ} {h : β → γ} {items : List α}
    {results : List β} (hok : items.mapM f = .ok results)
    (hbody : ∀ item result, f item = .ok result → h result = g item) :
    results.map h = items.map g := by
  rw [mapM_eq_ok_iff] at hok
  induction hok with
  | nil => rfl
  | cons hhead hrest ih => rw [List.map_cons, List.map_cons, ih, hbody _ _ hhead]

/-- A loop whose body returns what a function gives returns what the function gives. -/
theorem eq_map_of_mapM {f : α → Py β} {g : α → β} {items : List α} {results : List β}
    (hok : items.mapM f = .ok results) (hbody : ∀ item result, f item = .ok result → result = g item) :
    results = items.map g := by
  have hmap := map_of_mapM (h := id) hok hbody
  rwa [List.map_id] at hmap

/-- A loop of checks raises nothing when none of them does. -/
theorem forM_eq_ok_iff {items : List α} {check : α → Py Unit} {u : Unit} :
    items.forM check = .ok u ↔ ∀ item ∈ items, check item = .ok () := by
  induction items with
  | nil => exact ⟨fun _ item hitem => absurd hitem List.not_mem_nil, fun _ => rfl⟩
  | cons item rest ih =>
    have hcons : (item :: rest).forM check = check item >>= fun _ => rest.forM check := rfl
    rw [hcons, bind_eq_ok_iff, List.forall_mem_cons, ← ih]
    constructor
    · rintro ⟨_, hitem, hrest⟩
      exact ⟨hitem, hrest⟩
    · rintro ⟨hitem, hrest⟩
      exact ⟨(), hitem, hrest⟩

end python
