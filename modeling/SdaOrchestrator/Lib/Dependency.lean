import Mathlib.Data.List.Basic

namespace dependency

variable {α β ι : Type*}

/-- After what was seen, every item comes once and after all that it depends on. -/
def InOrder (id : α → ι) (depends_on : α → List ι) (seen : List ι) : List α → Prop
  | [] => True
  | item :: rest =>
    id item ∉ seen ∧ (∀ dependency ∈ depends_on item, dependency ∈ seen) ∧
      InOrder id depends_on (seen ++ [id item]) rest

def decideInOrder [DecidableEq ι] (id : α → ι) (depends_on : α → List ι) :
    (seen : List ι) → (items : List α) → Decidable (InOrder id depends_on seen items)
  | _, [] => isTrue trivial
  | seen, item :: rest =>
    have := decideInOrder id depends_on (seen ++ [id item]) rest
    inferInstanceAs (Decidable (id item ∉ seen ∧
      (∀ dependency ∈ depends_on item, dependency ∈ seen) ∧
      InOrder id depends_on (seen ++ [id item]) rest))

variable {id : α → ι} {depends_on : α → List ι} {seen : List ι}

instance [DecidableEq ι] (items : List α) : Decidable (InOrder id depends_on seen items) :=
  decideInOrder id depends_on seen items

theorem in_order_map {f : β → α} {items : List β} :
    InOrder id depends_on seen (items.map f) ↔
      InOrder (fun item => id (f item)) (fun item => depends_on (f item)) seen items := by
  induction items generalizing seen with
  | nil => exact Iff.rfl
  | cons item rest ih => simp only [List.map_cons, InOrder, ih]

/-- The items are none of those seen before them. -/
theorem InOrder.not_seen {items : List α} (horder : InOrder id depends_on seen items) {item : α}
    (hitem : item ∈ items) : id item ∉ seen := by
  induction items generalizing seen with
  | nil => cases hitem
  | cons first rest ih =>
    obtain ⟨hfresh, -, hrest⟩ := horder
    obtain rfl | htail := List.mem_cons.mp hitem
    · exact hfresh
    · intro hseen
      exact ih hrest htail (List.mem_append_left _ hseen)

theorem InOrder.nodup {items : List α} (horder : InOrder id depends_on seen items) :
    (items.map id).Nodup := by
  induction items generalizing seen with
  | nil => exact List.nodup_nil
  | cons first rest ih =>
    obtain ⟨-, -, hrest⟩ := horder
    refine List.nodup_cons.mpr ⟨?_, ih hrest⟩
    intro hagain
    obtain ⟨item, hitem, hid⟩ := List.mem_map.mp hagain
    apply hrest.not_seen hitem
    rw [hid]
    exact List.mem_append_right _ (List.mem_singleton_self _)

/-- An item stands alone in its place, and what it depends on stands before it. -/
theorem InOrder.split {items : List α} (horder : InOrder id depends_on seen items) {item : α}
    (hitem : item ∈ items) :
    ∃ before after, items = before ++ item :: after ∧
      (∀ other ∈ before ++ after, id other ≠ id item) ∧
      ∀ dependency ∈ depends_on item, dependency ∈ seen ++ before.map id := by
  induction items generalizing seen with
  | nil => cases hitem
  | cons first rest ih =>
    obtain ⟨hfresh, hseen, hrest⟩ := horder
    have hafter : ∀ other ∈ rest, id other ≠ id first := by
      intro other hother heq
      apply hrest.not_seen hother
      rw [heq]
      exact List.mem_append_right _ (List.mem_singleton_self _)
    obtain rfl | htail := List.mem_cons.mp hitem
    · refine ⟨[], rest, rfl, hafter, ?_⟩
      intro dependency hdependency
      exact List.mem_append_left _ (hseen dependency hdependency)
    · obtain ⟨before, after, rfl, hother, hdeps⟩ := ih hrest htail
      refine ⟨first :: before, after, rfl, ?_, ?_⟩
      · intro other hmem
        obtain rfl | hmem := List.mem_cons.mp hmem
        · exact (hafter item htail).symm
        · exact hother other hmem
      · intro dependency hdependency
        have hfound := hdeps dependency hdependency
        simpa only [List.map_cons, List.append_assoc, List.singleton_append] using hfound

end dependency
