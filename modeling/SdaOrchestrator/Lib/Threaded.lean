import SdaOrchestrator.Lib.Python

/-! Loops that hand a state from one round to the next. -/

namespace python

variable {α β σ : Type}

/-- The results of a body that reads and writes a state, for each item in order. -/
def thread (body : α → σ → Py (β × σ)) : List α → σ → Py (List β × σ)
  | [], state => .ok ([], state)
  | item :: rest, state => do
    let (result, state) ← body item state
    let (results, state) ← thread body rest state
    return (result :: results, state)

variable {body : α → σ → Py (β × σ)} {state after : σ}

theorem thread_cons_eq_ok {item : α} {rest : List α} {results : List β} :
    thread body (item :: rest) state = .ok (results, after) ↔ ∃ result between others,
      body item state = .ok (result, between) ∧ thread body rest between = .ok (others, after) ∧
        results = result :: others := by
  simp only [thread, bind_eq_ok_iff, pure_eq_ok_iff, Prod.exists, Prod.mk.injEq]
  constructor
  · rintro ⟨result, between, hbody, others, _, hrest, rfl, rfl⟩
    exact ⟨result, between, others, hbody, hrest, rfl⟩
  · rintro ⟨result, between, others, hbody, hrest, rfl⟩
    exact ⟨result, between, hbody, others, after, hrest, rfl, rfl⟩

/-- Each result is what the body returns in some state that meets the invariant. -/
theorem forall₂_of_thread (Inv : σ → Prop) (hbody : ∀ item before result between, Inv before →
      body item before = .ok (result, between) → Inv between)
    {items : List α} {results : List β} (hinv : Inv state) (hok : thread body items state = .ok (results, after)) :
    Inv after ∧ List.Forall₂ (fun item result => ∃ before between, Inv before ∧
      body item before = .ok (result, between)) items results := by
  induction items generalizing state results with
  | nil =>
    cases hok
    exact ⟨hinv, .nil⟩
  | cons item rest ih =>
    obtain ⟨result, between, others, hitem, hrest, rfl⟩ := thread_cons_eq_ok.mp hok
    obtain ⟨hafter, hothers⟩ := ih (hbody item state result between hinv hitem) hrest
    exact ⟨hafter, .cons ⟨state, between, hinv, hitem⟩ hothers⟩

/-- Every result of a loop comes from a round of its body. -/
theorem mem_of_thread {items : List α} {results : List β} (hok : thread body items state = .ok (results, after))
    {result : β} (hresult : result ∈ results) :
    ∃ item ∈ items, ∃ before between, body item before = .ok (result, between) := by
  induction items generalizing state results with
  | nil =>
    cases hok
    cases hresult
  | cons item rest ih =>
    obtain ⟨first, between, others, hitem, hrest, rfl⟩ := thread_cons_eq_ok.mp hok
    obtain rfl | hlater := List.mem_cons.mp hresult
    · exact ⟨item, List.mem_cons_self, state, between, hitem⟩
    · obtain ⟨found, hfound, hround⟩ := ih hrest hlater
      exact ⟨found, List.mem_cons_of_mem _ hfound, hround⟩

theorem bind_eq_error_iff {x : Py α} {f : α → Py β} {exception : Raised} :
    (x >>= f) = .error exception ↔ x = .error exception ∨ ∃ a, x = .ok a ∧ f a = .error exception := by
  cases x <;> simp [Bind.bind, Except.bind]

/-- A loop of checks raises what one of them raises. -/
theorem exists_of_forM_eq_error {items : List α} {check : α → Py Unit} {exception : Raised}
    (hraised : items.forM check = .error exception) : ∃ item ∈ items, check item = .error exception := by
  induction items with
  | nil => cases hraised
  | cons item rest ih =>
    have hcons : (item :: rest).forM check = check item >>= fun _ => rest.forM check := rfl
    rw [hcons, bind_eq_error_iff] at hraised
    obtain hitem | ⟨_, -, hrest⟩ := hraised
    · exact ⟨item, List.mem_cons_self, hitem⟩
    · obtain ⟨failed, hfailed, hcheck⟩ := ih hrest
      exact ⟨failed, List.mem_cons_of_mem _ hfailed, hcheck⟩

theorem thread_cons_eq_error {item : α} {rest : List α} {exception : Raised} :
    thread body (item :: rest) state = .error exception ↔ body item state = .error exception ∨
      ∃ result between, body item state = .ok (result, between) ∧ thread body rest between = .error exception := by
  have hpure {result : β} {found : List β × σ} : (pure (result :: found.1, found.2) : Py (List β × σ)) ≠
      .error exception := nofun
  simp only [thread, bind_eq_error_iff, Prod.exists, hpure, and_false, exists_false, or_false]

/-- A loop raises what its body raises for some item. -/
theorem exists_of_thread_eq_error {items : List α} {exception : Raised}
    (hraised : thread body items state = .error exception) :
    ∃ item ∈ items, ∃ before, body item before = .error exception := by
  induction items generalizing state with
  | nil => cases hraised
  | cons item rest ih =>
    obtain hitem | ⟨_, between, -, hrest⟩ := thread_cons_eq_error.mp hraised
    · exact ⟨item, List.mem_cons_self, state, hitem⟩
    · obtain ⟨failed, hfailed, before, hbody⟩ := ih hrest
      exact ⟨failed, List.mem_cons_of_mem _ hfailed, before, hbody⟩

/-- A loop raises before an item, or where the items before it are done. -/
theorem thread_append_eq_error {first second : List α} {exception : Raised} :
    thread body (first ++ second) state = .error exception ↔ thread body first state = .error exception ∨
      ∃ results between, thread body first state = .ok (results, between) ∧
        thread body second between = .error exception := by
  induction first generalizing state with
  | nil =>
    simp only [List.nil_append, thread, reduceCtorEq, Except.ok.injEq, Prod.mk.injEq, false_or]
    constructor
    · exact fun hraised => ⟨[], state, ⟨rfl, rfl⟩, hraised⟩
    · rintro ⟨_, _, ⟨rfl, rfl⟩, hraised⟩
      exact hraised
  | cons item rest ih =>
    simp only [List.cons_append, thread_cons_eq_error, thread_cons_eq_ok, ih]
    constructor
    · rintro (hitem | ⟨result, next, hitem, hrest | ⟨results, between, hrest, hraised⟩⟩)
      · exact .inl (.inl hitem)
      · exact .inl (.inr ⟨result, next, hitem, hrest⟩)
      · exact .inr ⟨_, between, ⟨result, next, results, hitem, hrest, rfl⟩, hraised⟩
    · rintro ((hitem | ⟨result, next, hitem, hrest⟩) | ⟨_, between, ⟨result, next, results, hitem, hrest, rfl⟩, hraised⟩)
      · exact .inl hitem
      · exact .inr ⟨result, next, hitem, .inl hrest⟩
      · exact .inr ⟨result, next, hitem, .inr ⟨results, between, hrest, hraised⟩⟩

end python
