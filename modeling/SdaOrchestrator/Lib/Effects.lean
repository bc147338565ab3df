namespace effects

variable {σ ε α β : Type}

/-- A computation that changes a state and returns or raises. What it did to the
state before it raised stays done. -/
def Program (σ ε α : Type) : Type := σ → Except ε α × σ

namespace Program

instance : Monad (Program σ ε) where
  pure a := fun s => (.ok a, s)
  bind m f := fun s =>
    match m s with
    | (.ok a, t) => f a t
    | (.error e, t) => (.error e, t)

/-- `raise e`. -/
def raise (e : ε) : Program σ ε α := fun s => (.error e, s)

/-- A computation that touches no state. -/
def lift (x : Except ε α) : Program σ ε α := fun s => (x, s)

/-- Read from the state. -/
def read (f : σ → α) : Program σ ε α := fun s => (.ok (f s), s)

/-- Change the state. -/
def modify (f : σ → σ) : Program σ ε Unit := fun s => (.ok (), f s)

/-- `try: ... except`: the outcome of a computation as a value. -/
def attempt (m : Program σ ε α) : Program σ ε (Except ε α) := fun s => (.ok (m s).1, (m s).2)

/-- `for x in items: body`. -/
def each (items : List α) (body : α → Program σ ε Unit) : Program σ ε Unit :=
  match items with
  | [] => pure ()
  | x :: rest => do
    body x
    each rest body

/-- `[body(x) for x in items]`. -/
def collect (items : List α) (body : α → Program σ ε β) : Program σ ε (List β) :=
  match items with
  | [] => pure []
  | x :: rest => do
    let y ← body x
    let ys ← collect rest body
    return y :: ys

theorem bind_of_ok {m : Program σ ε α} {f : α → Program σ ε β} {s t : σ} {a : α}
    (hok : m s = (.ok a, t)) : (m >>= f) s = f a t := by
  show (match m s with
    | (.ok a, t) => f a t
    | (.error e, t) => (.error e, t)) = f a t
  rw [hok]

/-- A sequence returns when both parts do, one after the other. -/
theorem returns_bind_iff {m : Program σ ε α} {f : α → Program σ ε β} {s u : σ} {b : β} :
    (m >>= f) s = (.ok b, u) ↔ ∃ a t, m s = (.ok a, t) ∧ f a t = (.ok b, u) := by
  simp only [Bind.bind]
  rcases m s with ⟨e | a, t⟩
  · simp
  · exact ⟨fun h => ⟨a, t, rfl, h⟩, by rintro ⟨_, _, ⟨⟩, h⟩; exact h⟩

theorem returns_lift_iff {x : Except ε α} {s t : σ} {a : α} :
    (Program.lift x : Program σ ε α) s = (.ok a, t) ↔ x = .ok a ∧ s = t := by
  simp [Program.lift]

theorem returns_pure_iff {s t : σ} {a b : α} :
    (Pure.pure a : Program σ ε α) s = (.ok b, t) ↔ a = b ∧ s = t := by
  simp [Pure.pure]

/-- What is to hold after a return and after an exception. -/
def Meets (post : α → σ → Prop) (raised : ε → σ → Prop) : Except ε α × σ → Prop
  | (.ok a, t) => post a t
  | (.error e, t) => raised e t

/-- From a state that meets `pre`, the computation returns in a state that meets
`post` or raises in one that meets `raised`. -/
def Triple (pre : σ → Prop) (m : Program σ ε α) (post : α → σ → Prop) (raised : ε → σ → Prop) :
    Prop :=
  ∀ s, pre s → Meets post raised (m s)

section Rules

variable {pre : σ → Prop} {post : α → σ → Prop} {raised : ε → σ → Prop}

theorem Triple.pure {a : α} (h : ∀ s, pre s → post a s) :
    Triple pre (Pure.pure a : Program σ ε α) post raised := h

theorem Triple.raise {e : ε} (h : ∀ s, pre s → raised e s) :
    Triple pre (Program.raise e : Program σ ε α) post raised := h

theorem Triple.read {f : σ → α} (h : ∀ s, pre s → post (f s) s) :
    Triple pre (Program.read f : Program σ ε α) post raised := h

theorem Triple.modify {f : σ → σ} {post : Unit → σ → Prop} (h : ∀ s, pre s → post () (f s)) :
    Triple pre (Program.modify f : Program σ ε Unit) post raised := h

theorem Triple.lift {x : Except ε α} (hok : ∀ a s, x = .ok a → pre s → post a s)
    (herror : ∀ e s, x = .error e → pre s → raised e s) :
    Triple pre (Program.lift x : Program σ ε α) post raised := by
  intro s hs
  cases x with
  | ok a => exact hok a s rfl hs
  | error e => exact herror e s rfl hs

theorem Triple.bind {m : Program σ ε α} {f : α → Program σ ε β} {post : β → σ → Prop}
    (mid : α → σ → Prop) (hm : Triple pre m mid raised)
    (hf : ∀ a, Triple (mid a) (f a) post raised) : Triple pre (m >>= f) post raised := by
  intro s hs
  have hfirst := hm s hs
  simp only [Bind.bind]
  rcases hrun : m s with ⟨e | a, t⟩ <;> rw [hrun] at hfirst
  · exact hfirst
  · exact hf a t hfirst

theorem Triple.attempt {m : Program σ ε α} {post : Except ε α → σ → Prop}
    (hm : Triple pre m (fun a => post (.ok a)) (fun e => post (.error e))) :
    Triple pre m.attempt post raised := by
  intro s hs
  have hfirst := hm s hs
  simp only [Program.attempt]
  rcases hrun : m s with ⟨e | a, t⟩ <;> rw [hrun] at hfirst <;> exact hfirst

/-- `try: m` followed by what is done with either outcome. -/
theorem Triple.attempt_bind {m : Program σ ε α} {f : Except ε α → Program σ ε β}
    {post : β → σ → Prop} (mid : α → σ → Prop) (caught : ε → σ → Prop) (hm : Triple pre m mid caught)
    (hok : ∀ a, Triple (mid a) (f (.ok a)) post raised)
    (herror : ∀ e, Triple (caught e) (f (.error e)) post raised) :
    Triple pre (m.attempt >>= f) post raised := by
  intro s hs
  have hfirst := hm s hs
  simp only [Bind.bind, Program.attempt]
  rcases hrun : m s with ⟨e | a, t⟩ <;> rw [hrun] at hfirst
  · exact herror e t hfirst
  · exact hok a t hfirst

/-- The rule of consequence. -/
theorem Triple.weaken {m : Program σ ε α} {pre' : σ → Prop} {post' : α → σ → Prop}
    {raised' : ε → σ → Prop} (hm : Triple pre m post raised) (hpre : ∀ s, pre' s → pre s)
    (hpost : ∀ a s, post a s → post' a s) (hraised : ∀ e s, raised e s → raised' e s) :
    Triple pre' m post' raised' := by
  intro s hs
  have hfirst := hm s (hpre s hs)
  rcases hrun : m s with ⟨e | a, t⟩ <;> rw [hrun] at hfirst
  · exact hraised e t hfirst
  · exact hpost a t hfirst

/-- Two triples of one computation hold together. -/
theorem Triple.and {m : Program σ ε α} {pre' : σ → Prop} {post' : α → σ → Prop}
    {raised' : ε → σ → Prop} (hm : Triple pre m post raised) (hm' : Triple pre' m post' raised') :
    Triple (fun s => pre s ∧ pre' s) m (fun a s => post a s ∧ post' a s)
      (fun e s => raised e s ∧ raised' e s) := by
  intro s hs
  have hfirst := hm s hs.1
  have hsecond := hm' s hs.2
  rcases hrun : m s with ⟨e | a, t⟩ <;> rw [hrun] at hfirst hsecond
  · exact ⟨hfirst, hsecond⟩
  · exact ⟨hfirst, hsecond⟩

/-- What holds either way holds of the state in which the computation ends. -/
theorem Triple.final {m : Program σ ε α} {post : σ → Prop}
    (hm : Triple pre m (fun _ => post) (fun _ => post)) {s : σ} (hs : pre s) : post (m s).2 := by
  have hend := hm s hs
  rcases hrun : m s with ⟨e | a, t⟩ <;> rw [hrun] at hend
  · exact hend
  · exact hend

/-- A computation may be verified for every state that meets the precondition. -/
theorem Triple.of_pre {m : Program σ ε α}
    (h : ∀ s₀, pre s₀ → Triple (fun s => s = s₀) m post raised) : Triple pre m post raised :=
  fun s hs => h s hs s rfl

theorem Triple.ite {c : Prop} [Decidable c] {m n : Program σ ε α}
    (hm : c → Triple pre m post raised) (hn : ¬c → Triple pre n post raised) :
    Triple pre (if c then m else n) post raised := by
  split
  · exact hm ‹_›
  · exact hn ‹_›

/-- A pure step first: its result is known to the rest, and its exception changes nothing. -/
theorem Triple.lift_bind {x : Except ε α} {f : α → Program σ ε β} {post : β → σ → Prop}
    (herror : ∀ e s, pre s → raised e s) (hf : ∀ a, x = .ok a → Triple pre (f a) post raised) :
    Triple pre (Program.lift x >>= f) post raised := by
  cases x with
  | error e => exact fun s hs => herror e s hs
  | ok a => exact hf a rfl

/-- What is read from the state is known to the rest. -/
theorem Triple.read_bind {g : σ → α} {f : α → Program σ ε β} {post : β → σ → Prop}
    (hf : ∀ a, Triple (fun s => pre s ∧ g s = a) (f a) post raised) :
    Triple pre (Program.read g >>= f) post raised :=
  fun s hs => hf (g s) s ⟨hs, rfl⟩

/-- A loop whose body turns the invariant of the items done into that of one more. -/
theorem Triple.each {items : List α} {body : α → Program σ ε Unit} (inv : List α → σ → Prop)
    (hbody : ∀ done x rest, items = done ++ x :: rest →
      Triple (inv done) (body x) (fun _ => inv (done ++ [x])) raised) :
    Triple (inv []) (Program.each items body) (fun _ => inv items) raised := by
  suffices hloop : ∀ done rest, items = done ++ rest →
      Triple (inv done) (Program.each rest body) (fun _ => inv items) raised from
    hloop [] items rfl
  intro done rest
  induction rest generalizing done with
  | nil =>
    intro hsplit
    rw [List.append_nil] at hsplit
    subst hsplit
    exact Triple.pure fun _ hs => hs
  | cons x rest ih =>
    intro hsplit
    apply Triple.bind _ (hbody done x rest hsplit)
    intro _
    apply ih
    rw [hsplit, List.append_assoc]
    rfl

/-- A loop that collects what its body returns. -/
theorem Triple.collect {items : List α} {body : α → Program σ ε β}
    (inv : List α → List β → σ → Prop)
    (hbody : ∀ done ys x rest, items = done ++ x :: rest →
      Triple (inv done ys) (body x) (fun y => inv (done ++ [x]) (ys ++ [y])) raised) :
    Triple (inv [] []) (Program.collect items body) (fun ys => inv items ys) raised := by
  suffices hloop : ∀ done ys rest, items = done ++ rest →
      Triple (inv done ys) (Program.collect rest body) (fun zs => inv items (ys ++ zs)) raised from
    hloop [] [] items rfl
  intro done ys rest
  induction rest generalizing done ys with
  | nil =>
    intro hsplit
    rw [List.append_nil] at hsplit
    subst hsplit
    apply Triple.pure
    intro s hs
    rwa [List.append_nil]
  | cons x rest ih =>
    intro hsplit
    apply Triple.bind _ (hbody done ys x rest hsplit)
    intro y
    have hrest := ih (done ++ [x]) (ys ++ [y]) (by rw [hsplit, List.append_assoc]; rfl)
    apply Triple.bind _ hrest
    intro zs
    apply Triple.pure
    intro s hs
    rwa [List.append_assoc] at hs

end Rules

/-- The computation keeps a property, whether it returns or raises. -/
def Keeps (P : σ → Prop) (m : Program σ ε α) : Prop := Triple P m (fun _ => P) (fun _ => P)

section Keeps

variable {P : σ → Prop}

theorem Keeps.pure {a : α} : Keeps P (Pure.pure a : Program σ ε α) := fun _ hs => hs

theorem Keeps.raise {e : ε} : Keeps P (Program.raise e : Program σ ε α) := fun _ hs => hs

theorem Keeps.read {f : σ → α} : Keeps P (Program.read f : Program σ ε α) := fun _ hs => hs

theorem Keeps.bind {m : Program σ ε α} {f : α → Program σ ε β} (hm : Keeps P m)
    (hf : ∀ a, Keeps P (f a)) : Keeps P (m >>= f) :=
  Triple.bind (fun _ => P) hm hf

theorem Keeps.lift_bind {x : Except ε α} {f : α → Program σ ε β} (hf : ∀ a, Keeps P (f a)) :
    Keeps P (Program.lift x >>= f) :=
  Triple.lift_bind (fun _ _ hs => hs) fun a _ => hf a

theorem Keeps.ite {c : Prop} [Decidable c] {m n : Program σ ε α} (hm : Keeps P m)
    (hn : Keeps P n) : Keeps P (if c then m else n) :=
  Triple.ite (fun _ => hm) (fun _ => hn)

theorem Keeps.attempt {m : Program σ ε α} (hm : Keeps P m) : Keeps P m.attempt :=
  Triple.attempt hm

theorem Keeps.each {items : List α} {body : α → Program σ ε Unit}
    (hbody : ∀ x, Keeps P (body x)) : Keeps P (Program.each items body) :=
  Triple.each (fun _ => P) fun _ x _ _ => hbody x

theorem Keeps.collect {items : List α} {body : α → Program σ ε β}
    (hbody : ∀ x, Keeps P (body x)) : Keeps P (Program.collect items body) :=
  Triple.collect (fun _ _ => P) fun _ _ x _ _ => hbody x

/-- A step that only keeps the property, before one with a triple of its own. -/
theorem Keeps.then {m : Program σ ε α} {f : α → Program σ ε β} {post : β → σ → Prop}
    {raised : ε → σ → Prop} (hm : Keeps P m) (hraised : ∀ e s, P s → raised e s)
    (hf : ∀ a, Triple P (f a) post raised) : Triple P (m >>= f) post raised :=
  Triple.bind (fun _ => P) (hm.weaken (fun _ hs => hs) (fun _ _ hs => hs) hraised) hf

end Keeps

end Program

end effects
