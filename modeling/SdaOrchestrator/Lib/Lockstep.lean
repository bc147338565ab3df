import SdaOrchestrator.Lib.Effects

namespace effects

namespace Program

variable {σ ε α β : Type}

/-- Two computations ended alike: they returned one value or raised one exception, and
the states they left are related. -/
def Agree (post : α → σ → σ → Prop) (raised : σ → σ → Prop) :
    Except ε α × σ → Except ε α × σ → Prop
  | (.ok a, t), (.ok a', t') => a = a' ∧ post a t t'
  | (.error e, t), (.error e', t') => e = e' ∧ raised t t'
  | _, _ => False

/-- From states related by `pre` the two computations end alike. -/
def Lockstep (pre : σ → σ → Prop) (m m' : Program σ ε α) (post : α → σ → σ → Prop)
    (raised : σ → σ → Prop) : Prop :=
  ∀ s s', pre s s' → Agree post raised (m s) (m' s')

section Rules

variable {pre : σ → σ → Prop} {post : α → σ → σ → Prop} {raised : σ → σ → Prop}

theorem Lockstep.pure {a : α} (h : ∀ s s', pre s s' → post a s s') :
    Lockstep pre (Pure.pure a : Program σ ε α) (Pure.pure a) post raised :=
  fun s s' hs => ⟨rfl, h s s' hs⟩

theorem Lockstep.raise {e : ε} (h : ∀ s s', pre s s' → raised s s') :
    Lockstep pre (Program.raise e : Program σ ε α) (Program.raise e) post raised :=
  fun s s' hs => ⟨rfl, h s s' hs⟩

theorem Lockstep.modify {f f' : σ → σ} {post : Unit → σ → σ → Prop}
    (h : ∀ s s', pre s s' → post () (f s) (f' s')) :
    Lockstep pre (Program.modify f : Program σ ε Unit) (Program.modify f') post raised :=
  fun s s' hs => ⟨rfl, h s s' hs⟩

theorem Lockstep.bind {m m' : Program σ ε α} {f f' : α → Program σ ε β} {post : β → σ → σ → Prop}
    (mid : α → σ → σ → Prop) (hm : Lockstep pre m m' mid raised)
    (hf : ∀ a, Lockstep (mid a) (f a) (f' a) post raised) :
    Lockstep pre (m >>= f) (m' >>= f') post raised := by
  intro s s' hs
  have hfirst := hm s s' hs
  simp only [Bind.bind]
  rcases hrun : m s with ⟨e | a, t⟩ <;> rcases hrun' : m' s' with ⟨e' | a', t'⟩ <;>
    rw [hrun, hrun'] at hfirst
  · exact hfirst
  · exact hfirst.elim
  · exact hfirst.elim
  · obtain ⟨rfl, hmid⟩ := hfirst
    exact hf a t t' hmid

/-- Pure steps that end alike: their exception changes nothing. -/
theorem Lockstep.lift_bind {x : Except ε α} {f f' : α → Program σ ε β} {post : β → σ → σ → Prop}
    (herror : ∀ s s', pre s s' → raised s s')
    (hf : ∀ a, x = .ok a → Lockstep pre (f a) (f' a) post raised) :
    Lockstep pre (Program.lift x >>= f) (Program.lift x >>= f') post raised := by
  cases x with
  | error e => exact fun s s' hs => ⟨rfl, herror s s' hs⟩
  | ok a => exact hf a rfl

/-- Pure steps whose values have the same image. -/
theorem Lockstep.lift_bind_map {γ : Type} {x x' : Except ε α} {f f' : α → Program σ ε β}
    {post : β → σ → σ → Prop} (g : α → γ) (hmap : x.map g = x'.map g)
    (herror : ∀ s s', pre s s' → raised s s')
    (hf : ∀ a a', g a = g a' → Lockstep pre (f a) (f' a') post raised) :
    Lockstep pre (Program.lift x >>= f) (Program.lift x' >>= f') post raised := by
  cases x with
  | error e =>
    cases x' with
    | error e' =>
      cases hmap
      exact fun s s' hs => ⟨rfl, herror s s' hs⟩
    | ok a' => cases hmap
  | ok a =>
    cases x' with
    | error e' => cases hmap
    | ok a' => exact hf a a' (Except.ok.inj hmap)

/-- What both sides read is the same. -/
theorem Lockstep.read_bind {g g' : σ → α} {f f' : α → Program σ ε β} {post : β → σ → σ → Prop}
    (hg : ∀ s s', pre s s' → g s = g' s') (hf : ∀ a, Lockstep pre (f a) (f' a) post raised) :
    Lockstep pre (Program.read g >>= f) (Program.read g' >>= f') post raised := by
  intro s s' hs
  have hrest := hf (g s) s s' hs
  have hread : (Program.read g' >>= f') s' = f' (g s) s' := by
    rw [hg s s' hs]
    rfl
  rw [hread]
  exact hrest

theorem Lockstep.ite {c : Prop} [Decidable c] {m m' n n' : Program σ ε α}
    (hm : c → Lockstep pre m m' post raised) (hn : ¬c → Lockstep pre n n' post raised) :
    Lockstep pre (if c then m else n) (if c then m' else n') post raised := by
  split
  · exact hm ‹_›
  · exact hn ‹_›

/-- `try: ... except` on both sides. -/
theorem Lockstep.attempt_bind {m m' : Program σ ε α} {f f' : Except ε α → Program σ ε β}
    {post : β → σ → σ → Prop} (mid : α → σ → σ → Prop) (caught : σ → σ → Prop)
    (hm : Lockstep pre m m' mid caught)
    (hok : ∀ a, Lockstep (mid a) (f (.ok a)) (f' (.ok a)) post raised)
    (herror : ∀ e, Lockstep caught (f (.error e)) (f' (.error e)) post raised) :
    Lockstep pre (m.attempt >>= f) (m'.attempt >>= f') post raised := by
  intro s s' hs
  have hfirst := hm s s' hs
  simp only [Bind.bind, Program.attempt]
  rcases hrun : m s with ⟨e | a, t⟩ <;> rcases hrun' : m' s' with ⟨e' | a', t'⟩ <;>
    rw [hrun, hrun'] at hfirst
  · obtain ⟨rfl, hcaught⟩ := hfirst
    exact herror e t t' hcaught
  · exact hfirst.elim
  · exact hfirst.elim
  · obtain ⟨rfl, hmid⟩ := hfirst
    exact hok a t t' hmid

/-- The rule of consequence. -/
theorem Lockstep.weaken {m m' : Program σ ε α} {pre' : σ → σ → Prop} {post' : α → σ → σ → Prop}
    {raised' : σ → σ → Prop} (hm : Lockstep pre m m' post raised)
    (hpre : ∀ s s', pre' s s' → pre s s') (hpost : ∀ a s s', post a s s' → post' a s s')
    (hraised : ∀ s s', raised s s' → raised' s s') : Lockstep pre' m m' post' raised' := by
  intro s s' hs
  have hfirst := hm s s' (hpre s s' hs)
  rcases hrun : m s with ⟨e | a, t⟩ <;> rcases hrun' : m' s' with ⟨e' | a', t'⟩ <;>
    rw [hrun, hrun'] at hfirst
  · exact ⟨hfirst.1, hraised t t' hfirst.2⟩
  · exact hfirst.elim
  · exact hfirst.elim
  · exact ⟨hfirst.1, hpost a t t' hfirst.2⟩

/-- What relates the states either way relates the states in which both sides end. -/
theorem Lockstep.final {m m' : Program σ ε α} {post : σ → σ → Prop}
    (hm : Lockstep pre m m' (fun _ => post) post) {s s' : σ} (hs : pre s s') :
    post (m s).2 (m' s').2 := by
  have hend := hm s s' hs
  rcases hrun : m s with ⟨e | a, t⟩ <;> rcases hrun' : m' s' with ⟨e' | a', t'⟩ <;>
    rw [hrun, hrun'] at hend
  · exact hend.2
  · exact hend.elim
  · exact hend.elim
  · exact hend.2

end Rules

/-- The two computations keep a relation between their states. -/
def Steady (R : σ → σ → Prop) (m m' : Program σ ε α) : Prop :=
  Lockstep R m m' (fun _ => R) R

section Steady

variable {R : σ → σ → Prop}

theorem Steady.pure {a : α} : Steady R (Pure.pure a : Program σ ε α) (Pure.pure a) :=
  Lockstep.pure fun _ _ hs => hs

theorem Steady.raise {e : ε} : Steady R (Program.raise e : Program σ ε α) (Program.raise e) :=
  Lockstep.raise fun _ _ hs => hs

theorem Steady.bind {m m' : Program σ ε α} {f f' : α → Program σ ε β} (hm : Steady R m m')
    (hf : ∀ a, Steady R (f a) (f' a)) : Steady R (m >>= f) (m' >>= f') :=
  Lockstep.bind (fun _ => R) hm hf

theorem Steady.lift_bind {x : Except ε α} {f f' : α → Program σ ε β}
    (hf : ∀ a, Steady R (f a) (f' a)) :
    Steady R (Program.lift x >>= f) (Program.lift x >>= f') :=
  Lockstep.lift_bind (fun _ _ hs => hs) fun a _ => hf a

theorem Steady.read_bind {g g' : σ → α} {f f' : α → Program σ ε β}
    (hg : ∀ s s', R s s' → g s = g' s') (hf : ∀ a, Steady R (f a) (f' a)) :
    Steady R (Program.read g >>= f) (Program.read g' >>= f') :=
  Lockstep.read_bind hg hf

theorem Steady.ite {c : Prop} [Decidable c] {m m' n n' : Program σ ε α} (hm : Steady R m m')
    (hn : Steady R n n') : Steady R (if c then m else n) (if c then m' else n') :=
  Lockstep.ite (fun _ => hm) fun _ => hn

theorem Steady.attempt_bind {m m' : Program σ ε α} {f f' : Except ε α → Program σ ε β}
    (hm : Steady R m m') (hf : ∀ outcome, Steady R (f outcome) (f' outcome)) :
    Steady R (m.attempt >>= f) (m'.attempt >>= f') :=
  Lockstep.attempt_bind (fun _ => R) R hm (fun a => hf (.ok a)) fun e => hf (.error e)

theorem Steady.each {items : List α} {body body' : α → Program σ ε Unit}
    (hbody : ∀ x, Steady R (body x) (body' x)) :
    Steady R (Program.each items body) (Program.each items body') := by
  induction items with
  | nil => exact Steady.pure
  | cons x rest ih => exact (hbody x).bind fun _ => ih

theorem Steady.collect {items : List α} {body body' : α → Program σ ε β}
    (hbody : ∀ x, Steady R (body x) (body' x)) :
    Steady R (Program.collect items body) (Program.collect items body') := by
  induction items with
  | nil => exact Steady.pure
  | cons x rest ih => exact (hbody x).bind fun _ => ih.bind fun _ => Steady.pure

/-- What keeps every relation of a family keeps their union. -/
theorem Steady.of_forall {ι : Type} {family : ι → σ → σ → Prop} {m m' : Program σ ε α}
    (hm : ∀ i, Steady (family i) m m') : Steady (fun s s' => ∃ i, family i s s') m m' := by
  rintro s s' ⟨i, hs⟩
  exact (hm i).weaken (fun _ _ h => h) (fun _ _ _ h => ⟨i, h⟩) (fun _ _ h => ⟨i, h⟩) s s' hs

end Steady

end Program

end effects
