import SdaOrchestrator.Lib.Effects

namespace effects

/-- A computation that asks for what it needs and changes nothing. The request says
which type its answer has. -/
inductive Query (ρ : Type) (Answer : ρ → Type) (ε α : Type) : Type where
  | done (a : α)
  | raise (e : ε)
  | ask (request : ρ) (next : Answer request → Query ρ Answer ε α)

namespace Query

variable {ρ : Type} {Answer : ρ → Type} {σ ε α β : Type}

protected def bind (query : Query ρ Answer ε α) (f : α → Query ρ Answer ε β) : Query ρ Answer ε β :=
  match query with
  | done a => f a
  | raise e => raise e
  | ask request next => ask request fun a => (next a).bind f

instance : Monad (Query ρ Answer ε) where
  pure := done
  bind := Query.bind

/-- A computation that asks for nothing. -/
def lift : Except ε α → Query ρ Answer ε α
  | .ok a => done a
  | .error e => raise e

/-- The answer to one request. -/
def fetch (request : ρ) : Query ρ Answer ε (Answer request) := ask request done

/-- `[f(x) for x in items]`. -/
def collect (items : List α) (f : α → Query ρ Answer ε β) : Query ρ Answer ε (List β) :=
  match items with
  | [] => pure []
  | x :: rest => do
    let y ← f x
    let ys ← collect rest f
    return y :: ys

/-! ## What a query returns -/

/-- The outcome of a query whose requests are answered by `oracle`. -/
def answer (oracle : (request : ρ) → Except ε (Answer request)) : Query ρ Answer ε α → Except ε α
  | done a => .ok a
  | raise e => .error e
  | ask request next =>
    match oracle request with
    | .ok a => (next a).answer oracle
    | .error e => .error e

section Answer

variable {oracle : (request : ρ) → Except ε (Answer request)}

@[simp] theorem answer_pure (a : α) : (pure a : Query ρ Answer ε α).answer oracle = .ok a := rfl

@[simp] theorem answer_lift (x : Except ε α) : (lift x : Query ρ Answer ε α).answer oracle = x := by
  cases x <;> rfl

@[simp] theorem answer_fetch (request : ρ) :
    (fetch request : Query ρ Answer ε (Answer request)).answer oracle = oracle request := by
  rw [fetch, answer]
  cases oracle request <;> rfl

/-- A query answers step by step. -/
@[simp] theorem answer_bind (query : Query ρ Answer ε α) (f : α → Query ρ Answer ε β) :
    (query >>= f).answer oracle = query.answer oracle >>= fun a => (f a).answer oracle := by
  induction query with
  | done a => rfl
  | raise e => rfl
  | ask request next ih =>
    show (ask request fun a => next a >>= f).answer oracle = _
    rw [answer, answer]
    cases oracle request with
    | error e => rfl
    | ok a => exact ih a

@[simp] theorem answer_collect (items : List α) (f : α → Query ρ Answer ε β) :
    (collect items f).answer oracle = items.mapM fun x => (f x).answer oracle := by
  induction items with
  | nil => rfl
  | cons x rest ih =>
    rw [collect, List.mapM_cons, answer_bind]
    congr 1
    funext y
    rw [answer_bind, ih]
    rfl

end Answer

/-! ## Running a query -/

/-- The requests are sent one after the other. -/
def run (step : (request : ρ) → Program σ ε (Answer request)) : Query ρ Answer ε α → Program σ ε α
  | done a => pure a
  | raise e => Program.raise e
  | ask request next => step request >>= fun a => (next a).run step

section Run

open Program

@[simp] theorem run_pure {step : (request : ρ) → Program σ ε (Answer request)} (a : α) :
    (pure a : Query ρ Answer ε α).run step = pure a := rfl

@[simp] theorem run_lift {step : (request : ρ) → Program σ ε (Answer request)} (x : Except ε α) :
    (lift x : Query ρ Answer ε α).run step = Program.lift x := by
  cases x <;> rfl

@[simp] theorem run_fetch {step : (request : ρ) → Program σ ε (Answer request)} (request : ρ) :
    (fetch request : Query ρ Answer ε (Answer request)).run step = step request := by
  funext s
  show (step request >>= fun a => pure a) s = step request s
  simp only [Bind.bind]
  rcases step request s with ⟨e | a, t⟩ <;> rfl

/-- A query runs step by step. -/
@[simp] theorem run_bind {step : (request : ρ) → Program σ ε (Answer request)} (query : Query ρ Answer ε α)
    (f : α → Query ρ Answer ε β) : (query >>= f).run step = query.run step >>= fun a => (f a).run step := by
  induction query with
  | done a => rfl
  | raise e => rfl
  | ask request next ih =>
    show (step request >>= fun a => (next a >>= f).run step) = _
    funext s
    simp only [run, Bind.bind]
    rcases step request s with ⟨e | a, t⟩
    · rfl
    · exact congrFun (ih a) t

variable {inv : σ → Prop} {step : (request : ρ) → Program σ ε (Answer request)}
  {oracle : (request : ρ) → Except ε (Answer request)}

/-- Where every request that is answered is answered as by `oracle`, a query that
returns does so with its answer. -/
theorem triple_run
    (hstep : ∀ request, Triple inv (step request) (fun a s => inv s ∧ oracle request = .ok a) fun _ => inv)
    (query : Query ρ Answer ε α) :
    Triple inv (query.run step) (fun a s => inv s ∧ query.answer oracle = .ok a) fun _ => inv := by
  induction query with
  | done a => exact Triple.pure fun s hs => ⟨hs, rfl⟩
  | raise e => exact Triple.raise fun s hs => hs
  | ask request next ih =>
    refine Triple.bind _ (hstep request) fun a => Triple.of_pre fun s hs => ?_
    obtain ⟨hinv, horacle⟩ := hs
    refine (ih a).weaken (fun t ht => ht ▸ hinv) (fun b t ht => ⟨ht.1, ?_⟩) fun _ _ ht => ht
    rw [answer, horacle]
    exact ht.2

/-- Where every request is answered as by `oracle`, so is the query. -/
theorem run_eq (hstep : ∀ request s, inv s → (step request s).1 = oracle request ∧ inv (step request s).2)
    (query : Query ρ Answer ε α) {s : σ} (hs : inv s) :
    (query.run step s).1 = query.answer oracle ∧ inv (query.run step s).2 := by
  induction query generalizing s with
  | done a => exact ⟨rfl, hs⟩
  | raise e => exact ⟨rfl, hs⟩
  | ask request next ih =>
    obtain ⟨hanswer, hinv⟩ := hstep request s hs
    rw [run, answer, ← hanswer]
    simp only [Bind.bind]
    rcases hrun : step request s with ⟨e | a, t⟩ <;> rw [hrun] at hinv
    · exact ⟨rfl, hinv⟩
    · exact ih a hinv

end Run

end Query

end effects
