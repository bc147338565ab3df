/-! Threads take turns on a shared state: each takes one atomic step at a time, and between two of its steps the
others may take any number of theirs. -/

namespace threads

/-- A thread is done, or it takes an atomic step on the shared state, with an input from outside, and goes on with what
the step returns. -/
inductive Thread (ι σ α : Type) : Type 1 where
  | done (result : α)
  | step {β : Type} (action : ι → σ → β × σ) (next : β → Thread ι σ α)

namespace Thread

variable {ι σ α β : Type}

def bind : Thread ι σ α → (α → Thread ι σ β) → Thread ι σ β
  | .done result, f => f result
  | .step action next, f => .step action fun answer => (next answer).bind f

instance thread_monad : Monad (Thread ι σ) where
  pure := .done
  bind := .bind

/-- A single step. -/
def atomic (action : ι → σ → β × σ) : Thread ι σ β := .step action .done

/-- The thread takes its next step. -/
def advance (input : ι) (shared : σ) : Thread ι σ α → Thread ι σ α × σ
  | .done result => (.done result, shared)
  | .step action next => (next (action input shared).1, (action input shared).2)

def is_done : Thread ι σ α → Bool
  | .done _ => true
  | .step _ _ => false

/-! ## Steps -/

/-- Every step relates the states before and after it. -/
def Within (R : ι → σ → σ → Prop) : Thread ι σ α → Prop
  | .done _ => True
  | .step action next => ∀ input shared,
    R input shared (action input shared).2 ∧ (next (action input shared).1).Within R

section Within

variable {R : ι → σ → σ → Prop}

theorem Within.atomic {action : ι → σ → α × σ} (haction : ∀ input shared, R input shared (action input shared).2) :
    (Thread.atomic action).Within R := fun input shared => ⟨haction input shared, trivial⟩

theorem Within.bind {thread : Thread ι σ α} {f : α → Thread ι σ β} (hthread : thread.Within R)
    (hf : ∀ result, (f result).Within R) : (thread >>= f).Within R := by
  induction thread with
  | done result => exact hf result
  | step action next ih =>
    intro input shared
    obtain ⟨hstep, hnext⟩ := hthread input shared
    exact ⟨hstep, ih _ hnext⟩

theorem Within.weaken {thread : Thread ι σ α} {S : ι → σ → σ → Prop} (hthread : thread.Within R)
    (himp : ∀ input shared next, R input shared next → S input shared next) : thread.Within S := by
  induction thread with
  | done result => trivial
  | step action next ih =>
    intro input shared
    obtain ⟨hstep, hnext⟩ := hthread input shared
    exact ⟨himp input shared _ hstep, ih _ hnext⟩

theorem Within.advance {thread : Thread ι σ α} {P : σ → Prop} (hthread : thread.Within R)
    (hkept : ∀ input shared next, R input shared next → P shared → P next) (input : ι) {shared : σ}
    (hshared : P shared) :
    P (thread.advance input shared).2 ∧ (thread.advance input shared).1.Within R := by
  cases thread with
  | done result => exact ⟨hshared, trivial⟩
  | step action next =>
    obtain ⟨hstep, hnext⟩ := hthread input shared
    exact ⟨hkept input shared _ hstep hshared, hnext⟩

end Within

/-! ## Obligations -/

/-- While something is pending after its steps, the thread does not end but with such a result. -/
def Settles (pending : σ → Prop) (post : α → Prop) : Thread ι σ α → Prop
  | .done result => post result
  | .step action next => ∀ input shared, pending shared → pending (action input shared).2 →
    (next (action input shared).1).Settles pending post

/-- The thread ends only when nothing is pending any more. -/
def Owes (pending : σ → Prop) (thread : Thread ι σ α) : Prop := thread.Settles pending fun _ => False

/-- What becomes pending by a step is settled by the rest, or handed on with the result. -/
def Answers {κ : Type} (pending : κ → σ → Prop) (handed : α → κ → Prop) : Thread ι σ α → Prop
  | .done _ => True
  | .step action next => ∀ input shared,
    (∀ key, ¬pending key shared → pending key (action input shared).2 →
      (next (action input shared).1).Settles (pending key) fun result => handed result key) ∧
    (next (action input shared).1).Answers pending handed

section Obligations

variable {pending : σ → Prop} {mid : α → Prop} {post : β → Prop}

theorem Settles.bind {thread : Thread ι σ α} {f : α → Thread ι σ β} (hthread : thread.Settles pending mid)
    (hf : ∀ result, mid result → (f result).Settles pending post) : (thread >>= f).Settles pending post := by
  induction thread with
  | done result => exact hf result hthread
  | step action next ih => exact fun input shared hbefore hafter => ih _ (hthread input shared hbefore hafter)

/-- A result of any kind settles what is left open. -/
theorem settles_of_forall (thread : Thread ι σ α) (hmid : ∀ result, mid result) : thread.Settles pending mid := by
  induction thread with
  | done result => exact hmid result
  | step action next ih => exact fun input shared hbefore hafter => ih _

theorem Settles.weaken {thread : Thread ι σ α} {post : α → Prop} (hthread : thread.Settles pending mid)
    (himp : ∀ result, mid result → post result) : thread.Settles pending post := by
  induction thread with
  | done result => exact himp result hthread
  | step action next ih => exact fun input shared hbefore hafter => ih _ (hthread input shared hbefore hafter)

theorem Owes.advance {thread : Thread ι σ α} {input : ι} {shared : σ} (howes : thread.Owes pending)
    (hbefore : pending shared) (hafter : pending (thread.advance input shared).2) :
    (thread.advance input shared).1.Owes pending := by
  cases thread with
  | done result => exact howes.elim
  | step action next => exact howes input shared hbefore hafter

theorem Owes.not_done {thread : Thread ι σ α} (howes : thread.Owes pending) : thread.is_done = false := by
  cases thread with
  | done result => exact howes.elim
  | step action next => rfl

variable {κ : Type} {pending : κ → σ → Prop} {handed : α → κ → Prop} {left : β → κ → Prop}

theorem Answers.bind {thread : Thread ι σ α} {f : α → Thread ι σ β} (hthread : thread.Answers pending handed)
    (hhanded : ∀ result key, handed result key → (f result).Settles (pending key) fun final => left final key)
    (hf : ∀ result, (f result).Answers pending left) : (thread >>= f).Answers pending left := by
  induction thread with
  | done result => exact hf result
  | step action next ih =>
    intro input shared
    obtain ⟨hsettles, hnext⟩ := hthread input shared
    refine ⟨fun key hbefore hafter => ?_, ih _ hnext⟩
    exact (hsettles key hbefore hafter).bind fun result hresult => hhanded result key hresult

/-- Steps that make nothing pending. -/
theorem Answers.quiet {R : ι → σ → σ → Prop} {thread : Thread ι σ α} (hthread : thread.Within R)
    (hquiet : ∀ input shared next key, R input shared next → pending key next → pending key shared) :
    thread.Answers pending handed := by
  induction thread with
  | done result => trivial
  | step action next ih =>
    intro input shared
    obtain ⟨hstep, hnext⟩ := hthread input shared
    exact ⟨fun key hbefore hafter => absurd (hquiet input shared _ key hstep hafter) hbefore, ih _ hnext⟩

theorem Answers.advance {thread : Thread ι σ α} (hthread : thread.Answers pending fun _ _ => False) (input : ι)
    (shared : σ) :
    (∀ key, ¬pending key shared → pending key (thread.advance input shared).2 →
      (thread.advance input shared).1.Owes (pending key)) ∧
    (thread.advance input shared).1.Answers pending fun _ _ => False := by
  cases thread with
  | done result => exact ⟨fun key hbefore hafter => absurd hafter hbefore, trivial⟩
  | step action next => exact hthread input shared

end Obligations

end Thread

/-! ## Pools of threads -/

section Pool

/-- A shared state with the threads that work on it. -/
structure Pool (ι σ α : Type) where
  shared : σ
  threads : List (Thread ι σ α)

/-- What happens next: a request comes in, one of the threads takes a step, or something else changes the state. -/
inductive Event (ρ ι ο : Type) where
  | arrive (request : ρ)
  | advance (index : Nat) (input : ι)
  | outside (change : ο)

variable {ρ ι ο σ α : Type}

/-- One of the threads takes its next step, if it is there. -/
def Pool.advance (pool : Pool ι σ α) (index : Nat) (input : ι) : Pool ι σ α :=
  match pool.threads[index]? with
  | some thread => {
      shared := (thread.advance input pool.shared).2
      threads := pool.threads.set index (thread.advance input pool.shared).1 }
  | none => pool

/-- The pool after an event. -/
def Pool.next (handle : ρ → Thread ι σ α) (changed : ο → σ → σ) (pool : Pool ι σ α) : Event ρ ι ο → Pool ι σ α
  | .arrive request => { pool with threads := pool.threads ++ [handle request] }
  | .advance index input => pool.advance index input
  | .outside change => { pool with shared := changed change pool.shared }

/-- The pool after a schedule, without threads at first. -/
def after (handle : ρ → Thread ι σ α) (changed : ο → σ → σ) (start : σ) (schedule : List (Event ρ ι ο)) : Pool ι σ α :=
  schedule.foldl (Pool.next handle changed) ⟨start, []⟩

variable {handle : ρ → Thread ι σ α} {changed : ο → σ → σ} {start : σ}

/-- What holds at first and is kept by every event of a schedule holds after it. -/
theorem after_induction (inv : Pool ι σ α → Prop) (hstart : inv ⟨start, []⟩) {schedule : List (Event ρ ι ο)}
    (hnext : ∀ event ∈ schedule, ∀ pool, inv pool → inv (pool.next handle changed event)) :
    inv (after handle changed start schedule) := by
  suffices hall : ∀ pool, inv pool → inv (schedule.foldl (Pool.next handle changed) pool) from hall _ hstart
  induction schedule with
  | nil => exact fun pool hpool => hpool
  | cons event rest ih =>
    obtain ⟨hevent, hrest⟩ := List.forall_mem_cons.mp hnext
    exact fun pool hpool => ih hrest _ (hevent pool hpool)

theorem Pool.advance_cases (pool : Pool ι σ α) (index : Nat) (input : ι) : pool.advance index input = pool ∨
    ∃ thread, pool.threads[index]? = some thread ∧ pool.advance index input = {
      shared := (thread.advance input pool.shared).2
      threads := pool.threads.set index (thread.advance input pool.shared).1 } := by
  unfold Pool.advance
  split
  · rename_i thread hfound
    exact .inr ⟨thread, hfound, rfl⟩
  · exact .inl rfl

/-- A property that every step of a thread keeps, and everything else that a schedule has happen, holds of the shared
state after the schedule. -/
theorem kept_after {R : ι → σ → σ → Prop} {P : σ → Prop} {schedule : List (Event ρ ι ο)} (hstart : P start)
    (hhandle : ∀ request, (handle request).Within R)
    (hkept : ∀ input shared next, R input shared next → P shared → P next)
    (houtside : ∀ change, .outside change ∈ schedule → ∀ shared, P shared → P (changed change shared)) :
    P (after handle changed start schedule).shared := by
  refine (after_induction (fun pool => P pool.shared ∧ ∀ thread ∈ pool.threads, thread.Within R)
    ⟨hstart, List.forall_mem_nil _⟩ ?_).1
  rintro event hevent pool ⟨hshared, hthreads⟩
  cases event with
  | arrive request =>
    refine ⟨hshared, fun thread hthread => ?_⟩
    obtain hthread | hthread := List.mem_append.mp hthread
    · exact hthreads thread hthread
    · exact List.mem_singleton.mp hthread ▸ hhandle request
  | advance index input =>
    obtain hsame | ⟨thread, hfound, hnext⟩ := pool.advance_cases index input
    · rw [Pool.next, hsame]
      exact ⟨hshared, hthreads⟩
    · rw [Pool.next, hnext]
      obtain ⟨hafter, hrest⟩ := (hthreads thread (List.mem_of_getElem? hfound)).advance hkept input hshared
      refine ⟨hafter, fun other hother => ?_⟩
      obtain hother | rfl := List.mem_or_eq_of_mem_set hother
      · exact hthreads other hother
      · exact hrest
  | outside change => exact ⟨houtside change hevent pool.shared hshared, hthreads⟩

/-- What is pending after a schedule is owed by one of the threads. -/
theorem owed_after {κ : Type} {pending : κ → σ → Prop} (hstart : ∀ key, ¬pending key start)
    (hhandle : ∀ request, (handle request).Answers pending fun _ _ => False)
    (houtside : ∀ change shared key, pending key (changed change shared) → pending key shared)
    (schedule : List (Event ρ ι ο)) {key : κ} (hpending : pending key (after handle changed start schedule).shared) :
    ∃ thread ∈ (after handle changed start schedule).threads, thread.Owes (pending key) := by
  let Owed (pool : Pool ι σ α) (key : κ) : Prop := ∃ (index : Nat) (thread : Thread ι σ α),
    pool.threads[index]? = some thread ∧ thread.Owes (pending key)
  suffices hall : (∀ key, pending key (after handle changed start schedule).shared →
      Owed (after handle changed start schedule) key) ∧
      ∀ thread ∈ (after handle changed start schedule).threads, thread.Answers pending fun _ _ => False by
    obtain ⟨index, thread, hfound, howes⟩ := hall.1 key hpending
    exact ⟨thread, List.mem_of_getElem? hfound, howes⟩
  refine after_induction (fun pool => (∀ key, pending key pool.shared → Owed pool key) ∧
      ∀ thread ∈ pool.threads, thread.Answers pending fun _ _ => False)
    ⟨fun key hcontra => absurd hcontra (hstart key), List.forall_mem_nil _⟩ ?_
  rintro event - pool ⟨howed, hthreads⟩
  cases event with
  | arrive request =>
    constructor
    · intro key hkey
      obtain ⟨index, thread, hfound, howes⟩ := howed key hkey
      have hindex := (List.getElem?_eq_some_iff.mp hfound).1
      exact ⟨index, thread, (List.getElem?_append_left hindex).trans hfound, howes⟩
    · intro thread hthread
      obtain hthread | hthread := List.mem_append.mp hthread
      · exact hthreads thread hthread
      · exact List.mem_singleton.mp hthread ▸ hhandle request
  | advance index input =>
    obtain hsame | ⟨thread, hfound, hnext⟩ := pool.advance_cases index input
    · rw [Pool.next, hsame]
      exact ⟨howed, hthreads⟩
    · rw [Pool.next, hnext]
      have hindex := (List.getElem?_eq_some_iff.mp hfound).1
      obtain ⟨hnew, hrest⟩ :=
        (hthreads thread (List.mem_of_getElem? hfound)).advance input pool.shared
      constructor
      · intro key hafter
        by_cases hbefore : pending key pool.shared
        · obtain ⟨position, owner, howner, howes⟩ := howed key hbefore
          by_cases hposition : index = position
          · subst hposition
            obtain rfl := Option.some.inj (hfound.symm.trans howner)
            exact ⟨index, _, List.getElem?_set_self hindex, howes.advance hbefore hafter⟩
          · exact ⟨position, owner, (List.getElem?_set_ne hposition).trans howner, howes⟩
        · exact ⟨index, _, List.getElem?_set_self hindex, hnew key hbefore hafter⟩
      · intro other hother
        obtain hother | rfl := List.mem_or_eq_of_mem_set hother
        · exact hthreads other hother
        · exact hrest
  | outside change => exact ⟨fun key hafter => howed key (houtside change pool.shared key hafter), hthreads⟩

end Pool

end threads
