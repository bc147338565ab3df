import SdaOrchestrator.Lib.Threads
import SdaOrchestrator.Store.Transactions

open python threads orchestrator.store

namespace orchestrator.api

/-! ## Calls of the store -/

/-- A part of a request: a thread that uses the store step by step, and may raise. -/
abbrev Call := ExceptT Raised (Thread Ambient Store)

/-- One transaction of the store; an exception rolls it back. -/
def transact {α : Type} (operation : Ambient → Store → Py (α × Store)) : Call α :=
  ExceptT.mk <| Thread.atomic fun ambient store =>
    match operation ambient store with
    | .ok (value, next) => (.ok value, next)
    | .error exception => (.error exception, store)

/-- One reading transaction of the store. -/
def query {α : Type} (read : Store → Py α) : Call α :=
  ExceptT.mk <| Thread.atomic fun _ store => (read store, store)

/-- A reading of the clock. -/
def clock : Call Datetime := ExceptT.mk <| Thread.atomic fun ambient store => (.ok (ambient.utc_now 0), store)

/-! ## Exceptions -/

/-- The class that an exception class is derived from, where a handler names it. -/
def base_class (type_name : String) : Option String :=
  if type_name ∈ ["NotFoundError", "ConflictError", "ApprovalRequiredError", "ExecutionDisabledError",
      "MaintenanceWindowError"] then some "StoreError"
  else if type_name ∈ ["AllocationError", "PlanValidationError", "PocIntakeError", "PocExecutionError",
      "ReconciliationError", "RenderError", "AddressValueError", "NetmaskValueError", "JSONDecodeError",
      "UnicodeEncodeError", "UnicodeDecodeError"] then some "ValueError"
  else none

/-- `isinstance(exception, classes)`. -/
def is_a (exception : Raised) (classes : List String) : Bool :=
  exception.type_name ∈ classes || (base_class exception.type_name).any (· ∈ classes)

/-- `try: ... except classes as exc: ...`. -/
def caught {α : Type} (body : Call α) (classes : List String) (handler : Raised → Call α) : Call α :=
  tryCatch body fun exception => if is_a exception classes then handler exception else throw exception

/-! ## What the steps of a call do -/

section Within

variable {α β : Type} {R : Ambient → Store → Store → Prop}

/-- Every step of a call relates the stores before and after it. -/
def Call.Within (R : Ambient → Store → Store → Prop) (call : Call α) : Prop := Thread.Within R call.run

theorem within_pure (value : α) : Call.Within R (pure value) := trivial

theorem within_throw (exception : Raised) : Call.Within R (throw exception : Call α) := trivial

theorem within_lift (result : Py α) : Call.Within R (liftM result : Call α) := by
  cases result <;> trivial

theorem within_bind {call : Call α} {f : α → Call β} (hcall : Call.Within R call)
    (hf : ∀ value, Call.Within R (f value)) : Call.Within R (call >>= f) :=
  Thread.Within.bind hcall fun result => match result with
    | .ok value => hf value
    | .error _ => trivial

theorem within_catch {body : Call α} {handler : Raised → Call α} (hbody : Call.Within R body)
    (hhandler : ∀ exception, Call.Within R (handler exception)) : Call.Within R (tryCatch body handler) :=
  Thread.Within.bind hbody fun result => match result with
    | .ok _ => trivial
    | .error exception => hhandler exception

theorem within_caught {body : Call α} {classes : List String} {handler : Raised → Call α}
    (hbody : Call.Within R body) (hhandler : ∀ exception, Call.Within R (handler exception)) :
    Call.Within R (caught body classes handler) := by
  refine within_catch hbody fun exception => ?_
  split
  · exact hhandler exception
  · exact within_throw exception

end Within

/-! ## What the steps of a call leave open -/

/-- What is to hold of a result, and of an exception. -/
def Outcome {α : Type} (returned : α → Prop) (raised : Raised → Prop) : Except Raised α → Prop
  | .ok value => returned value
  | .error exception => raised exception

section Obligations

variable {α β κ : Type}

/-- While something is pending after its steps, the call does not end but with such a result or exception. -/
def Call.Settles (pending : Store → Prop) (returned : α → Prop) (raised : Raised → Prop) (call : Call α) : Prop :=
  Thread.Settles pending (Outcome returned raised) call.run

/-- What becomes pending by a step is settled by the rest, or handed on with a result. -/
def Call.Answers (pending : κ → Store → Prop) (handed : α → κ → Prop) (call : Call α) : Prop :=
  Thread.Answers pending (fun result key => Outcome (handed · key) (fun _ => False) result) call.run

variable {pending : Store → Prop} {mid : α → Prop} {returned : β → Prop} {raised : Raised → Prop}

theorem settles_any (call : Call α) : Call.Settles pending (fun _ => True) (fun _ => True) call :=
  Thread.settles_of_forall _ fun result => match result with
    | .ok _ => trivial
    | .error _ => trivial

theorem settles_bind {call : Call α} {f : α → Call β} (hcall : Call.Settles pending mid raised call)
    (hf : ∀ value, mid value → Call.Settles pending returned raised (f value)) :
    Call.Settles pending returned raised (call >>= f) :=
  Thread.Settles.bind hcall fun result => match result with
    | .ok value => hf value
    | .error _ => id

/-- Nothing is left to settle after a call that never returns while something is pending. -/
theorem settles_never {call : Call α} {f : α → Call β} (hcall : Call.Settles pending (fun _ => False) raised call) :
    Call.Settles pending returned raised (call >>= f) := settles_bind hcall fun _ hnever => hnever.elim

theorem settles_catch {body : Call β} {handler : Raised → Call β} {caught : Raised → Prop}
    (hbody : Call.Settles pending returned caught body)
    (hhandler : ∀ exception, caught exception → Call.Settles pending returned raised (handler exception)) :
    Call.Settles pending returned raised (tryCatch body handler) :=
  Thread.Settles.bind hbody fun result => match result with
    | .ok _ => id
    | .error exception => hhandler exception

/-- A transaction that always commits, and leaves nothing pending. -/
theorem settles_transact {operation : Ambient → Store → Py (α × Store)}
    (hoperation : ∀ ambient before, pending before →
      ∃ value after, operation ambient before = .ok (value, after) ∧ ¬pending after) :
    Call.Settles pending (fun _ => False) (fun _ => False) (transact operation) := by
  intro ambient before hbefore hafter
  obtain ⟨value, after, hresult, hsettled⟩ := hoperation ambient before hbefore
  simp only [hresult] at hafter
  exact absurd hafter hsettled

variable {obligation : κ → Store → Prop} {handed : α → κ → Prop} {left : β → κ → Prop}

theorem answers_bind {call : Call α} {f : α → Call β} (hcall : Call.Answers obligation handed call)
    (hhanded : ∀ value key, handed value key →
      Call.Settles (obligation key) (left · key) (fun _ => False) (f value))
    (hf : ∀ value, Call.Answers obligation left (f value)) : Call.Answers obligation left (call >>= f) :=
  Thread.Answers.bind hcall
    (fun result key => match result with
      | .ok value => hhanded value key
      | .error _ => False.elim)
    fun result => match result with
      | .ok value => hf value
      | .error _ => trivial

theorem answers_quiet {R : Ambient → Store → Store → Prop} {call : Call α} (hcall : Call.Within R call)
    (hquiet : ∀ ambient before after key, R ambient before after → obligation key after → obligation key before) :
    Call.Answers obligation handed call := Thread.Answers.quiet hcall hquiet

/-- What a transaction makes pending is handed on with its result. -/
theorem answers_transact {operation : Ambient → Store → Py (α × Store)}
    (hoperation : ∀ ambient before value after key, operation ambient before = .ok (value, after) →
      ¬obligation key before → obligation key after → handed value key) :
    Call.Answers obligation handed (transact operation) := by
  intro ambient before
  refine ⟨fun key hbefore hafter => ?_, trivial⟩
  cases hresult : operation ambient before with
  | error exception =>
    simp only [hresult] at hafter
    exact absurd hafter hbefore
  | ok result =>
    simp only [hresult] at hafter ⊢
    exact hoperation ambient before result.1 result.2 key hresult hbefore hafter

end Obligations

/-! ## Granted transactions -/

section Granted

variable {α : Type} {platform : Platform} {derive_fabric_intent : Derive} {grants : Transaction → Prop}

/-- The store stays as it is, or a transaction that is granted is committed. -/
def Granted (platform : Platform) (derive_fabric_intent : Derive) (grants : Transaction → Prop) (ambient : Ambient)
    (before after : Store) : Prop :=
  after = before ∨ ∃ transaction, grants transaction ∧
    perform platform derive_fabric_intent ambient before transaction = .ok after

theorem within_query (read : Store → Py α) :
    Call.Within (Granted platform derive_fabric_intent grants) (query read) :=
  Thread.Within.atomic fun _ _ => .inl rfl

theorem within_clock : Call.Within (Granted platform derive_fabric_intent grants) clock :=
  Thread.Within.atomic fun _ _ => .inl rfl

theorem within_transact {operation : Ambient → Store → Py (α × Store)} (transaction : Transaction)
    (hperform : ∀ ambient store, perform platform derive_fabric_intent ambient store transaction =
      (operation ambient store).map Prod.snd) (hgrants : grants transaction) :
    Call.Within (Granted platform derive_fabric_intent grants) (transact operation) := by
  refine Thread.Within.atomic fun ambient store => ?_
  cases hresult : operation ambient store with
  | error exception => exact .inl rfl
  | ok result => exact .inr ⟨transaction, hgrants, by rw [hperform, hresult]; rfl⟩

end Granted

end orchestrator.api
