import SdaOrchestrator.Lib.Effects
import SdaOrchestrator.Store.Transactions

open python effects orchestrator.store

namespace orchestrator.worker

/-- A call that leaves the worker: a device adapter, the ISE executor or a resolver.
A configuration block is sent together with the phase and the block it comes from. -/
inductive Call where
  | adapter_factory (device_id : String) (device : Value)
  | connect (device_id : String)
  | run_show (device_id command : String)
  | create_checkpoint (device_id run_id : String)
  | apply_block (device_id phase_id : String) (block : Value) (commands : List String)
  | rollback (device_id checkpoint : String)
  | close (device_id : String)
  | ise_adapter_factory (manifest : Value)
  | ise_connect
  | ise_prepare
  | ise_apply
  | ise_rollback
  | ise_close
  | resolve_value (uri : String)
  | resolve_credentials (ref : String)

/-- What a worker has done: a call and its outcome, a gate it evaluated, and a store
transaction it committed. -/
inductive Event where
  | called (call : Call) (outcome : Py Value)
  | gate (gate : Value) (passed : Bool)
  | transaction (transaction : Transaction) (ambient : Ambient)

/-- Everything a worker does not decide itself. Every answer may depend on all that
happened before; `evidence_fault` makes an evidence write raise. -/
structure Outside where
  respond : List Event → Call → Py Value
  evidence_fault : List Event → Option Raised
  ise_has_changes : List Event → Bool
  ambient : List Event → Ambient

/-- The transactions a worker committed since it started, as a run of the store. -/
structure Session (platform : Platform) (derive_fabric_intent : Derive) (start : Store) where
  transactions : List ((Transaction × Ambient) × Store)
  history : transition.Run (Step platform derive_fabric_intent) start transactions

section Session

variable {platform : Platform} {derive_fabric_intent : Derive} {start : Store}

/-- The store as the worker's transactions have left it. -/
def Session.store (session : Session platform derive_fabric_intent start) : Store :=
  transition.last start session.transactions

def Session.extend (session : Session platform derive_fabric_intent start)
    (label : Transaction × Ambient) (next : Store)
    (hstep : Step platform derive_fabric_intent session.store label next) :
    Session platform derive_fabric_intent start where
  transactions := session.transactions ++ [(label, next)]
  history := session.history.append (.cons hstep (.nil next))

@[simp] theorem extend_store (session : Session platform derive_fabric_intent start)
    (label : Transaction × Ambient) (next : Store)
    (hstep : Step platform derive_fabric_intent session.store label next) :
    (session.extend label next hstep).store = next := by
  rw [Session.store, Session.extend, transition.last_append]
  rfl

end Session

/-- The state of a `process_apply` call: the store, what has happened, and the
variables that its exception handler reads. -/
structure State (platform : Platform) (derive_fabric_intent : Derive) (start : Store) where
  session : Session platform derive_fabric_intent start
  trace : List Event
  adapters : List String
  checkpoints : List (String × String)
  changed_devices : List String
  ise_adapter : Bool
  ise_applied : Bool

/-- A part of a `process_apply` call. -/
abbrev Apply (platform : Platform) (derive_fabric_intent : Derive) (start : Store) :=
  Program (State platform derive_fabric_intent start) Raised

section Primitives

variable {platform : Platform} {derive_fabric_intent : Derive} {start : Store}

/-- The start of a call. -/
def State.initial : State platform derive_fabric_intent start where
  session := ⟨[], .nil start⟩
  trace := []
  adapters := []
  checkpoints := []
  changed_devices := []
  ise_adapter := false
  ise_applied := false

/-- Add one event to what has happened. -/
def State.record (state : State platform derive_fabric_intent start) (event : Event) :
    State platform derive_fabric_intent start :=
  { state with trace := state.trace ++ [event] }

/-- One call that leaves the worker. -/
def call (outside : Outside) (request : Call) : Apply platform derive_fabric_intent start Value :=
  fun state =>
    let outcome := outside.respond state.trace request
    (outcome, state.record (.called request outcome))

/-- One store transaction; an exception leaves the store as it was. -/
def transact {α : Type} (outside : Outside) (transaction : Transaction)
    (operation : Ambient → Store → Py (α × Store))
    (hoperation : ∀ ambient store, perform platform derive_fabric_intent ambient store transaction =
      (operation ambient store).map Prod.snd) : Apply platform derive_fabric_intent start α :=
  fun state =>
    let ambient := outside.ambient state.trace
    match hresult : operation ambient state.session.store with
    | .error exception => (.error exception, state)
    | .ok (value, next) =>
      (.ok value,
        { state.record (.transaction transaction ambient) with
          session := state.session.extend (transaction, ambient) next
            (by rw [Step, hoperation, hresult]; rfl) })

/-- `self.store.get_run(run_id)`. -/
def get_run (run_id : String) : Apply platform derive_fabric_intent start RunRow :=
  fun state => (store.get_run run_id state.session.store, state)

/-- `self.store.get_plan(plan_id)`. -/
def get_plan (plan_id : String) : Apply platform derive_fabric_intent start PlanRow :=
  fun state => (store.get_plan plan_id state.session.store, state)

/-- `self.store.transition_run(run_id, new_status, actor, detail)`. -/
def transition_run (outside : Outside) (run_id : String) (new_status : RunStatus) (actor : String)
    (detail : Value) : Apply platform derive_fabric_intent start RunRow :=
  transact outside (.transition_run run_id new_status actor detail)
    (store.transition_run platform run_id new_status actor detail) (fun _ _ => rfl)

/-- `self.store.complete_apply(run_id, artifact_hash, owned_state, actor, detail)`. -/
def complete_apply (outside : Outside) (run_id artifact_hash : String) (owned_state : Value)
    (actor : String) (detail : Value) : Apply platform derive_fabric_intent start RunRow :=
  transact outside (.complete_apply run_id artifact_hash owned_state actor detail)
    (store.complete_apply platform run_id artifact_hash owned_state actor detail) (fun _ _ => rfl)

/-- `self.store.transition_design_reservation(reservation_id, new_state, actor, verified)`. -/
def transition_design_reservation (outside : Outside) (reservation_id : String)
    (new_state : ReservationState) (actor : String) (verified : Bool) :
    Apply platform derive_fabric_intent start ReservationRecord :=
  transact outside (.transition_design_reservation reservation_id new_state actor verified)
    (store.transition_design_reservation platform reservation_id new_state actor verified)
    (fun _ _ => rfl)

/-- `self.store.add_evidence(...)`, which may also raise on its own. -/
def add_evidence (outside : Outside) (run_id phase_id evidence_type : String) (payload : Value)
    (actor device_id : String) : Apply platform derive_fabric_intent start Unit := do
  match ← Program.read fun state => outside.evidence_fault state.trace with
  | some exception => Program.raise exception
  | none =>
    let _row ← transact outside
      (.add_evidence run_id phase_id evidence_type payload actor (some device_id))
      (store.add_evidence platform run_id phase_id evidence_type payload actor (some device_id))
      (fun _ _ => rfl)

end Primitives

end orchestrator.worker
