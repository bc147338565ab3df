import SdaOrchestrator.Lib.Lockstep
import SdaOrchestrator.Store.Congruence
import SdaOrchestrator.Worker.Operations

open python effects effects.Program orchestrator.store

namespace orchestrator.worker

/-! ## What a non-blocking gate shows -/

/-- The gate's `blocking` field is false. -/
def non_blocking (gate : Value) : Bool :=
  match gate.item "blocking" with
  | .ok (.bool blocking) => !blocking
  | _ => false

/-- A command whose output a gate is evaluated on. -/
def Call.is_show : Call → Bool
  | .run_show _ _ => true
  | _ => false

def Event.is_show : Event → Bool
  | .called request _ => request.is_show
  | _ => false

/-- The gate commands so far: each gate issues one. -/
def shows (trace : List Event) : Nat := trace.countP Event.is_show

/-- The gates that a transaction evaluates, in order. -/
def scheduled_gates (worker : TransactionWorker) (intent plan artifact : Value) : List Value :=
  ("precheck" :: (ordered_phases plan).toOption.getD []).flatMap fun phase_id =>
    (gates_of ((worker.build_gate_plan intent artifact).toOption.getD []) phase_id).toOption.getD []

/-- The command that is issued now is that of a non-blocking gate. -/
def hidden (schedule : List Value) (trace : List Event) : Bool :=
  (schedule.drop (shows trace)).head?.any non_blocking

/-- An event without the output of a non-blocking gate. What a gate puts on record follows
from its output. -/
def Event.erase (gate : Option Value) : Event → Event
  | .called (.run_show device_id command) outcome =>
    .called (.run_show device_id command) (if gate.any non_blocking then .ok .null else outcome)
  | .transaction (.add_evidence run_id phase_id evidence_type payload actor device_id) ambient =>
    .transaction (.add_evidence run_id phase_id evidence_type
      (if evidence_type = "operational_gate" then .null else payload) actor device_id) ambient
  | event => event

/-- What has happened, without the outputs of the non-blocking gates of a schedule. -/
def erased (schedule : List Value) : List Event → List Event
  | [] => []
  | event :: rest =>
    event.erase schedule.head? :: erased (if event.is_show then schedule.tail else schedule) rest

/-- An answer of `run_show`. -/
def Showed (answer : Py Value) : Prop :=
  ∃ response output output_hash, answer = .ok response ∧ response.item "output" = .ok output ∧
    response.item "output_hash" = .ok output_hash

/-- Two environments differ only in the outputs that they return for the non-blocking
gates of a schedule. -/
structure DifferOnNonBlocking (schedule : List Value) (outside outside' : Outside) : Prop where
  evidence_fault : ∀ trace trace', erased schedule trace = erased schedule trace' →
    outside.evidence_fault trace = outside'.evidence_fault trace'
  ise_has_changes : ∀ trace trace', erased schedule trace = erased schedule trace' →
    outside.ise_has_changes trace = outside'.ise_has_changes trace'
  ambient : ∀ trace trace', erased schedule trace = erased schedule trace' →
    outside.ambient trace = outside'.ambient trace'
  respond : ∀ trace trace' request, erased schedule trace = erased schedule trace' →
    (request.is_show && hidden schedule trace) = false →
      outside.respond trace request = outside'.respond trace' request
  shown : ∀ trace trace' device_id command, erased schedule trace = erased schedule trace' →
    hidden schedule trace →
      Showed (outside.respond trace (.run_show device_id command)) ∧
        Showed (outside'.respond trace' (.run_show device_id command))

/-- The two outputs that a non-blocking gate is shown get the same verdict. -/
def SameVerdicts (worker : TransactionWorker) (schedule : List Value) (outside outside' : Outside) :
    Prop :=
  ∀ trace trace' gate device_id command response response' output output',
    erased schedule trace = erased schedule trace' →
      (schedule.drop (shows trace)).head? = some gate → non_blocking gate →
        outside.respond trace (.run_show device_id command) = .ok response →
          outside'.respond trace' (.run_show device_id command) = .ok response' →
            response.item "output" = .ok output → response'.item "output" = .ok output' →
              (worker.evaluate_gate gate output.toStr).map GateResult.passed =
                (worker.evaluate_gate gate output'.toStr).map GateResult.passed

/-! ## Traces without the outputs of non-blocking gates -/

@[simp] theorem is_show_erase (gate : Option Value) (event : Event) :
    (event.erase gate).is_show = event.is_show := by
  unfold Event.erase
  split <;> rfl

theorem shows_erased (schedule : List Value) (trace : List Event) :
    shows (erased schedule trace) = shows trace := by
  induction trace generalizing schedule with
  | nil => rfl
  | cons event rest ih =>
    have hrest := ih (if event.is_show then schedule.tail else schedule)
    simp only [shows] at hrest
    simp only [shows, erased, List.countP_cons, is_show_erase, hrest]

theorem shows_eq_of_erased {schedule : List Value} {trace trace' : List Event}
    (herased : erased schedule trace = erased schedule trace') : shows trace = shows trace' := by
  rw [← shows_erased schedule trace, herased, shows_erased]

theorem shows_concat (trace : List Event) (event : Event) :
    shows (trace ++ [event]) = shows trace + if event.is_show then 1 else 0 := by
  simp [shows, List.countP_append, List.countP_cons]

theorem erased_concat (schedule : List Value) (trace : List Event) (event : Event) :
    erased schedule (trace ++ [event]) =
      erased schedule trace ++ [event.erase (schedule.drop (shows trace)).head?] := by
  induction trace generalizing schedule with
  | nil => rfl
  | cons first rest ih =>
    have hdrop : (if first.is_show then schedule.tail else schedule).drop (shows rest) =
        schedule.drop (shows (first :: rest)) := by
      cases hshow : first.is_show with
      | false => simp [shows, hshow]
      | true =>
        have hshows : shows (first :: rest) = shows rest + 1 := by simp [shows, hshow]
        rw [hshows, if_pos rfl, List.drop_tail]
    rw [List.cons_append, erased, ih, hdrop, erased, List.cons_append]

/-! ## Two runs -/

section TwoRuns

variable {platform : Platform} {derive_fabric_intent : Derive} {start : Store}
  {worker : TransactionWorker} {schedule rest : List Value} {outside outside' : Outside}
  {run_id : String}

/-- Two states of a transaction with the same gates left, equal but for what the
non-blocking gates have shown. -/
structure SameBut (schedule rest : List Value) (s s' : State platform derive_fabric_intent start) :
    Prop where
  erased : erased schedule s.trace = erased schedule s'.trace
  rest : schedule.drop (shows s.trace) = rest
  core : s.store.core = s'.store.core
  adapters : s.adapters = s'.adapters
  checkpoints : s.checkpoints = s'.checkpoints
  changed_devices : s.changed_devices = s'.changed_devices
  ise_adapter : s.ise_adapter = s'.ise_adapter
  ise_applied : s.ise_applied = s'.ise_applied

/-- Two states equal but for what the non-blocking gates have shown. -/
def Same (schedule : List Value) (s s' : State platform derive_fabric_intent start) : Prop :=
  ∃ rest, SameBut schedule rest s s'

theorem SameBut.same {s s' : State platform derive_fabric_intent start}
    (hs : SameBut schedule rest s s') : Same schedule s s' := ⟨rest, hs⟩

/-- Recording events that erase to the same event. -/
theorem SameBut.record {s s' : State platform derive_fabric_intent start}
    (hs : SameBut schedule rest s s') {event event' : Event}
    (herase : event.erase rest.head? = event'.erase rest.head?) :
    SameBut schedule (if event.is_show then rest.tail else rest) (s.record event)
      (s'.record event') where
  erased := by
    have hrest' : schedule.drop (shows s'.trace) = rest := by
      rw [← shows_eq_of_erased hs.erased, hs.rest]
    simp only [State.record, erased_concat, hs.erased, hs.rest, hrest', herase]
  rest := by
    simp only [State.record, shows_concat, ← List.drop_drop, hs.rest]
    split <;> simp
  core := hs.core
  adapters := hs.adapters
  checkpoints := hs.checkpoints
  changed_devices := hs.changed_devices
  ise_adapter := hs.ise_adapter
  ise_applied := hs.ise_applied

theorem SameBut.record_unshown {s s' : State platform derive_fabric_intent start}
    (hs : SameBut schedule rest s s') {event event' : Event} (hshow : event.is_show = false)
    (herase : event.erase rest.head? = event'.erase rest.head?) :
    SameBut schedule rest (s.record event) (s'.record event') := by
  have hrecord := hs.record herase
  rwa [hshow, if_neg Bool.false_ne_true] at hrecord

/-- A transaction that raises changes nothing. -/
theorem transact_of_error {α : Type} {transaction : Transaction}
    {operation : Ambient → Store → Py (α × Store)}
    {hoperation : ∀ ambient store, perform platform derive_fabric_intent ambient store transaction =
      (operation ambient store).map Prod.snd}
    {s : State platform derive_fabric_intent start} {exception : Raised}
    (hresult : operation (outside.ambient s.trace) s.store = .error exception) :
    transact outside transaction operation hoperation s = (.error exception, s) := by
  simp only [transact]
  split
  · rename_i found hfound
    have hsame := hresult.symm.trans hfound
    cases hsame
    rfl
  · rename_i value next hfound
    have hsame := hresult.symm.trans hfound
    cases hsame

/-- A transaction that commits leaves its tables and its event. -/
theorem transact_of_ok {α : Type} {transaction : Transaction}
    {operation : Ambient → Store → Py (α × Store)}
    (hoperation : ∀ ambient store, perform platform derive_fabric_intent ambient store transaction =
      (operation ambient store).map Prod.snd)
    {s : State platform derive_fabric_intent start} {value : α} {next : Store}
    (hresult : operation (outside.ambient s.trace) s.store = .ok (value, next)) :
    ∃ session : Session platform derive_fabric_intent start, session.store = next ∧
      transact outside transaction operation hoperation s =
        (.ok value,
          { s.record (.transaction transaction (outside.ambient s.trace)) with session }) := by
  simp only [transact]
  split
  · rename_i exception hfound
    have hsame := hresult.symm.trans hfound
    cases hsame
  · rename_i found after hfound
    have hsame := hresult.symm.trans hfound
    cases hsame
    exact ⟨_, extend_store _ _ _ _, rfl⟩

theorem SameBut.with_session {s s' : State platform derive_fabric_intent start}
    (hs : SameBut schedule rest s s') {session session' : Session platform derive_fabric_intent start}
    (hcore : session.store.core = session'.store.core) :
    SameBut schedule rest { s with session } { s' with session := session' } :=
  { hs with core := hcore }

-- the environments differ only in the outputs of non-blocking gates
variable (hdiffer : DifferOnNonBlocking schedule outside outside')

include hdiffer

theorem call_steady {request : Call} (hrequest : request.is_show = false) :
    Steady (SameBut schedule rest : State platform derive_fabric_intent start → _ → Prop)
      (call outside request) (call outside' request) := by
  intro s s' hs
  have hanswer : outside.respond s.trace request = outside'.respond s'.trace request :=
    hdiffer.respond _ _ _ hs.erased (by rw [hrequest, Bool.false_and])
  simp only [call, hanswer]
  have hrecord (outcome : Py Value) :
      SameBut schedule rest (s.record (.called request outcome))
        (s'.record (.called request outcome)) := hs.record_unshown hrequest rfl
  cases outside'.respond s'.trace request with
  | error exception => exact ⟨rfl, hrecord _⟩
  | ok value => exact ⟨rfl, hrecord _⟩

/-- Transactions that leave the same core tables, and whose events erase alike. -/
theorem transact_lockstep {α β : Type} {transaction transaction' : Transaction}
    {operation operation' : Ambient → Store → Py (α × Store)}
    (hoperation : ∀ ambient store, perform platform derive_fabric_intent ambient store transaction =
      (operation ambient store).map Prod.snd)
    (hoperation' : ∀ ambient store,
      perform platform derive_fabric_intent ambient store transaction' =
        (operation' ambient store).map Prod.snd)
    (herase : ∀ ambient, (Event.transaction transaction ambient).erase rest.head? =
      (Event.transaction transaction' ambient).erase rest.head?) (f : α → β)
    (hcore : ∀ ambient (store store' : Store), store.core = store'.core →
      (core_result (operation ambient store)).map (Prod.map f id) =
        (core_result (operation' ambient store')).map (Prod.map f id)) :
    Steady (SameBut schedule rest : State platform derive_fabric_intent start → _ → Prop)
      (do return f (← transact outside transaction operation hoperation))
      (do return f (← transact outside' transaction' operation' hoperation')) := by
  intro s s' hs
  have hambient := hdiffer.ambient _ _ hs.erased
  have hresult := hcore (outside.ambient s.trace) s.store s'.store hs.core
  cases hleft : operation (outside.ambient s.trace) s.store with
  | error exception =>
    cases hright : operation' (outside'.ambient s'.trace) s'.store with
    | error exception' =>
      rw [hleft, hambient, hright] at hresult
      cases hresult
      simp only [Bind.bind, transact_of_error hleft, transact_of_error hright]
      exact ⟨rfl, hs⟩
    | ok done' =>
      rw [hleft, hambient, hright] at hresult
      cases hresult
  | ok done =>
    cases hright : operation' (outside'.ambient s'.trace) s'.store with
    | error exception' =>
      rw [hleft, hambient, hright] at hresult
      cases hresult
    | ok done' =>
      rw [hleft, hambient, hright] at hresult
      obtain ⟨value, next⟩ := done
      obtain ⟨value', next'⟩ := done'
      obtain ⟨session, hnext, hrun⟩ := transact_of_ok hoperation hleft
      obtain ⟨session', hnext', hrun'⟩ := transact_of_ok hoperation' hright
      simp only [core_result, Except.map, Prod.map, id, Except.ok.injEq, Prod.mk.injEq] at hresult
      rw [← hnext, ← hnext'] at hresult
      have hrecord := hs.record_unshown rfl (herase (outside.ambient s.trace))
      simp only [Bind.bind, hrun, hrun']
      rw [← hambient]
      exact ⟨hresult.1, hrecord.with_session hresult.2⟩

/-- The same transaction on both sides. -/
theorem transact_steady {α : Type} {transaction : Transaction}
    {operation : Ambient → Store → Py (α × Store)}
    {hoperation : ∀ ambient store, perform platform derive_fabric_intent ambient store transaction =
      (operation ambient store).map Prod.snd}
    (hcore : ∀ ambient, ReadsCore (operation ambient)) :
    Steady (SameBut schedule rest : State platform derive_fabric_intent start → _ → Prop)
      (transact outside transaction operation hoperation)
      (transact outside' transaction operation hoperation) := by
  intro s s' hs
  have hlockstep := transact_lockstep hdiffer hoperation hoperation (fun _ => rfl) id
    (fun ambient store store' hsame => by rw [hcore ambient store store' hsame]) s s' hs
  simp only [Bind.bind] at hlockstep
  rcases hrun : transact outside transaction operation hoperation s with ⟨e | a, t⟩ <;>
    rcases hrun' : transact outside' transaction operation hoperation s' with ⟨e' | a', t'⟩ <;>
    rw [hrun, hrun'] at hlockstep <;> exact hlockstep

theorem transition_run_steady {new_status : RunStatus} {actor : String} {detail : Value} :
    Steady (SameBut schedule rest : State platform derive_fabric_intent start → _ → Prop)
      (transition_run outside run_id new_status actor detail)
      (transition_run outside' run_id new_status actor detail) :=
  transact_steady hdiffer fun _ => transition_run_reads_core

theorem complete_apply_steady {artifact_hash actor : String} {owned_state detail : Value} :
    Steady (SameBut schedule rest : State platform derive_fabric_intent start → _ → Prop)
      (complete_apply outside run_id artifact_hash owned_state actor detail)
      (complete_apply outside' run_id artifact_hash owned_state actor detail) :=
  transact_steady hdiffer fun _ => complete_apply_reads_core

theorem transition_design_reservation_steady {reservation_id actor : String}
    {new_state : ReservationState} {verified : Bool} :
    Steady (SameBut schedule rest : State platform derive_fabric_intent start → _ → Prop)
      (transition_design_reservation outside reservation_id new_state actor verified)
      (transition_design_reservation outside' reservation_id new_state actor verified) :=
  transact_steady hdiffer fun _ => transition_design_reservation_reads_core

/-- What a gate puts on record may differ; of other evidence nothing does. -/
theorem add_evidence_steady {phase_id evidence_type actor device_id : String}
    {payload payload' : Value}
    (hpayload : evidence_type = "operational_gate" ∨ payload = payload') :
    Steady (SameBut schedule rest : State platform derive_fabric_intent start → _ → Prop)
      (add_evidence outside run_id phase_id evidence_type payload actor device_id)
      (add_evidence outside' run_id phase_id evidence_type payload' actor device_id) := by
  apply Steady.read_bind fun s s' hs => hdiffer.evidence_fault _ _ hs.erased
  intro fault
  cases fault with
  | some exception => exact Steady.raise
  | none =>
    apply transact_lockstep hdiffer _ _ _ fun _ => ()
    · intro ambient store store' hcore
      rw [add_evidence_core_result, add_evidence_core_result, hcore]
    · intro ambient
      obtain rfl | rfl := hpayload
      · simp [Event.erase]
      · rfl

end TwoRuns

end orchestrator.worker
