import SdaOrchestrator.Worker.Apply

open python effects effects.Program orchestrator.store

namespace orchestrator.worker

/-- The configuration block that an event sends: its phase, its device and the block. -/
def Event.sent_block : Event → Option (String × String × Value)
  | .called (.apply_block device_id phase_id block _) _ => some (phase_id, device_id, block)
  | _ => none

/-- The configuration block that an event has applied. -/
def Event.applied_block : Event → Option (String × String × Value)
  | .called (.apply_block device_id phase_id block _) (.ok _) => some (phase_id, device_id, block)
  | _ => none

/-- A call other than a configuration block. -/
def Call.harmless : Call → Prop
  | .apply_block _ _ _ _ => False
  | _ => True

/-- A call that neither configures a device nor concerns ISE. -/
def Call.plain : Call → Bool
  | .apply_block _ _ _ _ => false
  | .ise_adapter_factory _ => false
  | .ise_connect => false
  | .ise_prepare => false
  | .ise_apply => false
  | .ise_rollback => false
  | .ise_close => false
  | _ => true

theorem Call.harmless_of_plain {request : Call} (hrequest : request.plain) : request.harmless := by
  cases request <;> trivial

/-- The blocks applied so far, in order. -/
def applied_blocks (trace : List Event) : List (String × String × Value) :=
  trace.filterMap Event.applied_block

theorem applied_block_of_sent_none {event : Event} (hsent : event.sent_block = none) :
    event.applied_block = none := by
  unfold Event.sent_block at hsent
  unfold Event.applied_block
  split <;> simp_all

theorem sent_block_called {request : Call} (hrequest : request.harmless) (outcome : Py Value) :
    (Event.called request outcome).sent_block = none := by
  cases request <;> first | rfl | cases hrequest

section Quiet

variable {platform : Platform} {derive_fabric_intent : Derive} {start : Store}

/-- The store of a state. -/
def State.store (state : State platform derive_fabric_intent start) : Store := state.session.store

/-- The status of a run. -/
def State.run_status (state : State platform derive_fabric_intent start) (run_id : String) :
    Option RunStatus :=
  (state.store.find_run run_id).map RunRow.status

/-- From one state to the other no block is sent and the worker's bookkeeping of
devices stays as it is. -/
structure Silent (before after : State platform derive_fabric_intent start) : Prop where
  adapters : after.adapters = before.adapters
  checkpoints : after.checkpoints = before.checkpoints
  changed_devices : after.changed_devices = before.changed_devices
  trace : ∃ events, after.trace = before.trace ++ events ∧ ∀ event ∈ events, event.sent_block = none

/-- A silent step that leaves the core tables as they are too. -/
structure Quiet (before after : State platform derive_fabric_intent start) : Prop
    extends Silent before after where
  core : after.store.core = before.store.core

/-- A property that silent steps keep. -/
def Lasting (P : State platform derive_fabric_intent start → Prop) : Prop :=
  ∀ before after, Silent before after → P before → P after

/-- A property that quiet steps keep. -/
def Stable (P : State platform derive_fabric_intent start → Prop) : Prop :=
  ∀ before after, Quiet before after → P before → P after

variable {P Q : State platform derive_fabric_intent start → Prop}

theorem Lasting.stable (hP : Lasting P) : Stable P :=
  fun before after hquiet => hP before after hquiet.toSilent

theorem Lasting.and (hP : Lasting P) (hQ : Lasting Q) : Lasting fun s => P s ∧ Q s :=
  fun before after hsilent h => ⟨hP before after hsilent h.1, hQ before after hsilent h.2⟩

theorem Stable.and (hP : Stable P) (hQ : Stable Q) : Stable fun s => P s ∧ Q s :=
  fun before after hquiet h => ⟨hP before after hquiet h.1, hQ before after hquiet h.2⟩

theorem stable_core (tables : CoreTables) :
    Stable fun s : State platform derive_fabric_intent start => s.store.core = tables :=
  fun _ _ hquiet h => hquiet.core.trans h

theorem stable_const (p : Prop) :
    Stable fun _ : State platform derive_fabric_intent start => p :=
  fun _ _ _ h => h

/-- What has happened stays in the trace. -/
theorem lasting_mem_trace (event : Event) :
    Lasting fun s : State platform derive_fabric_intent start => event ∈ s.trace := by
  intro before after hsilent hmem
  obtain ⟨events, htrace, -⟩ := hsilent.trace
  rw [htrace]
  exact List.mem_append_left _ hmem

theorem silent_record {s : State platform derive_fabric_intent start} {event : Event}
    (hsent : event.sent_block = none) : Silent s (s.record event) where
  adapters := rfl
  checkpoints := rfl
  changed_devices := rfl
  trace := ⟨[event], rfl, by simpa using hsent⟩

theorem quiet_record {s : State platform derive_fabric_intent start} {event : Event}
    (hsent : event.sent_block = none) : Quiet s (s.record event) :=
  { silent_record hsent with core := rfl }

/-- Setting the two ISE flags is quiet. -/
theorem quiet_ise (s : State platform derive_fabric_intent start) (ise_adapter ise_applied : Bool) :
    Quiet s { s with ise_adapter, ise_applied } where
  adapters := rfl
  checkpoints := rfl
  changed_devices := rfl
  trace := ⟨[], by simp, by simp⟩
  core := rfl

end Quiet

/-! ## The parts that send no block -/

section Parts

variable {platform : Platform} {derive_fabric_intent : Derive} {start : Store}
  {worker : TransactionWorker} {outside : Outside} {run_id : String}
  {P : State platform derive_fabric_intent start → Prop}

theorem call_triple (hP : Stable P) {request : Call} (hrequest : request.harmless) :
    Triple P (call outside request)
      (fun value s => P s ∧ .called request (.ok value) ∈ s.trace)
      (fun exception s => P s ∧ .called request (.error exception) ∈ s.trace) := by
  intro s hs
  have hquiet (outcome : Py Value) : Quiet s (s.record (.called request outcome)) :=
    quiet_record (sent_block_called hrequest outcome)
  simp only [call]
  cases outside.respond s.trace request with
  | error exception => exact ⟨hP _ _ (hquiet _) hs, by simp [State.record]⟩
  | ok value => exact ⟨hP _ _ (hquiet _) hs, by simp [State.record]⟩

theorem call_keeps (hP : Stable P) {request : Call} (hrequest : request.harmless) :
    Keeps P (call outside request) :=
  (call_triple hP hrequest).weaken (fun _ hs => hs) (fun _ _ hs => hs.1) (fun _ _ hs => hs.1)

/-- Setting a flag of the ISE executor keeps what quiet steps keep. -/
theorem modify_keeps (hP : Stable P)
    {change : State platform derive_fabric_intent start → State platform derive_fabric_intent start}
    (hchange : ∀ s, Quiet s (change s)) :
    Keeps P (Program.modify change : Apply platform derive_fabric_intent start Unit) :=
  Triple.modify fun s hs => hP s (change s) (hchange s) hs

/-- A store transaction raises in an unchanged state, or it commits. -/
theorem transact_triple {α : Type} {transaction : Transaction}
    {operation : Ambient → Store → Py (α × Store)}
    {hoperation : ∀ ambient store, perform platform derive_fabric_intent ambient store transaction =
      (operation ambient store).map Prod.snd}
    {pre : State platform derive_fabric_intent start → Prop}
    {post : α → State platform derive_fabric_intent start → Prop}
    {raised : Raised → State platform derive_fabric_intent start → Prop}
    (herror : ∀ s exception, pre s →
      operation (outside.ambient s.trace) s.store = .error exception → raised exception s)
    (hok : ∀ s t value, pre s → operation (outside.ambient s.trace) s.store = .ok (value, t.store) →
      Silent s t → .transaction transaction (outside.ambient s.trace) ∈ t.trace → post value t) :
    Triple pre (transact outside transaction operation hoperation) post raised := by
  intro s hs
  simp only [transact]
  split
  · rename_i exception hresult
    exact herror s exception hs hresult
  · rename_i value next hresult
    refine hok s _ value hs ?_ ?_ ?_
    · simpa [State.store] using hresult
    · exact ⟨rfl, rfl, rfl, [_], rfl, by simp [Event.sent_block]⟩
    · simp [State.record]

theorem add_evidence_keeps (hP : Stable P) {phase_id evidence_type actor device_id : String}
    {payload : Value} :
    Keeps P (add_evidence outside run_id phase_id evidence_type payload actor device_id) := by
  apply Keeps.bind Keeps.read
  intro fault
  cases fault with
  | some exception => exact Keeps.raise
  | none =>
    apply Keeps.bind
    · apply transact_triple
      · exact fun _ _ hs _ => hs
      · intro s t value hs hresult hsilent _
        exact hP s t { hsilent with core := add_evidence_core hresult } hs
    · exact fun _ => Keeps.pure

/-- A property that plain calls, evidence and evaluated gates keep. -/
structure Framed (outside : Outside)
    (P : State platform derive_fabric_intent start → Prop) : Prop where
  call : ∀ request, request.plain → Keeps P (call outside request)
  evidence : ∀ run_id phase_id evidence_type payload actor device_id,
    Keeps P (add_evidence outside run_id phase_id evidence_type payload actor device_id)
  gate : ∀ s gate passed, P s → P (s.record (.gate gate passed))

theorem Stable.framed (hP : Stable P) : Framed outside P where
  call _ hrequest := call_keeps hP (Call.harmless_of_plain hrequest)
  evidence _ _ _ _ _ _ := add_evidence_keeps hP
  gate _ _ _ hs := hP _ _ (quiet_record rfl) hs

/-- A read of the run finds the stored row or raises. -/
theorem get_run_triple :
    Triple P (get_run run_id) (fun row s => P s ∧ s.store.find_run run_id = some row)
      (fun _ s => P s) := by
  intro s hs
  have hread : (get_run run_id : Apply platform derive_fabric_intent start RunRow) s =
      (require (s.store.find_run run_id) (NotFoundError "Run not found"), s) := rfl
  rw [hread]
  cases hfound : s.store.find_run run_id with
  | none => exact hs
  | some row => exact ⟨hs, hfound⟩

/-- A read of the plan finds the stored row or raises. -/
theorem get_plan_triple {plan_id : String} :
    Triple P (get_plan plan_id) (fun row s => P s ∧ s.store.find_plan plan_id = some row)
      (fun _ s => P s ∧ s.store.find_plan plan_id = none) := by
  intro s hs
  have hread : (get_plan plan_id : Apply platform derive_fabric_intent start PlanRow) s =
      (require (s.store.find_plan plan_id) (NotFoundError "Plan not found"), s) := rfl
  rw [hread]
  cases hfound : s.store.find_plan plan_id with
  | none => exact ⟨hs, hfound⟩
  | some row => exact ⟨hs, hfound⟩

theorem adapter_triple {device_id : String} :
    Triple P (adapter device_id) (fun _ s => P s ∧ device_id ∈ s.adapters) (fun _ => P) := by
  apply Triple.read_bind
  intro found
  apply Triple.ite
  · intro hfound
    exact Triple.pure fun s hs => ⟨hs.1, by simpa [hfound] using hs.2⟩
  · exact fun _ => Triple.raise fun s hs => hs.1

theorem adapter_keeps {device_id : String} :
    Keeps P (adapter device_id) :=
  adapter_triple.weaken (fun _ hs => hs) (fun _ _ hs => hs.1) (fun _ _ hs => hs)

theorem preflight_keeps (hP : Framed outside P) {request : Call}
    (hrequest : request.plain) {text : String} : Keeps P (preflight outside request text) := by
  apply Keeps.bind (hP.call request hrequest).attempt
  intro outcome
  cases outcome with
  | ok value => exact Keeps.pure
  | error exception => exact Keeps.raise

theorem preflight_credentials_keeps (hP : Framed outside P) {intent artifact : Value} :
    Keeps P (preflight_credentials outside intent artifact) := by
  apply Keeps.lift_bind
  intro devices
  apply Keeps.bind
  · apply Keeps.each
    intro device
    apply Keeps.lift_bind
    intro ref
    apply Keeps.ite Keeps.pure
    apply Keeps.lift_bind
    exact fun id => preflight_keeps hP rfl
  · intro _
    apply Keeps.lift_bind
    intro ise
    apply Keeps.lift_bind
    intro ise_ref
    exact Keeps.ite Keeps.pure (preflight_keeps hP rfl)

theorem preflight_secrets_keeps (hP : Framed outside P) {artifact : Value} :
    Keeps P (preflight_secrets outside artifact) := by
  apply Keeps.lift_bind
  intro artifact_devices
  apply Keeps.each
  intro artifact_device
  apply Keeps.lift_bind
  intro phases
  apply Keeps.each
  intro phase
  apply Keeps.lift_bind
  intro blocks
  apply Keeps.each
  intro block
  apply Keeps.lift_bind
  intro uris
  exact Keeps.each fun uri => preflight_keeps hP rfl

theorem _preflight_secret_sweep_keeps (hP : Framed outside P) {intent artifact : Value} :
    Keeps P (_preflight_secret_sweep worker outside intent artifact) := by
  apply Keeps.ite
  · exact Keeps.bind (preflight_credentials_keeps hP) fun _ => preflight_secrets_keeps hP
  · exact preflight_secrets_keeps hP

theorem resolve_piece_keeps (hP : Framed outside P) {piece : Piece} :
    Keeps P (resolve_piece outside piece) := by
  cases piece with
  | char c => exact Keeps.pure
  | secret uri =>
    apply Keeps.bind (hP.call _ rfl)
    exact fun value => Keeps.ite Keeps.raise Keeps.pure

theorem _resolve_commands_keeps (hP : Framed outside P) {commands : List Value} :
    Keeps P (_resolve_commands outside commands) := by
  apply Keeps.collect
  intro command
  apply Keeps.bind (Keeps.collect fun piece => resolve_piece_keeps hP)
  exact fun texts => Keeps.ite Keeps.raise Keeps.pure

/-- A gate that was evaluated is in the trace with its outcome. -/
theorem _record_gate_triple (hP : Framed outside P) {gate : Value} :
    Triple P (_record_gate worker outside run_id gate)
      (fun passed s => P s ∧ .gate gate passed ∈ s.trace) (fun _ => P) := by
  apply Triple.lift_bind fun _ _ hs => hs
  intro device_id _
  apply adapter_keeps.then fun _ _ hs => hs
  intro _
  apply Triple.lift_bind fun _ _ hs => hs
  intro command _
  apply (hP.call _ rfl).then fun _ _ hs => hs
  intro response
  apply Triple.lift_bind fun _ _ hs => hs
  intro result _
  apply Triple.lift_bind fun _ _ hs => hs
  intro phase_id _
  apply Triple.lift_bind fun _ _ hs => hs
  intro payload _
  apply (hP.evidence _ _ _ _ _ _).then fun _ _ hs => hs
  intro _
  apply Triple.bind (fun _ s => P s ∧ .gate gate result.passed ∈ s.trace)
  · apply Triple.modify
    intro s hs
    exact ⟨hP.gate s gate result.passed hs, by simp [State.record]⟩
  · exact fun _ => Triple.pure fun s hs => hs

theorem prepare_ise_keeps (hP : Stable P) {ise_manifest : Option Value} :
    Keeps P (prepare_ise worker outside run_id ise_manifest) := by
  apply Keeps.ite _ Keeps.pure
  apply Keeps.ite _ Keeps.raise
  apply Keeps.bind (call_keeps hP (by trivial))
  intro _
  apply Keeps.bind (modify_keeps hP fun s => quiet_ise s true s.ise_applied)
  intro _
  apply Keeps.bind (call_keeps hP (by trivial))
  intro _
  apply Keeps.bind (call_keeps hP (by trivial))
  intro preflight
  apply Keeps.lift_bind
  intro verified
  apply Keeps.ite _ Keeps.raise
  apply Keeps.lift_bind
  exact fun device_id => add_evidence_keeps hP

theorem apply_ise_keeps (hP : Stable P) {ise_manifest : Option Value} {phase_id : String} :
    Keeps P (apply_ise worker outside run_id ise_manifest phase_id) := by
  apply Keeps.bind Keeps.read
  intro ise_adapter
  apply Keeps.ite _ Keeps.pure
  apply Keeps.bind (call_keeps hP (by trivial))
  intro ise_result
  apply Keeps.lift_bind
  intro verified
  apply Keeps.ite _ Keeps.raise
  apply Keeps.bind (modify_keeps hP fun s => quiet_ise s s.ise_adapter true)
  intro _
  apply Keeps.lift_bind
  exact fun device_id => add_evidence_keeps hP

theorem roll_back_ise_keeps (hP : Stable P) {ise_manifest : Option Value} :
    Keeps P (roll_back_ise worker outside run_id ise_manifest) := by
  apply Keeps.bind (call_keeps hP (by trivial))
  intro result
  apply Keeps.lift_bind
  intro verified
  apply Keeps.ite _ Keeps.raise
  apply Keeps.lift_bind
  exact fun device_id => add_evidence_keeps hP

theorem close_adapters_keeps (hP : Stable P) :
    Keeps P (close_adapters outside) := by
  apply Keeps.bind Keeps.read
  intro connected
  apply Keeps.bind
  · apply Keeps.each
    intro device_id
    exact Keeps.bind (call_keeps hP (by trivial)) fun _ => Keeps.pure
  · intro _
    apply Keeps.bind Keeps.read
    intro ise_adapter
    apply Keeps.ite _ Keeps.pure
    exact Keeps.bind (call_keeps hP (by trivial)) fun _ => Keeps.pure

end Parts

end orchestrator.worker
