import SdaOrchestrator.Worker.Rollback

open python effects effects.Program orchestrator.store

namespace orchestrator.worker

section Growth

variable {platform : Platform} {derive_fabric_intent : Derive} {start : Store}
  {worker : TransactionWorker} {outside : Outside} {run_id : String} {Q : List Event → Prop}

/-- Setting a variable of the handler keeps what has happened. -/
theorem modify_grows
    {change : State platform derive_fabric_intent start → State platform derive_fabric_intent start}
    (hchange : ∀ s, (change s).trace = s.trace) :
    Keeps (fun s => Q s.trace)
      (Program.modify change : Apply platform derive_fabric_intent start Unit) := by
  apply Triple.modify
  intro s hs
  rw [hchange s]
  exact hs

theorem get_plan_grows {plan_id : String} :
    Keeps (fun s : State platform derive_fabric_intent start => Q s.trace) (get_plan plan_id) :=
  get_plan_triple.weaken (fun _ hs => hs) (fun _ _ hs => hs.1) (fun _ _ hs => hs.1)

-- a property of histories that one more event keeps
variable (hQ : ∀ trace event, Q trace → Q (trace ++ [event]))

include hQ

theorem call_grows {request : Call} :
    Keeps (fun s : State platform derive_fabric_intent start => Q s.trace)
      (call outside request) := by
  intro s hs
  simp only [call]
  cases outside.respond s.trace request with
  | error exception => exact hQ _ _ hs
  | ok value => exact hQ _ _ hs

theorem transact_grows {α : Type} {transaction : Transaction}
    {operation : Ambient → Store → Py (α × Store)}
    {hoperation : ∀ ambient store, perform platform derive_fabric_intent ambient store transaction =
      (operation ambient store).map Prod.snd} :
    Keeps (fun s : State platform derive_fabric_intent start => Q s.trace)
      (transact outside transaction operation hoperation) := by
  intro s hs
  simp only [transact]
  split
  · exact hs
  · exact hQ _ _ hs

theorem framed_grows :
    Framed outside (fun s : State platform derive_fabric_intent start => Q s.trace) where
  call _ _ := call_grows hQ
  evidence run_id phase_id evidence_type payload actor device_id := by
    apply Keeps.bind Keeps.read
    intro fault
    cases fault with
    | some exception => exact Keeps.raise
    | none => exact (transact_grows hQ).bind fun _ => Keeps.pure
  gate _ _ _ hs := hQ _ _ hs

theorem record_gate_grows {gate : Value} :
    Keeps (fun s : State platform derive_fabric_intent start => Q s.trace)
      (_record_gate worker outside run_id gate) :=
  (_record_gate_triple (framed_grows hQ)).weaken (fun _ hs => hs) (fun _ _ hs => hs.1)
    (fun _ _ hs => hs)

/-! ## The transaction -/

theorem connect_devices_grows {devices : List (String × Value)} :
    Keeps (fun s : State platform derive_fabric_intent start => Q s.trace)
      (connect_devices outside devices) := by
  apply Keeps.each
  intro device_id
  apply Keeps.bind (call_grows hQ)
  intro _
  apply Keeps.bind (call_grows hQ)
  exact fun _ => modify_grows fun _ => rfl

theorem prepare_ise_grows {ise_manifest : Option Value} :
    Keeps (fun s : State platform derive_fabric_intent start => Q s.trace)
      (prepare_ise worker outside run_id ise_manifest) := by
  apply Keeps.ite _ Keeps.pure
  apply Keeps.ite _ Keeps.raise
  apply Keeps.bind (call_grows hQ)
  intro _
  apply Keeps.bind
  · exact modify_grows fun _ => rfl
  intro _
  apply Keeps.bind (call_grows hQ)
  intro _
  apply Keeps.bind (call_grows hQ)
  intro preflight
  apply Keeps.lift_bind
  intro verified
  apply Keeps.ite _ Keeps.raise
  apply Keeps.lift_bind
  exact fun device_id => (framed_grows hQ).evidence _ _ _ _ _ _

theorem run_prechecks_grows (gates : List Value) :
    Keeps (fun s : State platform derive_fabric_intent start => Q s.trace)
      (run_prechecks worker outside run_id gates) := by
  induction gates with
  | nil => exact Keeps.pure
  | cons gate rest ih =>
    apply Keeps.bind (record_gate_grows hQ)
    intro passed
    apply Keeps.ite ih
    apply Keeps.lift_bind
    intro gate_id
    exact (transact_grows hQ).bind fun _ => Keeps.pure

theorem create_checkpoints_grows :
    Keeps (fun s : State platform derive_fabric_intent start => Q s.trace)
      (create_checkpoints worker outside run_id) := by
  apply Keeps.bind Keeps.read
  intro connected
  apply Keeps.each
  intro device_id
  apply Keeps.bind (call_grows hQ)
  intro checkpoint
  apply Keeps.lift_bind
  intro verified
  apply Keeps.ite _ Keeps.raise
  apply Keeps.lift_bind
  intro text
  apply Keeps.bind
  · exact modify_grows fun _ => rfl
  exact fun _ => (framed_grows hQ).evidence _ _ _ _ _ _

theorem apply_ise_grows {ise_manifest : Option Value} {phase_id : String} :
    Keeps (fun s : State platform derive_fabric_intent start => Q s.trace)
      (apply_ise worker outside run_id ise_manifest phase_id) := by
  apply Keeps.bind Keeps.read
  intro ise_adapter
  apply Keeps.ite _ Keeps.pure
  apply Keeps.bind (call_grows hQ)
  intro ise_result
  apply Keeps.lift_bind
  intro verified
  apply Keeps.ite _ Keeps.raise
  apply Keeps.bind
  · exact modify_grows fun _ => rfl
  intro _
  apply Keeps.lift_bind
  exact fun device_id => (framed_grows hQ).evidence _ _ _ _ _ _

theorem apply_block_grows {phase_id device_id : String} {block : Value} :
    Keeps (fun s : State platform derive_fabric_intent start => Q s.trace)
      (apply_block worker outside run_id phase_id device_id block) := by
  apply Keeps.lift_bind
  intro commands
  apply Keeps.bind (_resolve_commands_keeps (framed_grows hQ))
  intro resolved
  apply Keeps.bind
  · exact modify_grows fun s => by split <;> rfl
  intro _
  apply Keeps.bind adapter_keeps
  intro _
  apply Keeps.bind (call_grows hQ)
  intro evidence
  apply Keeps.lift_bind
  exact fun payload => (framed_grows hQ).evidence _ _ _ _ _ _

theorem apply_phase_grows {gate_plan : List Value} {ise_manifest : Option Value}
    {artifact_devices : Value} {device_ids : List String} {phase_id : String} :
    Keeps (fun s : State platform derive_fabric_intent start => Q s.trace)
      (apply_phase worker outside run_id gate_plan ise_manifest artifact_devices device_ids
        phase_id) := by
  apply Keeps.bind (apply_ise_grows hQ)
  intro _
  apply Keeps.bind
  · apply Keeps.each
    intro device_id
    apply Keeps.lift_bind
    exact fun blocks => Keeps.each fun block => apply_block_grows hQ
  · intro _
    apply Keeps.lift_bind
    intro phase_gates
    apply Keeps.each
    exact fun gate => (record_gate_grows hQ).bind fun _ => Keeps.ite Keeps.pure Keeps.raise

theorem commit_apply_grows {run : RunRow} {artifact : Value} :
    Keeps (fun s : State platform derive_fabric_intent start => Q s.trace)
      (commit_apply worker outside run_id run artifact) := by
  apply Keeps.lift_bind
  intro artifact_hash
  apply Keeps.lift_bind
  intro owned_state
  apply Keeps.bind Keeps.read
  intro detail
  apply Keeps.bind (transact_grows hQ)
  intro updated
  apply Keeps.bind get_plan_grows
  intro plan_record
  split
  · exact (transact_grows hQ).bind fun _ => Keeps.pure
  · exact Keeps.pure

theorem apply_transaction_grows {run : RunRow} {plan artifact : Value}
    {devices : List (String × Value)} {gate_plan : List Value} {ise_manifest : Option Value} :
    Keeps (fun s : State platform derive_fabric_intent start => Q s.trace)
      (apply_transaction worker outside run_id run plan artifact devices gate_plan ise_manifest) := by
  apply Keeps.bind (connect_devices_grows hQ)
  intro _
  apply Keeps.bind (prepare_ise_grows hQ)
  intro _
  apply Keeps.lift_bind
  intro prechecks
  apply Keeps.bind (run_prechecks_grows hQ prechecks)
  intro failed
  cases failed with
  | some updated => exact Keeps.pure
  | none =>
    apply Keeps.bind (create_checkpoints_grows hQ)
    intro _
    apply Keeps.lift_bind
    intro artifact_devices
    apply Keeps.lift_bind
    intro phases
    apply Keeps.lift_bind
    intro device_ids
    apply Keeps.bind (Keeps.each fun phase_id => apply_phase_grows hQ)
    intro _
    apply Keeps.bind Keeps.read
    exact fun _ => Keeps.ite Keeps.raise ((commit_apply_grows hQ).bind fun _ => Keeps.pure)

/-! ## The exception handler -/

theorem roll_back_devices_grows (targets : List String) :
    Keeps (fun s : State platform derive_fabric_intent start => Q s.trace)
      (roll_back_devices worker outside run_id targets) := by
  induction targets with
  | nil => exact Keeps.pure
  | cons device_id rest ih =>
    apply Keeps.bind (roll_back_device_keeps (framed_grows hQ)).attempt
    intro outcome
    apply Keeps.bind ih
    intro failures
    cases outcome <;> exact Keeps.pure

theorem roll_back_ise_grows {ise_manifest : Option Value} :
    Keeps (fun s : State platform derive_fabric_intent start => Q s.trace)
      (roll_back_ise worker outside run_id ise_manifest) := by
  apply Keeps.bind (call_grows hQ)
  intro result
  apply Keeps.lift_bind
  intro verified
  apply Keeps.ite _ Keeps.raise
  apply Keeps.lift_bind
  exact fun device_id => (framed_grows hQ).evidence _ _ _ _ _ _

theorem roll_back_grows {ise_manifest : Option Value} {ise_has_changes : Bool} :
    Keeps (fun s : State platform derive_fabric_intent start => Q s.trace)
      (roll_back worker outside run_id ise_manifest ise_has_changes) := by
  apply Keeps.bind Keeps.read
  intro targets
  apply Keeps.bind (roll_back_devices_grows hQ targets)
  intro failures
  apply Keeps.ite _ Keeps.pure
  apply Keeps.bind (roll_back_ise_grows hQ).attempt
  intro outcome
  cases outcome <;> exact Keeps.pure

theorem handle_failure_grows {run : RunRow} {ise_manifest : Option Value} {exception : Raised} :
    Keeps (fun s : State platform derive_fabric_intent start => Q s.trace)
      (handle_failure worker outside run_id run ise_manifest exception) := by
  apply Keeps.bind Keeps.read
  intro ise_has_changes
  apply Keeps.bind Keeps.read
  intro has_checkpoints
  apply Keeps.ite
  · apply Keeps.bind (transact_grows hQ)
    intro _
    apply Keeps.bind (roll_back_grows hQ)
    intro failures
    apply Keeps.bind (transact_grows hQ)
    intro updated
    apply Keeps.bind get_plan_grows
    intro plan_record
    dsimp only
    split
    · exact (transact_grows hQ).bind fun _ => Keeps.pure
    · exact Keeps.pure
  · exact (transact_grows hQ).bind fun _ => Keeps.pure

theorem close_adapters_grows :
    Keeps (fun s : State platform derive_fabric_intent start => Q s.trace)
      (close_adapters outside) := by
  apply Keeps.bind Keeps.read
  intro connected
  apply Keeps.bind
  · apply Keeps.each
    exact fun device_id => (call_grows hQ).bind fun _ => Keeps.pure
  · intro _
    apply Keeps.bind Keeps.read
    intro ise_adapter
    apply Keeps.ite _ Keeps.pure
    exact (call_grows hQ).bind fun _ => Keeps.pure

/-- What one more event keeps, the transaction keeps. -/
theorem guarded_transaction_grows {run : RunRow} {plan artifact : Value}
    {devices : List (String × Value)} {gate_plan : List Value} {ise_manifest : Option Value} :
    Keeps (fun s : State platform derive_fabric_intent start => Q s.trace)
      (guarded_transaction worker outside run_id run plan artifact devices gate_plan
        ise_manifest) := by
  apply Keeps.bind
  · apply Keeps.attempt
    apply Keeps.bind (apply_transaction_grows hQ).attempt
    intro outcome
    cases outcome with
    | ok result => exact Keeps.pure
    | error exception => exact handle_failure_grows hQ
  · intro outcome
    apply Keeps.bind (close_adapters_grows hQ)
    exact fun _ => Triple.lift (fun _ _ _ hs => hs) fun _ _ _ hs => hs

end Growth

end orchestrator.worker
