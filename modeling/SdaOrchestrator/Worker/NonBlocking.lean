import SdaOrchestrator.Worker.Shown

open python effects effects.Program orchestrator.store

namespace orchestrator.worker

/-- What `_record_gate` does with the response of the device. -/
def record_response {platform : Platform} {derive_fabric_intent : Derive} {start : Store}
    (worker : TransactionWorker) (outside : Outside) (run_id : String) (gate command : Value)
    (device_id : String) (response : Value) : Apply platform derive_fabric_intent start Bool := do
  let result ← Program.lift do worker.evaluate_gate gate (← response.item "output").toStr
  let phase_id := (← Program.lift (gate.item "phase_id")).toStr
  let payload ← Program.lift do
    return Value.dict [
      ("gate_id", ← gate.item "gate_id"),
      ("command", command),
      ("output_hash", ← response.item "output_hash"),
      ("passed", .bool result.passed),
      ("reason", result.reason),
      ("observations", result.observations)]
  add_evidence outside run_id phase_id "operational_gate" payload worker.actor device_id
  Program.modify fun state => state.record (.gate gate result.passed)
  return result.passed

/-- Two responses that the worker takes for the same verdict of a gate. -/
structure AlikeResponses (worker : TransactionWorker) (gate response response' : Value) : Prop where
  verdict : (do worker.evaluate_gate gate (← response.item "output").toStr : Py GateResult).map
      GateResult.passed =
    (do worker.evaluate_gate gate (← response'.item "output").toStr : Py GateResult).map
      GateResult.passed
  output_hash : (response.item "output_hash").map (fun _ => ()) =
    (response'.item "output_hash").map (fun _ => ())

section TwoRuns

variable {platform : Platform} {derive_fabric_intent : Derive} {start : Store}
  {worker : TransactionWorker} {schedule rest : List Value} {outside outside' : Outside}
  {run_id : String}

/-! ## Reads and variables -/

theorem adapter_steady {device_id : String} :
    Steady (SameBut schedule rest : State platform derive_fabric_intent start → _ → Prop)
      (adapter device_id) (adapter device_id) := by
  apply Steady.read_bind
  · intro s s' hs
    rw [hs.adapters]
  · exact fun found => Steady.ite Steady.pure Steady.raise

theorem get_plan_steady {plan_id : String} :
    Steady (SameBut schedule rest : State platform derive_fabric_intent start → _ → Prop)
      (get_plan plan_id) (get_plan plan_id) := by
  intro s s' hs
  have hplans : s.store.find_plan plan_id = s'.store.find_plan plan_id :=
    congrArg (fun tables : CoreTables => table.lookup PlanRow.plan_id plan_id tables.plans) hs.core
  have hread (t : State platform derive_fabric_intent start) : get_plan plan_id t =
      (require (t.store.find_plan plan_id) (NotFoundError "Plan not found"), t) := rfl
  rw [hread, hread, hplans]
  cases s'.store.find_plan plan_id with
  | none => exact ⟨rfl, hs⟩
  | some plan => exact ⟨rfl, hs⟩

theorem get_run_steady :
    Steady (SameBut schedule rest : State platform derive_fabric_intent start → _ → Prop)
      (get_run run_id) (get_run run_id) := by
  intro s s' hs
  have hruns : s.store.find_run run_id = s'.store.find_run run_id :=
    congrArg (fun tables : CoreTables => table.lookup RunRow.run_id run_id tables.runs) hs.core
  have hread (t : State platform derive_fabric_intent start) : get_run run_id t =
      (require (t.store.find_run run_id) (NotFoundError "Run not found"), t) := rfl
  rw [hread, hread, hruns]
  cases s'.store.find_run run_id with
  | none => exact ⟨rfl, hs⟩
  | some run => exact ⟨rfl, hs⟩

/-- Setting variables alike. -/
theorem modify_steady
    {change : State platform derive_fabric_intent start → State platform derive_fabric_intent start}
    (hchange : ∀ s s', SameBut schedule rest s s' → SameBut schedule rest (change s) (change s')) :
    Steady (SameBut schedule rest)
      (Program.modify change : Apply platform derive_fabric_intent start Unit)
      (Program.modify change) :=
  Lockstep.modify hchange

-- the environments differ only in the outputs of non-blocking gates
variable (hdiffer : DifferOnNonBlocking schedule outside outside')

include hdiffer

/-! ## Secrets -/

theorem preflight_steady {request : Call} (hrequest : request.is_show = false) {text : String} :
    Steady (SameBut schedule rest : State platform derive_fabric_intent start → _ → Prop)
      (preflight outside request text) (preflight outside' request text) := by
  apply Steady.attempt_bind (call_steady hdiffer hrequest)
  intro outcome
  cases outcome with
  | ok value => exact Steady.pure
  | error exception => exact Steady.raise

theorem preflight_credentials_steady {intent artifact : Value} :
    Steady (SameBut schedule rest : State platform derive_fabric_intent start → _ → Prop)
      (preflight_credentials outside intent artifact)
      (preflight_credentials outside' intent artifact) := by
  apply Steady.lift_bind
  intro devices
  apply Steady.bind
  · apply Steady.each
    intro device
    apply Steady.lift_bind
    intro ref
    apply Steady.ite Steady.pure
    apply Steady.lift_bind
    exact fun id => preflight_steady hdiffer rfl
  · intro _
    apply Steady.lift_bind
    intro ise
    apply Steady.lift_bind
    intro ise_ref
    exact Steady.ite Steady.pure (preflight_steady hdiffer rfl)

theorem preflight_secrets_steady {artifact : Value} :
    Steady (SameBut schedule rest : State platform derive_fabric_intent start → _ → Prop)
      (preflight_secrets outside artifact) (preflight_secrets outside' artifact) := by
  apply Steady.lift_bind
  intro artifact_devices
  apply Steady.each
  intro artifact_device
  apply Steady.lift_bind
  intro phases
  apply Steady.each
  intro phase
  apply Steady.lift_bind
  intro blocks
  apply Steady.each
  intro block
  apply Steady.lift_bind
  intro uris
  exact Steady.each fun uri => preflight_steady hdiffer rfl

theorem _preflight_secret_sweep_steady {intent artifact : Value} :
    Steady (SameBut schedule rest : State platform derive_fabric_intent start → _ → Prop)
      (_preflight_secret_sweep worker outside intent artifact)
      (_preflight_secret_sweep worker outside' intent artifact) := by
  apply Steady.ite
  · exact (preflight_credentials_steady hdiffer).bind fun _ => preflight_secrets_steady hdiffer
  · exact preflight_secrets_steady hdiffer

theorem resolve_piece_steady {piece : Piece} :
    Steady (SameBut schedule rest : State platform derive_fabric_intent start → _ → Prop)
      (resolve_piece outside piece) (resolve_piece outside' piece) := by
  cases piece with
  | char c => exact Steady.pure
  | secret uri =>
    apply Steady.bind (call_steady hdiffer rfl)
    exact fun value => Steady.ite Steady.raise Steady.pure

theorem _resolve_commands_steady {commands : List Value} :
    Steady (SameBut schedule rest : State platform derive_fabric_intent start → _ → Prop)
      (_resolve_commands outside commands) (_resolve_commands outside' commands) := by
  apply Steady.collect
  intro command
  apply Steady.bind (Steady.collect fun piece => resolve_piece_steady hdiffer)
  exact fun texts => Steady.ite Steady.raise Steady.pure

/-! ## The parts without gates -/

theorem connect_devices_steady {devices : List (String × Value)} :
    Steady (SameBut schedule rest : State platform derive_fabric_intent start → _ → Prop)
      (connect_devices outside devices) (connect_devices outside' devices) := by
  apply Steady.each
  intro device_id
  apply Steady.bind (call_steady hdiffer rfl)
  intro _
  apply Steady.bind (call_steady hdiffer rfl)
  intro _
  apply modify_steady
  intro s s' hs
  exact { hs with adapters := by rw [hs.adapters] }

theorem prepare_ise_steady {ise_manifest : Option Value} :
    Steady (SameBut schedule rest : State platform derive_fabric_intent start → _ → Prop)
      (prepare_ise worker outside run_id ise_manifest)
      (prepare_ise worker outside' run_id ise_manifest) := by
  apply Steady.ite _ Steady.pure
  apply Steady.ite _ Steady.raise
  apply Steady.bind (call_steady hdiffer rfl)
  intro _
  apply Steady.bind
  · exact modify_steady fun s s' hs => { hs with ise_adapter := rfl }
  intro _
  apply Steady.bind (call_steady hdiffer rfl)
  intro _
  apply Steady.bind (call_steady hdiffer rfl)
  intro preflight
  apply Steady.lift_bind
  intro verified
  apply Steady.ite _ Steady.raise
  apply Steady.lift_bind
  exact fun device_id => add_evidence_steady hdiffer (.inr rfl)

theorem create_checkpoints_steady :
    Steady (SameBut schedule rest : State platform derive_fabric_intent start → _ → Prop)
      (create_checkpoints worker outside run_id) (create_checkpoints worker outside' run_id) := by
  apply Steady.read_bind fun s s' hs => by rw [hs.adapters]
  intro connected
  apply Steady.each
  intro device_id
  apply Steady.bind (call_steady hdiffer rfl)
  intro checkpoint
  apply Steady.lift_bind
  intro verified
  apply Steady.ite _ Steady.raise
  apply Steady.lift_bind
  intro text
  apply Steady.bind
  · exact modify_steady fun s s' hs => { hs with checkpoints := by rw [hs.checkpoints] }
  · exact fun _ => add_evidence_steady hdiffer (.inr rfl)

theorem apply_ise_steady {ise_manifest : Option Value} {phase_id : String} :
    Steady (SameBut schedule rest : State platform derive_fabric_intent start → _ → Prop)
      (apply_ise worker outside run_id ise_manifest phase_id)
      (apply_ise worker outside' run_id ise_manifest phase_id) := by
  apply Steady.read_bind fun s s' hs => hs.ise_adapter
  intro ise_adapter
  apply Steady.ite _ Steady.pure
  apply Steady.bind (call_steady hdiffer rfl)
  intro ise_result
  apply Steady.lift_bind
  intro verified
  apply Steady.ite _ Steady.raise
  apply Steady.bind
  · exact modify_steady fun s s' hs => { hs with ise_applied := rfl }
  intro _
  apply Steady.lift_bind
  exact fun device_id => add_evidence_steady hdiffer (.inr rfl)

theorem apply_block_steady {phase_id device_id : String} {block : Value} :
    Steady (SameBut schedule rest : State platform derive_fabric_intent start → _ → Prop)
      (apply_block worker outside run_id phase_id device_id block)
      (apply_block worker outside' run_id phase_id device_id block) := by
  apply Steady.lift_bind
  intro commands
  apply Steady.bind (_resolve_commands_steady hdiffer)
  intro resolved
  apply Steady.bind
  · apply modify_steady
    intro s s' hs
    rw [hs.changed_devices]
    split
    · exact hs
    · exact { hs with changed_devices := rfl }
  intro _
  apply Steady.bind adapter_steady
  intro _
  apply Steady.bind (call_steady hdiffer rfl)
  intro evidence
  apply Steady.lift_bind
  exact fun payload => add_evidence_steady hdiffer (.inr rfl)

theorem commit_apply_steady {run : RunRow} {artifact : Value} :
    Steady (SameBut schedule rest : State platform derive_fabric_intent start → _ → Prop)
      (commit_apply worker outside run_id run artifact)
      (commit_apply worker outside' run_id run artifact) := by
  apply Steady.lift_bind
  intro artifact_hash
  apply Steady.lift_bind
  intro owned_state
  apply Steady.read_bind
  · intro s s' hs
    rw [hs.changed_devices, hs.ise_adapter, hdiffer.ise_has_changes _ _ hs.erased]
  intro detail
  apply Steady.bind (complete_apply_steady hdiffer)
  intro updated
  apply Steady.bind get_plan_steady
  intro plan_record
  split
  · exact (transition_design_reservation_steady hdiffer).bind fun _ => Steady.pure
  · exact Steady.pure

/-! ## The exception handler -/

theorem roll_back_device_steady {device_id : String} :
    Steady (SameBut schedule rest : State platform derive_fabric_intent start → _ → Prop)
      (roll_back_device worker outside run_id device_id)
      (roll_back_device worker outside' run_id device_id) := by
  apply Steady.bind adapter_steady
  intro _
  apply Steady.read_bind fun s s' hs => by rw [hs.checkpoints]
  intro checkpoint
  cases checkpoint with
  | none => exact Steady.raise
  | some checkpoint =>
    apply Steady.bind (call_steady hdiffer rfl)
    intro result
    apply Steady.lift_bind
    intro verified
    exact Steady.ite (add_evidence_steady hdiffer (.inr rfl)) Steady.raise

theorem roll_back_ise_steady {ise_manifest : Option Value} :
    Steady (SameBut schedule rest : State platform derive_fabric_intent start → _ → Prop)
      (roll_back_ise worker outside run_id ise_manifest)
      (roll_back_ise worker outside' run_id ise_manifest) := by
  apply Steady.bind (call_steady hdiffer rfl)
  intro result
  apply Steady.lift_bind
  intro verified
  apply Steady.ite _ Steady.raise
  apply Steady.lift_bind
  exact fun device_id => add_evidence_steady hdiffer (.inr rfl)

theorem roll_back_devices_steady (targets : List String) :
    Steady (SameBut schedule rest : State platform derive_fabric_intent start → _ → Prop)
      (roll_back_devices worker outside run_id targets)
      (roll_back_devices worker outside' run_id targets) := by
  induction targets with
  | nil => exact Steady.pure
  | cons device_id targets ih =>
    apply Steady.attempt_bind (roll_back_device_steady hdiffer)
    intro outcome
    apply Steady.bind ih
    intro failures
    cases outcome <;> exact Steady.pure

theorem roll_back_steady {ise_manifest : Option Value} {ise_has_changes : Bool} :
    Steady (SameBut schedule rest : State platform derive_fabric_intent start → _ → Prop)
      (roll_back worker outside run_id ise_manifest ise_has_changes)
      (roll_back worker outside' run_id ise_manifest ise_has_changes) := by
  apply Steady.read_bind fun s s' hs => by rw [hs.changed_devices, hs.checkpoints]
  intro targets
  apply Steady.bind (roll_back_devices_steady hdiffer targets)
  intro failures
  apply Steady.ite _ Steady.pure
  apply Steady.attempt_bind (roll_back_ise_steady hdiffer)
  intro outcome
  cases outcome <;> exact Steady.pure

theorem handle_failure_steady {run : RunRow} {ise_manifest : Option Value} {exception : Raised} :
    Steady (SameBut schedule rest : State platform derive_fabric_intent start → _ → Prop)
      (handle_failure worker outside run_id run ise_manifest exception)
      (handle_failure worker outside' run_id run ise_manifest exception) := by
  apply Steady.read_bind
  · intro s s' hs
    rw [hs.ise_adapter, hdiffer.ise_has_changes _ _ hs.erased]
  intro ise_has_changes
  apply Steady.read_bind fun s s' hs => by rw [hs.checkpoints]
  intro has_checkpoints
  apply Steady.ite
  · apply Steady.bind (transition_run_steady hdiffer)
    intro _
    apply Steady.bind (roll_back_steady hdiffer)
    intro failures
    apply Steady.bind (transition_run_steady hdiffer)
    intro updated
    apply Steady.bind get_plan_steady
    intro plan_record
    dsimp only
    split
    · exact (transition_design_reservation_steady hdiffer).bind fun _ => Steady.pure
    · exact Steady.pure
  · exact (transition_run_steady hdiffer).bind fun _ => Steady.pure

theorem close_adapters_steady :
    Steady (SameBut schedule rest : State platform derive_fabric_intent start → _ → Prop)
      (close_adapters outside) (close_adapters outside') := by
  apply Steady.read_bind fun s s' hs => hs.adapters
  intro connected
  apply Steady.bind
  · apply Steady.each
    exact fun device_id => (call_steady hdiffer rfl).bind fun _ => Steady.pure
  · intro _
    apply Steady.read_bind fun s s' hs => hs.ise_adapter
    intro ise_adapter
    apply Steady.ite _ Steady.pure
    exact (call_steady hdiffer rfl).bind fun _ => Steady.pure

/-! ## Gates -/

omit hdiffer in
theorem record_gate_eq {gate : Value} :
    (_record_gate worker outside run_id gate : Apply platform derive_fabric_intent start Bool) = (do
      let device_id := (← Program.lift (gate.item "device_id")).toStr
      adapter device_id
      let command ← Program.lift (gate.item "command")
      let response ← call outside (.run_show device_id command.toStr)
      record_response worker outside run_id gate command device_id response) := rfl

/-- Responses with the same verdict are recorded alike. -/
theorem record_response_lockstep {gate command : Value} {device_id : String}
    {response response' : Value} (halike : AlikeResponses worker gate response response') :
    Lockstep (SameBut schedule rest : State platform derive_fabric_intent start → _ → Prop)
      (record_response worker outside run_id gate command device_id response)
      (record_response worker outside' run_id gate command device_id response')
      (fun _ => SameBut schedule rest) (SameBut schedule rest) := by
  apply Lockstep.lift_bind_map GateResult.passed halike.verdict fun _ _ hs => hs
  intro result result' hpassed
  apply Steady.lift_bind
  intro phase_id
  apply Lockstep.lift_bind_map (fun _ => ()) _ fun _ _ hs => hs
  · intro payload payload' _
    apply Steady.bind (add_evidence_steady hdiffer (.inl rfl))
    intro _
    rw [hpassed]
    apply Steady.bind _ fun _ => Steady.pure
    exact Lockstep.modify fun s s' hs => hs.record_unshown rfl rfl
  · have hhash := halike.output_hash
    cases gate.item "gate_id" with
    | error exception => rfl
    | ok gate_id =>
      cases hleft : response.item "output_hash" <;> cases hright : response'.item "output_hash" <;>
        rw [hleft, hright] at hhash <;> cases hhash <;> rfl

-- and the gates take both outputs for the same verdict
variable (hverdicts : SameVerdicts worker schedule outside outside')

include hverdicts

/-- The command of a gate: either side shows the same output, or outputs that the gate
takes for the same verdict. -/
theorem show_lockstep {gate : Value} {device_id command : String}
    {next next' : Value → Apply platform derive_fabric_intent start Bool}
    (hnext : ∀ response response', AlikeResponses worker gate response response' →
      Lockstep (SameBut schedule rest) (next response) (next' response')
        (fun _ => SameBut schedule rest) (SameBut schedule rest)) :
    Lockstep (SameBut schedule (gate :: rest))
      (call outside (.run_show device_id command) >>= next)
      (call outside' (.run_show device_id command) >>= next')
      (fun _ => SameBut schedule rest) (SameBut schedule rest) := by
  intro s s' hs
  have hhidden : hidden schedule s.trace = non_blocking gate := by
    rw [hidden, hs.rest]
    rfl
  have hrecord (answer answer' : Py Value) (hsame : non_blocking gate ∨ answer = answer') :
      SameBut schedule rest (s.record (.called (.run_show device_id command) answer))
        (s'.record (.called (.run_show device_id command) answer')) := by
    have herase : (Event.called (.run_show device_id command) answer).erase (gate :: rest).head? =
        (Event.called (.run_show device_id command) answer').erase (gate :: rest).head? := by
      obtain hgate | rfl := hsame
      · simp [Event.erase, hgate]
      · rfl
    exact hs.record herase
  by_cases hgate : non_blocking gate
  · obtain ⟨hshown, hshown'⟩ := hdiffer.shown _ _ device_id command hs.erased (hhidden.trans hgate)
    obtain ⟨response, output, output_hash, hanswer, houtput, hhash⟩ := hshown
    obtain ⟨response', output', output_hash', hanswer', houtput', hhash'⟩ := hshown'
    have halike : AlikeResponses worker gate response response' := by
      constructor
      · rw [houtput, houtput']
        exact hverdicts _ _ gate device_id command response response' output output' hs.erased
          (by rw [hs.rest]; rfl) hgate hanswer hanswer' houtput houtput'
      · rw [hhash, hhash']
        rfl
    simp only [Bind.bind, call, hanswer, hanswer']
    exact hnext response response' halike _ _ (hrecord _ _ (.inl hgate))
  · have hanswer : outside.respond s.trace (.run_show device_id command) =
        outside'.respond s'.trace (.run_show device_id command) := by
      refine hdiffer.respond _ _ _ hs.erased ?_
      rw [hhidden, Bool.and_eq_false_iff]
      exact .inr (Bool.eq_false_iff.mpr hgate)
    simp only [Bind.bind, call, hanswer]
    cases outside'.respond s'.trace (.run_show device_id command) with
    | error exception => exact ⟨rfl, hrecord _ _ (.inr rfl)⟩
    | ok response => exact hnext response response ⟨rfl, rfl⟩ _ _ (hrecord _ _ (.inr rfl))

theorem record_gate_lockstep {gate : Value} :
    Lockstep (SameBut schedule (gate :: rest) : State platform derive_fabric_intent start → _ → Prop)
      (_record_gate worker outside run_id gate) (_record_gate worker outside' run_id gate)
      (fun _ => SameBut schedule rest) (Same schedule) := by
  rw [record_gate_eq, record_gate_eq]
  apply Lockstep.lift_bind fun s s' hs => hs.same
  intro device_id _
  apply Lockstep.bind _ (adapter_steady.weaken (fun _ _ hs => hs) (fun _ _ _ hs => hs)
    fun _ _ hs => hs.same)
  intro _
  apply Lockstep.lift_bind fun s s' hs => hs.same
  intro command _
  refine (show_lockstep hdiffer hverdicts ?_).weaken (fun _ _ hs => hs) (fun _ _ _ hs => hs)
    fun _ _ hs => hs.same
  exact fun response response' halike => record_response_lockstep hdiffer halike

/-- A failing precheck ends both runs, a passing one neither. -/
theorem run_prechecks_lockstep (gates : List Value) :
    Lockstep (SameBut schedule (gates ++ rest) : State platform derive_fabric_intent start → _ → Prop)
      (run_prechecks worker outside run_id gates) (run_prechecks worker outside' run_id gates)
      (fun failed => if failed.isNone then SameBut schedule rest else Same schedule)
      (Same schedule) := by
  induction gates with
  | nil => exact Lockstep.pure fun s s' hs => hs
  | cons gate gates ih =>
    apply Lockstep.bind _ (record_gate_lockstep hdiffer hverdicts)
    intro passed
    apply Lockstep.ite (fun _ => ih)
    intro _
    apply Lockstep.lift_bind fun s s' hs => hs.same
    intro gate_id _
    apply Lockstep.bind _ ((transition_run_steady hdiffer).weaken (fun _ _ hs => hs)
      (fun _ _ _ hs => hs) fun _ _ hs => hs.same)
    exact fun updated => Lockstep.pure fun s s' hs => hs.same

/-- A gate that fails ends the phase on both sides. -/
theorem phase_gates_lockstep (gates : List Value) :
    Lockstep (SameBut schedule (gates ++ rest) : State platform derive_fabric_intent start → _ → Prop)
      (Program.each gates fun gate => do
        if ← _record_gate worker outside run_id gate then pure ()
        else Program.raise (WorkerError "Operational gate failed"))
      (Program.each gates fun gate => do
        if ← _record_gate worker outside' run_id gate then pure ()
        else Program.raise (WorkerError "Operational gate failed"))
      (fun _ => SameBut schedule rest) (Same schedule) := by
  induction gates with
  | nil => exact Lockstep.pure fun s s' hs => hs
  | cons gate gates ih =>
    apply Lockstep.bind fun _ => SameBut schedule (gates ++ rest)
    · apply Lockstep.bind _ (record_gate_lockstep hdiffer hverdicts)
      intro passed
      apply Lockstep.ite
      · exact fun _ => Lockstep.pure fun s s' hs => hs
      · exact fun _ => Lockstep.raise fun s s' hs => hs.same
    · exact fun _ => ih

/-! ## The transaction -/

theorem apply_phase_lockstep {gate_plan : List Value} {ise_manifest : Option Value}
    {artifact_devices : Value} {device_ids : List String} {phase_id : String} :
    Lockstep (SameBut schedule ((gates_of gate_plan phase_id).toOption.getD [] ++ rest) :
        State platform derive_fabric_intent start → _ → Prop)
      (apply_phase worker outside run_id gate_plan ise_manifest artifact_devices device_ids phase_id)
      (apply_phase worker outside' run_id gate_plan ise_manifest artifact_devices device_ids phase_id)
      (fun _ => SameBut schedule rest) (Same schedule) := by
  apply Lockstep.bind _ ((apply_ise_steady hdiffer).weaken (fun _ _ hs => hs)
    (fun _ _ _ hs => hs) fun _ _ hs => hs.same)
  intro _
  apply Lockstep.bind fun _ => SameBut schedule ((gates_of gate_plan phase_id).toOption.getD [] ++ rest)
  · refine (Steady.each fun device_id => ?_).weaken (fun _ _ hs => hs) (fun _ _ _ hs => hs)
      fun _ _ hs => hs.same
    apply Steady.lift_bind
    exact fun blocks => Steady.each fun block => apply_block_steady hdiffer
  · intro _
    apply Lockstep.lift_bind fun s s' hs => hs.same
    intro phase_gates hgates
    rw [hgates]
    exact phase_gates_lockstep hdiffer hverdicts phase_gates

theorem phases_lockstep {gate_plan : List Value} {ise_manifest : Option Value}
    {artifact_devices : Value} {device_ids : List String} (phases : List String) :
    Lockstep (SameBut schedule (phases.flatMap fun phase_id =>
        (gates_of gate_plan phase_id).toOption.getD []) :
        State platform derive_fabric_intent start → _ → Prop)
      (Program.each phases
        (apply_phase worker outside run_id gate_plan ise_manifest artifact_devices device_ids))
      (Program.each phases
        (apply_phase worker outside' run_id gate_plan ise_manifest artifact_devices device_ids))
      (fun _ => SameBut schedule []) (Same schedule) := by
  induction phases with
  | nil => exact Lockstep.pure fun s s' hs => hs
  | cons phase_id phases ih =>
    rw [List.flatMap_cons]
    exact Lockstep.bind _ (apply_phase_lockstep hdiffer hverdicts) fun _ => ih

theorem apply_transaction_lockstep {run : RunRow} {plan artifact : Value}
    {devices : List (String × Value)} {gate_plan : List Value} {ise_manifest : Option Value} :
    Lockstep (SameBut schedule (("precheck" :: (ordered_phases plan).toOption.getD []).flatMap
        fun phase_id => (gates_of gate_plan phase_id).toOption.getD []) :
        State platform derive_fabric_intent start → _ → Prop)
      (apply_transaction worker outside run_id run plan artifact devices gate_plan ise_manifest)
      (apply_transaction worker outside' run_id run plan artifact devices gate_plan ise_manifest)
      (fun _ => Same schedule) (Same schedule) := by
  rw [List.flatMap_cons]
  apply Lockstep.bind _ ((connect_devices_steady hdiffer).weaken (fun _ _ hs => hs)
    (fun _ _ _ hs => hs) fun _ _ hs => hs.same)
  intro _
  apply Lockstep.bind _ ((prepare_ise_steady hdiffer).weaken (fun _ _ hs => hs)
    (fun _ _ _ hs => hs) fun _ _ hs => hs.same)
  intro _
  apply Lockstep.lift_bind fun s s' hs => hs.same
  intro prechecks hprechecks
  rw [hprechecks]
  apply Lockstep.bind _ (run_prechecks_lockstep hdiffer hverdicts prechecks)
  intro failed
  cases failed with
  | some updated => exact Lockstep.pure fun s s' hs => hs
  | none =>
    apply Lockstep.bind _ ((create_checkpoints_steady hdiffer).weaken (fun _ _ hs => hs)
      (fun _ _ _ hs => hs) fun _ _ hs => hs.same)
    intro _
    apply Lockstep.lift_bind fun s s' hs => hs.same
    intro artifact_devices _
    apply Lockstep.lift_bind fun s s' hs => hs.same
    intro phases hphases
    rw [hphases]
    apply Lockstep.lift_bind fun s s' hs => hs.same
    intro device_ids _
    apply Lockstep.bind _ (phases_lockstep hdiffer hverdicts phases)
    intro _
    have hend : Steady (SameBut schedule [] : State platform derive_fabric_intent start → _ → Prop)
        (do
          if ← Program.read fun state => state.ise_adapter && !state.ise_applied then
            Program.raise (WorkerError "ISE manifest was not bound to the policy_plane phase")
          else
            let updated ← commit_apply worker outside run_id run artifact
            return (⟨true, updated, false, none⟩ : ApplyResult))
        (do
          if ← Program.read fun state => state.ise_adapter && !state.ise_applied then
            Program.raise (WorkerError "ISE manifest was not bound to the policy_plane phase")
          else
            let updated ← commit_apply worker outside' run_id run artifact
            return (⟨true, updated, false, none⟩ : ApplyResult)) := by
      apply Steady.read_bind
      · intro s s' hs
        rw [hs.ise_adapter, hs.ise_applied]
      · intro unbound
        exact Steady.ite Steady.raise ((commit_apply_steady hdiffer).bind fun _ => Steady.pure)
    exact hend.weaken (fun _ _ hs => hs) (fun _ _ _ hs => hs.same) fun _ _ hs => hs.same

theorem guarded_transaction_lockstep {run : RunRow} {plan artifact : Value}
    {devices : List (String × Value)} {gate_plan : List Value} {ise_manifest : Option Value} :
    Lockstep (SameBut schedule (("precheck" :: (ordered_phases plan).toOption.getD []).flatMap
        fun phase_id => (gates_of gate_plan phase_id).toOption.getD []) :
        State platform derive_fabric_intent start → _ → Prop)
      (guarded_transaction worker outside run_id run plan artifact devices gate_plan ise_manifest)
      (guarded_transaction worker outside' run_id run plan artifact devices gate_plan ise_manifest)
      (fun _ => Same schedule) (Same schedule) := by
  apply Lockstep.attempt_bind (fun _ => Same schedule) (Same schedule)
  · apply Lockstep.attempt_bind (fun _ => Same schedule) (Same schedule)
      (apply_transaction_lockstep hdiffer hverdicts)
    · exact fun result => Lockstep.pure fun s s' hs => hs
    · exact fun exception => Steady.of_forall fun rest => handle_failure_steady hdiffer
  · intro result
    apply Steady.bind (Steady.of_forall fun rest => close_adapters_steady hdiffer)
    exact fun _ => Lockstep.pure fun s s' hs => hs
  · intro exception
    apply Steady.bind (Steady.of_forall fun rest => close_adapters_steady hdiffer)
    exact fun _ => Lockstep.raise fun s s' hs => hs

end TwoRuns

/-! ## Both runs end alike -/

/-- The rollback of a device or of ISE that an event asks for. -/
def Event.rollback : Event → Option Call
  | .called (.rollback device_id checkpoint) _ => some (.rollback device_id checkpoint)
  | .called .ise_rollback _ => some .ise_rollback
  | _ => none

/-- The rollbacks of a run, in order. -/
def rollbacks (trace : List Event) : List Call := trace.filterMap Event.rollback

/-- Two runs ended with the same status of the run, the same blocks applied and the same
rollbacks. -/
structure SameOutcome {platform : Platform} {derive_fabric_intent : Derive} {start : Store}
    (run_id : String) (s s' : State platform derive_fabric_intent start) : Prop where
  status : s.store.core.run_status run_id = s'.store.core.run_status run_id
  applied : applied_blocks s.trace = applied_blocks s'.trace
  rollbacks : rollbacks s.trace = rollbacks s'.trace

theorem applied_block_erase (gate : Option Value) (event : Event) :
    (event.erase gate).applied_block = event.applied_block := by
  unfold Event.erase
  split <;> rfl

theorem rollback_erase (gate : Option Value) (event : Event) :
    (event.erase gate).rollback = event.rollback := by
  unfold Event.erase
  split <;> rfl

/-- What is read alike from an event and its erasure is read from the erased trace. -/
theorem filterMap_erased {α : Type} {read : Event → Option α}
    (hread : ∀ gate event, read (event.erase gate) = read event) (schedule : List Value)
    (trace : List Event) : (erased schedule trace).filterMap read = trace.filterMap read := by
  induction trace generalizing schedule with
  | nil => rfl
  | cons event rest ih => rw [erased, List.filterMap_cons, List.filterMap_cons, hread, ih]

section Outcome

variable {platform : Platform} {derive_fabric_intent : Derive} {start : Store}
  {worker : TransactionWorker} {outside outside' : Outside} {run_id : String}

theorem Same.outcome {schedule : List Value} {s s' : State platform derive_fabric_intent start}
    (hsame : Same schedule s s') : SameOutcome run_id s s' := by
  obtain ⟨rest, hs⟩ := hsame
  refine ⟨by rw [hs.core], ?_, ?_⟩
  · have happlied := congrArg (List.filterMap Event.applied_block) hs.erased
    rwa [filterMap_erased applied_block_erase, filterMap_erased applied_block_erase] at happlied
  · have hrollbacks := congrArg (List.filterMap Event.rollback) hs.erased
    rwa [filterMap_erased rollback_erase, filterMap_erased rollback_erase] at hrollbacks

theorem process_apply_lockstep {intent plan artifact : Value}
    {allowed_blocker_codes : Option (List String)}
    (hdiffer : DifferOnNonBlocking (scheduled_gates worker intent plan artifact) outside outside')
    (hverdicts : SameVerdicts worker (scheduled_gates worker intent plan artifact) outside outside') :
    Lockstep (SameBut (scheduled_gates worker intent plan artifact)
        (scheduled_gates worker intent plan artifact) :
        State platform derive_fabric_intent start → _ → Prop)
      (process_apply worker outside run_id intent plan artifact allowed_blocker_codes)
      (process_apply worker outside' run_id intent plan artifact allowed_blocker_codes)
      (fun _ => Same (scheduled_gates worker intent plan artifact))
      (Same (scheduled_gates worker intent plan artifact)) := by
  apply Lockstep.bind _ (get_run_steady.weaken (fun _ _ hs => hs) (fun _ _ _ hs => hs)
    fun _ _ hs => hs.same)
  intro run
  apply Lockstep.ite
  · exact fun _ => Lockstep.raise fun s s' hs => hs.same
  intro _
  apply Lockstep.lift_bind fun s s' hs => hs.same
  intro _ _
  apply Lockstep.lift_bind fun s s' hs => hs.same
  intro codes _
  apply Lockstep.ite
  · intro _
    apply Lockstep.bind _ ((transition_run_steady hdiffer).weaken (fun _ _ hs => hs)
      (fun _ _ _ hs => hs) fun _ _ hs => hs.same)
    exact fun updated => Lockstep.pure fun s s' hs => hs.same
  intro _
  apply Lockstep.lift_bind fun s s' hs => hs.same
  intro devices _
  apply Lockstep.lift_bind fun s s' hs => hs.same
  intro gate_plan hgates
  apply Lockstep.lift_bind fun s s' hs => hs.same
  intro ise_manifest _
  apply Lockstep.bind _ ((_preflight_secret_sweep_steady hdiffer).weaken (fun _ _ hs => hs)
    (fun _ _ _ hs => hs) fun _ _ hs => hs.same)
  intro _
  apply Lockstep.bind _ ((transition_run_steady hdiffer).weaken (fun _ _ hs => hs)
    (fun _ _ _ hs => hs) fun _ _ hs => hs.same)
  intro _
  have hschedule : scheduled_gates worker intent plan artifact =
      ("precheck" :: (ordered_phases plan).toOption.getD []).flatMap fun phase_id =>
        (gates_of gate_plan phase_id).toOption.getD [] := by
    rw [scheduled_gates, hgates]
    rfl
  refine (guarded_transaction_lockstep hdiffer hverdicts).weaken ?_ (fun _ _ _ hs => hs)
    fun _ _ hs => hs
  intro s s' hs
  rwa [hschedule] at hs ⊢

end Outcome

/-! ## The BFD gate of the lab -/

def lab_bfd_gate : Value := .dict [
  ("gate_id", .str "underlay.bfd.node-1"),
  ("phase_id", .str "underlay"),
  ("device_id", .str "node-1"),
  ("command", .str "show bfd neighbors"),
  ("evaluator", .str "bfd_neighbors"),
  ("expected", .dict [("minimum_up", .int 1)]),
  ("blocking", .bool false)]

/-- A worker with the one gate, which passes when a session is up. -/
def lab_bfd_worker : TransactionWorker where
  actor := "sda-worker"
  credential_resolver := false
  ise_adapter_factory := false
  build_gate_plan _ _ := .ok [lab_bfd_gate]
  evaluate_gate _ output := .ok ⟨contains "Up" output, .str "bfd", .dict []⟩

def lab_bfd_schedule : List Value :=
  scheduled_gates lab_bfd_worker lab_intent lab_plan lab_artifact

def lab_shown (output : String) : Py Value :=
  .ok (.dict [("output", .str output), ("output_hash", .str ("sha256:" ++ output))])

/-- The answers of a device that shows this output for the gate. -/
def lab_bfd_outside (output : String) : Outside where
  respond trace request :=
    if request.is_show && hidden lab_bfd_schedule trace then lab_shown output
    else lab_respond false request
  evidence_fault _ := none
  ise_has_changes _ := false
  ambient trace := lab_ambient (6 + trace.length)

theorem length_erased (schedule : List Value) (trace : List Event) :
    (erased schedule trace).length = trace.length := by
  induction trace generalizing schedule with
  | nil => rfl
  | cons event rest ih => rw [erased, List.length_cons, List.length_cons, ih]

theorem lab_bfd_shown (output : String) (trace : List Event) (device_id command : String)
    (hhidden : hidden lab_bfd_schedule trace) :
    (lab_bfd_outside output).respond trace (.run_show device_id command) = lab_shown output := by
  show (if (true && hidden lab_bfd_schedule trace) = true then _ else _) = _
  rw [Bool.true_and, if_pos hhidden]

theorem lab_bfd_differ (output output' : String) :
    DifferOnNonBlocking lab_bfd_schedule (lab_bfd_outside output) (lab_bfd_outside output') where
  evidence_fault _ _ _ := rfl
  ise_has_changes _ _ _ := rfl
  ambient trace trace' herased := by
    have hlength := congrArg List.length herased
    rw [length_erased, length_erased] at hlength
    exact congrArg (fun n => lab_ambient (6 + n)) hlength
  respond trace trace' request herased hshow := by
    have hhidden : hidden lab_bfd_schedule trace' = hidden lab_bfd_schedule trace := by
      rw [hidden, hidden, shows_eq_of_erased herased]
    simp only [lab_bfd_outside, hhidden, hshow, Bool.false_eq_true, if_false]
  shown trace trace' device_id command herased hhidden := by
    have hhidden' : hidden lab_bfd_schedule trace' := by
      rw [hidden, ← shows_eq_of_erased herased]
      exact hhidden
    rw [lab_bfd_shown output trace device_id command hhidden,
      lab_bfd_shown output' trace' device_id command hhidden']
    exact ⟨⟨_, _, _, rfl, rfl, rfl⟩, ⟨_, _, _, rfl, rfl, rfl⟩⟩

def lab_one_session : String := "10.255.0.1 4097/4097 Up Up Gi0/1"

def lab_two_sessions : String := lab_one_session ++ "\n10.255.0.3 4098/4098 Up Up Gi0/2"

/-- The state in which a run with this output ends. -/
def lab_bfd_run (output : String) : State cpython lab_derive lab_start :=
  after_apply cpython lab_derive lab_start lab_bfd_worker (lab_bfd_outside output) "run_500" lab_intent
    lab_plan lab_artifact none

theorem lab_bfd_decides :
    (lab_bfd_run lab_one_session).store.core.run_status "run_500" =
        some .apply_succeeded ∧
      (lab_bfd_run "").store.core.run_status "run_500" = some .rolled_back := by
  decide +kernel

end orchestrator.worker
