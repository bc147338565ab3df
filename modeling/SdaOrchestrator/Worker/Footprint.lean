import SdaOrchestrator.Store.Footprint
import SdaOrchestrator.Worker.Confined

open python effects effects.Program orchestrator.store

namespace orchestrator.worker

/-- The reservation of the plan of a run. -/
def run_reservation (store : Store) (run_id : String) : Option String := do
  let run ← store.find_run run_id
  let plan ← store.find_plan run.plan_id
  given plan.reservation_id

section Footprint

variable {platform : Platform} {derive_fabric_intent : Derive} {start : Store}
  {worker : TransactionWorker} {outside : Outside} {run_id : String}

/-- Every transaction so far was of the worker on its run. -/
def Within (actor run_id : String) (s : State platform derive_fabric_intent start) : Prop :=
  ∀ entry ∈ s.session.transactions, Writes actor run_id (run_reservation start run_id) entry.1.1

theorem Within.untouched {s : State platform derive_fabric_intent start} {actor : String}
    (hs : Within actor run_id s) : Untouched actor run_id (run_reservation start run_id) start s.store :=
  untouched_of_run s.session.history hs

theorem call_within {request : Call} :
    Keeps (Within worker.actor run_id : State platform derive_fabric_intent start → Prop) (call outside request) := by
  intro s hs
  simp only [call]
  cases outside.respond s.trace request <;> exact hs

/-- Setting a variable of the handler is no transaction. -/
theorem modify_within
    {change : State platform derive_fabric_intent start → State platform derive_fabric_intent start}
    (hchange : ∀ s, (change s).session = s.session) :
    Keeps (Within worker.actor run_id)
      (Program.modify change : Apply platform derive_fabric_intent start Unit) := by
  apply Triple.modify
  intro s hs
  rw [Within, hchange s]
  exact hs

theorem transact_within {α : Type} {transaction : Transaction}
    {operation : Ambient → Store → Py (α × Store)}
    {hoperation : ∀ ambient store, perform platform derive_fabric_intent ambient store transaction =
      (operation ambient store).map Prod.snd}
    (hwrites : Writes worker.actor run_id (run_reservation start run_id) transaction) :
    Keeps (Within worker.actor run_id : State platform derive_fabric_intent start → Prop)
      (transact outside transaction operation hoperation) := by
  intro s hs
  simp only [transact]
  split
  · exact hs
  · exact List.forall_mem_append.mpr ⟨hs, List.forall_mem_singleton.mpr hwrites⟩

theorem add_evidence_within {phase_id evidence_type device_id : String} {payload : Value} :
    Keeps (Within worker.actor run_id : State platform derive_fabric_intent start → Prop)
      (add_evidence outside run_id phase_id evidence_type payload worker.actor device_id) := by
  apply Keeps.bind Keeps.read
  intro fault
  cases fault with
  | some exception => exact Keeps.raise
  | none => exact (transact_within .add_evidence).bind fun _ => Keeps.pure

/-- The plan that is read is the one at the start. -/
theorem get_plan_within {plan_id : String} :
    Triple (Within worker.actor run_id : State platform derive_fabric_intent start → Prop) (get_plan plan_id)
      (fun plan s => Within worker.actor run_id s ∧ start.find_plan plan_id = some plan)
      (fun _ => Within worker.actor run_id) := by
  refine get_plan_triple.weaken (fun _ hs => hs) (fun plan s hs => ⟨hs.1, ?_⟩) fun _ _ hs => hs.1
  rw [← hs.2, Store.find_plan, Store.find_plan, hs.1.untouched.plans]

/-! ## Before the transaction -/

theorem preflight_within {request : Call} {text : String} :
    Keeps (Within worker.actor run_id : State platform derive_fabric_intent start → Prop)
      (preflight outside request text) := by
  apply Keeps.bind call_within.attempt
  intro outcome
  cases outcome with
  | ok value => exact Keeps.pure
  | error exception => exact Keeps.raise

theorem preflight_sweep_within {intent artifact : Value} :
    Keeps (Within worker.actor run_id : State platform derive_fabric_intent start → Prop)
      (_preflight_secret_sweep worker outside intent artifact) := by
  have hcredentials : Keeps (Within worker.actor run_id : State platform derive_fabric_intent start → Prop)
      (preflight_credentials outside intent artifact) := by
    apply Keeps.lift_bind
    intro devices
    apply Keeps.bind
    · apply Keeps.each
      intro device
      apply Keeps.lift_bind
      intro ref
      apply Keeps.ite Keeps.pure
      apply Keeps.lift_bind
      exact fun id => preflight_within
    · intro _
      apply Keeps.lift_bind
      intro ise
      apply Keeps.lift_bind
      exact fun ise_ref => Keeps.ite Keeps.pure preflight_within
  have hsecrets : Keeps (Within worker.actor run_id : State platform derive_fabric_intent start → Prop)
      (preflight_secrets outside artifact) := by
    apply Keeps.lift_bind
    intro artifact_devices
    apply Keeps.each
    intro artifact_device
    apply Keeps.lift_bind
    intro phases
    apply Keeps.each
    intro phase
    apply Keeps.lift_bind
    intro blocks
    apply Keeps.each
    intro block
    apply Keeps.lift_bind
    exact fun uris => Keeps.each fun uri => preflight_within
  apply Keeps.ite
  · exact hcredentials.bind fun _ => hsecrets
  · exact hsecrets

theorem resolve_commands_within {commands : List Value} :
    Keeps (Within worker.actor run_id : State platform derive_fabric_intent start → Prop)
      (_resolve_commands outside commands) := by
  apply Keeps.collect
  intro command
  apply Keeps.bind
  · apply Keeps.collect
    intro piece
    cases piece with
    | char c => exact Keeps.pure
    | secret uri => exact call_within.bind fun value => Keeps.ite Keeps.raise Keeps.pure
  · exact fun texts => Keeps.ite Keeps.raise Keeps.pure

theorem record_gate_within {gate : Value} :
    Keeps (Within worker.actor run_id : State platform derive_fabric_intent start → Prop)
      (_record_gate worker outside run_id gate) := by
  apply Keeps.lift_bind
  intro device_id
  apply Keeps.bind adapter_keeps
  intro _
  apply Keeps.lift_bind
  intro command
  apply Keeps.bind call_within
  intro response
  apply Keeps.lift_bind
  intro result
  apply Keeps.lift_bind
  intro phase_id
  apply Keeps.lift_bind
  intro payload
  apply Keeps.bind add_evidence_within
  intro _
  apply Keeps.bind
  · exact modify_within fun _ => rfl
  exact fun _ => Keeps.pure

/-! ## The transaction -/

theorem connect_devices_within {devices : List (String × Value)} :
    Keeps (Within worker.actor run_id : State platform derive_fabric_intent start → Prop)
      (connect_devices outside devices) := by
  apply Keeps.each
  intro device_id
  apply Keeps.bind call_within
  intro _
  apply Keeps.bind call_within
  exact fun _ => modify_within fun _ => rfl

theorem prepare_ise_within {ise_manifest : Option Value} :
    Keeps (Within worker.actor run_id : State platform derive_fabric_intent start → Prop)
      (prepare_ise worker outside run_id ise_manifest) := by
  apply Keeps.ite _ Keeps.pure
  apply Keeps.ite _ Keeps.raise
  apply Keeps.bind call_within
  intro _
  apply Keeps.bind
  · exact modify_within fun _ => rfl
  intro _
  apply Keeps.bind call_within
  intro _
  apply Keeps.bind call_within
  intro preflight
  apply Keeps.lift_bind
  intro verified
  apply Keeps.ite _ Keeps.raise
  apply Keeps.lift_bind
  exact fun device_id => add_evidence_within

theorem run_prechecks_within (gates : List Value) :
    Keeps (Within worker.actor run_id : State platform derive_fabric_intent start → Prop)
      (run_prechecks worker outside run_id gates) := by
  induction gates with
  | nil => exact Keeps.pure
  | cons gate rest ih =>
    apply Keeps.bind record_gate_within
    intro passed
    apply Keeps.ite ih
    apply Keeps.lift_bind
    exact fun gate_id => (transact_within (.transition_run (by decide))).bind fun _ => Keeps.pure

theorem create_checkpoints_within :
    Keeps (Within worker.actor run_id : State platform derive_fabric_intent start → Prop)
      (create_checkpoints worker outside run_id) := by
  apply Keeps.bind Keeps.read
  intro connected
  apply Keeps.each
  intro device_id
  apply Keeps.bind call_within
  intro checkpoint
  apply Keeps.lift_bind
  intro verified
  apply Keeps.ite _ Keeps.raise
  apply Keeps.lift_bind
  intro text
  apply Keeps.bind
  · exact modify_within fun _ => rfl
  exact fun _ => add_evidence_within

theorem apply_ise_within {ise_manifest : Option Value} {phase_id : String} :
    Keeps (Within worker.actor run_id : State platform derive_fabric_intent start → Prop)
      (apply_ise worker outside run_id ise_manifest phase_id) := by
  apply Keeps.bind Keeps.read
  intro ise_adapter
  apply Keeps.ite _ Keeps.pure
  apply Keeps.bind call_within
  intro ise_result
  apply Keeps.lift_bind
  intro verified
  apply Keeps.ite _ Keeps.raise
  apply Keeps.bind
  · exact modify_within fun _ => rfl
  intro _
  apply Keeps.lift_bind
  exact fun device_id => add_evidence_within

theorem apply_block_within {phase_id device_id : String} {block : Value} :
    Keeps (Within worker.actor run_id : State platform derive_fabric_intent start → Prop)
      (apply_block worker outside run_id phase_id device_id block) := by
  apply Keeps.lift_bind
  intro commands
  apply Keeps.bind resolve_commands_within
  intro resolved
  apply Keeps.bind
  · exact modify_within fun s => by split <;> rfl
  intro _
  apply Keeps.bind adapter_keeps
  intro _
  apply Keeps.bind call_within
  intro evidence
  apply Keeps.lift_bind
  exact fun payload => add_evidence_within

theorem apply_phase_within {gate_plan : List Value} {ise_manifest : Option Value}
    {artifact_devices : Value} {device_ids : List String} {phase_id : String} :
    Keeps (Within worker.actor run_id : State platform derive_fabric_intent start → Prop)
      (apply_phase worker outside run_id gate_plan ise_manifest artifact_devices device_ids phase_id) := by
  apply Keeps.bind apply_ise_within
  intro _
  apply Keeps.bind
  · apply Keeps.each
    intro device_id
    apply Keeps.lift_bind
    exact fun blocks => Keeps.each fun block => apply_block_within
  · intro _
    apply Keeps.lift_bind
    intro phase_gates
    apply Keeps.each
    exact fun gate => record_gate_within.bind fun _ => Keeps.ite Keeps.pure Keeps.raise

/-- What the worker does last with the reservation, if the plan of its run has one. -/
theorem reservation_within {run : RunRow} {α : Type} {result : α} {new_state : ReservationState} {verified : Bool}
    (hrun : start.find_run run_id = some run) :
    Keeps (Within worker.actor run_id : State platform derive_fabric_intent start → Prop) (do
      let plan_record ← get_plan run.plan_id
      match given plan_record.reservation_id with
      | some reservation_id =>
        let _ ← transition_design_reservation outside reservation_id new_state worker.actor verified
        return result
      | none => return result) := by
  apply Triple.bind _ get_plan_within
  intro plan s hs
  obtain ⟨hs, hplan⟩ := hs
  refine (?_ : Keeps (Within worker.actor run_id) _) s hs
  split
  · rename_i reservation_id hgiven
    have hreservation : run_reservation start run_id = some reservation_id := by
      rw [run_reservation, hrun, Option.bind_eq_bind, Option.bind_some, hplan]
      exact hgiven
    exact (transact_within (.transition_design_reservation hreservation)).bind fun _ => Keeps.pure
  · exact Keeps.pure

theorem commit_apply_within {run : RunRow} {artifact : Value} (hrun : start.find_run run_id = some run) :
    Keeps (Within worker.actor run_id : State platform derive_fabric_intent start → Prop)
      (commit_apply worker outside run_id run artifact) := by
  apply Keeps.lift_bind
  intro artifact_hash
  apply Keeps.lift_bind
  intro owned_state
  apply Keeps.bind Keeps.read
  intro detail
  apply Keeps.bind (transact_within .complete_apply)
  exact fun updated => reservation_within hrun

theorem apply_transaction_within {run : RunRow} {plan artifact : Value}
    {devices : List (String × Value)} {gate_plan : List Value} {ise_manifest : Option Value}
    (hrun : start.find_run run_id = some run) :
    Keeps (Within worker.actor run_id : State platform derive_fabric_intent start → Prop)
      (apply_transaction worker outside run_id run plan artifact devices gate_plan ise_manifest) := by
  apply Keeps.bind connect_devices_within
  intro _
  apply Keeps.bind prepare_ise_within
  intro _
  apply Keeps.lift_bind
  intro prechecks
  apply Keeps.bind (run_prechecks_within prechecks)
  intro failed
  cases failed with
  | some updated => exact Keeps.pure
  | none =>
    apply Keeps.bind create_checkpoints_within
    intro _
    apply Keeps.lift_bind
    intro artifact_devices
    apply Keeps.lift_bind
    intro phases
    apply Keeps.lift_bind
    intro device_ids
    apply Keeps.bind (Keeps.each fun phase_id => apply_phase_within)
    intro _
    apply Keeps.bind Keeps.read
    exact fun _ => Keeps.ite Keeps.raise ((commit_apply_within hrun).bind fun _ => Keeps.pure)

/-! ## The exception handler -/

theorem roll_back_devices_within (targets : List String) :
    Keeps (Within worker.actor run_id : State platform derive_fabric_intent start → Prop)
      (roll_back_devices worker outside run_id targets) := by
  induction targets with
  | nil => exact Keeps.pure
  | cons device_id rest ih =>
    have hdevice : Keeps (Within worker.actor run_id : State platform derive_fabric_intent start → Prop)
        (roll_back_device worker outside run_id device_id) := by
      apply Keeps.bind adapter_keeps
      intro _
      apply Keeps.bind Keeps.read
      intro checkpoint
      cases checkpoint with
      | none => exact Keeps.raise
      | some checkpoint =>
        apply Keeps.bind call_within
        intro result
        apply Keeps.lift_bind
        exact fun verified => Keeps.ite add_evidence_within Keeps.raise
    apply Keeps.bind hdevice.attempt
    intro outcome
    apply Keeps.bind ih
    intro failures
    cases outcome <;> exact Keeps.pure

theorem roll_back_within {ise_manifest : Option Value} {ise_has_changes : Bool} :
    Keeps (Within worker.actor run_id : State platform derive_fabric_intent start → Prop)
      (roll_back worker outside run_id ise_manifest ise_has_changes) := by
  have hise : Keeps (Within worker.actor run_id : State platform derive_fabric_intent start → Prop)
      (roll_back_ise worker outside run_id ise_manifest) := by
    apply Keeps.bind call_within
    intro result
    apply Keeps.lift_bind
    intro verified
    apply Keeps.ite _ Keeps.raise
    apply Keeps.lift_bind
    exact fun device_id => add_evidence_within
  apply Keeps.bind Keeps.read
  intro targets
  apply Keeps.bind (roll_back_devices_within targets)
  intro failures
  apply Keeps.ite _ Keeps.pure
  apply Keeps.bind hise.attempt
  intro outcome
  cases outcome <;> exact Keeps.pure

theorem handle_failure_within {run : RunRow} {ise_manifest : Option Value} {exception : Raised}
    (hrun : start.find_run run_id = some run) :
    Keeps (Within worker.actor run_id : State platform derive_fabric_intent start → Prop)
      (handle_failure worker outside run_id run ise_manifest exception) := by
  apply Keeps.bind Keeps.read
  intro ise_has_changes
  apply Keeps.bind Keeps.read
  intro has_checkpoints
  apply Keeps.ite
  · apply Keeps.bind (transact_within (.transition_run (by decide)))
    intro _
    apply Keeps.bind roll_back_within
    intro failures
    have hfinal : (if failures.isEmpty then RunStatus.rolled_back else .rollback_failed) ∈ apply_statuses := by
      split <;> decide
    apply Keeps.bind (transact_within (.transition_run hfinal))
    exact fun updated => reservation_within hrun
  · exact (transact_within (.transition_run (by decide))).bind fun _ => Keeps.pure

theorem close_adapters_within :
    Keeps (Within worker.actor run_id : State platform derive_fabric_intent start → Prop)
      (close_adapters outside) := by
  apply Keeps.bind Keeps.read
  intro connected
  apply Keeps.bind
  · apply Keeps.each
    exact fun device_id => call_within.bind fun _ => Keeps.pure
  · intro _
    apply Keeps.bind Keeps.read
    intro ise_adapter
    apply Keeps.ite _ Keeps.pure
    exact call_within.bind fun _ => Keeps.pure

theorem guarded_transaction_within {run : RunRow} {plan artifact : Value}
    {devices : List (String × Value)} {gate_plan : List Value} {ise_manifest : Option Value}
    (hrun : start.find_run run_id = some run) :
    Keeps (Within worker.actor run_id : State platform derive_fabric_intent start → Prop)
      (guarded_transaction worker outside run_id run plan artifact devices gate_plan ise_manifest) := by
  apply Keeps.bind
  · apply Keeps.attempt
    apply Keeps.bind (apply_transaction_within hrun).attempt
    intro outcome
    cases outcome with
    | ok result => exact Keeps.pure
    | error exception => exact handle_failure_within hrun
  · intro outcome
    apply Keeps.bind close_adapters_within
    exact fun _ => Triple.lift (fun _ _ _ hs => hs) fun _ _ _ hs => hs

/-- However `process_apply` ends, its transactions were of the worker on its run. -/
theorem process_apply_within {intent plan artifact : Value} {allowed_blocker_codes : Option (List String)} :
    Triple (fun s : State platform derive_fabric_intent start => s = .initial)
      (process_apply worker outside run_id intent plan artifact allowed_blocker_codes)
      (fun _ => Within worker.actor run_id) (fun _ => Within worker.actor run_id) := by
  have hinitial : Within worker.actor run_id (.initial : State platform derive_fabric_intent start) :=
    List.forall_mem_nil _
  apply Triple.bind fun run s => s = .initial ∧ s.store.find_run run_id = some run
  · refine get_run_triple.weaken (fun _ hs => hs) (fun _ _ hs => hs) ?_
    rintro _ s rfl
    exact hinitial
  intro run
  rintro s ⟨rfl, hrun⟩
  refine (?_ : Keeps (Within worker.actor run_id) _) .initial hinitial
  apply Keeps.ite Keeps.raise
  apply Keeps.lift_bind
  intro _
  apply Keeps.lift_bind
  intro unresolved
  apply Keeps.ite ((transact_within (.transition_run (by decide))).bind fun _ => Keeps.pure)
  apply Keeps.lift_bind
  intro devices
  apply Keeps.lift_bind
  intro gate_plan
  apply Keeps.lift_bind
  intro ise_manifest
  apply Keeps.bind preflight_sweep_within
  intro _
  apply Keeps.bind (transact_within (.transition_run (by decide)))
  exact fun _ => guarded_transaction_within hrun

end Footprint

end orchestrator.worker

namespace orchestrator.worker_runtime

section Footprint

variable {platform : Platform} {derive_fabric_intent : Derive} {start : Store}

/-- However `process_run` ends, its transactions were of the worker on its run. -/
theorem process_run_within (runtime : Runtime) (outside : worker.Outside) (run_id : String) :
    Triple (fun s : worker.State platform derive_fabric_intent start => s = .initial)
      (process_run runtime outside run_id)
      (fun _ => worker.Within runtime.worker.actor run_id) (fun _ => worker.Within runtime.worker.actor run_id) := by
  have hinitial (s : worker.State platform derive_fabric_intent start) (hs : s = .initial) :
      worker.Within runtime.worker.actor run_id s := by
    rw [hs]
    exact List.forall_mem_nil _
  unfold process_run
  refine Triple.lift_bind ?_ ?_
  · exact fun _ s hs => hinitial s hs
  intro _ _
  refine Triple.read_bind_of (a := (outside.ambient []).utc_now 0) ?_ ?_
  · rintro s rfl
    rfl
  refine Triple.read_bind_of (a := start) ?_ ?_
  · rintro s rfl
    rfl
  refine Triple.lift_bind ?_ ?_
  · exact fun _ s hs => hinitial s hs
  exact fun execution _ => worker.process_apply_within

theorem after_start_within (current : Store) (started : WorkerStart) :
    worker.Within started.runtime.worker.actor started.run_id
      (after_start platform derive_fabric_intent current started) := by
  have hrun := @process_run_within platform derive_fabric_intent current started.runtime started.outside started.run_id
  have hfinal := hrun.final (Eq.refl worker.State.initial)
  exact hfinal

end Footprint

end orchestrator.worker_runtime
