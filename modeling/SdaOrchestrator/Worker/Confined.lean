import SdaOrchestrator.Worker.Rollback
import SdaOrchestrator.Worker.Schedule

open python effects effects.Program orchestrator.store

namespace effects.Program

variable {σ ε α β : Type} {pre : σ → Prop} {post : β → σ → Prop} {raised : ε → σ → Prop}

/-- What is read is known from the precondition. -/
theorem Triple.read_bind_of {g : σ → α} {a : α} {f : α → Program σ ε β} (hg : ∀ s, pre s → g s = a)
    (hf : Triple pre (f a) post raised) : Triple pre (Program.read g >>= f) post raised := by
  apply Triple.read_bind
  intro found s hs
  obtain rfl := (hg s hs.1).symm.trans hs.2
  exact hf s hs.1

end effects.Program

namespace orchestrator.worker

section Confined

variable {platform : Platform} {derive_fabric_intent : Derive} {start : Store}
  {worker : TransactionWorker} {outside : Outside} {run_id : String} {admissible : Event → Prop}

/-- Everything that has happened is admissible, and there is no ISE executor. -/
structure Confined (admissible : Event → Prop) (s : State platform derive_fabric_intent start) :
    Prop where
  events : ∀ event ∈ s.trace, admissible event
  no_ise : s.ise_adapter = false

theorem Confined.record {s : State platform derive_fabric_intent start} (hs : Confined admissible s)
    {event : Event} (hevent : admissible event) : Confined admissible (s.record event) where
  events := by
    intro other hother
    obtain hold | hnew := List.mem_append.mp hother
    · exact hs.events other hold
    · exact List.mem_singleton.mp hnew ▸ hevent
  no_ise := hs.no_ise

theorem call_confined {request : Call} (hrequest : ∀ outcome, admissible (.called request outcome)) :
    Keeps (Confined admissible : State platform derive_fabric_intent start → Prop)
      (call outside request) := by
  intro s hs
  have hrecord (outcome : Py Value) := hs.record (hrequest outcome)
  simp only [call]
  cases outside.respond s.trace request with
  | error exception => exact hrecord _
  | ok value => exact hrecord _

theorem get_plan_confined {plan_id : String} :
    Keeps (Confined admissible : State platform derive_fabric_intent start → Prop)
      (get_plan plan_id) :=
  get_plan_triple.weaken (fun _ hs => hs) (fun _ _ hs => hs.1) (fun _ _ hs => hs.1)

/-- Setting a variable of the handler keeps what has happened. -/
theorem modify_confined
    {change : State platform derive_fabric_intent start → State platform derive_fabric_intent start}
    (hchange : ∀ s, (change s).trace = s.trace ∧ (change s).ise_adapter = s.ise_adapter) :
    Keeps (Confined admissible)
      (Program.modify change : Apply platform derive_fabric_intent start Unit) := by
  apply Triple.modify
  intro s hs
  exact ⟨(hchange s).1 ▸ hs.events, (hchange s).2.trans hs.no_ise⟩

/-- Without an executor the ISE part of a phase does nothing. -/
theorem apply_ise_confined {ise_manifest : Option Value} {phase_id : String} :
    Keeps (Confined admissible : State platform derive_fabric_intent start → Prop)
      (apply_ise worker outside run_id ise_manifest phase_id) := by
  apply Triple.read_bind_of fun s hs => hs.no_ise
  simp only [Bool.false_eq_true, and_false, if_false]
  exact Keeps.pure

-- what writes to no device and not to ISE is admissible
variable (hquiet : ∀ event : Event, event.writes = false → admissible event)

include hquiet

theorem transact_confined {α : Type} {transaction : Transaction}
    {operation : Ambient → Store → Py (α × Store)}
    {hoperation : ∀ ambient store, perform platform derive_fabric_intent ambient store transaction =
      (operation ambient store).map Prod.snd} :
    Keeps (Confined admissible : State platform derive_fabric_intent start → Prop)
      (transact outside transaction operation hoperation) := by
  intro s hs
  simp only [transact]
  split
  · exact hs
  · have hrecord := hs.record (hquiet (.transaction transaction (outside.ambient s.trace)) rfl)
    exact ⟨hrecord.events, hrecord.no_ise⟩

theorem framed_confined :
    Framed outside (Confined admissible : State platform derive_fabric_intent start → Prop) where
  call request hrequest := by
    refine call_confined fun outcome => hquiet _ ?_
    cases request <;> first | rfl | cases hrequest
  evidence run_id phase_id evidence_type payload actor device_id := by
    apply Keeps.bind Keeps.read
    intro fault
    cases fault with
    | some exception => exact Keeps.raise
    | none => exact (transact_confined hquiet).bind fun _ => Keeps.pure
  gate s gate passed hs := hs.record (hquiet _ rfl)

theorem record_gate_confined {gate : Value} :
    Keeps (Confined admissible : State platform derive_fabric_intent start → Prop)
      (_record_gate worker outside run_id gate) :=
  (_record_gate_triple (framed_confined hquiet)).weaken (fun _ hs => hs) (fun _ _ hs => hs.1)
    (fun _ _ hs => hs)

/-! ## The transaction -/

theorem connect_devices_confined {devices : List (String × Value)} :
    Keeps (Confined admissible : State platform derive_fabric_intent start → Prop)
      (connect_devices outside devices) := by
  apply Keeps.each
  intro device_id
  apply Keeps.bind ((framed_confined hquiet).call _ rfl)
  intro _
  apply Keeps.bind ((framed_confined hquiet).call _ rfl)
  exact fun _ => modify_confined fun s => ⟨rfl, rfl⟩

theorem run_prechecks_confined (gates : List Value) :
    Keeps (Confined admissible : State platform derive_fabric_intent start → Prop)
      (run_prechecks worker outside run_id gates) := by
  induction gates with
  | nil => exact Keeps.pure
  | cons gate rest ih =>
    apply Keeps.bind (record_gate_confined hquiet)
    intro passed
    apply Keeps.ite ih
    apply Keeps.lift_bind
    intro gate_id
    exact (transact_confined hquiet).bind fun _ => Keeps.pure

theorem create_checkpoints_confined :
    Keeps (Confined admissible : State platform derive_fabric_intent start → Prop)
      (create_checkpoints worker outside run_id) := by
  apply Keeps.bind Keeps.read
  intro connected
  apply Keeps.each
  intro device_id
  apply Keeps.bind ((framed_confined hquiet).call _ rfl)
  intro checkpoint
  apply Keeps.lift_bind
  intro verified
  apply Keeps.ite _ Keeps.raise
  apply Keeps.lift_bind
  intro text
  apply Keeps.bind
  · exact modify_confined fun s => ⟨rfl, rfl⟩
  · exact fun _ => (framed_confined hquiet).evidence _ _ _ _ _ _

theorem apply_block_confined {phase_id device_id : String} {block : Value}
    (hblock : ∀ commands outcome,
      admissible (.called (.apply_block device_id phase_id block commands) outcome)) :
    Keeps (Confined admissible : State platform derive_fabric_intent start → Prop)
      (apply_block worker outside run_id phase_id device_id block) := by
  apply Keeps.lift_bind
  intro commands
  apply Keeps.bind (_resolve_commands_keeps (framed_confined hquiet))
  intro resolved
  apply Keeps.bind
  · exact modify_confined fun s => by split <;> exact ⟨rfl, rfl⟩
  intro _
  apply Keeps.bind adapter_keeps
  intro _
  apply Keeps.bind (call_confined (hblock resolved))
  intro evidence
  apply Keeps.lift_bind
  exact fun payload => (framed_confined hquiet).evidence _ _ _ _ _ _

/-- The blocks of the devices are admissible in every phase. -/
def AdmissibleBlocks (admissible : Event → Prop) (artifact_devices : Value) : Prop :=
  ∀ phase_id device_id blocks, device_blocks artifact_devices phase_id device_id = .ok blocks →
    ∀ block ∈ blocks, ∀ commands outcome,
      admissible (.called (.apply_block device_id phase_id block commands) outcome)

theorem apply_device_confined {artifact_devices : Value} {phase_id device_id : String}
    (hblocks : AdmissibleBlocks admissible artifact_devices) :
    Keeps (Confined admissible : State platform derive_fabric_intent start → Prop) (do
      let found ← Program.lift (device_blocks artifact_devices phase_id device_id)
      Program.each found (apply_block worker outside run_id phase_id device_id)) := by
  apply Triple.lift_bind fun _ _ hs => hs
  intro found hfound
  refine Triple.each (fun _ => Confined admissible) fun done block rest hsplit => ?_
  exact apply_block_confined hquiet
    (hblocks phase_id device_id found hfound block (by rw [hsplit]; simp))

theorem apply_phase_confined {gate_plan : List Value} {ise_manifest : Option Value}
    {artifact_devices : Value} {device_ids : List String} {phase_id : String}
    (hblocks : AdmissibleBlocks admissible artifact_devices) :
    Keeps (Confined admissible : State platform derive_fabric_intent start → Prop)
      (apply_phase worker outside run_id gate_plan ise_manifest artifact_devices device_ids
        phase_id) := by
  apply Keeps.bind (apply_ise_confined)
  intro _
  apply Keeps.bind (Keeps.each fun device_id => apply_device_confined hquiet hblocks)
  intro _
  apply Keeps.lift_bind
  intro phase_gates
  apply Keeps.each
  intro gate
  exact (record_gate_confined hquiet).bind fun _ => Keeps.ite Keeps.pure Keeps.raise

theorem commit_apply_confined {run : RunRow} {artifact : Value} :
    Keeps (Confined admissible : State platform derive_fabric_intent start → Prop)
      (commit_apply worker outside run_id run artifact) := by
  apply Keeps.lift_bind
  intro artifact_hash
  apply Keeps.lift_bind
  intro owned_state
  apply Keeps.bind Keeps.read
  intro detail
  apply Keeps.bind (transact_confined hquiet)
  intro updated
  apply Keeps.bind (get_plan_confined)
  intro plan_record
  split
  · exact (transact_confined hquiet).bind fun _ => Keeps.pure
  · exact Keeps.pure

/-- The artifact has no ISE manifest and only admissible blocks. -/
structure AdmissibleArtifact (admissible : Event → Prop) (artifact : Value) : Prop where
  no_manifest : ∀ manifest, ise_manifest_of artifact = .ok manifest → Value.optTruthy manifest = false
  blocks : ∀ artifact_devices, artifact.item "devices" = .ok artifact_devices →
    AdmissibleBlocks admissible artifact_devices

theorem apply_transaction_confined {run : RunRow} {plan artifact : Value}
    {devices : List (String × Value)} {gate_plan : List Value} {ise_manifest : Option Value}
    (hartifact : AdmissibleArtifact admissible artifact)
    (hmanifest : ise_manifest_of artifact = .ok ise_manifest) :
    Keeps (Confined admissible : State platform derive_fabric_intent start → Prop)
      (apply_transaction worker outside run_id run plan artifact devices gate_plan ise_manifest) := by
  apply Keeps.bind (connect_devices_confined hquiet)
  intro _
  have hprepare : Keeps (Confined admissible : State platform derive_fabric_intent start → Prop)
      (prepare_ise worker outside run_id ise_manifest) := by
    rw [prepare_ise, hartifact.no_manifest _ hmanifest]
    exact Keeps.pure
  apply Keeps.bind hprepare
  intro _
  apply Keeps.lift_bind
  intro prechecks
  apply Keeps.bind (run_prechecks_confined hquiet prechecks)
  intro failed
  cases failed with
  | some updated => exact Keeps.pure
  | none =>
    apply Keeps.bind (create_checkpoints_confined hquiet)
    intro _
    apply Triple.lift_bind fun _ _ hs => hs
    intro artifact_devices hdevices
    apply Keeps.lift_bind
    intro phases
    apply Keeps.lift_bind
    intro device_ids
    apply Keeps.bind (Keeps.each fun phase_id =>
      apply_phase_confined hquiet (hartifact.blocks artifact_devices hdevices))
    intro _
    apply Keeps.bind Keeps.read
    exact fun _ => Keeps.ite Keeps.raise ((commit_apply_confined hquiet).bind fun _ => Keeps.pure)

/-! ## The exception handler -/

theorem roll_back_devices_confined (targets : List String) :
    Keeps (Confined admissible : State platform derive_fabric_intent start → Prop)
      (roll_back_devices worker outside run_id targets) := by
  induction targets with
  | nil => exact Keeps.pure
  | cons device_id rest ih =>
    apply Keeps.bind (roll_back_device_keeps (framed_confined hquiet)).attempt
    intro outcome
    apply Keeps.bind ih
    intro failures
    cases outcome <;> exact Keeps.pure

theorem roll_back_confined {ise_manifest : Option Value} :
    Keeps (Confined admissible : State platform derive_fabric_intent start → Prop)
      (roll_back worker outside run_id ise_manifest false) := by
  apply Keeps.bind Keeps.read
  intro targets
  apply Keeps.bind (roll_back_devices_confined hquiet targets)
  exact fun failures => Keeps.pure

theorem handle_failure_confined {run : RunRow} {ise_manifest : Option Value} {exception : Raised} :
    Keeps (Confined admissible : State platform derive_fabric_intent start → Prop)
      (handle_failure worker outside run_id run ise_manifest exception) := by
  have hno_changes (s : State platform derive_fabric_intent start) (hs : Confined admissible s) :
      (s.ise_adapter && outside.ise_has_changes s.trace) = false := by
    rw [hs.no_ise, Bool.false_and]
  apply Triple.read_bind_of hno_changes
  apply Keeps.bind Keeps.read
  intro has_checkpoints
  apply Keeps.ite
  · apply Keeps.bind (transact_confined hquiet)
    intro _
    apply Keeps.bind (roll_back_confined hquiet)
    intro failures
    apply Keeps.bind (transact_confined hquiet)
    intro updated
    apply Keeps.bind (get_plan_confined)
    intro plan_record
    dsimp only
    split
    · exact (transact_confined hquiet).bind fun _ => Keeps.pure
    · exact Keeps.pure
  · exact (transact_confined hquiet).bind fun _ => Keeps.pure

theorem close_adapters_confined :
    Keeps (Confined admissible : State platform derive_fabric_intent start → Prop)
      (close_adapters outside) := by
  apply Keeps.bind Keeps.read
  intro connected
  apply Keeps.bind
  · apply Keeps.each
    exact fun device_id => ((framed_confined hquiet).call _ rfl).bind fun _ => Keeps.pure
  · intro _
    apply Triple.read_bind_of fun s hs => hs.no_ise
    exact Keeps.pure

theorem guarded_transaction_confined {run : RunRow} {plan artifact : Value}
    {devices : List (String × Value)} {gate_plan : List Value} {ise_manifest : Option Value}
    (hartifact : AdmissibleArtifact admissible artifact)
    (hmanifest : ise_manifest_of artifact = .ok ise_manifest) :
    Keeps (Confined admissible : State platform derive_fabric_intent start → Prop)
      (guarded_transaction worker outside run_id run plan artifact devices gate_plan
        ise_manifest) := by
  apply Keeps.bind
  · apply Keeps.attempt
    apply Keeps.bind (apply_transaction_confined hquiet hartifact hmanifest).attempt
    intro outcome
    cases outcome with
    | ok result => exact Keeps.pure
    | error exception => exact handle_failure_confined hquiet
  · intro outcome
    apply Keeps.bind (close_adapters_confined hquiet)
    exact fun _ => Triple.lift (fun _ _ _ hs => hs) fun _ _ _ hs => hs

/-- A `process_apply` call on a bound artifact without unresolved blockers does what is
admissible, when the artifact then holds nothing else. -/
theorem process_apply_confined {intent plan artifact : Value}
    {allowed_blocker_codes : Option (List String)}
    (hartifact : ∀ run blockers, start.find_run run_id = some run →
      check_binding platform run plan artifact = .ok () →
      artifact.get "blocking_requirements" = .ok blockers →
      _unresolved_blocker_codes blockers allowed_blocker_codes = .ok [] →
        AdmissibleArtifact admissible artifact) :
    Triple (fun s : State platform derive_fabric_intent start => s = .initial)
      (process_apply worker outside run_id intent plan artifact allowed_blocker_codes)
      (fun _ => Confined admissible) (fun _ => Confined admissible) := by
  have hinitial : Confined admissible (.initial : State platform derive_fabric_intent start) :=
    ⟨by simp [State.initial], rfl⟩
  apply Triple.bind fun run s => s = .initial ∧ s.store.find_run run_id = some run
  · refine get_run_triple.weaken (fun _ hs => hs) (fun _ _ hs => hs) ?_
    rintro _ s rfl
    exact hinitial
  intro run
  rintro s ⟨rfl, hrun⟩
  refine (?_ : Keeps (Confined admissible) _) .initial hinitial
  apply Keeps.ite Keeps.raise
  apply Triple.lift_bind fun _ _ hs => hs
  intro _ hbound
  apply Triple.lift_bind fun _ _ hs => hs
  intro unresolved hunresolved
  obtain ⟨blockers, hblockers, hunresolved⟩ := bind_eq_ok_iff.mp hunresolved
  apply Triple.ite
  · exact fun _ => (transact_confined hquiet).bind fun _ => Keeps.pure
  intro hresolved
  rw [not_not] at hresolved
  subst hresolved
  have hadmissible := hartifact run blockers hrun hbound hblockers hunresolved
  apply Keeps.lift_bind
  intro devices
  apply Keeps.lift_bind
  intro gate_plan
  apply Triple.lift_bind fun _ _ hs => hs
  intro ise_manifest hmanifest
  apply Keeps.bind (_preflight_secret_sweep_keeps (framed_confined hquiet))
  intro _
  apply Keeps.bind (transact_confined hquiet)
  exact fun _ => guarded_transaction_confined hquiet hadmissible hmanifest

end Confined

end orchestrator.worker
