import SdaOrchestrator.Worker.Body

open python effects effects.Program orchestrator.store

namespace orchestrator.worker

/-- A rollback of the device to its verified checkpoint was attempted. -/
def RolledBack (run_id device_id : String) (trace : List Event) : Prop :=
  ∃ text outcome, Checkpointed run_id device_id text trace ∧
    .called (.rollback device_id text) outcome ∈ trace

/-- Blocks were sent in order only, and every device that was sent one was rolled back. -/
structure Unwound (gate_plan : List Value) (devices : List String) (run_id : String)
    (trace : List Event) : Prop where
  orderly : Orderly (Ready gate_plan devices run_id) trace
  restored : ∀ device_id, Sent trace device_id → RolledBack run_id device_id trace

theorem RolledBack.append {run_id device_id : String} {trace : List Event}
    (hrolled : RolledBack run_id device_id trace) (events : List Event) :
    RolledBack run_id device_id (trace ++ events) := by
  obtain ⟨text, outcome, hcheckpoint, hcalled⟩ := hrolled
  exact ⟨text, outcome, hcheckpoint.append events, List.mem_append_left _ hcalled⟩

section Rollback

variable {platform : Platform} {derive_fabric_intent : Derive} {start : Store}
  {worker : TransactionWorker} {outside : Outside} {base : CoreTables} {run_id : String}
  {gate_plan : List Value} {devices : List String}
  {P : State platform derive_fabric_intent start → Prop}

theorem lasting_unwound : Lasting fun s : State platform derive_fabric_intent start =>
    Unwound gate_plan devices run_id s.trace := by
  intro before after hsilent hunwound
  obtain ⟨events, htrace, hnone⟩ := hsilent.trace
  rw [htrace]
  refine ⟨hunwound.orderly.append hnone, fun device_id hsent => ?_⟩
  rw [sent_append hnone] at hsent
  exact (hunwound.restored device_id hsent).append events

theorem Unsent.restored {s : State platform derive_fabric_intent start} (hunsent : Unsent s) :
    ∀ device_id, Sent s.trace device_id → RolledBack run_id device_id s.trace := by
  rintro device_id ⟨event, hevent, phase_id, block, hblock⟩
  rw [hunsent event hevent] at hblock
  cases hblock

theorem Unsent.unwound {s : State platform derive_fabric_intent start} (hunsent : Unsent s) :
    Unwound gate_plan devices run_id s.trace where
  orderly := orderly_of_unsent hunsent
  restored := hunsent.restored

/-- After the rollback of a device: if blocks were sent to it, it was attempted. -/
theorem lasting_restored (targets : List String) :
    Lasting fun s : State platform derive_fabric_intent start =>
      ∀ device_id ∈ targets, Sent s.trace device_id → RolledBack run_id device_id s.trace := by
  intro before after hsilent hrestored device_id hdevice hsent
  obtain ⟨events, htrace, hnone⟩ := hsilent.trace
  rw [htrace, sent_append hnone] at hsent
  rw [htrace]
  exact (hrestored device_id hdevice hsent).append events

theorem roll_back_device_keeps (hP : Framed outside P) {device_id : String} :
    Keeps P (roll_back_device worker outside run_id device_id) := by
  apply adapter_keeps.bind
  intro _
  apply Keeps.bind Keeps.read
  intro found
  cases found with
  | none => exact Keeps.raise
  | some checkpoint =>
    apply (hP.call _ rfl).bind
    intro result
    apply Keeps.lift_bind
    intro verified
    exact Keeps.ite (hP.evidence _ _ _ _ _ _) Keeps.raise

/-- A connected device with a checkpoint is called, whatever comes of it. -/
theorem roll_back_device_triple {device_id : String} :
    Triple (fun s : State platform derive_fabric_intent start =>
        device_id ∈ s.adapters ∧ Restorable run_id device_id s)
      (roll_back_device worker outside run_id device_id)
      (fun _ s => RolledBack run_id device_id s.trace)
      (fun _ s => RolledBack run_id device_id s.trace) := by
  have hrolled : Stable fun s : State platform derive_fabric_intent start =>
      RolledBack run_id device_id s.trace :=
    (lasting_trace fun _ events h => h.append events).stable
  apply Triple.bind fun _ s => Restorable run_id device_id s
  · apply Triple.read_bind
    intro found
    apply Triple.ite
    · exact fun _ => Triple.pure fun s hs => hs.1.2
    · intro hmissing
      apply Triple.raise
      rintro s ⟨⟨hadapter, -⟩, hfound⟩
      simp [hadapter, ← hfound] at hmissing
  intro _
  apply Triple.read_bind
  intro found
  cases found with
  | none =>
    apply Triple.raise
    rintro s ⟨⟨text, -, hlookup⟩, hfound⟩
    rw [hlookup] at hfound
    cases hfound
  | some checkpoint =>
    have hcheckpoint : Stable fun s : State platform derive_fabric_intent start =>
        Checkpointed run_id device_id checkpoint s.trace :=
      (lasting_trace fun _ events h => h.append events).stable
    apply Triple.bind fun _ s => RolledBack run_id device_id s.trace
    · refine (call_triple hcheckpoint (by trivial)).weaken ?_ ?_ ?_
      · rintro s ⟨⟨text, htext, hlookup⟩, hfound⟩
        obtain rfl : text = checkpoint := Option.some.inj (hlookup.symm.trans hfound)
        exact htext
      · exact fun value s hs => ⟨checkpoint, .ok value, hs⟩
      · exact fun exception s hs => ⟨checkpoint, .error exception, hs⟩
    intro result
    apply Triple.lift_bind fun _ _ hs => hs
    intro verified _
    exact Keeps.ite (add_evidence_keeps hrolled) Keeps.raise

theorem lasting_not_sent {device_id : String} :
    Lasting fun s : State platform derive_fabric_intent start => ¬Sent s.trace device_id := by
  intro before after hsilent hunsent
  obtain ⟨events, htrace, hnone⟩ := hsilent.trace
  rw [htrace, sent_append hnone]
  exact hunsent

/-- In a recoverable state a device that was sent blocks gets its rollback. -/
theorem roll_back_sent_triple (hP : Stable P)
    (hrecoverable : ∀ s, P s → Recoverable gate_plan devices run_id s) {device_id : String} :
    Triple P (roll_back_device worker outside run_id device_id)
      (fun _ s => P s ∧ (Sent s.trace device_id → RolledBack run_id device_id s.trace))
      (fun _ s => P s ∧ (Sent s.trace device_id → RolledBack run_id device_id s.trace)) := by
  have hother : Keeps (fun s => P s ∧ ¬Sent s.trace device_id)
      (roll_back_device worker outside run_id device_id) :=
    roll_back_device_keeps (hP.and lasting_not_sent.stable).framed
  have hself : Triple (fun s => P s ∧ device_id ∈ s.adapters ∧ Restorable run_id device_id s)
      (roll_back_device worker outside run_id device_id)
      (fun _ s => P s ∧ RolledBack run_id device_id s.trace)
      (fun _ s => P s ∧ RolledBack run_id device_id s.trace) :=
    (roll_back_device_keeps hP.framed).and roll_back_device_triple
  intro s hs
  by_cases hsent : Sent s.trace device_id
  · refine hself.weaken (fun _ hs => hs) ?_ ?_ s ⟨hs, ((hrecoverable s hs).sent device_id hsent).2⟩
    · exact fun _ _ ht => ⟨ht.1, fun _ => ht.2⟩
    · exact fun _ _ ht => ⟨ht.1, fun _ => ht.2⟩
  · refine hother.weaken (fun _ hs => hs) ?_ ?_ s ⟨hs, hsent⟩
    · exact fun _ _ ht => ⟨ht.1, fun hsent => absurd hsent ht.2⟩
    · exact fun _ _ ht => ⟨ht.1, fun hsent => absurd hsent ht.2⟩

/-- One device after the other; no failure keeps a later device from its rollback. -/
theorem roll_back_devices_triple (hP : Stable P)
    (hrecoverable : ∀ s, P s → Recoverable gate_plan devices run_id s) (targets : List String) :
    Triple P (roll_back_devices worker outside run_id targets)
      (fun _ s => P s ∧
        ∀ device_id ∈ targets, Sent s.trace device_id → RolledBack run_id device_id s.trace)
      (fun _ _ => False) := by
  induction targets generalizing P with
  | nil => exact Triple.pure fun s hs => ⟨hs, by simp⟩
  | cons device_id rest ih =>
    let Q (s : State platform derive_fabric_intent start) :=
      P s ∧ ∀ other ∈ [device_id], Sent s.trace other → RolledBack run_id other s.trace
    have hQ : Stable Q := hP.and (lasting_restored [device_id]).stable
    apply Triple.bind fun _ => Q
    · apply Triple.attempt
      refine (roll_back_sent_triple hP hrecoverable).weaken (fun _ hs => hs) ?_ ?_
      · exact fun _ s hs => ⟨hs.1, by simpa using hs.2⟩
      · exact fun _ s hs => ⟨hs.1, by simpa using hs.2⟩
    intro outcome
    apply Triple.bind _ (ih hQ fun s hs => hrecoverable s hs.1)
    intro failures
    have hall (s : State platform derive_fabric_intent start)
        (hs : Q s ∧ ∀ other ∈ rest, Sent s.trace other → RolledBack run_id other s.trace) :
        P s ∧ ∀ other ∈ device_id :: rest, Sent s.trace other → RolledBack run_id other s.trace :=
      ⟨hs.1.1, List.forall_mem_cons.mpr ⟨hs.1.2 device_id (by simp), hs.2⟩⟩
    cases outcome with
    | ok value => exact Triple.pure hall
    | error exception => exact Triple.pure hall

/-- The rollback as a whole cannot raise, and it leaves no device out. -/
theorem roll_back_triple {ise_manifest : Option Value} {ise_has_changes : Bool} :
    Triple (fun s : State platform derive_fabric_intent start =>
        Recoverable gate_plan devices run_id s ∧ base.Standing run_id .rollback_running s.store.core)
      (roll_back worker outside run_id ise_manifest ise_has_changes)
      (fun _ s => Unwound gate_plan devices run_id s.trace ∧
        base.Standing run_id .rollback_running s.store.core)
      (fun _ _ => False) := by
  apply Triple.read_bind
  intro targets
  let inv (s : State platform derive_fabric_intent start) :=
    (Recoverable gate_plan devices run_id s ∧
      base.Standing run_id .rollback_running s.store.core) ∧
      ∀ device_id ∈ s.changed_devices, device_id ∈ targets
  have htargets : Lasting fun s : State platform derive_fabric_intent start =>
      ∀ device_id ∈ s.changed_devices, device_id ∈ targets := by
    intro before after hsilent h
    rw [hsilent.changed_devices]
    exact h
  have hinv : Stable inv := (lasting_recoverable.stable.and stable_standing).and htargets.stable
  let unwound (s : State platform derive_fabric_intent start) :=
    Unwound gate_plan devices run_id s.trace ∧
      base.Standing run_id .rollback_running s.store.core
  have hunwound : Stable unwound := lasting_unwound.stable.and stable_standing
  apply Triple.bind fun _ => unwound
  · refine (roll_back_devices_triple hinv (fun s hs => hs.1.1) targets).weaken ?_ ?_
      fun _ _ hs => hs
    · rintro s ⟨hs, rfl⟩
      refine ⟨hs, fun device_id hdevice => ?_⟩
      have hchanged : s.changed_devices ≠ [] := List.ne_nil_of_mem hdevice
      rw [if_neg hchanged]
      exact List.mem_reverse.mpr hdevice
    · rintro _ s ⟨⟨⟨hrecoverable, hstanding⟩, htargets⟩, hrestored⟩
      refine ⟨⟨hrecoverable.orderly, fun device_id hsent => ?_⟩, hstanding⟩
      exact hrestored device_id (htargets device_id (hrecoverable.sent device_id hsent).1) hsent
  intro failures
  apply Triple.ite
  · intro _
    apply Triple.bind fun _ => unwound
    · exact Triple.attempt (roll_back_ise_keeps hunwound)
    intro outcome
    cases outcome with
    | ok value => exact Triple.pure fun s hs => hs
    | error exception => exact Triple.pure fun s hs => hs
  · exact fun _ => Triple.pure fun s hs => hs

/-! ## The exception handler -/

/-- The run has ended without success: what was sent is rolled back, and a run that
is marked so has freed the reservation of its plan. -/
structure Ended (gate_plan : List Value) (devices : List String) (base : CoreTables)
    (run_id plan_id : String) (s : State platform derive_fabric_intent start) : Prop where
  unwound : Unwound gate_plan devices run_id s.trace
  status : ∃ status ∈ [RunStatus.apply_failed, .rollback_failed, .rolled_back],
    s.store.core.run_status run_id = some status
  freed : s.store.core.run_status run_id = some .rolled_back → ∀ reference,
    base.planned_reservation plan_id = some reference → base.Freed reference s.store.core

theorem stable_ended {plan_id : String} : Stable fun s : State platform derive_fabric_intent start =>
    Ended gate_plan devices base run_id plan_id s := by
  intro before after hquiet hended
  refine ⟨lasting_unwound before after hquiet.toSilent hended.unwound, ?_, ?_⟩
  · rw [hquiet.core]
    exact hended.status
  · rw [hquiet.core]
    exact hended.freed

/-- A run that has failed or could not be rolled back frees nothing. -/
theorem ended_of_status {plan_id : String} {status : RunStatus}
    {s : State platform derive_fabric_intent start}
    (hunwound : Unwound gate_plan devices run_id s.trace)
    (hstatus : s.store.core.run_status run_id = some status)
    (hfailed : status ∈ [RunStatus.apply_failed, .rollback_failed]) :
    Ended gate_plan devices base run_id plan_id s where
  unwound := hunwound
  status := ⟨status, by simp at hfailed ⊢; tauto, hstatus⟩
  freed hrolled := by
    rw [hstatus] at hrolled
    simp_all

/-- A run that is rolled back while the worker finds no reservation in its plan, or
has freed the one it finds. -/
theorem ended_of_rolled_back {plan_id : String} {s : State platform derive_fabric_intent start}
    (hunwound : Unwound gate_plan devices run_id s.trace)
    (hstatus : s.store.core.run_status run_id = some .rolled_back)
    (hfreed : ∀ reference, base.planned_reservation plan_id = some reference →
      base.Freed reference s.store.core) :
    Ended gate_plan devices base run_id plan_id s where
  unwound := hunwound
  status := ⟨.rolled_back, by simp, hstatus⟩
  freed := fun _ => hfreed

theorem planned_reservation_of_standing {plan_id : String} {status : RunStatus} {store : Store}
    (hstanding : base.Standing run_id status store.core) :
    base.planned_reservation plan_id =
      (store.find_plan plan_id).bind fun plan => given plan.reservation_id := by
  rw [CoreTables.planned_reservation, ← hstanding.plans]
  rfl

/-- The reservation of a run whose rollback failed is quarantined, where that is allowed. -/
theorem quarantine_triple {plan_id : String} {result : ApplyResult} :
    Triple (fun s : State platform derive_fabric_intent start =>
        Unwound gate_plan devices run_id s.trace ∧
          base.Standing run_id .rollback_failed s.store.core)
      (do
        let plan_record ← get_plan plan_id
        match given plan_record.reservation_id with
        | some reservation_id =>
          let _ ← transition_design_reservation outside reservation_id .quarantined worker.actor false
          return result
        | none => return result)
      (fun _ s => Ended gate_plan devices base run_id plan_id s)
      (fun _ s => Ended gate_plan devices base run_id plan_id s) := by
  let failed (s : State platform derive_fabric_intent start) :=
    Unwound gate_plan devices run_id s.trace ∧
      s.store.core.run_status run_id = some .rollback_failed
  have hended (s) (hs : failed s) : Ended gate_plan devices base run_id plan_id s :=
    ended_of_status hs.1 hs.2 (by decide)
  apply Triple.bind fun _ => failed
  · refine get_plan_triple.weaken (fun _ hs => hs) (fun _ s hs => ?_) fun _ s hs => ?_
    · exact ⟨hs.1.1, hs.1.2.status⟩
    · exact hended s ⟨hs.1.1, hs.1.2.status⟩
  intro plan_record
  cases given plan_record.reservation_id with
  | none => exact Triple.pure hended
  | some reservation_id =>
    apply Triple.bind fun _ => failed
    · exact (transition_design_reservation_keeps lasting_unwound).weaken (fun _ hs => hs)
        (fun _ _ hs => hs) fun _ s hs => hended s hs
    · exact fun _ => Triple.pure hended

/-- The reservation of a run that was rolled back is released, whatever its state was. -/
theorem release_reservation_triple {plan_id : String} {result : ApplyResult} :
    Triple (fun s : State platform derive_fabric_intent start =>
        Unwound gate_plan devices run_id s.trace ∧
          base.Standing run_id .rolled_back s.store.core)
      (do
        let plan_record ← get_plan plan_id
        match given plan_record.reservation_id with
        | some reservation_id =>
          let _ ← transition_design_reservation outside reservation_id .released worker.actor true
          return result
        | none => return result)
      (fun _ s => Ended gate_plan devices base run_id plan_id s)
      (fun _ s => Ended gate_plan devices base run_id plan_id s) := by
  apply Triple.bind fun plan_record s => (Unwound gate_plan devices run_id s.trace ∧
    base.Standing run_id .rolled_back s.store.core) ∧
      base.planned_reservation plan_id = given plan_record.reservation_id
  · refine get_plan_triple.weaken (fun _ hs => hs) (fun plan_record s hs => ?_) fun _ s hs => ?_
    · refine ⟨hs.1, ?_⟩
      rw [planned_reservation_of_standing hs.1.2, hs.2]
      rfl
    · refine ended_of_rolled_back hs.1.1 hs.1.2.status fun reference hreference => ?_
      rw [planned_reservation_of_standing hs.1.2, hs.2] at hreference
      cases hreference
  intro plan_record
  cases given plan_record.reservation_id with
  | none =>
    apply Triple.pure
    rintro s ⟨⟨hunwound, hstanding⟩, hnone⟩
    refine ended_of_rolled_back hunwound hstanding.status fun reference hreference => ?_
    rw [hnone] at hreference
    cases hreference
  | some reservation_id =>
    have hfreed (s : State platform derive_fabric_intent start)
        (hs : ((Unwound gate_plan devices run_id s.trace ∧
            base.planned_reservation plan_id = some reservation_id) ∧
          s.store.core.run_status run_id = some .rolled_back) ∧
          base.Freed reservation_id s.store.core) :
        Ended gate_plan devices base run_id plan_id s := by
      refine ended_of_rolled_back hs.1.1.1 hs.1.2 fun reference hreference => ?_
      obtain rfl : reservation_id = reference := by simpa [hs.1.1.2] using hreference
      exact hs.2
    have hlasting : Lasting fun s : State platform derive_fabric_intent start =>
        Unwound gate_plan devices run_id s.trace ∧
          base.planned_reservation plan_id = some reservation_id :=
      lasting_unwound.and fun _ _ _ h => h
    apply Triple.bind _ ((release_triple hlasting).weaken (fun s hs => ⟨⟨hs.1.1, hs.2⟩, hs.1.2⟩)
      (fun _ _ hs => hs) fun _ s hs => hfreed s hs)
    exact fun _ => Triple.pure hfreed

/-- From a recoverable state the handler ends the run without success. -/
theorem handle_failure_triple {run : RunRow} {ise_manifest : Option Value} {exception : Raised} :
    Triple (fun s : State platform derive_fabric_intent start =>
        Recoverable gate_plan devices run_id s ∧ Running base run_id s)
      (handle_failure worker outside run_id run ise_manifest exception)
      (fun _ s => Ended gate_plan devices base run_id run.plan_id s)
      (fun _ s => Ended gate_plan devices base run_id run.plan_id s) := by
  apply Triple.read_bind
  intro ise_has_changes
  apply Triple.read_bind
  intro has_checkpoints
  apply Triple.ite
  · intro _
    have hrollback : RunStatus.rollback_running ∈ transition_run.allowed .apply_running := by decide
    apply Triple.bind _ ((transition_run_triple lasting_recoverable hrollback).weaken
      (fun _ hs => hs.1.1) (fun _ _ hs => hs) fun _ _ hs => hs.elim)
    intro _
    apply Triple.bind _ (roll_back_triple.weaken (fun _ hs => hs) (fun _ _ hs => hs)
      fun _ _ hs => hs.elim)
    intro failures
    cases hclean : failures.isEmpty with
    | true =>
      have hfinal : RunStatus.rolled_back ∈ transition_run.allowed .rollback_running := by decide
      apply Triple.bind _ ((transition_run_triple lasting_unwound hfinal).weaken
        (fun _ hs => hs) (fun _ _ hs => hs) fun _ _ hs => hs.elim)
      intro updated
      exact release_reservation_triple
    | false =>
      have hfinal : RunStatus.rollback_failed ∈ transition_run.allowed .rollback_running := by decide
      apply Triple.bind _ ((transition_run_triple lasting_unwound hfinal).weaken
        (fun _ hs => hs) (fun _ _ hs => hs) fun _ _ hs => hs.elim)
      intro updated
      exact quarantine_triple
  · intro hnothing
    have hfailed : RunStatus.apply_failed ∈ transition_run.allowed .apply_running := by decide
    have hunwound (s : State platform derive_fabric_intent start)
        (hrecoverable : Recoverable gate_plan devices run_id s)
        (hcheckpoints : (!s.checkpoints.isEmpty) = has_checkpoints) :
        Unwound gate_plan devices run_id s.trace := by
      refine ⟨hrecoverable.orderly, fun device_id hsent => ?_⟩
      obtain ⟨-, -, text, -, hlookup⟩ := hrecoverable.sent device_id hsent
      -- without a checkpoint no device was sent a block
      have hempty : s.checkpoints = [] := by simp_all
      rw [hempty] at hlookup
      cases hlookup
    apply Triple.bind _ ((transition_run_triple lasting_unwound hfailed).weaken
      (fun s hs => ⟨hunwound s hs.1.1.1 hs.2, hs.1.1.2⟩) (fun _ _ hs => hs) fun _ _ hs => hs.elim)
    intro updated
    exact Triple.pure fun s hs => ended_of_status hs.1 hs.2.status (by decide)

/-- A run that has succeeded cannot be failed any more: the handler raises. -/
theorem handle_failure_refused {run : RunRow} {plan artifact : Value}
    {ise_manifest : Option Value} {exception : Raised} :
    Triple (Succeeded gate_plan devices plan artifact run_id :
        State platform derive_fabric_intent start → Prop)
      (handle_failure worker outside run_id run ise_manifest exception)
      (fun _ _ => False) (fun _ s => Succeeded gate_plan devices plan artifact run_id s) := by
  apply Triple.read_bind
  intro ise_has_changes
  apply Triple.read_bind
  intro has_checkpoints
  apply Triple.ite
  · intro _
    have hrefused : RunStatus.rollback_running ∉ transition_run.allowed .apply_succeeded := by decide
    refine Triple.bind (fun _ _ => False) ?_ fun _ _ hs => hs.elim
    refine (transition_run_refused (fun s hs => hs.status) hrefused).weaken ?_ (fun _ _ hs => hs)
      fun _ _ hs => hs
    exact fun s hs => hs.1.1
  · intro _
    have hrefused : RunStatus.apply_failed ∉ transition_run.allowed .apply_succeeded := by decide
    refine Triple.bind (fun _ _ => False) ?_ fun _ _ hs => hs.elim
    refine (transition_run_refused (fun s hs => hs.status) hrefused).weaken ?_ (fun _ _ hs => hs)
      fun _ _ hs => hs
    exact fun s hs => hs.1.1

end Rollback

end orchestrator.worker
