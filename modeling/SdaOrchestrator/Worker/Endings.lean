import SdaOrchestrator.Store.Moves
import SdaOrchestrator.Worker.Release

open python effects effects.Program orchestrator.store

namespace orchestrator.store

/-- The reservation may go to the state that is asked for. -/
def CoreTables.Grants (tables : CoreTables) (reference : String) (asked : ReservationState) : Prop :=
  ∃ held, tables.reservation_state reference = some held ∧ asked ∈ transition_design_reservation.allowed held

/-- A transition that is granted commits, if a release is a verified one. -/
theorem move_eq_ok {platform : Platform} {reference actor : String} {asked : ReservationState} {verified : Bool}
    {ambient : Ambient} {store : Store} (hgrants : store.core.Grants reference asked)
    (hverified : asked = .released → verified = true) :
    ∃ record next, transition_design_reservation platform reference asked actor verified ambient store =
      .ok (record, next) := by
  obtain ⟨held, hheld, hallowed⟩ := hgrants
  obtain ⟨row, hfind, rfl⟩ := Option.map_eq_some_iff.mp hheld
  have hrow : store.find_reservation reference = some row := hfind
  have hsupported : asked ∈ transition_design_reservation.supported := by
    cases hcase : row.state <;> rw [hcase] at hallowed <;>
      simp_all [transition_design_reservation.allowed, transition_design_reservation.supported]
  have hrelease : (asked = .released && !verified) = false := by
    cases asked <;> simp_all
  simp [transition_design_reservation, hsupported, hrow, hallowed, hrelease, require, raise_if, bind_eq_ok_iff]

/-- What a transition that commits was granted. -/
theorem grants_of_ok {platform : Platform} {reference actor : String} {asked : ReservationState} {verified : Bool}
    {ambient : Ambient} {store next : Store} {record : ReservationRecord}
    (hok : transition_design_reservation platform reference asked actor verified ambient store = .ok (record, next)) :
    store.core.Grants reference asked ∧ next.core.reservation_state reference = some asked := by
  obtain ⟨row, updated_at, hfind, hallowed, hcore⟩ := transition_design_reservation_core hok
  have hheld : store.core.reservation_state reference = some row.state :=
    Option.map_eq_some_iff.mpr ⟨row, hfind, rfl⟩
  refine ⟨⟨row.state, hheld, hallowed⟩, ?_⟩
  have hset := @reservation_state_set_reservation_state store.core reference updated_at asked
    (set_network_state reference asked updated_at store.network_allocations)
    (set_scalar_state reference asked updated_at store.scalar_allocations)
  rw [hheld] at hset
  rw [hcore]
  exact hset

end orchestrator.store

namespace orchestrator.worker

/-- The state that the end of a run asks of the reservation of its plan. -/
def asked_state : RunStatus → Option ReservationState
  | .apply_succeeded => some .committed
  | .rolled_back => some .released
  | .rollback_failed => some .quarantined
  | _ => none

/-- The reservation of a plan, if it has one, may go where a run that ends so sends it. -/
def Granted (base : CoreTables) (plan_id : String) (status : RunStatus) : Prop :=
  ∀ reference asked, base.planned_reservation plan_id = some reference → asked_state status = some asked →
    base.Grants reference asked

/-- The run has ended and the reservation of its plan has gone where that sends it. -/
structure Moved (base : CoreTables) (run_id plan_id : String) (status : RunStatus) (tables : CoreTables) :
    Prop where
  ended : tables.run_status run_id = some status
  granted : Granted base plan_id status
  reservation : ∀ reference asked, base.planned_reservation plan_id = some reference →
    asked_state status = some asked → tables.reservation_state reference = some asked

/-- The run has ended and the reservation of its plan could not go where that sends it. -/
structure Refused (base : CoreTables) (run_id plan_id : String) (status : RunStatus) (tables : CoreTables) :
    Prop where
  ended : tables.run_status run_id = some status
  refused : ¬Granted base plan_id status

section Endings

variable {platform : Platform} {derive_fabric_intent : Derive} {start : Store} {worker : TransactionWorker}
  {outside : Outside} {base : CoreTables} {run_id : String} {gate_plan : List Value}

/-! ## Parts that leave the core tables -/

section Tables

variable {Q : CoreTables → Prop}

theorem stable_tables : Stable fun s : State platform derive_fabric_intent start => Q s.store.core := by
  intro before after hquiet hbefore
  rw [hquiet.core]
  exact hbefore

theorem call_tables {request : Call} :
    Keeps (fun s : State platform derive_fabric_intent start => Q s.store.core) (call outside request) := by
  intro s hs
  simp only [call]
  cases outside.respond s.trace request with
  | error exception => exact hs
  | ok value => exact hs

theorem modify_tables {change : State platform derive_fabric_intent start → State platform derive_fabric_intent start}
    (hchange : ∀ s, (change s).store = s.store) :
    Keeps (fun s : State platform derive_fabric_intent start => Q s.store.core)
      (Program.modify change : Apply platform derive_fabric_intent start Unit) :=
  Triple.modify fun s hs => by rw [hchange]; exact hs

theorem connect_devices_tables {devices : List (String × Value)} :
    Keeps (fun s : State platform derive_fabric_intent start => Q s.store.core) (connect_devices outside devices) := by
  apply Keeps.each
  intro device_id
  apply Keeps.bind call_tables
  intro _
  apply Keeps.bind call_tables
  exact fun _ => modify_tables fun s => rfl

theorem create_checkpoints_tables :
    Keeps (fun s : State platform derive_fabric_intent start => Q s.store.core)
      (create_checkpoints worker outside run_id) := by
  apply Keeps.bind Keeps.read
  intro connected
  apply Keeps.each
  intro device_id
  apply Keeps.bind call_tables
  intro checkpoint
  apply Keeps.lift_bind
  intro verified
  apply Keeps.ite _ Keeps.raise
  apply Keeps.lift_bind
  intro text
  apply Keeps.bind
  · exact modify_tables fun s => rfl
  · exact fun _ => add_evidence_keeps stable_tables

theorem apply_block_tables {phase_id device_id : String} {block : Value} :
    Keeps (fun s : State platform derive_fabric_intent start => Q s.store.core)
      (apply_block worker outside run_id phase_id device_id block) := by
  apply Keeps.lift_bind
  intro commands
  apply Keeps.bind (_resolve_commands_keeps stable_tables.framed)
  intro resolved
  apply Keeps.bind
  · refine modify_tables fun s => ?_
    split <;> rfl
  intro _
  apply adapter_keeps.bind
  intro _
  apply Keeps.bind call_tables
  intro evidence
  apply Keeps.lift_bind
  exact fun payload => add_evidence_keeps stable_tables

theorem apply_phase_tables {ise_manifest : Option Value} {artifact_devices : Value} {device_ids : List String}
    {phase_id : String} :
    Keeps (fun s : State platform derive_fabric_intent start => Q s.store.core)
      (apply_phase worker outside run_id gate_plan ise_manifest artifact_devices device_ids phase_id) := by
  apply Keeps.bind (apply_ise_keeps stable_tables)
  intro _
  apply Keeps.bind
  · apply Keeps.each
    intro device_id
    apply Keeps.lift_bind
    exact fun blocks => Keeps.each fun block => apply_block_tables
  intro _
  apply Keeps.lift_bind
  intro phase_gates
  apply Keeps.each
  intro gate
  apply Keeps.bind
  · exact (_record_gate_triple stable_tables.framed).weaken (fun _ hs => hs) (fun _ _ hs => hs.1) fun _ _ hs => hs
  · exact fun passed => Keeps.ite Keeps.pure Keeps.raise

/-- Every failure of a rollback is noted, and none is raised. -/
theorem roll_back_devices_tables (targets : List String) :
    Triple (fun s : State platform derive_fabric_intent start => Q s.store.core)
      (roll_back_devices worker outside run_id targets) (fun _ s => Q s.store.core) (fun _ _ => False) := by
  induction targets with
  | nil => exact Triple.pure fun s hs => hs
  | cons device_id rest ih =>
    apply Triple.bind fun _ s => Q s.store.core
    · exact Triple.attempt (roll_back_device_keeps stable_tables.framed)
    intro outcome
    apply Triple.bind _ ih
    intro failures
    cases outcome with
    | ok value => exact Triple.pure fun s hs => hs
    | error exception => exact Triple.pure fun s hs => hs

theorem roll_back_tables {ise_manifest : Option Value} {ise_has_changes : Bool} :
    Triple (fun s : State platform derive_fabric_intent start => Q s.store.core)
      (roll_back worker outside run_id ise_manifest ise_has_changes) (fun _ s => Q s.store.core)
      (fun _ _ => False) := by
  apply Triple.read_bind
  intro targets
  apply Triple.bind _ ((roll_back_devices_tables targets).weaken (fun _ hs => hs.1) (fun _ _ hs => hs) fun _ _ hs => hs)
  intro failures
  apply Triple.ite
  · intro _
    apply Triple.bind fun _ s => Q s.store.core
    · exact Triple.attempt (roll_back_ise_keeps stable_tables)
    intro outcome
    cases outcome with
    | ok value => exact Triple.pure fun s hs => hs
    | error exception => exact Triple.pure fun s hs => hs
  · exact fun _ => Triple.pure fun s hs => hs

/-- A call that closes a connection. -/
def Call.closes : Call → Bool
  | .close _ => true
  | .ise_close => true
  | _ => false

/-- Adapters close without an exception. -/
def Closing (outside : Outside) : Prop :=
  ∀ trace request, request.closes → ∃ value, outside.respond trace request = .ok value

theorem close_tables (hclosing : Closing outside) {request : Call} (hrequest : request.closes) :
    Triple (fun s : State platform derive_fabric_intent start => Q s.store.core) (call outside request)
      (fun _ s => Q s.store.core) (fun _ _ => False) := by
  intro s hs
  obtain ⟨value, hvalue⟩ := hclosing s.trace request hrequest
  simp only [call, hvalue]
  exact hs

theorem close_adapters_tables (hclosing : Closing outside) :
    Triple (fun s : State platform derive_fabric_intent start => Q s.store.core) (close_adapters outside)
      (fun _ s => Q s.store.core) (fun _ _ => False) := by
  apply Triple.read_bind
  intro connected
  apply Triple.bind fun _ s => Q s.store.core
  · refine (Triple.each (fun _ s => Q s.store.core) ?_).weaken (fun _ hs => hs.1) (fun _ _ hs => hs) fun _ _ hs => hs
    intro done device_id rest _
    apply Triple.bind _ (close_tables hclosing rfl)
    exact fun _ => Triple.pure fun s hs => hs
  intro _
  apply Triple.read_bind
  intro ise_adapter
  apply Triple.ite
  · intro _
    apply Triple.bind _ ((close_tables hclosing rfl).weaken (fun _ hs => hs.1) (fun _ _ hs => hs) fun _ _ hs => hs)
    exact fun _ => Triple.pure fun s hs => hs
  · exact fun _ => Triple.pure fun s hs => hs.1

end Tables

/-! ## The reservation of the plan -/

/-- The reservation goes to the state that is asked for, or may not. -/
theorem move_triple {status : RunStatus} {reference actor : String} {asked : ReservationState} {verified : Bool}
    (hverified : asked = .released → verified = true) :
    Triple (fun s : State platform derive_fabric_intent start => base.Standing run_id status s.store.core)
      (transition_design_reservation outside reference asked actor verified)
      (fun _ s => (base.Grants reference asked ∧ s.store.core.reservation_state reference = some asked) ∧
        s.store.core.run_status run_id = some status)
      (fun _ s => ¬base.Grants reference asked ∧ s.store.core.run_status run_id = some status) := by
  have hsame {s : State platform derive_fabric_intent start} (hstanding : base.Standing run_id status s.store.core) :
      s.store.core.Grants reference asked ↔ base.Grants reference asked := by
    simp only [CoreTables.Grants, hstanding.reservation_state]
  apply transact_triple
  · intro s exception hs herror
    refine ⟨fun hgrants => ?_, hs.status⟩
    obtain ⟨record, next, hok⟩ := move_eq_ok ((hsame hs).mpr hgrants) hverified
    rw [hok] at herror
    cases herror
  · intro s t value hs hresult _ _
    obtain ⟨hgrants, hstate⟩ := grants_of_ok hresult
    obtain ⟨row, updated_at, -, -, hcore⟩ := transition_design_reservation_core hresult
    refine ⟨⟨(hsame hs).mp hgrants, hstate⟩, ?_⟩
    rw [hcore]
    exact hs.status

/-- The end of a run that has a plan: its reservation, if there is one, goes where the end sends it. -/
theorem end_triple {α : Type} {status : RunStatus} {plan_id actor : String} {asked : ReservationState}
    {verified : Bool} {value : α} (hplan : ∃ plan, table.lookup PlanRow.plan_id plan_id base.plans = some plan)
    (hasked : asked_state status = some asked) (hverified : asked = .released → verified = true) :
    Triple (fun s : State platform derive_fabric_intent start => base.Standing run_id status s.store.core)
      (do
        let plan_record ← get_plan plan_id
        match given plan_record.reservation_id with
        | some reservation_id =>
          let _ ← transition_design_reservation outside reservation_id asked actor verified
          return value
        | none => return value)
      (fun found s => found = value ∧ Moved base run_id plan_id status s.store.core)
      (fun _ s => Refused base run_id plan_id status s.store.core) := by
  have hfind {s : State platform derive_fabric_intent start} (hs : base.Standing run_id status s.store.core) :
      s.store.find_plan plan_id = table.lookup PlanRow.plan_id plan_id base.plans := by
    rw [← hs.plans]
    rfl
  apply Triple.bind fun plan_record s => base.Standing run_id status s.store.core ∧
    base.planned_reservation plan_id = given plan_record.reservation_id
  · refine get_plan_triple.weaken (fun _ hs => hs) (fun plan_record s hs => ⟨hs.1, ?_⟩) fun _ s hs => ?_
    · rw [planned_reservation_of_standing hs.1, hs.2]
      rfl
    · obtain ⟨plan, hstored⟩ := hplan
      rw [hfind hs.1, hstored] at hs
      cases hs.2
  intro plan_record
  cases given plan_record.reservation_id with
  | none =>
    apply Triple.pure
    rintro s ⟨hs, hnone⟩
    refine ⟨rfl, hs.status, fun reference found hreference => ?_, fun reference found hreference => ?_⟩
    · rw [hnone] at hreference
      cases hreference
    · rw [hnone] at hreference
      cases hreference
  | some reservation_id =>
    by_cases hreserved : base.planned_reservation plan_id = some reservation_id
    swap
    · exact fun s hs => absurd hs.2 hreserved
    apply Triple.bind fun _ s => Moved base run_id plan_id status s.store.core
    · refine (move_triple hverified).weaken (fun s hs => hs.1) ?_ ?_
      · rintro _ s ⟨⟨hgrants, hstate⟩, hstatus⟩
        have honly {reference : String} {found : ReservationState}
            (hreference : base.planned_reservation plan_id = some reference) (hfound : asked_state status = some found) :
            reference = reservation_id ∧ found = asked := by
          rw [hreserved] at hreference
          rw [hasked] at hfound
          exact ⟨(Option.some.inj hreference).symm, (Option.some.inj hfound).symm⟩
        refine ⟨hstatus, fun reference found hreference hfound => ?_, fun reference found hreference hfound => ?_⟩
        · obtain ⟨rfl, rfl⟩ := honly hreference hfound
          exact hgrants
        · obtain ⟨rfl, rfl⟩ := honly hreference hfound
          exact hstate
      · rintro _ s ⟨hrefused, hstatus⟩
        exact ⟨hstatus, fun hgranted => hrefused (hgranted reservation_id asked hreserved hasked)⟩
    · exact fun _ => Triple.pure fun s hs => ⟨rfl, hs⟩

/-! ## The call -/

/-- A result that says how the run has ended, with the reservation where that sends it. -/
structure Returned (base : CoreTables) (run_id plan_id : String) (status : RunStatus) (result : ApplyResult)
    (tables : CoreTables) : Prop extends Moved base run_id plan_id status tables where
  terminal : status ∈ transition_run.terminal
  succeeded : result.succeeded = decide (status = .apply_succeeded)
  rolled_back : result.rolled_back = decide (status = .rolled_back)

/-- How a call has ended that had started its run. -/
def Concluded (base : CoreTables) (run_id plan_id : String) (result : ApplyResult) (tables : CoreTables) : Prop :=
  ∃ status, Returned base run_id plan_id status result tables

/-- How a call has ended that raises. -/
def Interrupted (base : CoreTables) (run_id plan_id : String) (tables : CoreTables) : Prop :=
  ∃ status ∈ transition_run.terminal, Refused base run_id plan_id status tables

theorem lasting_true : Lasting fun _ : State platform derive_fabric_intent start => True := fun _ _ _ h => h

/-- A failed run asks nothing of the reservation. -/
theorem concluded_of_failed {plan_id : String} {result : ApplyResult} {tables : CoreTables}
    (hstatus : tables.run_status run_id = some .apply_failed) (hsucceeded : result.succeeded = false)
    (hrolled : result.rolled_back = false) : Concluded base run_id plan_id result tables := by
  refine ⟨.apply_failed, ⟨hstatus, ?_, ?_⟩, by decide, hsucceeded, hrolled⟩
  · intro reference asked _ hasked
    cases hasked
  · intro reference asked _ hasked
    cases hasked

theorem commit_apply_ends {run : RunRow} {artifact : Value}
    (hplan : ∃ plan, table.lookup PlanRow.plan_id run.plan_id base.plans = some plan) :
    Triple (fun s : State platform derive_fabric_intent start => Running base run_id s)
      (commit_apply worker outside run_id run artifact)
      (fun _ s => Moved base run_id run.plan_id .apply_succeeded s.store.core)
      (fun _ s => Running base run_id s ∨ Refused base run_id run.plan_id .apply_succeeded s.store.core) := by
  apply Triple.lift_bind fun _ s hs => .inl hs
  intro artifact_hash _
  apply Triple.lift_bind fun _ s hs => .inl hs
  intro owned_state _
  apply Triple.read_bind
  intro detail
  apply Triple.bind fun _ s => base.Standing run_id .apply_succeeded s.store.core
  · exact (complete_apply_triple lasting_true).weaken (fun s hs => ⟨trivial, hs.1⟩) (fun _ _ hs => hs.2)
      fun _ s hs => .inl hs.2
  intro updated
  exact (end_triple hplan rfl (by simp)).weaken (fun _ hs => hs) (fun _ _ hs => hs.2) fun _ _ hs => .inr hs

/-- The body of the `try` statement returns with the run concluded, or raises while the run is
still running, or raises after its success since the reservation could not be committed. -/
theorem apply_transaction_ends {run : RunRow} {plan artifact : Value} {devices : List (String × Value)}
    {ise_manifest : Option Value}
    (hplan : ∃ plan, table.lookup PlanRow.plan_id run.plan_id base.plans = some plan) :
    Triple (fun s : State platform derive_fabric_intent start => Running base run_id s)
      (apply_transaction worker outside run_id run plan artifact devices gate_plan ise_manifest)
      (fun result s => Concluded base run_id run.plan_id result s.store.core)
      (fun _ s => Running base run_id s ∨ Refused base run_id run.plan_id .apply_succeeded s.store.core) := by
  have hrunning : Stable (Running base run_id : State platform derive_fabric_intent start → Prop) := stable_running
  apply connect_devices_tables.then fun _ _ hs => .inl hs
  intro _
  apply (prepare_ise_keeps hrunning).then fun _ _ hs => .inl hs
  intro _
  apply Triple.lift_bind fun _ _ hs => .inl hs
  intro prechecks _
  apply Triple.bind _ ((run_prechecks_triple lasting_true prechecks).weaken (fun s hs => ⟨trivial, hs⟩)
    (fun _ _ hs => hs) fun _ _ hs => .inl hs.2)
  intro failed
  cases failed with
  | some updated => exact Triple.pure fun s hs => concluded_of_failed hs.2.status rfl rfl
  | none =>
    refine Triple.weaken (?_ : Triple (Running base run_id) _ _ _) (fun s hs => hs.1.2) (fun _ _ hs => hs)
      fun _ _ hs => hs
    apply create_checkpoints_tables.then fun _ _ hs => .inl hs
    intro _
    apply Triple.lift_bind fun _ _ hs => .inl hs
    intro artifact_devices _
    apply Triple.lift_bind fun _ _ hs => .inl hs
    intro phases _
    apply Triple.lift_bind fun _ _ hs => .inl hs
    intro device_ids _
    apply (Keeps.each fun phase_id => apply_phase_tables).then fun _ _ hs => .inl hs
    intro _
    apply Keeps.read.then fun _ _ hs => .inl hs
    intro unbound
    apply Triple.ite
    · exact fun _ => Triple.raise fun _ hs => .inl hs
    · intro _
      apply Triple.bind _ (commit_apply_ends hplan)
      exact fun updated => Triple.pure fun s hs => ⟨.apply_succeeded, hs, by decide, rfl, rfl⟩

/-- While the run is running the handler ends it, and raises only since the reservation is not
where the end of the run can send it on. -/
theorem handle_failure_ends {run : RunRow} {ise_manifest : Option Value} {exception : Raised}
    (hplan : ∃ plan, table.lookup PlanRow.plan_id run.plan_id base.plans = some plan) :
    Triple (fun s : State platform derive_fabric_intent start => Running base run_id s)
      (handle_failure worker outside run_id run ise_manifest exception)
      (fun result s => Concluded base run_id run.plan_id result s.store.core)
      (fun _ s => Interrupted base run_id run.plan_id s.store.core) := by
  have hmove {status : RunStatus} (new_status : RunStatus) {detail : Value}
      (hallowed : new_status ∈ transition_run.allowed status) :
      Triple (fun s : State platform derive_fabric_intent start => base.Standing run_id status s.store.core)
        (transition_run outside run_id new_status worker.actor detail)
        (fun _ s => base.Standing run_id new_status s.store.core) (fun _ _ => False) :=
    (transition_run_triple lasting_true hallowed).weaken (fun s hs => ⟨trivial, hs⟩) (fun _ _ hs => hs.2)
      fun _ _ hs => hs
  apply Triple.read_bind
  intro ise_has_changes
  apply Triple.read_bind
  intro has_checkpoints
  refine Triple.weaken (?_ : Triple (Running base run_id) _ _ _) (fun s hs => hs.1.1) (fun _ _ hs => hs)
    fun _ _ hs => hs
  apply Triple.ite
  · intro _
    apply Triple.bind _ ((hmove .rollback_running (by decide)).weaken (fun _ hs => hs) (fun _ _ hs => hs)
      fun _ _ hs => hs.elim)
    intro _
    apply Triple.bind _ (roll_back_tables.weaken (fun _ hs => hs) (fun _ _ hs => hs) fun _ _ hs => hs.elim)
    intro failures
    cases hclean : failures.isEmpty with
    | true =>
      apply Triple.bind _ ((hmove .rolled_back (by decide)).weaken (fun _ hs => hs) (fun _ _ hs => hs)
        fun _ _ hs => hs.elim)
      intro updated
      refine (end_triple hplan rfl fun _ => rfl).weaken (fun _ hs => hs) ?_ ?_
      · rintro result s ⟨rfl, hmoved⟩
        exact ⟨.rolled_back, hmoved, by decide, rfl, rfl⟩
      · exact fun _ s hs => ⟨.rolled_back, by decide, hs⟩
    | false =>
      apply Triple.bind _ ((hmove .rollback_failed (by decide)).weaken (fun _ hs => hs) (fun _ _ hs => hs)
        fun _ _ hs => hs.elim)
      intro updated
      refine (end_triple hplan rfl (by simp)).weaken (fun _ hs => hs) ?_ ?_
      · rintro result s ⟨rfl, hmoved⟩
        exact ⟨.rollback_failed, hmoved, by decide, rfl, rfl⟩
      · exact fun _ s hs => ⟨.rollback_failed, by decide, hs⟩
  · intro _
    apply Triple.bind _ ((hmove .apply_failed (by decide)).weaken (fun _ hs => hs) (fun _ _ hs => hs)
      fun _ _ hs => hs.elim)
    exact fun updated => Triple.pure fun s hs => concluded_of_failed hs.status rfl rfl

/-- After the success of the run the handler cannot end it again: it raises. -/
theorem handle_failure_raises {run : RunRow} {plan_id : String} {ise_manifest : Option Value} {exception : Raised} :
    Triple (fun s : State platform derive_fabric_intent start => Refused base run_id plan_id .apply_succeeded s.store.core)
      (handle_failure worker outside run_id run ise_manifest exception)
      (fun _ _ => False) (fun _ s => Refused base run_id plan_id .apply_succeeded s.store.core) := by
  have hrefused (new_status : RunStatus) {detail : Value}
      (hnot : new_status ∉ transition_run.allowed .apply_succeeded) :
      Triple (fun s : State platform derive_fabric_intent start =>
          Refused base run_id plan_id .apply_succeeded s.store.core)
        (transition_run outside run_id new_status worker.actor detail) (fun _ _ => False)
        (fun _ s => Refused base run_id plan_id .apply_succeeded s.store.core) :=
    transition_run_refused (fun s hs => hs.ended) hnot
  apply Triple.read_bind
  intro ise_has_changes
  apply Triple.read_bind
  intro has_checkpoints
  refine Triple.weaken (?_ : Triple (fun s => Refused base run_id plan_id .apply_succeeded s.store.core) _ _ _)
    (fun s hs => hs.1.1) (fun _ _ hs => hs) fun _ _ hs => hs
  apply Triple.ite
  · intro _
    exact Triple.bind (fun _ _ => False) (hrefused .rollback_running (by decide)) fun _ _ hs => hs.elim
  · intro _
    exact Triple.bind (fun _ _ => False) (hrefused .apply_failed (by decide)) fun _ _ hs => hs.elim

theorem guarded_transaction_ends (hclosing : Closing outside) {run : RunRow} {plan artifact : Value}
    {devices : List (String × Value)} {ise_manifest : Option Value}
    (hplan : ∃ plan, table.lookup PlanRow.plan_id run.plan_id base.plans = some plan) :
    Triple (fun s : State platform derive_fabric_intent start => Running base run_id s)
      (guarded_transaction worker outside run_id run plan artifact devices gate_plan ise_manifest)
      (fun result s => Concluded base run_id run.plan_id result s.store.core)
      (fun _ s => Interrupted base run_id run.plan_id s.store.core) := by
  let ended (outcome : Py ApplyResult) (tables : CoreTables) : Prop :=
    match outcome with
    | .ok result => Concluded base run_id run.plan_id result tables
    | .error _ => Interrupted base run_id run.plan_id tables
  apply Triple.bind fun outcome s => ended outcome s.store.core
  · apply Triple.attempt
    apply Triple.attempt_bind _ _ (apply_transaction_ends hplan)
    · exact fun result => Triple.pure fun s hs => hs
    · rintro exception s (hrunning | hrefused)
      · exact handle_failure_ends hplan s hrunning
      · refine handle_failure_raises.weaken (fun _ hs => hs) ?_ ?_ s hrefused
        · exact fun _ _ hs => hs.elim
        · exact fun _ s hs => ⟨.apply_succeeded, by decide, hs⟩
  intro outcome
  apply Triple.bind fun _ s => ended outcome s.store.core
  · exact (close_adapters_tables hclosing).weaken (fun _ hs => hs) (fun _ _ hs => hs) fun _ _ hs => hs.elim
  intro _
  apply Triple.lift
  · rintro result s rfl hs
    exact hs
  · rintro exception s rfl hs
    exact hs

/-- A call that has not started its run: it changed nothing, or the run is still queued. -/
def Idle (run_id : String) (s : State platform derive_fabric_intent start) : Prop :=
  s = .initial ∨ start.core.Standing run_id .apply_queued s.store.core

/-- A call that raises before the run is started has not touched it; after that it raises only
since the reservation is not where the end of the run can send it on. -/
theorem process_apply_ends (hclosing : Closing outside) {run : RunRow} {intent plan artifact : Value}
    {allowed_blocker_codes : Option (List String)} (hrun : start.find_run run_id = some run)
    (hplan : ∃ plan, table.lookup PlanRow.plan_id run.plan_id start.core.plans = some plan) :
    Triple (fun s : State platform derive_fabric_intent start => s = .initial)
      (process_apply worker outside run_id intent plan artifact allowed_blocker_codes)
      (fun result s => run.status = .apply_queued ∧
        Concluded start.core run_id run.plan_id result s.store.core)
      (fun _ s => Idle run_id s ∨
        run.status = .apply_queued ∧ Interrupted start.core run_id run.plan_id s.store.core) := by
  let queued (s : State platform derive_fabric_intent start) :=
    start.core.Standing run_id .apply_queued s.store.core
  have hqueued : Stable queued := stable_standing
  have hmove (new_status : RunStatus) {detail : Value}
      (hallowed : new_status ∈ transition_run.allowed .apply_queued) :
      Triple queued (transition_run outside run_id new_status worker.actor detail)
        (fun _ s => start.core.Standing run_id new_status s.store.core) (fun _ _ => False) :=
    (transition_run_triple lasting_true hallowed).weaken (fun s hs => ⟨trivial, hs⟩) (fun _ _ hs => hs.2)
      fun _ _ hs => hs
  apply Triple.bind fun found s => s = .initial ∧ s.store.find_run run_id = some found
  · exact get_run_triple.weaken (fun _ hs => hs) (fun _ _ hs => hs) fun _ _ hs => .inl (.inl hs)
  intro found
  apply Triple.ite
  · exact fun _ => Triple.raise fun s hs => .inl (.inl hs.1)
  intro hallowed
  obtain ⟨-, hstatus⟩ := not_or.mp hallowed
  rw [not_not] at hstatus
  rintro s ⟨rfl, hfound⟩
  obtain rfl : run = found := Option.some.inj (hrun.symm.trans hfound)
  have hstart : queued .initial := by
    refine ⟨?_, rfl, rfl⟩
    have hlookup : start.core.run_status run_id = some run.status := Option.map_eq_some_iff.mpr ⟨run, hrun, rfl⟩
    rw [hstatus] at hlookup
    exact hlookup
  refine (?_ : Triple queued _ _ _) .initial hstart
  have hidle (s) (hs : queued s) : Idle run_id s ∨
      run.status = .apply_queued ∧ Interrupted start.core run_id run.plan_id s.store.core := .inl (.inr hs)
  apply Triple.lift_bind fun _ s hs => hidle s hs
  intro _ _
  apply Triple.lift_bind fun _ s hs => hidle s hs
  intro unresolved_blocker_codes _
  apply Triple.ite
  · intro _
    apply Triple.bind _ ((hmove .apply_failed (by decide)).weaken (fun _ hs => hs) (fun _ _ hs => hs)
      fun _ _ hs => hs.elim)
    exact fun updated => Triple.pure fun s hs => ⟨hstatus, concluded_of_failed hs.status rfl rfl⟩
  intro _
  apply Triple.lift_bind fun _ s hs => hidle s hs
  intro devices _
  apply Triple.lift_bind fun _ s hs => hidle s hs
  intro gate_plan _
  apply Triple.lift_bind fun _ s hs => hidle s hs
  intro ise_manifest _
  apply (_preflight_secret_sweep_keeps hqueued.framed).then fun _ s hs => hidle s hs
  intro _
  apply Triple.bind _ ((hmove .apply_running (by decide)).weaken (fun _ hs => hs) (fun _ _ hs => hs)
    fun _ _ hs => hs.elim)
  intro _
  refine (guarded_transaction_ends hclosing hplan).weaken (fun s hs => hs) ?_ ?_
  · exact fun _ s hs => ⟨hstatus, hs⟩
  · exact fun _ s hs => .inr ⟨hstatus, hs⟩

end Endings

/-! ## Settled runs -/

/-- The call has started its run. -/
def Entered {platform : Platform} {derive_fabric_intent : Derive} {start : Store} (run_id : String)
    (s : State platform derive_fabric_intent start) : Prop :=
  ∃ entry ∈ s.session.transactions, entry.1.1.moves run_id = some .apply_running

/-- The call has returned and has left a settled run: the run is in a final status that the result
agrees with, its fabric lock is gone, and the reservation of its plan is where the end sends it. -/
structure Settles (base : CoreTables) (run_id plan_id : String) (outcome : Py ApplyResult) (store : Store) :
    Prop where
  returned : ∃ result status, outcome = .ok result ∧ store.core.run_status run_id = some status ∧
    status ∈ transition_run.terminal ∧ (result.succeeded ↔ status = .apply_succeeded) ∧
    (result.rolled_back ↔ status = .rolled_back)
  unlocked : ∀ lock ∈ store.fabric_locks, lock.run_id ≠ run_id
  committed : store.core.run_status run_id = some .apply_succeeded →
    ∀ reference, base.planned_reservation plan_id = some reference →
      store.core.reservation_state reference = some .committed
  freed : store.core.run_status run_id = some .rolled_back →
    ∀ reference, base.planned_reservation plan_id = some reference →
      ∀ held, store.core.reservation_state reference = some held → held.active = false
  quarantined : store.core.run_status run_id = some .rollback_failed →
    ∀ reference, base.planned_reservation plan_id = some reference →
      store.core.reservation_state reference = some .quarantined

/-- A call that has concluded leaves a settled run. -/
theorem settles_of_concluded {platform : Platform} {derive_fabric_intent : Derive} {base : CoreTables}
    {run_id plan_id : String} {result : ApplyResult} {store : Store}
    (hreachable : Reachable platform derive_fabric_intent store)
    (hconcluded : Concluded base run_id plan_id result store.core) :
    Settles base run_id plan_id (.ok result) store := by
  obtain ⟨status, hreturned⟩ := hconcluded
  have hsent (asked : ReservationState) {expected : RunStatus} (hasked : asked_state expected = some asked)
      (hended : store.core.run_status run_id = some expected) (reference : String)
      (hreference : base.planned_reservation plan_id = some reference) :
      store.core.reservation_state reference = some asked := by
    obtain rfl : status = expected := Option.some.inj (hreturned.ended.symm.trans hended)
    exact hreturned.reservation reference asked hreference hasked
  refine ⟨⟨result, status, rfl, hreturned.ended, hreturned.terminal, ?_, ?_⟩, ?_, hsent .committed rfl, ?_,
    hsent .quarantined rfl⟩
  · simp [hreturned.succeeded]
  · simp [hreturned.rolled_back]
  · exact hreachable.unlocked hreturned.ended hreturned.terminal
  · intro hended reference hreference held hheld
    rw [hsent .released rfl hended reference hreference] at hheld
    obtain rfl := Option.some.inj hheld
    rfl

/-- A reservation that no transition has touched may be sent on by every end of a run. -/
theorem granted_of_reserved {base : CoreTables} {plan_id : String} {status : RunStatus}
    (hreserved : ∀ reference, base.planned_reservation plan_id = some reference →
      base.reservation_state reference = some .reserved) : Granted base plan_id status := by
  intro reference asked hreference hasked
  refine ⟨.reserved, hreserved reference hreference, ?_⟩
  cases status <;> cases hasked <;> decide

/-- For every reachable store and every behaviour outside the worker that closes adapters without an
exception: a call that has started its run leaves it settled exactly when the reservation of the plan may
go, from where it was at the start, to where each status sends it that the call gives the run. That is so
for a plan whose reservation is still `reserved`, and for one that has none. -/
theorem process_apply_settles (platform : Platform) (derive_fabric_intent : Derive) (start : Store)
    (hreachable : Reachable platform derive_fabric_intent start) (worker : TransactionWorker)
    (outside : Outside) (hclosing : Closing outside) (run_id : String) (intent plan artifact : Value)
    (allowed_blocker_codes : Option (List String)) (run : RunRow) (hrun : start.find_run run_id = some run)
    (outcome : Py ApplyResult) (final : State platform derive_fabric_intent start)
    (hcall : process_apply worker outside run_id intent plan artifact allowed_blocker_codes .initial =
      (outcome, final)) (hentered : Entered run_id final) :
    (Settles start.core run_id run.plan_id outcome final.store ↔
      ∀ entry ∈ final.session.transactions, ∀ status, entry.1.1.moves run_id = some status →
        Granted start.core run.plan_id status) ∧
    ((∀ reference, start.core.planned_reservation run.plan_id = some reference →
        start.core.reservation_state reference = some .reserved) →
      Settles start.core run_id run.plan_id outcome final.store) := by
  have hstored : run ∈ start.core.runs := table.lookup_mem hrun
  have hplan := hreachable.valid.run_plan run hstored
  have hbefore : start.core.run_status run_id = some run.status := Option.map_eq_some_iff.mpr ⟨run, hrun, rfl⟩
  have hend : Meets (fun result s => run.status = .apply_queued ∧
        Concluded start.core run_id run.plan_id result s.store.core)
      (fun _ s => Idle run_id s ∨
        run.status = .apply_queued ∧ Interrupted start.core run_id run.plan_id s.store.core)
      (outcome, final) := by
    rw [← hcall]
    exact process_apply_ends hclosing hrun hplan .initial rfl
  have hiff : Settles start.core run_id run.plan_id outcome final.store ↔
      ∀ entry ∈ final.session.transactions, ∀ status, entry.1.1.moves run_id = some status →
        Granted start.core run.plan_id status := by
    cases outcome with
    | ok result =>
      obtain ⟨hqueued, hconcluded⟩ := hend
      have hafter : Reachable platform derive_fabric_intent final.store :=
        hreachable.last final.session.history
      refine ⟨fun _ entry hentry status hmoves => ?_, fun _ => settles_of_concluded hafter hconcluded⟩
      obtain ⟨last, hreturned⟩ := hconcluded
      intro reference asked hreference hasked
      have hfinal : transition_run.allowed status = [] := by
        cases status <;> cases hasked <;> rfl
      have hended := status_of_moves final.session.history hbefore hentry hmoves hfinal
      obtain rfl : last = status := Option.some.inj (hreturned.ended.symm.trans hended)
      exact hreturned.granted reference asked hreference hasked
    | error exception =>
      refine ⟨fun hsettles => ?_, fun hgranted => ?_⟩
      · obtain ⟨_, _, hreturned, -⟩ := hsettles.returned
        cases hreturned
      obtain ⟨entry, hentry, hmoves⟩ := hentered
      obtain (rfl | hqueued) | ⟨hqueued, status, hterminal, hrefused⟩ := hend
      · cases hentry
      · have hrank := (rank_of_run final.session.history hbefore hqueued.status).2 entry hentry _ hmoves
        exact absurd hrank (Nat.not_lt_zero _)
      · rw [hqueued] at hbefore
        obtain rfl | ⟨last, hlast, hlastmoves⟩ := moved_of_run final.session.history hbefore hrefused.ended
        · exact absurd hterminal (by decide)
        · exact absurd (hgranted last hlast status hlastmoves) hrefused.refused
  refine ⟨hiff, fun hreserved => hiff.mpr fun _ _ _ _ => granted_of_reserved hreserved⟩

/-- A call ends in the state `after_apply`. -/
theorem process_apply_eq (platform : Platform) (derive_fabric_intent : Derive) (start : Store)
    (worker : TransactionWorker) (outside : Outside) (run_id : String) (intent plan artifact : Value)
    (allowed_blocker_codes : Option (List String)) :
    let result : Py ApplyResult × State platform derive_fabric_intent start :=
      process_apply worker outside run_id intent plan artifact allowed_blocker_codes .initial
    result = (result.1, after_apply platform derive_fabric_intent start worker outside run_id intent plan artifact
      allowed_blocker_codes) := rfl

theorem lab_outside_closing (transaction : Nat) (refuses : Bool) : Closing (lab_outside transaction refuses) := by
  intro trace request hcloses
  cases request with
  | close device_id => exact ⟨.null, rfl⟩
  | ise_close => exact ⟨.null, rfl⟩
  | _ => simp [Call.closes] at hcloses

/-- The second call for the lab plan, where the device accepts its blocks again. -/
abbrev lab_second_call : Py ApplyResult × State cpython lab_derive lab_requeued :=
  process_apply lab_worker (lab_outside 100 false) "run_9000" lab_intent lab_plan lab_artifact none .initial

/-- Both calls start their runs; the first finds the reservation `reserved`, and the second raises. -/
theorem lab_calls :
    (lab_start.find_run "run_500").map RunRow.plan_id = some "plan_lab" ∧
      lab_start.core.planned_reservation "plan_lab" = some "reservation_100" ∧
      lab_start.core.reservation_state "reservation_100" = some .reserved ∧
      (∃ entry ∈ lab_first.session.transactions, entry.1.1.moves "run_500" = some .apply_running) ∧
      (∃ entry ∈ lab_second_call.2.session.transactions,
        entry.1.1.moves "run_9000" = some .apply_running) ∧
      lab_second_call.1.isOk = false := by
  decide +kernel

theorem process_apply_settles_lab :
    Settles lab_start.core "run_500" "plan_lab"
      (process_apply lab_worker (lab_outside 6 false) "run_500" lab_intent lab_plan lab_artifact none
        (.initial : State cpython lab_derive lab_start)).1 lab_first.store := by
  obtain ⟨hfound, hplanned, hstate, hentered, -⟩ := lab_calls
  have hreachable : Reachable cpython lab_derive lab_start := store_after_reachable cpython lab_derive _
  obtain ⟨run, hrun, hplan⟩ := Option.map_eq_some_iff.mp hfound
  have hreserved : ∀ reference, lab_start.core.planned_reservation run.plan_id = some reference →
      lab_start.core.reservation_state reference = some .reserved := by
    intro reference hreference
    rw [hplan, hplanned] at hreference
    obtain rfl := Option.some.inj hreference
    exact hstate
  have hsettles := (process_apply_settles cpython lab_derive lab_start hreachable lab_worker (lab_outside 6 false)
    (lab_outside_closing 6 false) "run_500" lab_intent lab_plan lab_artifact none run hrun _ lab_first
    (process_apply_eq cpython lab_derive _ _ _ _ _ _ _ _) hentered).2 hreserved
  rw [hplan] at hsettles
  exact hsettles

/-- The second run of a plan is applied, and its reservation is committed already: the call raises. -/
theorem second_apply_raises :
    ¬∀ start : Store, Reachable cpython lab_derive start →
      ∀ (worker : TransactionWorker) (outside : Outside), Closing outside →
        ∀ (run_id : String) (intent plan artifact : Value) (allowed_blocker_codes : Option (List String))
          (run : RunRow), start.find_run run_id = some run →
          ∀ (outcome : Py ApplyResult) (final : State cpython lab_derive start),
            process_apply worker outside run_id intent plan artifact allowed_blocker_codes .initial =
                (outcome, final) →
              Entered run_id final → Settles start.core run_id run.plan_id outcome final.store := by
  intro hclaim
  obtain ⟨run, hrun, hplan, hqueued⟩ := lab_second_run
  obtain ⟨-, -, -, -, hentered, hraises⟩ := lab_calls
  have hreachable : Reachable cpython lab_derive lab_requeued :=
    lab_requeued_eq ▸ store_after_reachable cpython lab_derive _
  have hsettles := hclaim lab_requeued hreachable lab_worker (lab_outside 100 false)
    (lab_outside_closing 100 false) "run_9000" lab_intent lab_plan lab_artifact none run hrun _ _
    (Prod.eta lab_second_call).symm hentered
  obtain ⟨result, status, hreturned, -⟩ := hsettles.returned
  rw [hreturned] at hraises
  cases hraises

end orchestrator.worker
