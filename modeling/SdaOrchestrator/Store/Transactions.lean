import SdaOrchestrator.Lib.Transition
import SdaOrchestrator.Store.Plans
import SdaOrchestrator.Store.Reservations
import SdaOrchestrator.Store.OwnedState
import SdaOrchestrator.Store.Evidence

open python

namespace orchestrator.store

/-- The transactions that change the store, with the arguments of the call each
belongs to. -/
inductive Transaction where
  | save_intent (intent : Value) (actor : String)
  | reserve_design (requirements policy : Value) (idempotency_key actor : String)
  | save_plan (intent_id : String) (plan : Value) (actor artifact_hash intent_version : String)
      (reservation_id : Option String)
  | record_approval (plan_id decision approver change_reference expires_at : String)
  | create_run (plan_id mode idempotency_key requested_by : String) (execution_enabled : Bool)
      (maintenance_start maintenance_end : Option String) (lock_ttl_seconds : Int)
  | transition_run (run_id : String) (new_status : RunStatus) (actor : String) (detail : Value)
  | complete_apply (run_id artifact_hash : String) (owned_state : Value) (actor : String)
      (detail : Value)
  | transition_design_reservation (reservation_id : String) (new_state : ReservationState)
      (actor : String) (verified : Bool)
  | add_evidence (run_id phase_id evidence_type : String) (payload : Value) (actor : String)
      (device_id : Option String)
  | adopt_manifest (fabric_id : String) (manifest : Value)
      (evidence_hash change_reference discovered_by approver : String)

/-- The store after a transaction that commits; one that raises leaves no trace. -/
def perform (platform : Platform) (derive_fabric_intent : Derive) (ambient : Ambient)
    (store : Store) : Transaction → Py Store
  | .save_intent intent actor => (save_intent platform intent actor ambient store).map Prod.snd
  | .reserve_design requirements policy idempotency_key actor =>
    (reserve_design platform derive_fabric_intent requirements policy idempotency_key actor ambient
      store).map Prod.snd
  | .save_plan intent_id plan actor artifact_hash intent_version reservation_id =>
    (save_plan platform intent_id plan actor artifact_hash intent_version reservation_id ambient
      store).map Prod.snd
  | .record_approval plan_id decision approver change_reference expires_at =>
    (record_approval platform plan_id decision approver change_reference expires_at ambient
      store).map Prod.snd
  | .create_run plan_id mode idempotency_key requested_by execution_enabled maintenance_start
      maintenance_end lock_ttl_seconds =>
    (create_run platform plan_id mode idempotency_key requested_by execution_enabled
      maintenance_start maintenance_end lock_ttl_seconds ambient store).map Prod.snd
  | .transition_run run_id new_status actor detail =>
    (transition_run platform run_id new_status actor detail ambient store).map Prod.snd
  | .complete_apply run_id artifact_hash owned_state actor detail =>
    (complete_apply platform run_id artifact_hash owned_state actor detail ambient store).map Prod.snd
  | .transition_design_reservation reservation_id new_state actor verified =>
    (transition_design_reservation platform reservation_id new_state actor verified ambient
      store).map Prod.snd
  | .add_evidence run_id phase_id evidence_type payload actor device_id =>
    (add_evidence platform run_id phase_id evidence_type payload actor device_id ambient
      store).map Prod.snd
  | .adopt_manifest fabric_id manifest evidence_hash change_reference discovered_by approver =>
    adopt_manifest platform fabric_id manifest evidence_hash change_reference discovered_by approver
      ambient store

theorem map_snd_eq_ok_iff {α : Type} {result : Py (α × Store)} {next : Store} :
    result.map Prod.snd = .ok next ↔ ∃ value, result = .ok (value, next) := by
  rcases result with exception | ⟨value, store⟩ <;> simp [Except.map]

/-- One transaction of the system, with what it draws from outside. -/
abbrev Step (platform : Platform) (derive_fabric_intent : Derive) (store : Store)
    (label : Transaction × Ambient) (next : Store) : Prop :=
  perform platform derive_fabric_intent label.2 store label.1 = .ok next

/-- The store after a call: a transaction that raises is rolled back. -/
def called (platform : Platform) (derive_fabric_intent : Derive) (store : Store)
    (label : Transaction × Ambient) : Store :=
  match perform platform derive_fabric_intent label.2 store label.1 with
  | .ok next => next
  | .error _ => store

theorem called_cases (platform : Platform) (derive_fabric_intent : Derive) (store : Store)
    (label : Transaction × Ambient) :
    Step platform derive_fabric_intent store label
        (called platform derive_fabric_intent store label) ∨
      called platform derive_fabric_intent store label = store := by
  unfold called Step
  split
  · exact .inl ‹_›
  · exact .inr rfl

/-- The store after a sequence of calls on an empty database. -/
def after_calls (platform : Platform) (derive_fabric_intent : Derive)
    (calls : List (Transaction × Ambient)) : Store :=
  calls.foldl (called platform derive_fabric_intent) {}

theorem after_calls_concat (platform : Platform) (derive_fabric_intent : Derive)
    (calls : List (Transaction × Ambient)) (call : Transaction × Ambient) :
    after_calls platform derive_fabric_intent (calls ++ [call]) =
      called platform derive_fabric_intent (after_calls platform derive_fabric_intent calls) call := by
  rw [after_calls, List.foldl_append]
  rfl

/-- The stores that some sequence of transactions leads to from the empty database. -/
def Reachable (platform : Platform) (derive_fabric_intent : Derive) (store : Store) : Prop :=
  ∃ run, transition.Run (Step platform derive_fabric_intent) {} run ∧ transition.last {} run = store

/-- The transactions that may commit without a change to the core tables. -/
def Answered (store : Store) : Transaction → Prop
  | .save_plan _ plan _ _ _ reservation_id => AlreadyBound store plan reservation_id
  | .transition_run _ _ _ _ => False
  | .complete_apply _ _ _ _ _ => False
  | .transition_design_reservation _ _ _ _ => False
  | _ => True

/-- What one transaction can do to the core tables. -/
inductive Effect (derive_fabric_intent : Derive) (store : Store) :
    Transaction → CoreTables → Prop where
  | keep {transaction : Transaction} (hanswered : Answered store transaction) :
      Effect derive_fabric_intent store transaction store.core
  | reserve {requirements policy : Value} {idempotency_key actor : String} {row : ReservationRow}
      {derived : Derived}
      (hnew : NewReservation derive_fabric_intent requirements policy store row derived) :
      Effect derive_fabric_intent store
        (.reserve_design requirements policy idempotency_key actor)
        { store.core with
          design_reservations := store.design_reservations ++ [row]
          network_allocations := store.network_allocations ++ derived.network.map row.network_row
          scalar_allocations := store.scalar_allocations ++ derived.scalar.map row.scalar_row }
  | rebind {intent_id : String} {plan : Value} {actor artifact_hash intent_version : String}
      {reservation_id : Option String} {existing : PlanRow}
      (hbound : Rebound store plan existing reservation_id) :
      Effect derive_fabric_intent store
        (.save_plan intent_id plan actor artifact_hash intent_version reservation_id)
        { store.core with plans := rebind_plan existing.plan_id reservation_id store.plans }
  | plan {intent_id : String} {plan : Value} {actor artifact_hash intent_version : String}
      {reservation_id : Option String} {row : PlanRow}
      (hnew : NewPlan store plan reservation_id row) :
      Effect derive_fabric_intent store
        (.save_plan intent_id plan actor artifact_hash intent_version reservation_id)
        { store.core with plans := store.plans ++ [row] }
  | run {plan_id mode idempotency_key requested_by : String} {execution_enabled : Bool}
      {maintenance_start maintenance_end : Option String} {lock_ttl_seconds : Int} {row : RunRow}
      {fabric_locks : List FabricLockRow} (hnew : NewRun store row) :
      Effect derive_fabric_intent store
        (.create_run plan_id mode idempotency_key requested_by execution_enabled maintenance_start
          maintenance_end lock_ttl_seconds)
        { store.core with runs := store.runs ++ [row], fabric_locks }
  | status {run_id : String} {new_status : RunStatus} {actor : String} {detail : Value}
      {run : RunRow} {updated_at : String} {fabric_locks : List FabricLockRow}
      (hfind : store.find_run run_id = some run)
      (hallowed : new_status ∈ transition_run.allowed run.status) :
      Effect derive_fabric_intent store (.transition_run run_id new_status actor detail)
        { store.core with
          runs := set_run_status run_id new_status updated_at store.runs, fabric_locks }
  | complete {run_id artifact_hash : String} {owned_state : Value} {actor : String}
      {detail : Value} {run : RunRow} {updated_at : String} {manifest : OwnedStateRow}
      (hfind : store.find_run run_id = some run) (hrunning : run.status = .apply_running) :
      Effect derive_fabric_intent store
        (.complete_apply run_id artifact_hash owned_state actor detail)
        { store.core with
          runs := set_run_status run_id .apply_succeeded updated_at store.runs
          fabric_locks := release_fabric_lock run_id store.fabric_locks
          owned_state_manifests := store.owned_state_manifests ++ [manifest] }
  | move {reservation_id : String} {new_state : ReservationState} {actor : String}
      {verified : Bool} {row : ReservationRow} {updated_at : String}
      (hfind : store.find_reservation reservation_id = some row)
      (hallowed : new_state ∈ transition_design_reservation.allowed row.state) :
      Effect derive_fabric_intent store
        (.transition_design_reservation reservation_id new_state actor verified)
        { store.core with
          design_reservations :=
            set_reservation_state reservation_id new_state updated_at store.design_reservations
          network_allocations :=
            set_network_state reservation_id new_state updated_at store.network_allocations
          scalar_allocations :=
            set_scalar_state reservation_id new_state updated_at store.scalar_allocations }
  | adopt {fabric_id : String} {manifest : Value}
      {evidence_hash change_reference discovered_by approver : String}
      {owned_state_manifests : List OwnedStateRow} :
      Effect derive_fabric_intent store
        (.adopt_manifest fabric_id manifest evidence_hash change_reference discovered_by approver)
        { store.core with owned_state_manifests }

/-- Every transaction that commits has one of these effects. -/
theorem perform_effect {platform : Platform} {derive_fabric_intent : Derive} {ambient : Ambient}
    {store next : Store} {transaction : Transaction}
    (hstep : perform platform derive_fabric_intent ambient store transaction = .ok next) :
    Effect derive_fabric_intent store transaction next.core := by
  cases transaction with
  | save_intent intent actor =>
    obtain ⟨value, hvalue⟩ := map_snd_eq_ok_iff.mp hstep
    rw [save_intent_core hvalue]
    exact .keep trivial
  | reserve_design requirements policy idempotency_key actor =>
    obtain ⟨⟨record, created⟩, hvalue⟩ := map_snd_eq_ok_iff.mp hstep
    rcases reserve_design_core hvalue with ⟨rfl, -, -⟩ | ⟨derived, hnew, hcore⟩
    · exact .keep trivial
    · rw [hcore]
      exact .reserve hnew
  | save_plan intent_id plan actor artifact_hash intent_version reservation_id =>
    obtain ⟨⟨row, created⟩, hvalue⟩ := map_snd_eq_ok_iff.mp hstep
    rcases save_plan_core hvalue with ⟨rfl, hsame⟩ | ⟨existing, hbound, hcore⟩ | ⟨hnew, hcore⟩
    · exact .keep hsame
    · rw [hcore]
      exact .rebind hbound
    · rw [hcore]
      exact .plan hnew
  | record_approval plan_id decision approver change_reference expires_at =>
    obtain ⟨row, hvalue⟩ := map_snd_eq_ok_iff.mp hstep
    rw [record_approval_core hvalue]
    exact .keep trivial
  | create_run plan_id mode idempotency_key requested_by execution_enabled maintenance_start
      maintenance_end lock_ttl_seconds =>
    obtain ⟨⟨row, created⟩, hvalue⟩ := map_snd_eq_ok_iff.mp hstep
    rcases create_run_core hvalue with rfl | ⟨hnew, fabric_locks, hcore⟩
    · exact .keep trivial
    · rw [hcore]
      exact .run hnew
  | transition_run run_id new_status actor detail =>
    obtain ⟨row, hvalue⟩ := map_snd_eq_ok_iff.mp hstep
    obtain ⟨run, updated_at, fabric_locks, hfind, hallowed, hcore⟩ := transition_run_core hvalue
    rw [hcore]
    exact .status hfind hallowed
  | complete_apply run_id artifact_hash owned_state actor detail =>
    obtain ⟨row, hvalue⟩ := map_snd_eq_ok_iff.mp hstep
    obtain ⟨run, updated_at, manifest, hfind, hrunning, hcore⟩ := complete_apply_core hvalue
    rw [hcore]
    exact .complete hfind hrunning
  | transition_design_reservation reservation_id new_state actor verified =>
    obtain ⟨record, hvalue⟩ := map_snd_eq_ok_iff.mp hstep
    obtain ⟨row, updated_at, hfind, hallowed, hcore⟩ :=
      transition_design_reservation_core hvalue
    rw [hcore]
    exact .move hfind hallowed
  | add_evidence run_id phase_id evidence_type payload actor device_id =>
    obtain ⟨row, hvalue⟩ := map_snd_eq_ok_iff.mp hstep
    rw [add_evidence_core hvalue]
    exact .keep trivial
  | adopt_manifest fabric_id manifest evidence_hash change_reference discovered_by approver =>
    obtain ⟨owned_state_manifests, hcore⟩ := adopt_manifest_core hstep
    rw [hcore]
    exact .adopt

end orchestrator.store
