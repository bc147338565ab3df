import SdaOrchestrator.Store.Lab
import SdaOrchestrator.Worker.Quiet

open python effects orchestrator.store

namespace orchestrator.store

/-- The transactions that are a whole operation of the API. -/
def Transaction.is_request : Transaction → Bool
  | .save_intent _ _ => true
  | .reserve_design _ _ _ _ => true
  | .save_plan _ _ _ _ _ _ => true
  | .record_approval _ _ _ _ _ => true
  | .create_run _ _ _ _ _ _ _ _ => true
  | _ => false

end orchestrator.store

namespace orchestrator.worker

/-- An operation on the store: a request of the API, which is one transaction, or a
`process_apply` call of a worker. -/
inductive Operation where
  | request (transaction : Transaction) (hrequest : transaction.is_request) (ambient : Ambient)
  | apply (worker : TransactionWorker) (outside : Outside) (run_id : String)
      (intent plan artifact : Value) (allowed_blocker_codes : Option (List String))

/-- The transition to `apply_running`. -/
def Event.starts_apply (run_id : String) : Event → Bool
  | .transaction (.transition_run id .apply_running _ _) _ => id = run_id
  | _ => false

section History

variable (platform : Platform) (derive_fabric_intent : Derive)

/-- The state in which a `process_apply` call ends. -/
def after_apply (start : Store) (worker : TransactionWorker) (outside : Outside) (run_id : String)
    (intent plan artifact : Value) (allowed_blocker_codes : Option (List String)) :
    State platform derive_fabric_intent start :=
  (process_apply worker outside run_id intent plan artifact allowed_blocker_codes .initial).2

/-- The transactions that an operation commits. -/
def Operation.commits (start : Store) : Operation → List ((Transaction × Ambient) × Store)
  | .request transaction _ ambient =>
    match perform platform derive_fabric_intent ambient start transaction with
    | .ok next => [((transaction, ambient), next)]
    | .error _ => []
  | .apply worker outside run_id intent plan artifact allowed_blocker_codes =>
    (after_apply platform derive_fabric_intent start worker outside run_id intent plan artifact
      allowed_blocker_codes).session.transactions

/-- The transactions that a sequence of operations commits. -/
def history (start : Store) : List Operation → List ((Transaction × Ambient) × Store)
  | [] => []
  | operation :: rest =>
    let commits := operation.commits platform derive_fabric_intent start
    commits ++ history (transition.last start commits) rest

/-- What an operation commits is a run of the store. -/
theorem commits_run (start : Store) (operation : Operation) :
    transition.Run (Step platform derive_fabric_intent) start
      (operation.commits platform derive_fabric_intent start) := by
  cases operation with
  | request transaction hrequest ambient =>
    rw [Operation.commits]
    split
    · rename_i next hnext
      exact .cons hnext (.nil next)
    · exact .nil start
  | apply worker outside run_id intent plan artifact allowed_blocker_codes =>
    exact (State.session _).history

/-- Whatever the operations do, the store takes one transaction after the other. -/
theorem history_run (start : Store) (operations : List Operation) :
    transition.Run (Step platform derive_fabric_intent) start
      (history platform derive_fabric_intent start operations) := by
  induction operations generalizing start with
  | nil => exact .nil start
  | cons operation rest ih =>
    exact (commits_run platform derive_fabric_intent start operation).append (ih _)

/-- The store after a sequence of operations on an empty database. -/
def store_after (operations : List Operation) : Store :=
  transition.last {} (history platform derive_fabric_intent {} operations)

theorem history_append (start : Store) (first second : List Operation) :
    history platform derive_fabric_intent start (first ++ second) =
      history platform derive_fabric_intent start first ++
        history platform derive_fabric_intent
          (transition.last start (history platform derive_fabric_intent start first)) second := by
  induction first generalizing start with
  | nil => rfl
  | cons operation rest ih =>
    simp only [List.cons_append, history, ih, List.append_assoc, transition.last_append]

/-- One more operation starts in the store that the ones before it lead to. -/
theorem store_after_concat (operations : List Operation) (operation : Operation) :
    store_after platform derive_fabric_intent (operations ++ [operation]) =
      transition.last (store_after platform derive_fabric_intent operations)
        (operation.commits platform derive_fabric_intent
          (store_after platform derive_fabric_intent operations)) := by
  rw [store_after, history_append, transition.last_append, history, history, List.append_nil]
  rfl

/-- A `process_apply` call leaves the store of its final state. -/
theorem last_commits_apply (start : Store) (worker : TransactionWorker) (outside : Outside)
    (run_id : String) (intent plan artifact : Value) (allowed_blocker_codes : Option (List String)) :
    transition.last start (Operation.commits platform derive_fabric_intent start
        (.apply worker outside run_id intent plan artifact allowed_blocker_codes)) =
      (after_apply platform derive_fabric_intent start worker outside run_id intent plan artifact
        allowed_blocker_codes).session.store := rfl

theorem store_after_reachable (operations : List Operation) :
    Reachable platform derive_fabric_intent (store_after platform derive_fabric_intent operations) :=
  ⟨_, history_run platform derive_fabric_intent {} operations, rfl⟩

end History

/-! ## The lab fabric with a worker -/

def lab_artifact : Value := .dict [
  ("artifact_hash", .str lab_artifact_hash),
  ("blocking_requirements", .list []),
  ("devices", .dict [("node-1", .dict [("phases", .list [.dict [
    ("phase_id", .str "underlay"),
    ("blocks", .list [.dict [
      ("block_id", .str "underlay.isis"),
      ("commands", .list [.str "router isis"]),
      ("command_hash", .str "46ff0bd79ffbfca2c1b3dbe9c3d4eb889b426ba24f55bdc12623dd37f61d35aa")]])]])])]),
  ("owned_state", .dict [
    ("devices", .dict []),
    ("fabric_id", .str "lab"),
    ("manifest_hash", .str "07968b2c868498ec133e0b84cbd2eacca1f3e4ef8991b14ff299d40a0d9e509b"),
    ("owned_state_schema_version", .str "1.0"),
    ("scope", .str "multicast")]),
  ("plan_hash", .str lab_plan_hash)]

def lab_gate (gate_id phase_id command evaluator : String) (expected : Value) : Value := .dict [
  ("gate_id", .str gate_id),
  ("phase_id", .str phase_id),
  ("device_id", .str "node-1"),
  ("command", .str command),
  ("evaluator", .str evaluator),
  ("expected", expected),
  ("blocking", .bool true)]

/-- A worker in the lab, where every gate passes. -/
def lab_worker : TransactionWorker where
  actor := "sda-worker"
  credential_resolver := false
  ise_adapter_factory := false
  build_gate_plan _ _ := .ok [
    lab_gate "precheck.version.node-1" "precheck" "show version" "ios_xe_version"
      (.dict [("version", .str "17.15.1")]),
    lab_gate "precheck.license.node-1" "precheck" "show version" "ios_xe_license_level"
      (.dict [
        ("network_package", .str "network-advantage"),
        ("subscription_packages", .list [.str "catalyst-advantage", .str "dna-advantage"])]),
    lab_gate "underlay.isis.node-1" "underlay" "show isis neighbors" "isis_neighbors"
      (.dict [("minimum_up", .int 0)])]
  evaluate_gate _ _ := .ok ⟨true, .str "passed", .dict []⟩

/-- The answers of the device; it may refuse the configuration blocks. -/
def lab_respond (refuses : Bool) : Call → Py Value
  | .run_show _ _ => .ok (.dict [("output", .str "shown"), ("output_hash", .str "sha256:shown")])
  | .create_checkpoint _ _ =>
    .ok (.dict [("checkpoint", .str "flash:sda.cfg"), ("verified", .bool true)])
  | .apply_block _ _ _ commands =>
    if refuses then .error ⟨"RuntimeError", "simulated apply failure"⟩
    else .ok (.dict [
      ("command_count", .int commands.length),
      ("command_hash", .str "sha256:sent"),
      ("output_hash", .str "sha256:accepted")])
  | .rollback _ checkpoint =>
    .ok (.dict [("checkpoint", .str checkpoint), ("verified", .bool true)])
  | _ => .ok .null

def lab_outside (transaction : Nat) (refuses : Bool) : Outside where
  respond _ := lab_respond refuses
  evidence_fault _ := none
  ise_has_changes _ := false
  ambient trace := lab_ambient (transaction + trace.length)

def lab_create_run (transaction : Nat) (idempotency_key : String) : Operation :=
  .request (lab_queue_run idempotency_key) rfl (lab_ambient transaction)

/-- A planned and approved design with a queued run. -/
def lab_queued : List Operation := [
  .request lab_reserve_design rfl (lab_ambient 1),
  .request lab_save_intent rfl (lab_ambient 2),
  .request lab_save_plan rfl (lab_ambient 3),
  .request lab_record_approval rfl (lab_ambient 4),
  lab_create_run 5 "apply-lab-0001"]

def lab_apply (transaction : Nat) (refuses : Bool) (run_id : String) : Operation :=
  .apply lab_worker (lab_outside transaction refuses) run_id lab_intent lab_plan lab_artifact none

/-- The first run succeeds, another one is queued for the same plan, and the device
refuses its blocks. -/
def lab_operations : List Operation :=
  lab_queued ++ [lab_apply 6 false "run_500"] ++ [lab_create_run 90 "apply-lab-0002"] ++
    [lab_apply 100 true "run_9000"]

abbrev lab_start : Store := store_after cpython lab_derive lab_queued

abbrev lab_first : State cpython lab_derive lab_start :=
  after_apply cpython lab_derive lab_start lab_worker (lab_outside 6 false) "run_500" lab_intent
    lab_plan lab_artifact none

abbrev lab_requeued : Store :=
  transition.last lab_first.session.store
    ((lab_create_run 90 "apply-lab-0002").commits cpython lab_derive lab_first.session.store)

abbrev lab_second : State cpython lab_derive lab_requeued :=
  after_apply cpython lab_derive lab_requeued lab_worker (lab_outside 100 true) "run_9000" lab_intent
    lab_plan lab_artifact none

theorem lab_requeued_eq : lab_requeued = store_after cpython lab_derive
    (lab_queued ++ [lab_apply 6 false "run_500"] ++ [lab_create_run 90 "apply-lab-0002"]) := by
  rw [store_after_concat, store_after_concat, lab_apply, last_commits_apply]

theorem lab_second_eq :
    lab_second.session.store = store_after cpython lab_derive lab_operations := by
  rw [lab_operations, store_after_concat, ← lab_requeued_eq, lab_apply, last_commits_apply]

/-- The runs, their plan and its reservation around the second call. -/
theorem lab_outcome :
    lab_first.trace.any (Event.starts_apply "run_500") ∧
      (lab_requeued.find_run "run_9000").map (fun run => (run.plan_id, run.status)) =
        some ("plan_lab", .apply_queued) ∧
      lab_requeued.core.planned_reservation "plan_lab" = some "reservation_100" ∧
      lab_requeued.core.reservation_state "reservation_100" = some .committed ∧
      (lab_second.store.find_run "run_500").map (fun run => (run.plan_id, run.status)) =
        some ("plan_lab", .apply_succeeded) ∧
      lab_second.store.core.run_status "run_9000" = some .rolled_back ∧
      lab_second.store.core.planned_reservation "plan_lab" = some "reservation_100" ∧
      lab_second.store.core.reservation_state "reservation_100" = some .released := by
  decide +kernel

end orchestrator.worker
