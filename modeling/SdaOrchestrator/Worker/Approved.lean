import SdaOrchestrator.Worker.Operations

open python effects effects.Program orchestrator.store

namespace orchestrator.worker

/-- The calls that reach a device before a rollback: its connection, a gate command or
a configuration block. -/
def Call.on_device : Call → Bool
  | .adapter_factory _ _ => true
  | .connect _ => true
  | .run_show _ _ => true
  | .apply_block _ _ _ _ => true
  | _ => false

/-- The connections, gate commands and configuration blocks of a call, in order. -/
def issued (trace : List Event) : List Call :=
  trace.filterMap fun event =>
    match event with
    | .called call _ => if call.on_device then some call else none
    | _ => none

/-- Two pairs of an intent and a plan prescribe the same execution of an artifact: the
same devices, credentials and gates, and the same phases in the same order. -/
structure SameExecution (worker : TransactionWorker) (artifact intent plan intent' plan' : Value) :
    Prop where
  devices : device_map intent artifact = device_map intent' artifact
  credentials : entries_of intent "devices" = entries_of intent' "devices"
  gates : worker.build_gate_plan intent artifact = worker.build_gate_plan intent' artifact
  phases : ordered_phases plan = ordered_phases plan'

section Approved

variable {platform : Platform} {derive_fabric_intent : Derive} {start : Store}

/-- The artifact that passes the binding checks has the hash of the run. -/
theorem check_binding_hash {run : RunRow} {plan artifact : Value}
    (hbound : check_binding platform run plan artifact = .ok ()) :
    platform.sha256_json (reconciliation.without "artifact_hash" artifact) = run.artifact_hash := by
  simp only [check_binding, bind_eq_ok_iff, raise_if_eq_ok] at hbound
  obtain ⟨body, hbody, supplied, -, _, hhash, -⟩ := hbound
  have hsame : body = artifact := by
    cases artifact <;> simp_all [as_dict]
  simp only [Bool.or_eq_false_iff, decide_eq_false_iff_not, not_not] at hhash
  rw [← hsame, hhash.1.2, hhash.2]

/-- The transaction reads the plan only through its executed phases. -/
theorem guarded_transaction_congr (worker : TransactionWorker) (outside : Outside) (run_id : String)
    (run : RunRow) {plan plan' : Value} (artifact : Value) (devices : List (String × Value))
    (gate_plan : List Value) (ise_manifest : Option Value)
    (hphases : ordered_phases plan = ordered_phases plan') :
    (guarded_transaction worker outside run_id run plan artifact devices gate_plan ise_manifest :
      Apply platform derive_fabric_intent start ApplyResult) =
    guarded_transaction worker outside run_id run plan' artifact devices gate_plan ise_manifest := by
  unfold guarded_transaction apply_transaction
  rw [hphases]

/-- The preflight sweep reads the intent only through its device list. -/
theorem preflight_credentials_congr (outside : Outside) {intent intent' : Value} (artifact : Value)
    (hcredentials : entries_of intent "devices" = entries_of intent' "devices") :
    (preflight_credentials outside intent artifact :
      Apply platform derive_fabric_intent start Unit) =
    preflight_credentials outside intent' artifact := by
  unfold entries_of at hcredentials
  unfold preflight_credentials
  rw [hcredentials]

/-- Past the binding checks, calls that prescribe the same execution are the same. -/
theorem process_apply_congr (worker : TransactionWorker) (outside : Outside) (run_id : String)
    {intent plan intent' plan' artifact : Value} (allowed_blocker_codes : Option (List String))
    {run : RunRow} (hrun : start.find_run run_id = some run)
    (hbound : check_binding platform run plan artifact = .ok ())
    (hbound' : check_binding platform run plan' artifact = .ok ())
    (hsame : SameExecution worker artifact intent plan intent' plan') :
    (process_apply worker outside run_id intent plan artifact allowed_blocker_codes
      (.initial : State platform derive_fabric_intent start)) =
    process_apply worker outside run_id intent' plan' artifact allowed_blocker_codes .initial := by
  have hget : get_run run_id (.initial : State platform derive_fabric_intent start) =
      (.ok run, .initial) := by
    have hfound : store.get_run run_id start = .ok run := require_eq_ok.mpr hrun
    exact congrArg (·, State.initial) hfound
  have hlift {checked : Py Unit} (hchecked : checked = .ok ()) :
      Program.lift checked (.initial : State platform derive_fabric_intent start) =
        (.ok (), .initial) := by
    rw [hchecked]
    rfl
  have hsweep : (_preflight_secret_sweep worker outside intent artifact :
      Apply platform derive_fabric_intent start Unit) =
        _preflight_secret_sweep worker outside intent' artifact := by
    unfold _preflight_secret_sweep
    rw [preflight_credentials_congr outside artifact hsame.credentials]
  have hguarded (devices : List (String × Value)) (gate_plan : List Value)
      (ise_manifest : Option Value) :
      (guarded_transaction worker outside run_id run plan artifact devices gate_plan ise_manifest :
        Apply platform derive_fabric_intent start ApplyResult) =
      guarded_transaction worker outside run_id run plan' artifact devices gate_plan
        ise_manifest :=
    guarded_transaction_congr worker outside run_id run artifact devices gate_plan ise_manifest
      hsame.phases
  unfold process_apply
  rw [bind_of_ok hget, bind_of_ok hget]
  by_cases hqueued : run.mode ≠ .apply ∨ run.status ≠ .apply_queued
  · rw [if_pos hqueued, if_pos hqueued]
  rw [if_neg hqueued, if_neg hqueued, bind_of_ok (hlift hbound), bind_of_ok (hlift hbound')]
  simp only [hsame.devices, hsame.gates, hsweep, hguarded]

end Approved

/-! ## Another device under the same id -/

/-- The lab intent with its device moved to another address. -/
def lab_moved_intent : Value := .dict [
  ("devices", .list [.dict [
    ("id", .str "node-1"), ("management_ip", .str "192.0.2.99"),
    ("software_version", .str "17.15.1")]]),
  ("fabric", .dict [("id", .str "lab")]),
  ("lisp", .dict [("map_servers", .list [])]),
  ("metadata", .dict [("environment", .str "lab")])]

/-- The device does not answer. -/
def lab_unreachable : Outside where
  respond
    | _, .connect _ => .error ⟨"ConnectionError", "no route to host"⟩
    | _, call => lab_respond false call
  evidence_fault _ := none
  ise_has_changes _ := false
  ambient trace := lab_ambient (6 + trace.length)

/-- The connections are to devices with a management address. -/
def addressed (calls : List Call) : Bool :=
  calls.any fun call =>
    match call with
    | .adapter_factory _ device => (device.item "management_ip").isOk
    | _ => false

theorem lab_moved :
    (lab_start.find_run "run_500").map (fun run =>
        (check_binding cpython run lab_plan lab_artifact).isOk) = some true ∧
      addressed (issued (after_apply cpython lab_derive lab_start lab_worker lab_unreachable "run_500"
        lab_intent lab_plan lab_artifact none).trace) = false ∧
      addressed (issued (after_apply cpython lab_derive lab_start lab_worker lab_unreachable "run_500"
        lab_moved_intent lab_plan lab_artifact none).trace) = true := by
  decide +kernel

/-- A plan with a phase that the worker does not execute, under the same hash. -/
def lab_assured_plan : Value := .dict [
  ("plan_id", .str "plan_lab"),
  ("plan_hash", .str lab_plan_hash),
  ("phases", .list [
    .dict [("id", .str "checkpoint")], .dict [("id", .str "underlay")],
    .dict [("id", .str "endpoint_assurance")]])]

end orchestrator.worker
