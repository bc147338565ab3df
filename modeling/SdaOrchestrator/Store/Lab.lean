import SdaOrchestrator.Store.Cpython
import SdaOrchestrator.Store.Transactions

open python

namespace orchestrator.store

/-! ## A lab fabric with one device -/

def lab_intent : Value := .dict [
  ("devices", .list [.dict [("id", .str "node-1"), ("software_version", .str "17.15.1")]]),
  ("fabric", .dict [("id", .str "lab")]),
  ("lisp", .dict [("map_servers", .list [])]),
  ("metadata", .dict [("environment", .str "lab")])]

def lab_intent_hash : String := "1333e47e59933601fb0209ecdbac170dbf5066cfa636b04ca23902bd2f726e6a"

def lab_plan_hash : String := "301dc37c4f8f01a82f520c1941a8d15171aab534c2f2d8dcbcff599d3dab2d79"

def lab_plan : Value := .dict [
  ("plan_id", .str "plan_lab"),
  ("plan_hash", .str lab_plan_hash),
  ("intent_hash", .str lab_intent_hash),
  ("phases", .list [
    .dict [("id", .str "precheck")], .dict [("id", .str "checkpoint")],
    .dict [("id", .str "underlay")]])]

def lab_artifact_hash : String := "8d59936775e644ddbd4814e94cef138dbfe00aed06f20b0af3b2520466bddfd7"

/-- Noon of a day, and identifiers that no other transaction draws. -/
def lab_ambient (transaction : Nat) : Ambient where
  utc_now reading := ⟨2025, 1, 15, 12, 0, 0, .ofNat _ reading⟩
  uuid4_hex draw := toString (100 * transaction + draw)

/-- A design that takes one link and one VLAN. -/
def lab_derive : Derive := fun requirements policy _ _ => .ok {
  intent := lab_intent
  requirements_hash := cpython.sha256_json requirements
  policy_hash := cpython.sha256_json policy
  reservation_hash := "sha256:design"
  allocation_domain := "lab"
  fabric_id := "lab"
  network := [⟨"underlay", "10.0.0.0/31"⟩]
  scalar := [⟨"vlan", "1021"⟩] }

/-! ## The requests that queue a run -/

def lab_reserve_design : Transaction :=
  .reserve_design (.dict []) (.dict []) "reserve-lab-1" "planner"

def lab_save_intent : Transaction := .save_intent lab_intent "planner"

def lab_save_plan : Transaction :=
  .save_plan ("intent_" ++ take 16 lab_intent_hash) lab_plan "planner" lab_artifact_hash "1.0"
    (some "reservation_100")

def lab_record_approval : Transaction :=
  .record_approval "plan_lab" "approved" "approver" "CHG-1" "2025-02-01T00:00:00+00:00"

def lab_queue_run (idempotency_key : String) : Transaction :=
  .create_run "plan_lab" "apply" idempotency_key "operator" true (some "2025-01-15T00:00:00+00:00")
    (some "2025-01-16T00:00:00+00:00") 1800

end orchestrator.store
