import SdaOrchestrator.Store.Tables

open python

namespace orchestrator.store

/-- The identifier of an evidence row: a digest of what it records. -/
def evidence_id (platform : Platform) (run_id phase_id evidence_type payload_hash : String)
    (device_id : Option String) : String :=
  let evidence_identity : Value := .dict [
    ("run_id", .str run_id),
    ("phase_id", .str phase_id),
    ("device_id", Value.ofOption device_id),
    ("evidence_type", .str evidence_type),
    ("payload_hash", .str payload_hash)]
  "evidence_" ++ take 16 (platform.sha256_json evidence_identity)

def add_evidence (platform : Platform) (run_id phase_id evidence_type : String) (payload : Value)
    (actor : String) (device_id : Option String) (ambient : Ambient) (store : Store) :
    Py (EvidenceRow × Store) := do
  let payload_hash := platform.sha256_json payload
  let evidence_id := evidence_id platform run_id phase_id evidence_type payload_hash device_id
  raise_if (store.find_run run_id).isNone (NotFoundError "Run not found")
  match table.lookup EvidenceRow.evidence_id evidence_id store.evidence with
  | some existing => return (existing, store)
  | none =>
    let row : EvidenceRow := {
      evidence_id, run_id, phase_id, device_id, evidence_type
      payload := payload.stored
      payload_hash
      created_at := isoformat (ambient.utc_now 0)
      created_by := actor }
    let audit_payload : Value := .dict [
      ("evidence_id", .str evidence_id),
      ("phase_id", .str phase_id),
      ("device_id", Value.ofOption device_id),
      ("evidence_type", .str evidence_type),
      ("payload_hash", .str payload_hash)]
    let inserted := { store with evidence := store.evidence ++ [row] }
    return (row,
      inserted._append_audit platform "run" run_id "evidence.recorded" actor audit_payload
        (ambient.utc_now 1) (ambient.uuid4_hex 0))

theorem add_evidence_core {platform : Platform} {run_id phase_id evidence_type : String}
    {payload : Value} {actor : String} {device_id : Option String} {ambient : Ambient}
    {store next : Store} {row : EvidenceRow}
    (hresult : add_evidence platform run_id phase_id evidence_type payload actor device_id ambient
      store = .ok (row, next)) : next.core = store.core := by
  simp only [add_evidence, bind_eq_ok_iff, raise_if_eq_ok] at hresult
  obtain ⟨_, -, hresult⟩ := hresult
  split at hresult <;>
    · simp only [pure_eq_ok_iff, Prod.mk.injEq] at hresult
      obtain ⟨-, rfl⟩ := hresult
      rfl

end orchestrator.store
