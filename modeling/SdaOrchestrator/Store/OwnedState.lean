import SdaOrchestrator.Store.Runs
import SdaOrchestrator.Reconciliation.Baseline

open python orchestrator.reconciliation

namespace orchestrator.store

/-- The newest manifest of a fabric. -/
def Store.latest_manifest (store : Store) (fabric_id : String) : Option OwnedStateRow :=
  (store.owned_state_manifests.filter fun row => row.fabric_id = fabric_id).getLast?

def latest_owned_state (platform : Platform) (fabric_id : String) (store : Store) :
    Py (Option Value) :=
  match store.latest_manifest fabric_id with
  | some row =>
    (make_baseline platform row.manifest row.source_type.text row.source_reference
      row.source_artifact_hash row.evidence_hash).map some
  | none => .ok none

def Store.find_manifest (store : Store) (source_reference : String) : Option OwnedStateRow :=
  table.lookup OwnedStateRow.source_reference source_reference store.owned_state_manifests

/-- `record_adopted_owned_state` up to the end of its transaction. -/
def adopt_manifest (platform : Platform) (fabric_id : String) (manifest : Value)
    (evidence_hash change_reference discovered_by approver : String) (ambient : Ambient)
    (store : Store) : Py Store := do
  validate_owned_state platform manifest (some fabric_id)
  raise_if (!is_sha256_hex evidence_hash) (ValueError "evidence_hash must be a SHA-256 hex digest")
  raise_if (strip change_reference = "") (ValueError "change_reference is required")
  raise_if (strip discovered_by = "" || strip approver = "")
    (ValueError "discovered_by and approver are required")
  raise_if (strip discovered_by = strip approver)
    (ConflictError "Baseline discovery and approval require different actors")
  let manifest_hash := (← manifest.item "manifest_hash").toStr
  let source_reference := "adoption:" ++ strip change_reference ++ ":" ++ manifest_hash
  match store.find_manifest source_reference with
  | some existing =>
    raise_if (existing.manifest_hash ≠ manifest_hash)
      (ConflictError "Adoption reference is bound to another manifest")
    return store
  | none =>
    let row : OwnedStateRow := {
      fabric_id, manifest_hash
      source_type := .adopted_discovery
      source_reference
      source_artifact_hash := none
      evidence_hash := some evidence_hash
      manifest := manifest.stored
      created_at := isoformat (ambient.utc_now 0)
      created_by := strip approver }
    let payload : Value := .dict [
      ("manifest_hash", .str manifest_hash),
      ("evidence_hash", .str evidence_hash),
      ("change_reference", .str (strip change_reference)),
      ("discovered_by", .str (strip discovered_by))]
    let inserted := { store with owned_state_manifests := store.owned_state_manifests ++ [row] }
    return inserted._append_audit platform "fabric" fabric_id "owned_state.adopted" (strip approver)
      payload (ambient.utc_now 1) (ambient.uuid4_hex 0)

/-- The baseline is read back after the transaction is committed. -/
def record_adopted_owned_state (platform : Platform) (fabric_id : String) (manifest : Value)
    (evidence_hash change_reference discovered_by approver : String) (ambient : Ambient)
    (store : Store) : Py Value × Store :=
  match adopt_manifest platform fabric_id manifest evidence_hash change_reference discovered_by
      approver ambient store with
  | .error exception => (.error exception, store)
  | .ok adopted =>
    ((do
      match ← latest_owned_state platform fabric_id adopted with
      | some baseline => return baseline
      | none => .error (StoreError "Adopted owned-state baseline was not persisted")), adopted)

def complete_apply (platform : Platform) (run_id artifact_hash : String) (owned_state : Value)
    (actor : String) (detail : Value) (ambient : Ambient) (store : Store) :
    Py (RunRow × Store) := do
  validate_owned_state platform owned_state none
  raise_if (len artifact_hash ≠ 64) (ValueError "artifact_hash must be a SHA-256 hex digest")
  let run ← require (store.find_run run_id) (NotFoundError "Run not found")
  raise_if (run.status ≠ .apply_running) (ConflictError "Run is not active for apply completion")
  raise_if (run.artifact_hash ≠ artifact_hash)
    (ConflictError "Owned-state commit artifact hash does not match run")
  raise_if (run.fabric_id ≠ (← owned_state.item "fabric_id").toStr)
    (ConflictError "Owned-state manifest belongs to another fabric")
  raise_if (store.find_manifest run_id).isSome
    (ConflictError "Run already committed an owned-state manifest")
  let updated_at := isoformat (ambient.utc_now 0)
  let manifest_hash := (← owned_state.item "manifest_hash").toStr
  let row : OwnedStateRow := {
    fabric_id := run.fabric_id
    manifest_hash
    source_type := .successful_apply
    source_reference := run_id
    source_artifact_hash := some artifact_hash
    evidence_hash := none
    manifest := owned_state.stored
    created_at := updated_at
    created_by := actor }
  let committed := { store with
    owned_state_manifests := store.owned_state_manifests ++ [row]
    runs := set_run_status run_id .apply_succeeded updated_at store.runs
    fabric_locks := release_fabric_lock run_id store.fabric_locks }
  let changed := committed._append_audit platform "run" run_id "run.status_changed" actor
    (status_changed .apply_running .apply_succeeded detail) (ambient.utc_now 1)
    (ambient.uuid4_hex 0)
  let payload : Value := .dict [
    ("run_id", .str run_id),
    ("artifact_hash", .str artifact_hash),
    ("manifest_hash", .str manifest_hash)]
  return ({ run with status := .apply_succeeded, updated_at },
    changed._append_audit platform "fabric" run.fabric_id "owned_state.committed" actor payload
      (ambient.utc_now 2) (ambient.uuid4_hex 1))

/-! ## What the operations do to the core tables -/

/-- `complete_apply` takes a running run to success. -/
theorem complete_apply_core {platform : Platform} {run_id artifact_hash actor : String}
    {owned_state detail : Value} {ambient : Ambient} {store next : Store} {row : RunRow}
    (hresult : complete_apply platform run_id artifact_hash owned_state actor detail ambient store =
      .ok (row, next)) :
    ∃ run updated_at manifest, store.find_run run_id = some run ∧ run.status = .apply_running ∧
      next.core = { store.core with
        runs := set_run_status run_id .apply_succeeded updated_at store.runs
        fabric_locks := release_fabric_lock run_id store.fabric_locks
        owned_state_manifests := store.owned_state_manifests ++ [manifest] } := by
  simp only [complete_apply, bind_eq_ok_iff, raise_if_eq_ok, require_eq_ok, pure_eq_ok_iff,
    Prod.mk.injEq, decide_eq_false_iff_not, not_not] at hresult
  obtain ⟨_, -, _, -, run, hfind, _, hrunning, _, -, _, -, _, -, _, -, _, -, -, rfl⟩ := hresult
  exact ⟨run, _, _, hfind, hrunning, rfl⟩

/-- An adoption changes the manifests only. -/
theorem adopt_manifest_core {platform : Platform} {fabric_id : String} {manifest : Value}
    {evidence_hash change_reference discovered_by approver : String} {ambient : Ambient}
    {store next : Store}
    (hresult : adopt_manifest platform fabric_id manifest evidence_hash change_reference
      discovered_by approver ambient store = .ok next) :
    ∃ owned_state_manifests, next.core = { store.core with owned_state_manifests } := by
  simp only [adopt_manifest, bind_eq_ok_iff, raise_if_eq_ok] at hresult
  obtain ⟨_, -, _, -, _, -, _, -, _, -, _, -, hresult⟩ := hresult
  split at hresult
  · simp only [bind_eq_ok_iff, raise_if_eq_ok, pure_eq_ok_iff] at hresult
    obtain ⟨_, -, rfl⟩ := hresult
    exact ⟨_, rfl⟩
  · rw [pure_eq_ok_iff] at hresult
    subst hresult
    exact ⟨_, rfl⟩

end orchestrator.store
