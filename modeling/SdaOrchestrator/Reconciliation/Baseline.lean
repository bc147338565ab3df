import SdaOrchestrator.Reconciliation.OwnedState

open python orchestrator.store

namespace orchestrator.reconciliation

def _BASELINE_SOURCES : List String := ["successful_apply", "adopted_discovery"]

/-- An entry that is left out when the value is missing or empty. -/
def optional_entry (key : String) : Option String → List (String × Value)
  | some text => if text = "" then [] else [(key, .str text)]
  | none => []

def make_baseline (platform : Platform) (manifest : Value) (source_type source_reference : String)
    (source_artifact_hash evidence_hash : Option String) : Py Value := do
  validate_owned_state platform manifest none
  raise_if (source_type ∉ _BASELINE_SOURCES)
    (ReconciliationError "Unsupported owned-state baseline source")
  raise_if (source_reference = "")
    (ReconciliationError "Owned-state baseline source reference is required")
  let body : List (String × Value) := [
    ("baseline_schema_version", .str BASELINE_SCHEMA_VERSION),
    ("source_type", .str source_type),
    ("source_reference", .str source_reference),
    ("manifest", manifest),
    ("manifest_hash", .str (← manifest.item "manifest_hash").toStr)] ++
    optional_entry "source_artifact_hash" source_artifact_hash ++
    optional_entry "evidence_hash" evidence_hash
  return .dict (body ++ [("baseline_hash", .str (platform.sha256_json (.dict body)))])

def validate_baseline (platform : Platform) (baseline : Value) (fabric_id : String) : Py Unit := do
  raise_if (Value.optStr (← baseline.get "baseline_schema_version") ≠ BASELINE_SCHEMA_VERSION)
    (ReconciliationError "Unsupported owned-state baseline version")
  let source_type := (← baseline.getD "source_type" (.str "")).toStr
  raise_if (source_type ∉ _BASELINE_SOURCES)
    (ReconciliationError "Unsupported owned-state baseline source")
  raise_if ((← baseline.getD "source_reference" (.str "")).toStr = "")
    (ReconciliationError "Owned-state baseline source reference is required")
  let supplied_hash := (← baseline.getD "baseline_hash" (.str "")).toStr
  let body := without "baseline_hash" baseline
  raise_if (!is_sha256_hex supplied_hash || platform.sha256_json body ≠ supplied_hash)
    (ReconciliationError "Owned-state baseline hash is invalid")
  match ← baseline.get "manifest" with
  | some (.dict manifest) =>
    validate_owned_state platform (.dict manifest) (some fabric_id)
    raise_if
      (Value.optStr (← baseline.get "manifest_hash") ≠
        Value.optStr (assoc.lookup "manifest_hash" manifest))
      (ReconciliationError "Owned-state baseline manifest hash does not match")
  | _ => .error (ReconciliationError "Owned-state baseline manifest is required")
  raise_if
    (source_type = "successful_apply" &&
      !is_sha256_hex (← baseline.getD "source_artifact_hash" (.str "")).toStr)
    (ReconciliationError "Successful-apply baseline requires an artifact hash")
  raise_if
    (source_type = "adopted_discovery" &&
      !is_sha256_hex (← baseline.getD "evidence_hash" (.str "")).toStr)
    (ReconciliationError "Adopted baseline requires discovery evidence")

end orchestrator.reconciliation
