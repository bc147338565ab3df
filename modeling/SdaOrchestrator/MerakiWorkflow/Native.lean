import SdaOrchestrator.Acceptance.Registry
import SdaOrchestrator.MerakiWorkflow.Contract

/-! The checks of the intake and of the captured serialization in `validate_workflow_package`. The
issues of a check are the list it returns. -/

open python orchestrator.acceptance

namespace orchestrator.meraki_workflow_package

/-! ## Fields -/

/-- `found == expected`, where a missing field reads as `None`. -/
def same (expected : Value) (found : Option Value) : Bool := (found.getD .null).equals expected

/-- `document.get(key) or {}`, read as `{}` when it is not a mapping. -/
def metadata (document : Value) (key : String) : Py Value := do
  let found ← get_mapping document key
  return if found.isMapping then found else .dict []

def metadata_issues (document : Value) (key : String) (issue : Issue) : Py (List Issue) := do
  return issue_if (!(← get_mapping document key).isMapping) issue

/-- `set(names) == set(expected)`. -/
def same_names (names expected : List String) : Bool :=
  names.all expected.contains && expected.all names.contains

/-- `isinstance(found, list) and set(found) == expected`. -/
def lists_names (expected : List String) (found : Option Value) : Py Bool :=
  match found with
  | some (.list items) => do
    raise_if (!items.all hashable) unhashable
    match texts? items with
    | some names => return same_names names expected
    | none => return false
  | _ => return false

/-- A list of non-empty texts that are the expected ones. -/
def key_inventory (expected : List String) (found : Option Value) : Bool :=
  match found with
  | some (.list items) =>
    match texts? items with
    | some names => !names.contains "" && same_names names expected
    | none => false
  | _ => false

/-! ## Operator intake -/

/-- The loop over the operator inputs: the inputs by name and the issues. -/
def operator_input_issues (index : Nat) (items : List Value) (input_by_name : List (String × Value)) :
    List (String × Value) × List Issue :=
  match items with
  | [] => (input_by_name, [])
  | item :: rest =>
    let path := "$.operator_inputs[" ++ toString index ++ "]"
    match item.get "name" with
    | .ok (some (.str name)) =>
      let duplicate := issue_if (assoc.lookup name input_by_name).isSome
        ⟨"intake.operator_input_duplicate", path, "Intake field names must be unique"⟩
      let others := operator_input_issues (index + 1) rest (assoc.set name item input_by_name)
      (others.1, duplicate ++ others.2)
    | _ =>
      let others := operator_input_issues (index + 1) rest input_by_name
      (others.1, ⟨"intake.operator_input", path, "Each intake field requires a name"⟩ :: others.2)

/-- `entries.get(name) or {}`. -/
def entry_named (entries : List (String × Value)) (name : String) : Value :=
  match assoc.lookup name entries with
  | some found => if found.truthy then found else .dict []
  | none => .dict []

def operator_inputs_issues (document : Value) : Py (List Issue) := do
  let found ← document.get "operator_inputs"
  let (operator_inputs, missing) : List Value × List Issue := match found with
    | some (.list items) => (items, [])
    | _ => ([], [⟨"intake.operator_inputs", "$.operator_inputs", "The operator intake fields must be a list"⟩])
  let (input_by_name, item_issues) := operator_input_issues 0 operator_inputs []
  let requirements_input := entry_named input_by_name "requirements_json"
  let requirements_type ← requirements_input.get "type"
  let requirements_required ← requirements_input.get "required"
  let requirements_secret ← requirements_input.get "secret"
  let mode_input := entry_named input_by_name "requested_mode"
  let mode_type ← mode_input.get "type"
  let mode_required ← mode_input.get "required"
  let mode_options ← mode_input.get "options"
  let mode_default ← mode_input.get "default"
  return missing ++ item_issues ++
    issue_if (!same_names (input_by_name.map Prod.fst) EXPECTED_OPERATOR_INPUT_NAMES)
      ⟨"intake.operator_input_contract", "$.operator_inputs",
        "Operator inputs must match the pinned planning and change-control contract"⟩ ++
    issue_if (!is_text "string" requirements_type || !is_true requirements_required ||
        !is_false requirements_secret)
      ⟨"intake.requirements_input", "$.operator_inputs",
        "requirements_json must be a required, non-secret JSON text input"⟩ ++
    issue_if (!is_text "enum" mode_type || !is_true mode_required ||
        !same (texts ["plan_only", "dry_run", "apply"]) mode_options || !is_text "plan_only" mode_default)
      ⟨"intake.requested_mode", "$.operator_inputs",
        "requested_mode must retain the pinned plan/dry-run/apply control choices"⟩

def requirements_intake_issues (document package : Value) : Py (List Issue) := do
  let found ← document.get "requirements_intake"
  let (intake, missing) : Value × List Issue := match found with
    | some (.dict entries) => (.dict entries, [])
    | _ => (.dict [],
      [⟨"intake.missing", "$.requirements_intake", "Requirements intake metadata is required"⟩])
  let contract_version ← intake.get "contract_version"
  let canonical_input ← intake.get "canonical_input"
  let requirements_contract ← intake.get "requirements_contract"
  let package_contract ← package.getD "requirements_contract" .null
  let allocation_authority ← intake.get "allocation_authority"
  let dimensions ← lists_names EXPECTED_REQUIREMENTS_INTAKE_DIMENSIONS (← intake.get "design_dimensions")
  let forbidden_fields ← lists_names FORBIDDEN_REQUIREMENTS_SUBMISSION_FIELDS
    (← intake.get "forbidden_submission_fields")
  return missing ++
    issue_if (!is_text "1.0" contract_version)
      ⟨"intake.version", "$.requirements_intake.contract_version", "Expected intake contract version 1.0"⟩ ++
    issue_if (!is_text "requirements_json" canonical_input)
      ⟨"intake.canonical_input", "$.requirements_intake.canonical_input",
        "Only requirements_json may carry fabric demand and topology"⟩ ++
    issue_if (!same package_contract requirements_contract)
      ⟨"intake.schema", "$.requirements_intake.requirements_contract",
        "Intake must use the package requirements schema"⟩ ++
    issue_if (!is_text "orchestrator_postgresql_ledger" allocation_authority)
      ⟨"intake.allocation_authority", "$.requirements_intake.allocation_authority",
        "Only the orchestrator PostgreSQL ledger may allocate fabric values"⟩ ++
    issue_if (!dimensions)
      ⟨"intake.design_dimensions", "$.requirements_intake.design_dimensions",
        "Intake design dimensions must match the approved SDA demand contract"⟩ ++
    issue_if (!forbidden_fields)
      ⟨"intake.forbidden_fields", "$.requirements_intake.forbidden_submission_fields",
        "Generated values, credentials, and raw CLI must not be submitted as requirements"⟩

/-! ## Release flags -/

def release_issues (package : Value) (importable_exports production_flag exchange_flag apply_enabled : Bool) :
    Py (List Issue) := do
  let serialization_state ← package.get "serialization_state"
  let native_exports ← package.get "native_exports"
  let listed := match native_exports with
    | some (.list (_ :: _)) => true
    | _ => false
  return issue_if (!is_text "build_spec_complete" serialization_state)
      ⟨"serialization.state", "$.package.serialization_state",
        "Portable build specification must be complete before tenant assembly"⟩ ++
    issue_if (production_flag && !importable_exports)
      ⟨"release.importable_exports_missing", "$.package.production_ready",
        "Package cannot be production-ready without validated native exports"⟩ ++
    issue_if (importable_exports && !listed)
      ⟨"release.native_export_inventory", "$.package.native_exports",
        "Importable-export claim requires an inventory of tenant-native exports"⟩ ++
    issue_if (production_flag && !apply_enabled)
      ⟨"release.apply_disabled", "$.package.production_ready",
        "Package cannot be production-ready while apply is disabled"⟩ ++
    issue_if (exchange_flag && !production_flag)
      ⟨"release.exchange_before_production", "$.package.exchange_publishable",
        "Exchange publication requires production readiness"⟩

/-! ## Native serialization -/

/-- `re.fullmatch(r"[0-9a-f]{64}", found)` of a text. -/
def is_sha256 : Option Value → Bool
  | some (.str text) =>
    len text = 64 && (chars text).all fun c => c.isDigit || ('a' ≤ c && c ≤ 'f')
  | _ => false

def native_workflow_issues (native_serialization : Value) : Py (List Issue) := do
  let found ← get_mapping native_serialization "workflow"
  let native_workflow ← metadata native_serialization "workflow"
  let workflow_type ← native_workflow.get "type"
  let unique_name ← native_workflow.get "unique_name_prefix"
  let top_level_keys ← native_workflow.get "observed_top_level_keys"
  let property_keys ← native_workflow.get "observed_property_keys"
  let native_variable ← metadata native_workflow "variable"
  let object_type ← native_variable.get "object_type"
  let variable_unique_name ← native_variable.get "unique_name_prefix"
  let wrapper_keys ← native_variable.get "wrapper_keys"
  let variable_property_keys ← native_variable.get "observed_property_keys"
  return (if found.isMapping then
      issue_if (!is_text "generic.workflow" workflow_type)
        ⟨"native.workflow_type", "$.native_serialization.workflow.type",
          "Native workflow type must come from a genuine generic.workflow export"⟩
    else
      [⟨"native.workflow_type", "$.native_serialization.workflow",
        "Native workflow serialization metadata must be an object"⟩]) ++
    issue_if (!is_text "definition_workflow_" unique_name)
      ⟨"native.workflow_identifier", "$.native_serialization.workflow.unique_name_prefix",
        "Native workflow identifier prefix must be definition_workflow_"⟩ ++
    issue_if (!key_inventory EXPECTED_NATIVE_WORKFLOW_TOP_LEVEL_KEYS top_level_keys)
      ⟨"native.workflow_top_level_keys", "$.native_serialization.workflow.observed_top_level_keys",
        "Native workflow top-level keys do not match the configured capture"⟩ ++
    issue_if (!key_inventory EXPECTED_NATIVE_WORKFLOW_PROPERTY_KEYS property_keys)
      ⟨"native.workflow_property_keys", "$.native_serialization.workflow.observed_property_keys",
        "Configured native workflow property-key inventory does not match the captured schema"⟩ ++
    issue_if (!is_text "variable_workflow" object_type)
      ⟨"native.variable_object_type", "$.native_serialization.workflow.variable.object_type",
        "Workflow variables must use the captured variable_workflow object type"⟩ ++
    issue_if (!is_text "variable_workflow_" variable_unique_name)
      ⟨"native.variable_identifier", "$.native_serialization.workflow.variable.unique_name_prefix",
        "Workflow variable identifier prefix must be variable_workflow_"⟩ ++
    issue_if (!key_inventory EXPECTED_NATIVE_VARIABLE_KEYS wrapper_keys)
      ⟨"native.variable_wrapper_keys", "$.native_serialization.workflow.variable.wrapper_keys",
        "Workflow variable key inventory does not match the configured capture"⟩ ++
    issue_if (!key_inventory EXPECTED_NATIVE_VARIABLE_PROPERTY_KEYS variable_property_keys)
      ⟨"native.variable_property_keys", "$.native_serialization.workflow.variable.observed_property_keys",
        "Workflow variable key inventory does not match the configured capture"⟩

/-- One captured activity type. -/
def native_activity_issues (native_activities : Value) (expected : String × String) : Py (List Issue) := do
  let (portable_type, expected_type) := expected
  let path := "$.native_serialization.activities." ++ portable_type
  let activity ← get_mapping native_activities portable_type
  let mistyped : Issue := ⟨"native.activity_type", path ++ ".type",
    "Expected captured tenant-native type " ++ reprText expected_type⟩
  if activity.isMapping then
    if is_text expected_type (← activity.get "type") then
      let unique_name ← activity.get "unique_name_prefix"
      let observed_keys ← activity.get "observed_property_keys"
      let expected_keys := (assoc.lookup portable_type EXPECTED_NATIVE_PROPERTY_KEYS).getD []
      return issue_if (!is_text "definition_activity_" unique_name)
          ⟨"native.activity_identifier", path ++ ".unique_name_prefix",
            "Native activity identifier prefix must be definition_activity_"⟩ ++
        issue_if (!key_inventory expected_keys observed_keys)
          ⟨"native.property_keys", path ++ ".observed_property_keys",
            "Configured native activity property-key inventory does not match the captured schema"⟩
    else return [mistyped]
  else return [mistyped]

def native_serialization_issues (document : Value) : Py (List Issue) := do
  let native_serialization ← metadata document "native_serialization"
  let missing ← metadata_issues document "native_serialization"
    ⟨"native.serialization_type", "$.native_serialization",
      "Native serialization metadata must be an object"⟩
  let contains_property_values ← native_serialization.get "contains_property_values"
  let configured_properties_complete ← native_serialization.get "configured_properties_complete"
  let capture_hash ← native_serialization.get "capture_export_sha256"
  let export_top_level_keys ← native_serialization.get "observed_export_top_level_keys"
  let workflow_issues ← native_workflow_issues native_serialization
  let native_activities ← metadata native_serialization "activities"
  let activity_names ← native_activities.pairs
  let activity_issues ← EXPECTED_NATIVE_ACTIVITY_TYPES.mapM (native_activity_issues native_activities)
  let serialization_topology ← native_serialization.get "serialization_topology"
  return missing ++
    issue_if (!is_false contains_property_values)
      ⟨"native.property_values", "$.native_serialization.contains_property_values",
        "The committed native fingerprint must never contain property values"⟩ ++
    issue_if (!is_true configured_properties_complete)
      ⟨"native.configured_properties_incomplete", "$.native_serialization.configured_properties_complete",
        "Configured native activity, logic, and child-workflow schemas must be pinned"⟩ ++
    issue_if (!is_sha256 capture_hash)
      ⟨"native.capture_hash", "$.native_serialization.capture_export_sha256",
        "Native capture requires a lowercase SHA-256 provenance hash"⟩ ++
    issue_if (!key_inventory EXPECTED_NATIVE_EXPORT_TOP_LEVEL_KEYS export_top_level_keys)
      ⟨"native.export_top_level_keys", "$.native_serialization.observed_export_top_level_keys",
        "Native export top-level keys do not match the configured capture"⟩ ++
    workflow_issues ++
    issue_if (!same_names (activity_names.map Prod.fst) (EXPECTED_NATIVE_ACTIVITY_TYPES.map Prod.fst))
      ⟨"native.activity_inventory", "$.native_serialization.activities",
        "Configured native activity inventory must match the pinned capture"⟩ ++
    activity_issues.flatten ++
    issue_if (!same EXPECTED_NATIVE_SERIALIZATION_TOPOLOGY serialization_topology)
      ⟨"native.serialization_topology", "$.native_serialization.serialization_topology",
        "Native condition nesting and child-workflow dependency serialization must match the capture"⟩

/-- One native recipe. -/
def recipe_issues (entry : String × Value) : Py (List Issue) := do
  let (portable_name, recipe) := entry
  let native_sequence ← get_items recipe "native_sequence"
  let loop_body_sequence ← get_items recipe "loop_body_sequence"
  let supporting_activities ← get_items recipe "supporting_activities"
  let referenced := native_sequence ++ loop_body_sequence ++ supporting_activities
  raise_if (!referenced.all hashable) unhashable
  let captured (item : Value) : Bool := EXPECTED_NATIVE_ACTIVITY_TYPES.any fun expected =>
    is_text expected.1 (some item)
  return issue_if (referenced.isEmpty || !referenced.all captured)
    ⟨"native.assembly_primitive",
      "$.native_assembly.portable_activity_recipes." ++ portable_name,
      "Native recipe references an uncaptured or empty primitive set"⟩

def native_assembly_issues (document : Value) : Py (List Issue) := do
  let native_assembly ← get_mapping document "native_assembly"
  if native_assembly.equals EXPECTED_NATIVE_ASSEMBLY_CONTRACT then
    let recipes ← (← native_assembly.item "portable_activity_recipes").pairs
    let recipe_found ← recipes.mapM recipe_issues
    return issue_if (!same_names (recipes.map Prod.fst) ALLOWED_ACTIVITIES)
        ⟨"native.assembly_coverage", "$.native_assembly.portable_activity_recipes",
          "Every portable workflow activity requires exactly one native recipe"⟩ ++
      recipe_found.flatten
  else
    return [⟨"native.assembly_contract", "$.native_assembly",
      "Portable-to-native assembly recipes must match the reviewed contract"⟩]

end orchestrator.meraki_workflow_package
