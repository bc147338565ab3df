import SdaOrchestrator.MerakiWorkflow.Package

/-! `compile_workflow_build_plan` in `orchestrator/meraki_workflow_package.py`. -/

open python orchestrator.acceptance

namespace orchestrator.meraki_workflow_package

/-- `value[key]` of a mapping. -/
def subscript (value key : Value) : Py Value := do
  match value with
  | .dict entries =>
    match ← find_key entries key with
    | some found => return found
    | none => .error (KeyError key.toStr)
  | _ => .error (TypeError "object is not subscriptable")

/-- `value[first][second]...`. -/
def nested (value : Value) (keys : List String) : Py Value := keys.foldlM Value.item value

/-- `dict(value)`. -/
def dict_entries : Value → Py (List (String × Value))
  | .dict entries => .ok entries
  | _ => .error (TypeError "object is not a mapping")

/-- `{item["role"]: item for item in targets}`; under one role the last target counts. -/
def targets_by_role (targets : List Value) : Py (List (Value × Value)) :=
  targets.mapM fun item => do
    let role ← item.item "role"
    raise_if (!hashable role) unhashable
    return (role, item)

/-- `targets[role]`. -/
def target_of (targets : List (Value × Value)) (role : Value) : Py Value := do
  raise_if (!hashable role) unhashable
  match targets.reverse.find? fun entry => entry.1.equals role with
  | some entry => return entry.2
  | none => .error (KeyError role.toStr)

/-- What the steps of a build plan are compiled from. -/
structure Sources where
  operations : Value
  targets : List (Value × Value)
  native_recipes : Value
  runtime_statuses : Py Value

/-- The request of a step that sends one. -/
def request_of (sources : Sources) (step : Value) : Py Value := do
  let operation := Value.dict (← dict_entries (← subscript sources.operations (← step.item "operation")))
  let role ← operation.item "role"
  let method ← operation.item "method"
  let path ← operation.item "path"
  let success_statuses ← operation.item "success_statuses"
  let target_binding ← (← target_of sources.targets role).item "binding"
  return .dict [
    ("method", method),
    ("relative_url", path),
    ("success_statuses", success_statuses),
    ("content_type", .str "application/json"),
    ("accept", .str "application/json"),
    ("target_binding", target_binding),
    ("allow_auto_redirect", .bool false),
    ("allow_sensitive_headers_redirect", .bool false)]

/-- `list(document["runtime"]["terminal_statuses"])` in the place of its name. -/
def bind_statuses (sources : Sources) (step : List (String × Value)) : Py (List (String × Value)) := do
  if is_text "bounded_poll" (assoc.lookup "activity" step) &&
      is_text "runtime.terminal_statuses" (assoc.lookup "terminal_statuses" step) then
    let terminal_statuses ← (← sources.runtime_statuses).elements
    return assoc.set "terminal_statuses" (.list terminal_statuses) step
  else return step

/-- The compiled step of a source step. -/
def compile_step (sources : Sources) (source : Value) : Py Value := do
  let entries ← dict_entries source
  let native_implementation ← subscript sources.native_recipes (← source.item "activity")
  let step := assoc.set "native_implementation" native_implementation entries
  if ← in_texts executable_activities (assoc.lookup "activity" step) then
    let request ← request_of sources (.dict step)
    return .dict (← bind_statuses sources (assoc.set "request" request step))
  else return .dict (← bind_statuses sources step)

/-- `workflow.get("steps", [])`, drawn from by a loop. -/
def steps_of (workflow : Value) : Py (List Value) := do
  (← workflow.getD "steps" (.list [])).elements

/-- The compiled entry of a workflow. -/
def compile_workflow (sources : Sources) (workflow : Value) : Py Value := do
  let steps ← (← steps_of workflow).mapM (compile_step sources)
  let id ← workflow.item "id"
  let name ← workflow.item "name"
  let kind ← workflow.item "kind"
  let enabled ← workflow.getD "enabled" (.bool true)
  let description ← workflow.item "description"
  let outputs ← workflow.getD "outputs" (.list [])
  return .dict [
    ("id", id),
    ("name", name),
    ("kind", kind),
    ("enabled", enabled),
    ("description", description),
    ("outputs", outputs),
    ("steps", .list steps)]

/-- `sorted(value)`. -/
def sorted_items (value : Value) : Py Value := do
  return .list (← sorted_set (← value.elements))

/-- `{name: field(item) for name, item in sorted(value.items())}`. -/
def sorted_fields (field : Value → Py Value) (value : Value) : Py Value := do
  let fields ← (sortedBy Prod.fst (← value.pairs)).mapM fun entry => do return (entry.1, ← field entry.2)
  return .dict fields

/-- The part of a build plan on the captured serialization. -/
def native_plan (native_serialization : Value) : Py Value := do
  let capture_export_sha256 ← native_serialization.item "capture_export_sha256"
  let configured_properties_complete ← native_serialization.getD "configured_properties_complete" (.bool false)
  let export_top_level_keys ← sorted_items (← native_serialization.item "observed_export_top_level_keys")
  let workflow ← native_serialization.item "workflow"
  let workflow_type ← workflow.item "type"
  let workflow_top_level_keys ← sorted_items (← workflow.item "observed_top_level_keys")
  let workflow_property_keys ← sorted_items (← workflow.item "observed_property_keys")
  let variable_workflow ← workflow.item "variable"
  let object_type ← variable_workflow.item "object_type"
  let unique_name ← variable_workflow.item "unique_name_prefix"
  let wrapper_keys ← sorted_items (← variable_workflow.item "wrapper_keys")
  let property_keys ← sorted_items (← variable_workflow.item "observed_property_keys")
  let activities ← native_serialization.item "activities"
  let activity_types ← sorted_fields (fun item => item.item "type") activities
  let activity_property_keys ← sorted_fields
    (fun item => do sorted_items (← item.item "observed_property_keys")) activities
  let serialization_topology ← native_serialization.item "serialization_topology"
  return .dict [
    ("capture_export_sha256", capture_export_sha256),
    ("configured_properties_complete", configured_properties_complete),
    ("export_top_level_keys", export_top_level_keys),
    ("workflow_type", workflow_type),
    ("workflow_top_level_keys", workflow_top_level_keys),
    ("workflow_property_keys", workflow_property_keys),
    ("workflow_variable", .dict [
      ("object_type", object_type),
      ("unique_name_prefix", unique_name),
      ("wrapper_keys", wrapper_keys),
      ("property_keys", property_keys)]),
    ("activity_types", activity_types),
    ("activity_property_keys", activity_property_keys),
    ("serialization_topology", serialization_topology)]

/-- `{item["role"]: item for item in document["targets"]}` and the other sources of the steps. -/
def sources_of (document : Value) : Py Sources := do
  let operations ← document.item "api_operations"
  let targets ← targets_by_role (← (← document.item "targets").elements)
  let native_recipes ← nested document ["native_assembly", "portable_activity_recipes"]
  return {
    operations
    targets
    native_recipes
    runtime_statuses := nested document ["runtime", "terminal_statuses"] }

/-- The compiled entries of the workflows, in the order of the document. -/
def compiled_workflows (document : Value) : Py (List Value) := do
  let sources ← sources_of document
  (← (← document.item "workflows").elements).mapM (compile_workflow sources)

/-- The build plan of a document that is safe to build. -/
def build_plan (document : Value) (manifest_hash : String) : Py Value := do
  let compiled ← compiled_workflows document
  let package_id ← nested document ["package", "id"]
  let package_version ← nested document ["package", "version"]
  let requirements_intake ← document.item "requirements_intake"
  let operator_inputs ← document.item "operator_inputs"
  let native_assembly ← document.item "native_assembly"
  let native_serialization ← native_plan (← document.item "native_serialization")
  let result : List (String × Value) := [
    ("build_plan_schema_version", .str "1.0"),
    ("package_id", package_id),
    ("package_version", package_version),
    ("manifest_hash", .str manifest_hash),
    ("native_export_required", .bool true),
    ("credentials_included", .bool false),
    ("requirements_intake", requirements_intake),
    ("operator_inputs", operator_inputs),
    ("native_assembly", native_assembly),
    ("native_serialization", native_serialization),
    ("workflows", .list compiled)]
  let build_plan_hash := sha256.hexdigest (Value.canonical_json (.dict result))
  return .dict (result ++ [("build_plan_hash", .str build_plan_hash)])

def compile_workflow_build_plan (document : Value) : Py Value := do
  let validation ← validate_workflow_package document
  raise_if (!validation.safe_to_build) (ValueError "Invalid Meraki workflow package")
  build_plan document validation.manifest_hash

end orchestrator.meraki_workflow_package
