import Mathlib.Data.Prod.Lex
import SdaOrchestrator.Adapters.IosXe
import SdaOrchestrator.Intent.Issues
import SdaOrchestrator.Lib.Sha256

/-! Exports of native workflows: their inventory, and the audit of one export and of a set of
them. `json.loads` builds the documents, so that no object occurs in one twice. -/

open python regex regex.Regex
open orchestrator.adapters (anything ignore_case literal_ignoring_case lower)
open orchestrator.intent (Severity dict_of)

namespace orchestrator.meraki_native_export

/-- A JSON object. -/
abbrev Mapping := List (String × Value)

structure NativeExportIssue where
  code : String
  path : String
  message : String
  severity : Severity := .error

def issue_if (condition : Bool) (code path message : String) : List NativeExportIssue :=
  if condition then [{ code, path, message }] else []

/-! ## Objects of a document -/

/-- `value.get(key)` is the text `expected`. -/
def is_text (value : Mapping) (key expected : String) : Bool :=
  match assoc.lookup key value with
  | some (.str found) => found = expected
  | _ => false

/-- `str(value.get(key, ""))`. -/
def text_of (value : Mapping) (key : String) : String := ((assoc.lookup key value).getD (.str "")).toStr

/-- `value.get(key)`, read as `{}` when it is not a mapping. -/
def mapping_of (value : Mapping) (key : String) : Mapping :=
  match assoc.lookup key value with
  | some (.dict entries) => entries
  | _ => []

/-- `sorted(str(key) for key in value)`. -/
def sorted_keys (value : Mapping) : List String := sortedTexts ((assoc.distinct value).map Prod.fst)

mutual

/-- The value at a path and every value inside it, with their paths. -/
def _walk (path : String) : Value → List (String × Value)
  | .dict entries => (path, .dict entries) :: (assoc.distinct (_walkEntries path entries)).flatMap Prod.snd
  | .list items => (path, .list items) :: _walkItems path 0 items
  | value => [(path, value)]

def _walkItems (path : String) (index : Nat) : List Value → List (String × Value)
  | [] => []
  | item :: rest => _walk (path ++ "[" ++ toString index ++ "]") item ++ _walkItems path (index + 1) rest

def _walkEntries (path : String) : List (String × Value) → List (String × List (String × Value))
  | [] => []
  | (key, value) :: rest => (key, _walk (path ++ "." ++ key) value) :: _walkEntries path rest

end

def _workflow_objects (document : Mapping) : List (String × Mapping) :=
  (_walk "$" (.dict document)).filterMap fun (path, value) =>
    match value with
    | .dict entries =>
      if !is_text entries "base_type" "workflow" && !is_text entries "object_type" "definition_workflow" then
        none
      else some (path, entries)
    | _ => none

def _activity_objects (workflow : Mapping) (workflow_path : String) : List (String × Mapping) :=
  match assoc.lookup "actions" workflow with
  | some (.list actions) =>
    (_walk (workflow_path ++ ".actions") (.list actions)).filterMap fun (path, value) =>
      match value with
      | .dict entries =>
        if is_text entries "base_type" "activity" || is_text entries "object_type" "definition_activity" then
          some (path, entries)
        else none
      | _ => none
  | _ => []

/-! ## Labels -/

/-- `isinstance(candidate, str) and candidate.strip()`, stripped. -/
def nonblank (candidate : Option Value) : Option String :=
  match candidate with
  | some (.str text) => if strip text ≠ "" then some (strip text) else none
  | _ => none

def _label (value : Mapping) : String :=
  let properties := mapping_of value "properties"
  ([assoc.lookup "display_name" properties, assoc.lookup "title" value, assoc.lookup "name" value].findSome?
    nonblank).getD ""

/-- `re.sub("[^a-z0-9]+", " ", text)`, within a run of other characters or outside of one. -/
def spaced (inside : Bool) : List Char → List Char
  | [] => []
  | c :: rest =>
    if ('a' ≤ c ∧ c ≤ 'z') ∨ ('0' ≤ c ∧ c ≤ '9') then c :: spaced false rest
    else if inside then spaced true rest
    else ' ' :: spaced true rest

def _normalized (value : String) : String := strip (String.ofList (spaced false (chars (lower value))))

/-! ## The inventory -/

structure VariableInventory where
  object_type : String
  unique_name_prefix : String
  wrapper_keys : List String
  property_keys : List String

structure ActionInventory where
  path : String
  name : String
  type : String
  base_type : String
  object_type : String
  unique_name_prefix : String
  property_keys : List String

structure WorkflowInventory where
  path : String
  name : String
  type : String
  base_type : String
  object_type : String
  unique_name_prefix : String
  top_level_keys : List String
  property_keys : List String
  workflow_variables : List VariableInventory
  action_count : Nat
  actions : List ActionInventory

structure ExportInventory where
  export_sha256 : String
  top_level_keys : List String
  workflow_count : Nat
  workflows : List WorkflowInventory
  contains_property_values : Bool

def _WORKFLOW_PREFIX : String := "definition_workflow_"
def _ACTIVITY_PREFIX : String := "definition_activity_"
def _WORKFLOW_VARIABLE_PREFIX : String := "variable_workflow_"

/-- The start of the unique name, if it is the expected one. -/
def unique_name_start (value : Mapping) (expected : String) : String :=
  if startswith (text_of value "unique_name") expected then expected else ""

def _canonical_hash (document : Mapping) : String := sha256.hexdigest (Value.dict document).canonical_json

def variable_inventory (raw : Value) : Option VariableInventory :=
  match raw with
  | .dict entries => some {
      object_type := text_of entries "object_type"
      unique_name_prefix := unique_name_start entries _WORKFLOW_VARIABLE_PREFIX
      wrapper_keys := sorted_keys entries
      property_keys := sorted_keys (mapping_of entries "properties") }
  | _ => none

def action_inventory (action_path : String) (action : Mapping) : ActionInventory where
  path := action_path
  name := _label action
  type := text_of action "type"
  base_type := text_of action "base_type"
  object_type := text_of action "object_type"
  unique_name_prefix := unique_name_start action _ACTIVITY_PREFIX
  property_keys := sorted_keys (mapping_of action "properties")

def workflow_inventory (workflow_path : String) (workflow : Mapping) : WorkflowInventory :=
  let workflow_variables := match assoc.lookup "variables" workflow with
    | some (.list raw_variables) => raw_variables.filterMap variable_inventory
    | _ => []
  let actions := (_activity_objects workflow workflow_path).map fun (action_path, action) =>
    action_inventory action_path action
  { path := workflow_path
    name := _label workflow
    type := text_of workflow "type"
    base_type := text_of workflow "base_type"
    object_type := text_of workflow "object_type"
    unique_name_prefix := unique_name_start workflow _WORKFLOW_PREFIX
    top_level_keys := sorted_keys workflow
    property_keys := sorted_keys (mapping_of workflow "properties")
    workflow_variables
    action_count := actions.length
    actions }

def inventory_native_export (document : Mapping) : ExportInventory :=
  let workflows := (_workflow_objects document).map fun (workflow_path, workflow) =>
    workflow_inventory workflow_path workflow
  { export_sha256 := _canonical_hash document
    top_level_keys := sorted_keys document
    workflow_count := workflows.length
    workflows
    contains_property_values := false }

/-! ## Findings in a document -/

def _FORBIDDEN_MARKERS : List (String × String) := [
  ("transport.ngrok", "ngrok"),
  ("api.legacy_v2", "/api/v2/"),
  ("transport.tls_verification_disabled", "verify=false")]

def _SECRET_KEYS : List String := [
  "api_key", "apikey", "authorization", "bearer_token", "client_secret", "credential", "password",
  "private_key", "secret", "token"]

def _secret_reference (value : String) : Bool :=
  let stripped := strip value
  stripped = "" || startswith stripped "$" && endswith stripped "$" || startswith stripped "secret://" ||
    startswith stripped "target://"

/-- A search, without regard to case, for the word `bearer`, white space and at least eight
characters of a token. Which characters belong to words comes from outside. -/
def inline_bearer (is_word : Char → Bool) : Regex :=
  let token := oneOf fun c => isAsciiLetter (ignore_case c) || isAsciiDigit c || "._~+-/".toList.contains c
  concat ([regex.Regex.optional (.seq anything (oneOf fun c => !is_word c)), literal_ignoring_case "bearer",
    plus (oneOf isSpace)] ++ List.replicate 8 token ++ [anything])

def activity_issues (action_path : String) (action : Mapping) : List NativeExportIssue :=
  issue_if (!startswith (text_of action "unique_name") _ACTIVITY_PREFIX)
    "native.activity_identifier" (action_path ++ ".unique_name")
    "Activity must retain its tenant-generated definition_activity identifier" ++
  issue_if (is_text action "type" "python3.script")
    "native.python_forbidden" action_path
    "Production workflow exports must use native activities instead of Python"

/-- `str(workflow["properties"].get("description", "")).strip()` of a workflow with properties. -/
def described (workflow : Mapping) : Bool :=
  match assoc.lookup "properties" workflow with
  | some (.dict properties) => strip (text_of properties "description") ≠ ""
  | _ => false

def workflow_issues (workflow_path : String) (workflow : Mapping) : List NativeExportIssue :=
  issue_if (!startswith (text_of workflow "unique_name") _WORKFLOW_PREFIX)
    "native.workflow_identifier" (workflow_path ++ ".unique_name")
    "Workflow must retain its tenant-generated definition_workflow identifier" ++
  issue_if (!is_text workflow "type" "generic.workflow")
    "native.workflow_type" (workflow_path ++ ".type")
    "Expected a tenant-native generic.workflow definition" ++
  issue_if (!described workflow)
    "documentation.workflow_description" (workflow_path ++ ".properties.description")
    "Every exported workflow requires a description" ++
  (_activity_objects workflow workflow_path).flatMap fun (action_path, action) =>
    activity_issues action_path action

/-- A credential that stands in a document itself. -/
def inline_secret (key : String) (child : Value) : Bool :=
  match child with
  | .str text =>
    let key_name := String.ofList ((chars (lower key)).map fun c => if c = '-' then '_' else c)
    _SECRET_KEYS.contains key_name && !_secret_reference text
  | _ => false

def value_issues (is_word : Char → Bool) (path : String) (value : Value) : List NativeExportIssue :=
  match value with
  | .str text =>
    _FORBIDDEN_MARKERS.flatMap (fun (code, marker) =>
      issue_if (contains marker (String.ofList ((chars (lower text)).filter (· ≠ ' ')))) code path
        "Forbidden production marker found in native export") ++
    issue_if (fullmatch (inline_bearer is_word) text) "secret.inline_bearer" path
      "Inline bearer credentials are forbidden"
  | .dict entries => (assoc.distinct entries).flatMap fun (key, child) =>
    issue_if (inline_secret key child) "secret.inline_value" (path ++ "." ++ key)
      "Credential values must stay in Meraki Account Keys or secret references"
  | _ => []

/-! ## The audits -/

structure NativeExportReport where
  native_export_valid : Bool
  production_package_complete : Bool
  export_sha256 : String
  workflow_names : List String
  error_count : Nat
  warning_count : Nat
  issues : List NativeExportIssue
  inventory : ExportInventory

/-- The text that the audit of one export looks for the name of an activity in. -/
def activity_label (action : Mapping) : String :=
  _normalized (_label action ++ " " ++ text_of action "name" ++ " " ++ text_of action "type")

def audit_native_export (is_word : Char → Bool) (document : Mapping)
    (expected_workflow_names required_activity_names : List String) : NativeExportReport :=
  let workflows := _workflow_objects document
  let workflow_names := workflows.map fun (_, workflow) => _label workflow
  let activity_labels := workflows.flatMap fun (workflow_path, workflow) =>
    (_activity_objects workflow workflow_path).map fun (_, action) => activity_label action
  let expected := ((expected_workflow_names.map strip).filter (· ≠ "")).dedup
  let actual := (workflow_names.filter (· ≠ "")).dedup
  let issues :=
    issue_if workflows.isEmpty "native.workflow_missing" "$"
      "Export contains no tenant-native definition_workflow object" ++
    workflows.flatMap (fun (workflow_path, workflow) => workflow_issues workflow_path workflow) ++
    (sortedTexts (expected.filter (!actual.contains ·))).map (fun missing =>
      { code := "package.workflow_missing", path := "$",
        message := "Native export set is missing workflow " ++ reprText missing }) ++
    required_activity_names.flatMap (fun required_name =>
      let marker := _normalized required_name
      issue_if (marker ≠ "" && !activity_labels.any (contains marker)) "package.activity_missing" "$"
        ("Native export set is missing activity " ++ reprText required_name)) ++
    (_walk "$" (.dict document)).flatMap fun (path, value) => value_issues is_word path value
  let deduplicated := dict_of (issues.map fun issue => ((issue.code, issue.path), issue))
  let ordered := sortedBy (fun issue : NativeExportIssue => toLex (issue.path, issue.code)) (deduplicated.map Prod.snd)
  let errors := ordered.filter (·.severity = .error)
  let warnings := ordered.filter (·.severity = .warning)
  { native_export_valid := errors.isEmpty
    production_package_complete := errors.isEmpty && expected.all actual.contains
    export_sha256 := _canonical_hash document
    workflow_names := sortedTexts actual
    error_count := errors.length
    warning_count := warnings.length
    issues := ordered
    inventory := inventory_native_export document }

structure NativeExportSetReport where
  native_export_set_valid : Bool
  production_package_complete : Bool
  document_count : Nat
  workflow_names : List String
  error_count : Nat
  warning_count : Nat
  issues : List NativeExportIssue
  inventories : List ExportInventory

def audit_native_export_set (is_word : Char → Bool) (documents : List Mapping)
    (expected_workflow_names required_activity_names : List String) : NativeExportSetReport :=
  let reports := documents.map fun document => audit_native_export is_word document [] []
  let workflow_names := (reports.flatMap (·.workflow_names)).dedup
  let activity_labels := (reports.flatMap fun report => report.inventory.workflows.flatMap fun workflow =>
    workflow.actions.map fun action => _normalized (action.name ++ " " ++ action.type)).dedup
  let found :=
    reports.flatMap (·.issues) ++
    (sortedSet (expected_workflow_names.filter (!workflow_names.contains ·))).map (fun missing =>
      { code := "package.workflow_missing", path := "$",
        message := "Missing workflow " ++ reprText missing }) ++
    required_activity_names.flatMap fun required_name =>
      issue_if (!activity_labels.any (contains (_normalized required_name))) "package.activity_missing" "$"
        ("Missing activity " ++ reprText required_name)
  let issues := sortedBy
    (fun issue : NativeExportIssue => toLex (issue.path, toLex (issue.code, issue.message)))
    ((dict_of (found.map fun issue => ((issue.code, issue.path, issue.message), issue))).map Prod.snd)
  let error_count := (issues.filter (·.severity = .error)).length
  { native_export_set_valid := error_count = 0
    production_package_complete := error_count = 0
    document_count := documents.length
    workflow_names := sortedTexts workflow_names
    error_count
    warning_count := (issues.filter (·.severity = .warning)).length
    issues
    inventories := reports.map (·.inventory) }

end orchestrator.meraki_native_export
