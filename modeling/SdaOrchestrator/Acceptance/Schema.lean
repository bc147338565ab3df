import SdaOrchestrator.Lib.JsonSchema

/-! `schemas/production-acceptance.schema.json`. -/

open python regex regex.Regex json_schema

namespace orchestrator.acceptance.schema

/-- `item{m,n}`. -/
def repeated (m n : Nat) (item : Regex) : Regex :=
  concat (List.replicate m item ++ List.replicate (n - m) (optional item))

/-- `[^\s]+`. -/
def no_space : Regex := plus (.oneOf fun c => !isSpace c)

/-- `[a-z]`. -/
def isLowerLetter (c : Char) : Bool := 'a' ≤ c ∧ c ≤ 'z'

def lower_alphanumeric (c : Char) : Bool := isLowerLetter c || isAsciiDigit c

def lower_alphanumeric_or (extra : String) (c : Char) : Bool := lower_alphanumeric c || extra.toList.contains c

/-- `[a-z0-9][a-z0-9._-]{2,127}`. -/
def identifier : Regex :=
  .seq (.oneOf lower_alphanumeric) (repeated 2 127 (.oneOf (lower_alphanumeric_or "._-")))

def sha256 : Schema := [
  .type .string,
  .pattern (repeated 64 64 (.oneOf fun c => isAsciiDigit c || ('a' ≤ c ∧ c ≤ 'f')))]

def signoffRole : List String :=
  ["network_design_authority", "automation_owner", "security_owner", "platform_owner", "change_approver"]

/-- `(artifact|evidence|github|meraki|change)://[^\s]+`. -/
def reference : Regex :=
  concat [anyOf (["artifact", "evidence", "github", "meraki", "change"].map literal), literal "://", no_space]

def enum_of (texts : List String) : Keyword := .enum (texts.map .str)

def evidence : Schema := [
  .type .object,
  .required ["id", "kind", "ref", "sha256", "captured_at", "result"],
  .properties [
    ("id", [.type .string, .pattern identifier]),
    ("kind", [enum_of ["test_report", "meraki_run", "native_export_audit", "device_precheck",
      "hardware_test", "api_test", "rollback_test", "scale_test", "security_review",
      "operational_review", "change_record"]]),
    ("ref", [.type .string, .pattern reference]),
    ("sha256", sha256),
    ("captured_at", [.type .string, .format "date-time"]),
    ("result", [enum_of ["passed", "failed", "pending"]])] false]

def gate : Schema := [
  .type .object,
  .required ["id", "category", "required", "status", "owner_roles", "dependencies", "evidence"],
  .properties [
    ("id", [.type .string, .pattern
      (.seq (.oneOf isLowerLetter) (repeated 2 127 (.oneOf (lower_alphanumeric_or "_.-"))))]),
    ("category", [enum_of ["software", "meraki", "ingress", "runtime", "iosxe", "fusion", "multicast",
      "policy", "ise", "telemetry", "reconciliation", "scale", "security", "operations"]]),
    ("required", [.type .boolean]),
    ("status", [enum_of ["pending", "passed", "failed", "not_applicable"]]),
    ("owner_roles", [.type .array, .minItems 1, .uniqueItems, .items [enum_of signoffRole]]),
    ("dependencies", [.type .array, .uniqueItems, .items [.type .string]]),
    ("evidence", [.type .array, .items evidence]),
    ("rationale", [.type .string, .minLength 1, .maxLength 1024])] false,
  .allOf [[.if_then
    [.properties [("status", [.const (.str "not_applicable")])] true, .required ["status"]]
    [.properties [("required", [.const (.bool false)])] true, .required ["rationale"]]]]]

def signoff : Schema := [
  .type .object,
  .required ["role", "status"],
  .properties [
    ("role", [enum_of signoffRole]),
    ("status", [enum_of ["pending", "approved", "rejected"]]),
    ("principal_ref", [.type .string, .pattern (.seq (literal "principal://") no_space)]),
    ("decision_at", [.type .string, .format "date-time"]),
    ("evidence_ref", [.type .string, .pattern reference]),
    ("evidence_sha256", sha256)] false]

def scope : Schema := [
  .type .object,
  .required ["environment", "fabric_id", "release_candidate"],
  .properties [
    ("environment", [enum_of ["lab", "pilot", "production"]]),
    ("fabric_id", [.type .string, .minLength 1, .maxLength 128]),
    ("release_candidate", [.type .string, .minLength 1, .maxLength 128]),
    ("plan_hash", sha256),
    ("artifact_hash", sha256),
    ("intent_hash", sha256)] false]

def controls : Schema := [
  .type .object,
  .required ["apply_authorization_requested", "apply_workflow_present", "device_writes_permitted"],
  .properties [
    ("apply_authorization_requested", [.type .boolean]),
    ("apply_workflow_present", [.type .boolean]),
    ("device_writes_permitted", [.type .boolean])] false]

def registry : Schema := [
  .type .object,
  .required ["schema_version", "registry_id", "scope", "controls", "required_signoff_roles", "gates",
    "signoffs"],
  .properties [
    ("schema_version", [.const (.str "1.0")]),
    ("registry_id", [.type .string, .pattern identifier]),
    ("scope", scope),
    ("controls", controls),
    ("required_signoff_roles",
      [.type .array, .minItems 1, .uniqueItems, .items [enum_of signoffRole]]),
    ("gates", [.type .array, .minItems 1, .items gate]),
    ("signoffs", [.type .array, .items signoff])] false]

end orchestrator.acceptance.schema
