import SdaOrchestrator.Lib.Regex
import SdaOrchestrator.Store.Platform

open python regex regex.Regex orchestrator.store

namespace orchestrator.reconciliation

def ReconciliationError (message : String) : Raised := ⟨"ReconciliationError", message⟩

def OWNED_STATE_SCHEMA_VERSION : String := "1.0"
def BASELINE_SCHEMA_VERSION : String := "1.0"

/-- `SHA256_HEX.fullmatch(text)`: 64 hex digits in either case. -/
def is_sha256_hex (text : String) : Bool :=
  len text = 64 ∧ (chars text).all fun c =>
    isAsciiDigit c || ('a' ≤ c ∧ c ≤ 'f') || ('A' ≤ c ∧ c ≤ 'F')

/-- `_commands_hash(commands)`. -/
def _commands_hash (platform : Platform) (commands : List String) : String :=
  platform.sha256_json (.list (commands.map .str))

/-! ## Removal commands -/

private def decimal : Regex := plus (.oneOf fun c => (digitValue? c).isSome)

/-- `[A-Za-z0-9_.:-]+`. -/
private def token : Regex := plus (.oneOf (alphanumericOr "_.:-"))

/-- `[0-9.]+`. -/
private def address : Regex := plus (.oneOf fun c => isAsciiDigit c || c == '.')

def _SAFE_REMOVE_PATTERNS : List Regex := [
  concat [
    optional (literal "no "), literal "interface ",
    anyOf [
      concat [literal "Loopback", decimal],
      concat [literal "LISP0.", decimal],
      concat [literal "Vlan", decimal],
      concat [.oneOf isAsciiLetter, .star (.oneOf (alphanumericOr "./-"))]]],
  concat [
    literal " no ",
    anyOf [
      literal "ip pim passive", literal "ip igmp version 3", literal "ip igmp explicit-tracking",
      literal "ip pim sparse-mode"]],
  concat [literal "no ip multicast-routing vrf ", token],
  concat [literal "no ip access-list standard ", token],
  concat [
    literal "no ip pim vrf ", token, literal " ",
    anyOf [
      concat [literal "ssm range ", token],
      concat [literal "register-source Loopback", decimal],
      concat [literal "rp-address ", address, literal " ", token]]],
  concat [
    literal "no ip msdp ",
    anyOf [
      concat [literal "peer ", address, literal " connect-source Loopback0"],
      literal "cache-sa-state", literal "originator-id Loopback0"]],
  literal "router lisp",
  concat [literal " instance-id ", decimal],
  concat [literal "  service ", anyOf [literal "ipv4", literal "ethernet"]],
  concat [
    literal "   no ",
    anyOf [
      concat [
        literal "database-mapping ", address, literal "/32 locator-set ",
        plus (.oneOf (alphanumericOr "_.:/-"))],
      concat [literal "broadcast-underlay ", address]]],
  concat [literal "   exit-service-", anyOf [literal "ipv4", literal "ethernet"]],
  literal "  exit-instance-id",
  literal " exit-router-lisp"]

def _OWNED_RESOURCE_KINDS : List String := [
  "multicast_rp_loopback", "msdp_peer", "msdp_global", "multicast_routing", "overlay_acl",
  "overlay_policy", "segment_loopback", "lisp_interface", "lisp_mapping", "edge_svi",
  "handoff_pim", "l2_bum"]

def _DEVICE_DESCRIPTOR_FIELDS : List String := [
  "id", "hostname", "site", "platform", "software_version", "management_ip",
  "dashboard_management_ip", "loopback0_ip", "roles", "credential_ref", "bgp_asn"]

def _REQUIRED_DEVICE_DESCRIPTOR_FIELDS : List String := [
  "id", "hostname", "platform", "software_version", "management_ip", "roles", "credential_ref"]

/-- `_SAFE_SHOW_COMMAND.fullmatch(text)`. -/
def is_safe_show_command (text : String) : Bool :=
  text ≠ "" ∧ (chars text).all (alphanumericOr " ._:/|^$-")

/-- `re.fullmatch(r"[A-Za-z0-9_.:-]+", text)`. -/
def is_resource_key (text : String) : Bool :=
  text ≠ "" ∧ (chars text).all (alphanumericOr "_.:-")

/-- `"\n" in text or "\r" in text`. -/
def has_line_break (text : String) : Bool :=
  (chars text).contains '\n' || (chars text).contains '\r'

def _validate_remove_commands (commands : Option Value) : Py (List String) := do
  match commands with
  | some (.list (first :: rest)) =>
    let normalized := (first :: rest).map Value.toStr
    normalized.forM fun command => do
      raise_if (has_line_break command || contains "<secret:" command)
        (ReconciliationError "Unsafe owned-state removal command")
      raise_if (!_SAFE_REMOVE_PATTERNS.any (·.fullmatch command))
        (ReconciliationError ("Unsupported owned-state removal command: " ++ command))
    raise_if
      (!normalized.any fun line =>
        startswith (String.ofList ((chars line).dropWhile isSpace)) "no ")
      (ReconciliationError "Removal block contains no negation")
    return normalized
  | _ => .error (ReconciliationError "Owned resource removal commands are required")

/-! ## The owned-state manifest -/

/-- A text that is not empty and stays on one line. -/
private def is_single_line : Value → Bool
  | .str text => text ≠ "" ∧ !has_line_break text
  | _ => false

/-- The descriptor checks of `validate_owned_state` for one device. -/
def _validate_descriptor (device_id : String) (descriptor : Option Value) : Py Unit := do
  match descriptor with
  | some (.dict fields) =>
    raise_if (Value.optStr (assoc.lookup "id" fields) ≠ device_id)
      (ReconciliationError "Owned-state device descriptor is invalid")
    let names := fields.map Prod.fst
    raise_if (names.any fun name => name ∉ _DEVICE_DESCRIPTOR_FIELDS)
      (ReconciliationError "Owned-state device descriptor has unsupported fields")
    let missing := _REQUIRED_DEVICE_DESCRIPTOR_FIELDS.filter fun name => name ∉ names
    raise_if (missing ≠ [])
      (ReconciliationError ("Owned-state device descriptor is missing required fields: " ++
        join ", " (sortedTexts missing)))
    ["id", "hostname", "platform", "software_version", "management_ip"].forM fun field => do
      let value ← (Value.dict fields).item field
      raise_if (!is_single_line value)
        (ReconciliationError ("Owned-state device descriptor field " ++ field ++ " is invalid"))
    match ← (Value.dict fields).item "roles" with
    | .list (first :: rest) =>
      raise_if ((first :: rest).any fun role => match role with | .str name => name = "" | _ => true)
        (ReconciliationError "Owned-state device roles are invalid")
    | _ => .error (ReconciliationError "Owned-state device roles are invalid")
    let credential_ref := ((assoc.lookup "credential_ref" fields).getD (.str "")).toStr
    raise_if (!startswith credential_ref "secret://")
      (ReconciliationError "Owned-state device credential must be a secret reference")
  | _ => .error (ReconciliationError "Owned-state device descriptor is invalid")

/-- A configuration line of an owned resource. -/
def _validate_line (line : Value) : Py Unit := do
  match line with
  | .str text =>
    raise_if (text = "" || has_line_break text)
      (ReconciliationError "Owned-state configuration line is invalid")
    raise_if (contains "<secret:" text)
      (ReconciliationError "Owned-state configuration line contains a secret")
  | _ => .error (ReconciliationError "Owned-state configuration line is invalid")

/-- A list that is not empty. -/
private def required_lines (lines : Option Value) (message : String) : Py (List Value) :=
  match lines with
  | some (.list (first :: rest)) => .ok (first :: rest)
  | _ => .error (ReconciliationError message)

theorem lines_of_required {lines : Option Value} {message : String} {items : List Value}
    (hok : required_lines lines message = .ok items) : lines = some (.list items) := by
  unfold required_lines at hok
  split at hok
  · rw [Except.ok.inj hok]
  · cases hok

/-- The checks of `validate_owned_state` for one resource; returns its key. -/
def _validate_resource (platform : Platform) (item : Value) : Py String := do
  match item with
  | .dict fields =>
    let text (field : String) : String := ((assoc.lookup field fields).getD (.str "")).toStr
    let key := text "key"
    raise_if (key = "" || !is_resource_key key)
      (ReconciliationError "Owned-state resource key is invalid")
    raise_if (text "kind" ∉ _OWNED_RESOURCE_KINDS)
      (ReconciliationError "Owned-state resource kind is unsupported")
    let commands ← _validate_remove_commands (assoc.lookup "remove_commands" fields)
    raise_if (_commands_hash platform commands ≠ text "remove_command_hash")
      (ReconciliationError "Owned-state removal command hash is invalid")
    let state : Value := .dict [
      ("configured_lines", (assoc.lookup "configured_lines" fields).getD .null),
      ("remove_commands", .list (commands.map .str)),
      ("gate_command", (assoc.lookup "gate_command" fields).getD .null),
      ("forbidden_lines", (assoc.lookup "forbidden_lines" fields).getD .null)]
    raise_if (platform.sha256_json state ≠ text "state_hash")
      (ReconciliationError "Owned-state resource hash is invalid")
    let configured_lines ← required_lines (assoc.lookup "configured_lines" fields)
      "Owned-state configured lines are required"
    let forbidden_lines ← required_lines (assoc.lookup "forbidden_lines" fields)
      "Owned-state absence gate is required"
    (configured_lines ++ forbidden_lines).forM _validate_line
    let gate_command := text "gate_command"
    raise_if
      (!startswith gate_command "show running-config " || !is_safe_show_command gate_command)
      (ReconciliationError "Owned-state gate command is invalid")
    return key
  | _ => .error (ReconciliationError "Owned-state resource must be an object")

/-- The checks of `validate_owned_state` for one device. -/
def _validate_device (platform : Platform) (device_id : String) (device : Value) : Py Unit := do
  match device with
  | .dict fields =>
    match assoc.lookup "resources" fields with
    | some (.list resources) =>
      _validate_descriptor device_id (assoc.lookup "device" fields)
      let keys ← resources.mapM (_validate_resource platform)
      raise_if (¬ keys.Nodup)
        (ReconciliationError ("Duplicate owned-state resource key on " ++ device_id))
    | _ => .error (ReconciliationError "Owned-state device resources are invalid")
  | _ => .error (ReconciliationError "Owned-state device resources are invalid")

/-- `dict(document)` without one key. -/
def without (key : String) : Value → Value
  | .dict entries => .dict (assoc.erase key entries)
  | other => other

def validate_owned_state (platform : Platform) (manifest : Value) (fabric_id : Option String) :
    Py Unit := do
  raise_if
    (Value.optStr (← manifest.get "owned_state_schema_version") ≠ OWNED_STATE_SCHEMA_VERSION)
    (ReconciliationError "Unsupported owned-state manifest version")
  raise_if (match ← manifest.get "scope" with | some (.str scope) => scope ≠ "multicast" | _ => true)
    (ReconciliationError "Owned-state manifest scope must be multicast")
  let manifest_fabric := Value.optStr (← manifest.get "fabric_id")
  raise_if (match fabric_id with | some expected => manifest_fabric ≠ expected | none => false)
    (ReconciliationError "Owned-state manifest belongs to another fabric")
  let supplied_hash := (← manifest.getD "manifest_hash" (.str "")).toStr
  let body := without "manifest_hash" manifest
  raise_if (!is_sha256_hex supplied_hash || platform.sha256_json body ≠ supplied_hash)
    (ReconciliationError "Owned-state manifest hash is invalid")
  match ← manifest.get "devices" with
  | some (.dict devices) =>
    (assoc.distinct devices).forM fun entry => _validate_device platform entry.1 entry.2
  | _ => .error (ReconciliationError "Owned-state devices must be an object")

end orchestrator.reconciliation
