import SdaOrchestrator.Api.UnquotedScalars
import SdaOrchestrator.Lib.Equality

open python regex

namespace orchestrator.poc_intake

def PocIntakeError (message : String) : Raised := ⟨"PocIntakeError", message⟩

def SJC23_POC_POLICY_VERSION : String := "1.0-sjc23-poc"

/-! ## The form -/

/-- `_FABRIC_NAME.fullmatch`. -/
def _FABRIC_NAME : List Char → Bool := api.between 3 128 (alphanumericOr "_. -")

/-- `_CHANGE_REFERENCE.fullmatch`. -/
def _CHANGE_REFERENCE : List Char → Bool := api.between 3 128 (alphanumericOr "_.:/-")

/-- `_INTEGER.fullmatch`. -/
def _INTEGER : List Char → Bool := api.between 1 3 isAsciiDigit

def _ALLOWED_FIELDS : List String := ["fabric_name", "change_reference", "corporate_users", "guest_users",
  "corporate_attachment", "guest_attachment", "dhcp_lease_minutes", "dns_profile"]

def _ATTACHMENTS : List (String × String) := [
  ("corporate_laptop", "corp-laptop"),
  ("guest_laptop", "guest-laptop")]

def _DNS_PROFILES : List (String × List String) := [("public_google", ["8.8.8.8", "8.8.4.4"])]

def _USER_CAPACITY_OPTIONS : List String := ["1", "50", "100", "150", "200"]
def _LEASE_MINUTE_OPTIONS : List String := ["30", "60", "120", "240", "480", "1440"]

/-- The labels of the native prompt, and the fields they stand for. -/
def _NATIVE_PROMPT_FIELD_MAP : List (String × String) := [
  ("Fabric name", "fabric_name"),
  ("Change reference", "change_reference"),
  ("Corporate users", "corporate_users"),
  ("Guest users", "guest_users"),
  ("Corporate attachment", "corporate_attachment"),
  ("Guest attachment", "guest_attachment"),
  ("DHCP lease minutes", "dhcp_lease_minutes"),
  ("DNS profile", "dns_profile")]

def _NATIVE_PROMPT_ARRAY_FIELDS : List String := ["Corporate users", "Guest users", "Corporate attachment",
  "Guest attachment", "DHCP lease minutes", "DNS profile"]

def _require_sjc23_poc_policy (policy : Value) : Py Unit := do
  let policy_version ← policy.get "policy_version"
  raise_if (!policy_version.any (·.equals (.str SJC23_POC_POLICY_VERSION)))
    (PocIntakeError "SJC23 guided POC intake requires the reviewed SJC23 POC guardrail policy")

def texts (items : List String) : Value := .list (items.map .str)

/-- The choices of the native prompt. -/
def sjc23_poc_form_options (policy : Value) : Py Value := do
  _require_sjc23_poc_policy policy
  return .dict [
    ("succeeded", .bool true),
    ("status", .str "poc_options_ready"),
    ("policy_version", .str SJC23_POC_POLICY_VERSION),
    ("options", .dict [
      ("corporate_users", texts _USER_CAPACITY_OPTIONS),
      ("guest_users", texts _USER_CAPACITY_OPTIONS),
      ("corporate_attachment", texts ["corporate_laptop"]),
      ("guest_attachment", texts ["guest_laptop"]),
      ("dhcp_lease_minutes", texts _LEASE_MINUTE_OPTIONS),
      ("dns_profile", texts (_DNS_PROFILES.map Prod.fst))]),
    ("contains_secret_values", .bool false),
    ("contains_raw_configuration", .bool false)]

/-- A text of a field that matches its pattern. -/
def _required_text (payload : List (String × Value)) (field : String) (pattern : List Char → Bool) :
    Py {text : String // pattern (chars text) = true} :=
  match assoc.lookup field payload with
  | some (.str value) =>
    if hmatch : pattern (chars (strip value)) = true then .ok ⟨strip value, hmatch⟩
    else .error (PocIntakeError (field ++ " is invalid"))
  | _ => .error (PocIntakeError (field ++ " is invalid"))

/-- The text that a field is read as; a truth value is none. -/
def integer_text : Option Value → String
  | some (.bool _) => ""
  | value => strip (Value.optStr value)

/-- An integer of a field within its bounds. -/
def _bounded_integer (payload : List (String × Value)) (field : String) (minimum maximum : Int) :
    Py {number : Int // minimum ≤ number ∧ number ≤ maximum} := do
  let text := integer_text (assoc.lookup field payload)
  raise_if (!_INTEGER (chars text)) (PocIntakeError (field ++ " must be an integer"))
  let number ← (Value.str text).toInt
  if hbounds : minimum ≤ number ∧ number ≤ maximum then return ⟨number, hbounds⟩
  else .error (PocIntakeError s!"{field} must be between {minimum} and {maximum}")

/-- The value under a label of the native prompt: a drop-down list holds exactly one. -/
def native_value (native_label : String) (value : Value) : Py Value :=
  if native_label ∈ _NATIVE_PROMPT_ARRAY_FIELDS then
    match value with
    | .list [selected] => .ok selected
    | .list _ => .error (PocIntakeError (native_label ++ " must contain exactly one selected value"))
    | .str text => .ok (.str text)
    | _ => .error (PocIntakeError (native_label ++ " must be a reviewed text value or one selected value"))
  else
    match value with
    | .list _ => .error (PocIntakeError (native_label ++ " must be a single text value"))
    | value => .ok value

/-- The field of a label of the native prompt, if the label is there. -/
def canonical_field (payload : List (String × Value)) (label : String × String) : Py (Option (String × Value)) := do
  match assoc.lookup label.1 payload with
  | some value => return some (label.2, ← native_value label.1 value)
  | none => return none

/-- A text for the fields that are not in a set. -/
def unsupported (unexpected : List String) : Raised :=
  PocIntakeError ("guided POC input contains unsupported fields: " ++ join ", " unexpected)

def _canonical_poc_form_values (payload : List (String × Value)) : Py (List (String × Value)) := do
  let supplied_keys := payload.map Prod.fst
  let native_keys := _NATIVE_PROMPT_FIELD_MAP.map Prod.fst
  let uses_native_keys := supplied_keys.any (· ∈ native_keys)
  let uses_canonical_keys := supplied_keys.any (· ∈ _ALLOWED_FIELDS)
  raise_if (uses_native_keys && uses_canonical_keys)
    (PocIntakeError "guided POC input cannot mix native prompt labels and canonical fields")
  if uses_native_keys then
    let unexpected := sortedSet (supplied_keys.filter (· ∉ native_keys))
    raise_if (unexpected ≠ []) (unsupported unexpected)
    return (← _NATIVE_PROMPT_FIELD_MAP.mapM (canonical_field payload)).filterMap id
  else return payload

/-! ## The demand -/

/-- What a form asks for, within the bounds of the review. -/
structure Demand where
  fabric_name : {text : String // _FABRIC_NAME (chars text) = true}
  change_reference : {text : String // _CHANGE_REFERENCE (chars text) = true}
  corporate_users : {number : Int // 1 ≤ number ∧ number ≤ 200}
  guest_users : {number : Int // 1 ≤ number ∧ number ≤ 200}
  lease_minutes : {number : Int // 30 ≤ number ∧ number ≤ 1440}
  dns_servers : {servers : List String // servers ∈ _DNS_PROFILES.map Prod.snd}

/-- `payload.get(field) == text`. -/
def selects (payload : List (String × Value)) (field text : String) : Bool :=
  (assoc.lookup field payload).any (·.equals (.str text))

/-- The servers of the selected profile. A list or a dictionary has no hash. -/
def selected_servers (dns_profile : Option Value) :
    Py {servers : List String // servers ∈ _DNS_PROFILES.map Prod.snd} :=
  match dns_profile with
  | some (.str name) =>
    match hlookup : assoc.lookup name _DNS_PROFILES with
    | some servers => .ok ⟨servers, List.mem_map_of_mem (assoc.lookup_mem hlookup)⟩
    | none => .error (PocIntakeError "dns_profile must select the approved POC resolver profile")
  | some (.list _) => .error (TypeError "unhashable type: 'list'")
  | some (.dict _) => .error (TypeError "unhashable type: 'dict'")
  | _ => .error (PocIntakeError "dns_profile must select the approved POC resolver profile")

/-- The demand of a form, up to the profile. -/
def read_demand (payload : Value) : Py Demand := do
  let .dict entries := payload | .error (PocIntakeError "guided POC input must be an object")
  let payload ← _canonical_poc_form_values (assoc.distinct entries)
  let unexpected := sortedSet ((payload.map Prod.fst).filter (· ∉ _ALLOWED_FIELDS))
  raise_if (unexpected ≠ []) (unsupported unexpected)
  let fabric_name ← _required_text payload "fabric_name" _FABRIC_NAME
  let change_reference ← _required_text payload "change_reference" _CHANGE_REFERENCE
  let corporate_users ← _bounded_integer payload "corporate_users" 1 200
  let guest_users ← _bounded_integer payload "guest_users" 1 200
  let lease_minutes ← _bounded_integer payload "dhcp_lease_minutes" 30 1440
  raise_if (!selects payload "corporate_attachment" "corporate_laptop")
    (PocIntakeError "corporate_attachment must select the approved Corporate laptop port")
  raise_if (!selects payload "guest_attachment" "guest_laptop")
    (PocIntakeError "guest_attachment must select the approved Guest laptop port")
  let dns_servers ← selected_servers (assoc.lookup "dns_profile" payload)
  return { fabric_name, change_reference, corporate_users, guest_users, lease_minutes, dns_servers }

/-! ## The requirements -/

/-- `document[first]...[last] = new`. -/
def assigned (new : Value) : List String → Value → Py Value
  | [], _ => .ok new
  | [key], .dict entries => .ok (.dict (assoc.set key new entries))
  | key :: rest, .dict entries => do
    let inner ← (Value.dict entries).item key
    return .dict (assoc.set key (← assigned new rest inner) entries)
  | _, _ => .error (TypeError "object does not support item assignment")

/-- `virtual_network["sites"][0]`, changed in its place. -/
def first_site_changed (change : Value → Py Value) (virtual_network : Value) : Py Value := do
  match ← virtual_network.item "sites" with
  | .list (site :: rest) => assigned (.list ((← change site) :: rest)) ["sites"] virtual_network
  | .list [] => .error (IndexError "list index out of range")
  | _ => .error (TypeError "sites is no list")

/-- The users that a virtual network is for. -/
def Demand.users (demand : Demand) (virtual_network : Value) : Py Int := do
  match ← virtual_network.item "name" with
  | .str "Corporate" => return demand.corporate_users.1
  | .str "Guest" => return demand.guest_users.1
  | name => .error (KeyError name.toStr)

/-- The demand at the first site of a virtual network. -/
def Demand.at_site (demand : Demand) (virtual_network : Value) : Py Value := do
  let users ← demand.users virtual_network
  let virtual_network ← first_site_changed (assigned (.int users) ["users"]) virtual_network
  first_site_changed (fun site => do
    let site ← assigned (.int demand.lease_minutes.1) ["dhcp", "lease_minutes"] site
    assigned (texts demand.dns_servers.1) ["dhcp", "dns_servers"] site) virtual_network

/-- The reviewed profile with the demand of a form. -/
def Demand.applied (demand : Demand) (profile : Value) : Py Value := do
  let requirements ← assigned (.str demand.fabric_name.1) ["metadata", "name"] profile
  let requirements ← assigned (.str demand.change_reference.1) ["metadata", "change_reference"] requirements
  let requirements ← assigned (.str demand.fabric_name.1) ["fabric", "name"] requirements
  let virtual_networks ← (← (← requirements.item "virtual_networks").elements).mapM demand.at_site
  let requirements ← assigned (.list virtual_networks) ["virtual_networks"] requirements
  let attachments ← (← requirements.item "endpoint_attachments").elements
  let ids ← attachments.mapM (·.item "id")
  raise_if (!(ids.all fun id => _ATTACHMENTS.any fun attachment => id.equals (.str attachment.2)) ||
      !(_ATTACHMENTS.all fun attachment => ids.any (·.equals (.str attachment.2))))
    (PocIntakeError "SJC23 POC attachment profile is invalid")
  return requirements

/-- The requirements of a form on the reviewed profile. -/
def sjc23_poc_requirements (profile payload policy : Value) : Py Value := do
  _require_sjc23_poc_policy policy
  let demand ← read_demand payload
  raise_if (!profile.isMapping) (PocIntakeError "SJC23 POC profile is unavailable")
  demand.applied profile

end orchestrator.poc_intake
