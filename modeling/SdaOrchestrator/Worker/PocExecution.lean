import SdaOrchestrator.Worker.Apply

open python orchestrator.store

namespace orchestrator.poc_execution

def PocExecutionError (message : String) : Raised := ⟨"PocExecutionError", message⟩

def _POLICY_VERSION : String := "1.0-sjc23-poc"
def _CHANGE_REFERENCE : String := "SJC23-POC-001"
def _FABRIC_ID : String := "sjc23-poc-fabric"
def _REQUIRED_BLOCKER : String := "poc.local_dhcp_and_attachment_hardware_acceptance_pending"

/-- A device of the approved scope: its id, platform, roles and phases. -/
structure ScopedDevice where
  device_id : String
  platform : String
  roles : List String
  phases : List String

def _DEVICE_SCOPE : List ScopedDevice := [
  ⟨"border-cp-01", "C9500-48Y4C", ["border", "control_plane"],
    ["underlay", "lisp_control_plane", "overlay", "border_handoff"]⟩,
  ⟨"edge-01", "C9300-24P", ["fabric_edge"], ["underlay", "lisp_edges", "overlay"]⟩]

def _require (condition : Bool) (message : String) : Py Unit :=
  raise_if (!condition) (PocExecutionError message)

def _mapping (value : Option Value) (label : String) : Py Value :=
  match value with
  | some (.dict entries) => .ok (.dict entries)
  | _ => .error (PocExecutionError (label ++ " must be an object"))

def _list (value : Option Value) (label : String) : Py (List Value) :=
  match value with
  | some (.list items) => .ok items
  | _ => .error (PocExecutionError (label ++ " must be a list"))

/-- `str(value.get(key, ""))`. -/
def text (value : Value) (key : String) : Py String := do
  return (← value.getD key (.str "")).toStr

/-- `int(value.get(key, 0))`. -/
def number (value : Value) (key : String) : Py Int := do
  (← value.getD key (.int 0)).toInt

/-- `list(value.get(key, [])) == texts`. -/
def lists_texts (value : Value) (key : String) (texts : List String) : Py Bool := do
  let items ← (← value.getD key (.list [])).elements
  return items.length = texts.length ∧ (items.zip texts).all fun pair => worker.is_text pair.1 pair.2

/-- `value is False`. -/
def is_false : Option Value → Bool
  | some (.bool false) => true
  | _ => false

/-- `set(names) == set(expected)`. -/
def same_names (names expected : List String) : Bool :=
  names.all (· ∈ expected) ∧ expected.all (· ∈ names)

def _index (items : List Value) (key label : String) : Py (List (String × Value)) :=
  items.foldlM (fun indexed item => do
    let mapping ← _mapping (some item) label
    let item_id ← text mapping key
    _require (item_id ≠ "") (label ++ " item is missing " ++ key)
    _require ((assoc.lookup item_id indexed).isNone)
      (label ++ " contains duplicate " ++ key ++ " " ++ item_id)
    return assoc.set item_id mapping indexed) []

/-- The summary of a phase: its blocks by number, commands and hash. -/
def _phase_summary (phase : Value) : Py Value := do
  let phase_mapping ← _mapping (some phase) "artifact phase"
  let blocks ← _list (← phase_mapping.get "blocks") "artifact blocks"
  let summaries ← blocks.mapM fun block => do
    let block_mapping ← _mapping (some block) "artifact block"
    let block_hash ← text block_mapping "command_hash"
    _require (len block_hash = 64) "artifact block command hash is invalid"
    let commands ← _list (← block_mapping.get "commands") "artifact block commands"
    return (block_hash, commands.length)
  return .dict [
    ("phase_id", .str (← phase_mapping.item "phase_id").toStr),
    ("command_block_count", .int blocks.length),
    ("command_count", .int (summaries.map Prod.snd).sum),
    ("command_block_hashes", .list (summaries.map fun summary => .str summary.1))]

def _command_summary (artifact_device : Value) (expected : ScopedDevice) :
    Py (List (String × Value)) := do
  let phases ← _list (← artifact_device.get "phases") "artifact device phases"
  let phase_ids ← phases.mapM fun phase => do
    text (← _mapping (some phase) "artifact phase") "phase_id"
  _require (phase_ids = expected.phases)
    ("artifact phase sequence is outside the SJC23 POC scope for " ++ expected.device_id)
  let summaries ← phases.mapM _phase_summary
  return [("device_id", .str expected.device_id), ("phases", .list summaries)]

/-- The value stored under a key of an index whose keys are known. -/
def indexed (entries : List (String × Value)) (key : String) : Py Value :=
  match assoc.lookup key entries with
  | some found => .ok found
  | none => .error (KeyError key)

/-- An endpoint of the underlay link, as texts. -/
def _endpoint_summary (endpoint : Value) : Py (List (String × String)) := do
  let mapping ← _mapping (some endpoint) "underlay endpoint"
  return [("device_id", ← text mapping "device_id"), ("interface", ← text mapping "interface"),
    ("ip", ← text mapping "ip")]

def _expected_endpoints : List (List (String × String)) := [
  [("device_id", "border-cp-01"), ("interface", "TwentyFiveGigE1/0/2"), ("ip", "10.255.0.0")],
  [("device_id", "edge-01"), ("interface", "GigabitEthernet1/0/2"), ("ip", "10.255.0.1")]]

def texts_value (entries : List (String × String)) : Value :=
  .dict (entries.map fun entry => (entry.1, .str entry.2))

/-- An endpoint pool of the approved scope. -/
structure ScopedPool where
  pool_id : String
  virtual_network : String
  pfx : String
  vlan_id : Int
  gateway : String

def _expected_pools : List ScopedPool := [
  ⟨"sjc23-corporate", "Corporate", "10.30.100.0/24", 100, "10.30.100.1"⟩,
  ⟨"sjc23-guest", "Guest", "10.30.200.0/24", 200, "10.30.200.1"⟩]

/-- The checks and the summary of one endpoint pool. -/
def _pool_summary (vn_map pools : List (String × Value)) (expected : ScopedPool) : Py Value := do
  let pool ← indexed pools expected.pool_id
  _require ((← text pool "virtual_network") = expected.virtual_network)
    "endpoint pool virtual network is invalid"
  _require ((← text pool "prefix") = expected.pfx) "endpoint pool prefix is invalid"
  _require ((← number pool "vlan_id") = expected.vlan_id) "endpoint pool VLAN is invalid"
  _require ((← text pool "gateway") = expected.gateway) "endpoint pool gateway is invalid"
  let dhcp ← _mapping (← pool.get "dhcp") "endpoint pool dhcp"
  _require ((← text dhcp "mode") = "local_border") "SJC23 POC requires local-border DHCP"
  _require ((← text dhcp "server_device_id") = "border-cp-01") "SJC23 POC DHCP server is invalid"
  let l2_vni ← number pool "l2_instance_id"
  _require (0 < l2_vni) ("endpoint pool l2_instance_id is required for " ++ expected.pool_id)
  let virtual_network := (assoc.lookup expected.virtual_network vn_map).getD (.dict [])
  let l3_vni ← number virtual_network "l3_instance_id"
  _require (0 < l3_vni)
    ("virtual network l3_instance_id is required for " ++ expected.virtual_network)
  return .dict [
    ("virtual_network", .str expected.virtual_network),
    ("vrf", .str (if expected.virtual_network = "Corporate" then "CORP_VN" else "GUEST_VN")),
    ("vlan_id", .int expected.vlan_id),
    ("l2_vni", .int l2_vni),
    ("l3_vni", .int l3_vni),
    ("endpoint_prefix", .str expected.pfx),
    ("gateway", .str expected.gateway),
    ("dhcp_mode", .str "local_border"),
    ("dhcp_server_device_id", .str "border-cp-01"),
    ("dhcp_lease_minutes", .int (← (← dhcp.item "lease_minutes").toInt)),
    ("dns_servers", .list ((sortedTexts ((← (← dhcp.getD "dns_servers" (.list [])).elements).map
      Value.toStr)).map .str))]

/-- An endpoint attachment of the approved scope. -/
structure ScopedAttachment where
  attachment_id : String
  interface : String
  virtual_network : String
  vlan_id : Int

def _expected_attachments : List ScopedAttachment := [
  ⟨"corp-laptop", "GigabitEthernet1/0/10", "Corporate", 100⟩,
  ⟨"guest-laptop", "GigabitEthernet1/0/11", "Guest", 200⟩]

/-- The checks and the summary of one endpoint attachment. -/
def _attachment_summary (attachments : List (String × Value)) (expected : ScopedAttachment) :
    Py Value := do
  let attachment ← indexed attachments expected.attachment_id
  _require ((← text attachment "device_id") = "edge-01") "attachment device is invalid"
  _require ((← text attachment "interface") = expected.interface) "attachment interface is invalid"
  _require ((← text attachment "virtual_network") = expected.virtual_network)
    "attachment virtual network is invalid"
  _require ((← number attachment "vlan_id") = expected.vlan_id) "attachment VLAN is invalid"
  return .dict [
    ("attachment_id", .str expected.attachment_id),
    ("device_id", .str "edge-01"),
    ("interface", .str expected.interface),
    ("virtual_network", .str expected.virtual_network),
    ("vlan_id", .int expected.vlan_id)]

/-- `handoff == {"enabled": False, "mode": "isolated"}`. -/
def is_isolated (handoff : Value) : Bool :=
  match handoff with
  | .dict entries =>
    same_names ((assoc.distinct entries).map Prod.fst) ["enabled", "mode"] &&
      (match assoc.lookup "enabled" entries with
        | some (.bool false) => true
        | some (.int value) => value = 0
        | some (.float value _) => value = 0
        | _ => false) &&
      (match assoc.lookup "mode" entries with
        | some mode => worker.is_text mode "isolated"
        | none => false)
  | _ => false

/-- The checks on the devices of the intent. -/
def _check_devices (intent : Value) : Py (List (String × Value)) := do
  let devices ← _index (← _list (← intent.get "devices") "intent devices") "id" "intent devices"
  _require (same_names (devices.map Prod.fst) (_DEVICE_SCOPE.map ScopedDevice.device_id))
    "device inventory is outside the SJC23 POC scope"
  _DEVICE_SCOPE.forM fun expected => do
    let device ← indexed devices expected.device_id
    _require ((← text device "platform") = expected.platform)
      "device platform is outside the SJC23 POC scope"
    _require (← lists_texts device "roles" expected.roles)
      "device roles are outside the SJC23 POC scope"
  return devices

/-- The checks on the underlay link of the intent. -/
def _check_link (intent : Value) : Py (Value × List (List (String × String))) := do
  match ← _list (← intent.get "links") "intent links" with
  | [only] =>
    let link ← _mapping (some only) "underlay link"
    _require ((← text link "subnet") = "10.255.0.0/31") "SJC23 POC underlay subnet is invalid"
    let endpoints ← _list (← link.get "endpoints") "underlay endpoints"
    let endpoint_summary ← endpoints.mapM _endpoint_summary
    _require (endpoint_summary = _expected_endpoints)
      "underlay endpoints are outside the SJC23 POC scope"
    return (link, endpoint_summary)
  | _ => .error (PocExecutionError "SJC23 POC requires exactly one underlay link")

/-- The codes of the artifact's blockers, one of which has to be the POC blocker. -/
def _check_artifact (plan artifact : Value) : Py (List String) := do
  let safety ← _mapping (← plan.get "safety") "plan safety"
  _require (is_false (← safety.get "executable")) "SJC23 POC preview must remain non-executable"
  _require (is_false (← artifact.get "executable")) "SJC23 POC artifact must remain non-executable"
  _require (is_false (← artifact.get "contains_secret_values"))
    "SJC23 POC artifact may not contain secret values"
  let blockers ← _list (← artifact.get "blocking_requirements") "artifact blockers"
  let blocker_codes ← blockers.mapM fun blocker => do
    text (← _mapping (some blocker) "artifact blocker") "code"
  _require (_REQUIRED_BLOCKER ∈ blocker_codes)
    "SJC23 POC hardware-acceptance blocker is required"
  return blocker_codes

/-- The summary of one device of the artifact. -/
def _device_summary (devices artifact_devices : List (String × Value)) (expected : ScopedDevice) :
    Py Value := do
  let device ← indexed devices expected.device_id
  let artifact_device ← _mapping (some (← indexed artifact_devices expected.device_id)) "artifact device"
  let command_summary ← _command_summary artifact_device expected
  return .dict ([
    ("device_id", .str expected.device_id),
    ("hostname", .str (← text device "hostname")),
    ("loopback_ip", .str (← text device "loopback0_ip")),
    ("platform", .str expected.platform),
    ("roles", .list (expected.roles.map .str))] ++ command_summary)

/-- The entry of a pool in the map of VNIs and VLANs. -/
def _vni_vlan_entry (summary : Value) : Py Value := do
  return .dict [
    ("virtual_network", ← summary.item "virtual_network"),
    ("vlan_id", ← summary.item "vlan_id"),
    ("l2_vni", ← summary.item "l2_vni"),
    ("l3_vni", ← summary.item "l3_vni")]

def build_sjc23_poc_deployment_preview (intent plan artifact policy : Value) : Py Value := do
  _require ((← text policy "policy_version") = _POLICY_VERSION) "SJC23 POC policy version is required"
  let metadata ← _mapping (← intent.get "metadata") "intent metadata"
  _require ((← text metadata "change_reference") = _CHANGE_REFERENCE)
    "SJC23 POC change reference is required"
  let fabric ← _mapping (← intent.get "fabric") "intent fabric"
  _require ((← text fabric "id") = _FABRIC_ID) "SJC23 POC fabric id is required"
  _require ((← text fabric "underlay_protocol") = "isis") "SJC23 POC requires IS-IS"
  _require ((← number fabric "mtu") = 9100) "SJC23 POC requires MTU 9100"
  let devices ← _check_devices intent
  let (link, endpoint_summary) ← _check_link intent
  let lisp ← _mapping (← intent.get "lisp") "intent lisp"
  _require ((← text lisp "site_name") = "site_sjc23") "SJC23 POC LISP site is invalid"
  _require (← lists_texts lisp "map_servers" ["border-cp-01"]) "SJC23 POC map server is invalid"
  _require (startswith (← text lisp "auth_key_ref") "secret://")
    "POC LISP authentication must remain a protected reference"
  let handoff ← _mapping (← intent.get "border_handoff") "border handoff"
  _require (is_isolated handoff) "SJC23 POC must remain isolated"
  let pools ← _index (← _list (← intent.get "endpoint_pools") "endpoint pools") "id" "endpoint pools"
  let vn_map ← (← (← intent.getD "virtual_networks" (.list [])).elements).mapM fun vn => do
    return ((← vn.item "name").toStr, vn)
  _require (same_names (pools.map Prod.fst) (_expected_pools.map ScopedPool.pool_id))
    "endpoint pools are outside the SJC23 POC scope"
  -- the last of several networks of one name is the one that the dictionary keeps
  let pool_summary ← _expected_pools.mapM (_pool_summary vn_map.reverse pools)
  let attachments ← _index (← _list (← intent.get "endpoint_attachments") "endpoint attachments") "id"
    "endpoint attachments"
  _require
    (same_names (attachments.map Prod.fst)
      (_expected_attachments.map ScopedAttachment.attachment_id))
    "endpoint attachments are outside the SJC23 POC scope"
  let attachment_summary ← _expected_attachments.mapM (_attachment_summary attachments)
  let blocker_codes ← _check_artifact plan artifact
  let artifact_devices ← (← _mapping (← artifact.get "devices") "artifact devices").pairs
  _require (same_names (artifact_devices.map Prod.fst) (_DEVICE_SCOPE.map ScopedDevice.device_id))
    "artifact devices are outside the SJC23 POC scope"
  let device_summary ← _DEVICE_SCOPE.mapM (_device_summary devices artifact_devices)
  return .dict [
    ("status", .str "poc_deployment_preview_ready"),
    ("scope", .str "sjc23_isolated_two_node"),
    ("change_reference", .str _CHANGE_REFERENCE),
    ("deployment_authorized", .bool false),
    ("artifact_hash", .str (← text artifact "artifact_hash")),
    ("plan_hash", .str (← text plan "plan_hash")),
    ("underlay", .dict [
      ("protocol", .str "isis"),
      ("mtu", .int 9100),
      ("subnet", .str "10.255.0.0/31"),
      ("endpoints", .list (endpoint_summary.map texts_value)),
      ("bfd", ← _mapping (← link.get "bfd") "underlay BFD")]),
    ("lisp", .dict [
      ("site_name", .str "site_sjc23"), ("map_servers", .list [.str "border-cp-01"])]),
    ("virtual_networks", .list pool_summary),
    ("vni_vlan_map", .list (← pool_summary.mapM _vni_vlan_entry)),
    ("endpoint_attachments", .list attachment_summary),
    ("devices", .list device_summary),
    ("blocking_requirements", .list (blocker_codes.map .str)),
    ("contains_secret_values", .bool false),
    ("contains_raw_configuration", .bool false)]

/-- What binds an execution to its approval: the change reference and the hashes. -/
structure Authorization where
  change_reference : String
  plan_hash : String
  artifact_hash : String

def authorize_sjc23_poc_execution (intent plan artifact policy : Value)
    (authorization : Authorization) : Py Value := do
  _require (authorization.change_reference = _CHANGE_REFERENCE)
    "SJC23 POC execution change reference is required"
  _require (authorization.plan_hash = (← text plan "plan_hash"))
    "POC execution authorization does not match the plan hash"
  _require (authorization.artifact_hash = (← text artifact "artifact_hash"))
    "POC execution authorization does not match the artifact hash"
  let preview ← build_sjc23_poc_deployment_preview intent plan artifact policy
  let blockers ← (← preview.item "blocking_requirements").elements
  _require (blockers.length = 1 && blockers.all fun code => worker.is_text code _REQUIRED_BLOCKER)
    "SJC23 POC execution permits only the local-DHCP/attachment blocker"
  return .dict [
    ("scope", .str (← preview.item "scope").toStr),
    ("change_reference", .str _CHANGE_REFERENCE),
    ("plan_hash", .str (← plan.item "plan_hash").toStr),
    ("artifact_hash", .str (← artifact.item "artifact_hash").toStr),
    ("allowed_blocker_codes", .list [.str _REQUIRED_BLOCKER]),
    ("deployment_authorized", .bool false)]

end orchestrator.poc_execution
