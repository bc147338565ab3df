import SdaOrchestrator.Intent.Multicast

open python ipaddress regex

namespace orchestrator.intent

/-- The policy plane, which schema version 1.2 alone admits. -/
def FabricIntent.policy (intent : FabricIntent) : Option PolicyPlane :=
  if intent.schema_version = .v1_2 then intent.policy_plane else none

/-- `policy_mode in {"ise", "hybrid"}`. -/
def PolicyMode.uses_ise (mode : PolicyMode) : Bool := mode = .ise || mode = .hybrid

/-- `policy_mode in {"sxp", "hybrid"}`. -/
def PolicyMode.uses_sxp (mode : PolicyMode) : Bool := mode = .sxp || mode = .hybrid

/-! ## Enforcement -/

/-- `expected_enforcement_devices`. -/
def expected_enforcement_devices (devices : List Device) : List String :=
  ((device_roles devices).filter (Role.fabric_edge ∈ ·.2)).map Prod.fst

def enforcement_issues (intent : FabricIntent) (policy : PolicyPlane) : List ValidationIssue :=
  let mode := reprText policy.mode.text
  add_if policy.default_action.isNone "policy.default_action" "$.policy_plane.default_action"
      "Policy plane must be deny by default" ++
    add_if (policy.mode ≠ .none && !same_set (policy.enforcement_device_ids.getD [])
        (expected_enforcement_devices intent.devices))
      "policy.enforcement.devices" "$.policy_plane.enforcement_device_ids"
      "Policy enforcement devices must match the complete fabric-edge set" ++
    add_if (policy.mode ≠ .none && !same_set (policy.enforcement_vlan_ids.getD [])
        (intent.endpoint_pools.map (·.vlan_id)))
      "policy.enforcement.vlans" "$.policy_plane.enforcement_vlan_ids"
      "Policy enforcement VLANs must match the complete endpoint-pool VLAN set" ++
    add_if (policy.mode.uses_ise && policy.ise.isNone) "policy.ise.required" "$.policy_plane.ise"
      s!"Policy mode {mode} requires ISE settings" ++
    add_if (policy.mode.uses_sxp && policy.sxp.isNone) "policy.sxp.required" "$.policy_plane.sxp"
      s!"Policy mode {mode} requires SXP settings" ++
    add_if (!policy.mode.uses_ise && policy.ise.isSome) "policy.ise.unexpected"
      "$.policy_plane.ise" s!"Policy mode {mode} cannot contain ISE settings" ++
    add_if (!policy.mode.uses_sxp && policy.sxp.isSome) "policy.sxp.unexpected"
      "$.policy_plane.sxp" s!"Policy mode {mode} cannot contain SXP settings"

/-! ## Security groups and contracts -/

def SecurityGroup.group_name (group : SecurityGroup) : Option String := required_string group.name

def SecurityGroup.known_tag (group : SecurityGroup) : Option Int := integer group.tag 2 65519

def group_names (groups : List SecurityGroup) : List (String × String) :=
  declared (fun index => s!"$.policy_plane.security_groups[{index}].name")
    SecurityGroup.group_name groups

/-- `group_tag_values`: the tag of each group, by its name. -/
def group_tag_values (groups : List SecurityGroup) : List (String × Int) :=
  dict_of (groups.filterMap fun group => do return (← group.group_name, ← group.known_tag))

def security_group_issues (earlier : List SecurityGroup) (group : SecurityGroup) :
    List ValidationIssue :=
  let index := earlier.length
  let path := s!"$.policy_plane.security_groups[{index}]"
  let group_tags := declared (fun index => s!"$.policy_plane.security_groups[{index}].tag")
    SecurityGroup.known_tag earlier
  _required_string group.name s!"{path}.name" ++ _integer group.tag s!"{path}.tag" 2 65519 ++
    _check_duplicate (group_names earlier) group.group_name s!"{path}.name" "security group name" ++
    _check_duplicate group_tags group.known_tag s!"{path}.tag" "security group tag"

/-- What a contract declares as its key. -/
def Contract.key (contract : Contract) : Option (String × String × String) := do
  return (← required_string contract.source, ← required_string contract.destination,
    contract.protocol.text)

/-- `["{} {}".format(action, protocol)]`. -/
def Contract.expected_aces (contract : Contract) : List String :=
  [contract.action.text ++ " " ++ contract.protocol.text]

def group_reference_issues (groups : List SecurityGroup) (name : Option String) (path : String) :
    List ValidationIssue :=
  match name with
  | some name =>
    add_if (name ∉ (group_names groups).map Prod.fst) "reference.security_group" path
      ("Unknown security group " ++ reprText name)
  | none => []

def contract_issues (groups : List SecurityGroup) (earlier : List Contract) (contract : Contract) :
    List ValidationIssue :=
  let index := earlier.length
  let path := s!"$.policy_plane.contracts[{index}]"
  let contract_keys := declared (fun index => s!"$.policy_plane.contracts[{index}]") Contract.key
    earlier
  let source := required_string contract.source
  let destination := required_string contract.destination
  let tag_of (name : String) : Option Int := assoc.lookup name (group_tag_values groups)
  _required_string contract.source s!"{path}.source" ++
    _required_string contract.destination s!"{path}.destination" ++
    group_reference_issues groups source s!"{path}.source" ++
    group_reference_issues groups destination s!"{path}.destination" ++
    _check_duplicate contract_keys contract.key path "policy contract" ++
    add_if (source.any fun name => contract.source_tag ≠ tag_of name) "policy.contract.source_tag"
      s!"{path}.source_tag" "Contract source tag must match its security group" ++
    add_if (destination.any fun name => contract.destination_tag ≠ tag_of name)
      "policy.contract.destination_tag" s!"{path}.destination_tag"
      "Contract destination tag must match its security group" ++
    add_if contract.default_action.isNone "policy.contract.default_action" s!"{path}.default_action"
      "Every policy contract must be deny by default" ++
    add_if (contract.aces ≠ some contract.expected_aces) "policy.contract.aces" s!"{path}.aces"
      "Contract ACEs must exactly represent the approved action and protocol" ++
    add_if (contract.action = .deny && contract.protocol ≠ .ip) "policy.contract.deny_scope" path
      "Default-deny contracts may declare explicit deny only for protocol ip" ++
    add_if (!sgacl_pattern.fullmatch (contract.sgacl_name.getD "")) "policy.contract.sgacl_name"
      s!"{path}.sgacl_name" "Contract SGACL must use an owned deterministic name"

/-! ## ISE -/

/-- `https://[A-Za-z0-9.-]+(?::[0-9]{1,5})?`. -/
def ise_origin_pattern : Regex :=
  let digit := Regex.oneOf isAsciiDigit
  let optional := Regex.optional digit
  origin_pattern (Regex.concat [digit, optional, optional, optional, optional])

/-- `urlparse(text).port` of a text that `ise_origin_pattern` matches. -/
def origin_port (text : String) : Option Nat :=
  match ((chars text).drop 8).splitOn ':' with
  | [_, port] => decimal? port
  | _ => none

/-- The origin of an ISE node is not an HTTPS origin with a port in range. -/
def bad_origin (text : String) : Bool :=
  !ise_origin_pattern.fullmatch text || (origin_port text).any fun port => port = 0 || 65535 < port

def ise_node_issues (earlier : List IseNode) (node : IseNode) : List ValidationIssue :=
  let index := earlier.length
  let path := s!"$.policy_plane.ise.nodes[{index}]"
  add_if (node.id ∈ earlier.map (·.id)) "unique.duplicate" s!"{path}.id" "Duplicate ISE node ID" ++
    add_if (node.address ∈ earlier.map (·.address)) "unique.duplicate" s!"{path}.address"
      "Duplicate ISE node address" ++
    add_if (bad_origin (node.api_base_url.getD "")) "policy.ise.https" s!"{path}.api_base_url"
      "ISE API origin must use HTTPS without a path"

/-- `pan_node_ids`. -/
def Ise.pan_node_ids (ise : Ise) : List String :=
  ((ise.nodes.filter (IseRole.pan ∈ ·.roles)).map (·.id)).dedup

def ise_issues (environment : Environment) (ise : Ise) : List ValidationIssue :=
  each ise.nodes ise_node_issues ++
    add_if (ise.write_node_id.getD "" ∉ ise.pan_node_ids) "policy.ise.write_node"
      "$.policy_plane.ise.write_node_id" "ISE write node must reference a PAN node" ++
    add_if (environment = .production && ise.pan_node_ids.length < 2) "ha.ise_pan"
      "$.policy_plane.ise.nodes" "Production policy plane requires redundant ISE PAN nodes"

/-! ## SXP -/

def SxpConnection.vrf (connection : SxpConnection) : String := connection.transport_vrf.getD ""

/-- `ise_service_prefixes`. -/
def FabricIntent.ise_service_prefixes (intent : FabricIntent) : List String :=
  (((intent.services.map (·.services)).getD []).filter (·.type = .ise)).flatMap (·.prefixes)

/-- `policy_devices_by_id`. -/
def policy_devices_by_id (devices : List Device) : List (String × Device) :=
  dict_of ((devices.filter (·.id ≠ "")).map fun device => (device.id, device))

/-- `expected_sources`: the addresses of the speaker in the transport VRF. -/
def expected_sources (intent : FabricIntent) (connection : SxpConnection) : List String :=
  if connection.vrf = "global" then
    [((assoc.lookup connection.speaker_id (policy_devices_by_id intent.devices)).map
      (·.loopback0_ip.str)).getD ""]
  else
    (((intent.border_handoff.bind (·.peers)).getD []).filter fun peer =>
      peer.device_id = connection.speaker_id && peer.vrf = connection.vrf).map (·.local_ip.str)

/-- The connection declared last before this one by the same speaker. -/
def SxpConnection.previous (earlier : List SxpConnection) (connection : SxpConnection) :
    Option SxpConnection :=
  earlier.reverse.find? (·.speaker_id = connection.speaker_id)

/-- An ISE listener is reached through an approved service prefix, in the service VRF. -/
def ise_listener_issues (intent : FabricIntent) (path : String) (connection : SxpConnection) :
    List ValidationIssue :=
  let service_vrf := required_string (intent.services.map (·.vrf))
  let prefix_text := ((ipv4_network connection.listener_prefix).map IPv4Network.str).getD "None"
  add_if (prefix_text ∉ intent.ise_service_prefixes) "policy.sxp.listener_service_prefix"
      s!"{path}.listener_prefix"
      "SXP listener prefix must exactly match an approved ISE shared-service prefix" ++
    add_if (some connection.vrf ≠ service_vrf) "policy.sxp.transport_vrf" s!"{path}.transport_vrf"
      "SXP transport VRF must match the shared-services VRF for ISE listeners"

def sxp_connection_issues (intent : FabricIntent) (policy : PolicyPlane)
    (earlier : List SxpConnection) (connection : SxpConnection) : List ValidationIssue :=
  let index := earlier.length
  let path := s!"$.policy_plane.sxp.connections[{index}]"
  let devices := intent.devices
  let speaker_id := connection.speaker_id
  let ise_addresses := (policy.ise.map fun ise => ise.nodes.map (·.address)).getD []
  let connection_keys := declared (fun index => s!"$.policy_plane.sxp.connections[{index}]")
    (fun connection : SxpConnection =>
      some (connection.speaker_id, connection.listener_ip, connection.vrf)) earlier
  (if speaker_id ∉ (device_ids devices).map Prod.fst then
      _add "reference.sxp_speaker" s!"{path}.speaker_id"
        ("Unknown SXP speaker " ++ reprText speaker_id)
    else add_if (!has_role devices speaker_id .border && !has_role devices speaker_id .fabric_edge)
      "policy.sxp.speaker_role" s!"{path}.speaker_id"
      "SXP speakers must be border or fabric-edge devices") ++
    add_if (connection.vrf ≠ "global" &&
        connection.vrf ∉ (vrf_names intent.virtual_networks).map Prod.fst)
      "reference.sxp_transport_vrf" s!"{path}.transport_vrf"
      ("Unknown SXP transport VRF " ++ reprText connection.vrf) ++
    add_if ((connection.source_ip.map IPv4Address.str).getD "" ∉ expected_sources intent connection)
      "policy.sxp.source_ip" s!"{path}.source_ip"
      "SXP source IP must be routed on the speaker in its transport VRF" ++
    _ipv4_network connection.listener_prefix s!"{path}.listener_prefix" ++
    add_if (outside (ipv4_network connection.listener_prefix) connection.listener_ip)
      "policy.sxp.listener_prefix" s!"{path}.listener_ip"
      "SXP listener must be inside listener_prefix" ++
    (if policy.mode.uses_ise then ise_listener_issues intent path connection else []) ++
    add_if connection.local_mode.isNone "policy.sxp.local_mode" s!"{path}.local_mode"
      "This workflow supports SXP speaker mode only" ++
    add_if (policy.mode.uses_ise && connection.listener_ip ∉ ise_addresses) "reference.sxp_listener"
      s!"{path}.listener_ip"
      ("SXP listener " ++ reprText connection.listener_ip.str ++ " is not an approved ISE node") ++
    add_if ((connection.previous earlier).any (·.password_ref ≠ connection.password_ref))
      "policy.sxp.password_scope" s!"{path}.password_ref"
      "One SXP speaker cannot use multiple default passwords" ++
    add_if ((connection.previous earlier).any (·.vrf ≠ connection.vrf)) "policy.sxp.transport_scope"
      s!"{path}.transport_vrf" "One SXP speaker cannot use multiple transport VRFs" ++
    _check_duplicate connection_keys (some (speaker_id, connection.listener_ip, connection.vrf)) path
      "SXP speaker/listener/VRF connection"

def sxp_issues (intent : FabricIntent) (policy : PolicyPlane) (sxp : Sxp) : List ValidationIssue :=
  let production := intent.metadata.environment = .production
  each sxp.connections (sxp_connection_issues intent policy) ++
    add_if (production && (sxp.connections.map (·.speaker_id)).dedup.length < 2) "ha.sxp_speakers"
      "$.policy_plane.sxp.connections" "Production SXP requires at least two speakers" ++
    add_if (production && (sxp.connections.map (·.listener_ip)).dedup.length < 2)
      "ha.sxp_listeners" "$.policy_plane.sxp.connections"
      "Production SXP requires at least two listeners"

/-! ## The policy plane -/

/-- The check that ends the validation of a policy plane of an older contract. -/
def contract_version_issues (intent : FabricIntent) : List ValidationIssue :=
  if intent.schema_version ≠ .v1_2 then []
  else
    _mapping intent.policy "$.policy_plane" ++
      add_if (intent.policy.all (·.contract_version.isNone))
        "policy.contract_version.migration_required" "$.policy_plane.contract_version"
        "Policy-plane contract_version 1.0 is required; migrate stored schema 1.2 intent before planning or replay"

def policy_issues (intent : FabricIntent) : List ValidationIssue :=
  match intent.policy with
  | none => []
  | some policy =>
    enforcement_issues intent policy ++ each policy.security_groups security_group_issues ++
      each policy.contracts (contract_issues policy.security_groups) ++
      (match policy.ise with
      | some ise => ise_issues intent.metadata.environment ise
      | none => []) ++
      match policy.sxp with
      | some sxp => sxp_issues intent policy sxp
      | none => []

end orchestrator.intent
