import Mathlib.Data.Prod.Lex
import SdaOrchestrator.Allocator.Multicast
import SdaOrchestrator.Lib.Url

open python ipaddress orchestrator.store

namespace orchestrator.allocator

open orchestrator.intent

/-! ## The mode -/

/-- The mode has an ISE deployment. -/
def has_ise (mode : PolicyMode) : Bool := mode = .ise || mode = .hybrid

/-- The mode has SXP connections. -/
def has_sxp (mode : PolicyMode) : Bool := mode = .sxp || mode = .hybrid

/-- The contract version is the current one, and the settings go with the mode. -/
def check_policy_mode (raw : PolicyPlaneRequest) : Py Unit := do
  let mode := raw.mode.text
  raise_if raw.contract_version.isNone (AllocationError
    "Policy-plane contract_version 1.0 is required; migrate stored schema 1.2 requirements before planning")
  raise_if raw.default_action.isNone (AllocationError "Policy-plane default action must be deny")
  raise_if (has_ise raw.mode && raw.ise.isNone) (AllocationError s!"Policy-plane mode {mode} requires ISE settings")
  raise_if (has_sxp raw.mode && raw.sxp.isNone) (AllocationError s!"Policy-plane mode {mode} requires SXP settings")
  raise_if (!has_ise raw.mode && raw.ise.isSome)
    (AllocationError s!"Policy-plane mode {mode} cannot contain ISE settings")
  raise_if (!has_sxp raw.mode && raw.sxp.isSome)
    (AllocationError s!"Policy-plane mode {mode} cannot contain SXP settings")

section Derive

variable (platform : Platform) (upper : String → String) (policy : Policy) (domain : String)

/-! ## The contracts -/

/-- `int(security_groups_by_name[name]["tag"])`. -/
def tag_of (groups : List SecurityGroup) (name : String) : Py Int := do
  let group ← require (assoc.lookup name (dict_of (groups.map fun group => (group.name, group)))) (KeyError name)
  return group.tag

/-- What the names of a contract and of its access list are made from. -/
def contract_identity (raw : ContractRequest) : Value :=
  .dict [("source", .str raw.source), ("destination", .str raw.destination), ("action", .str raw.action.text),
    ("protocol", .str raw.protocol.text)]

/-- One contract, after those between the given groups. -/
def derive_contract (groups : List SecurityGroup) (raw : ContractRequest)
    (contract_keys : List (String × String × Protocol)) : Py (Contract × List (String × String × Protocol)) := do
  refuse (first_unknown [raw.source, raw.destination] (groups.map (·.name))) fun name =>
    s!"Policy contract references unknown security group {name}"
  let key := (raw.source, raw.destination, raw.protocol)
  raise_if (key ∈ contract_keys) (AllocationError
    s!"Duplicate policy contract {raw.source} to {raw.destination} for {raw.protocol.text}")
  raise_if (raw.action = .deny && raw.protocol ≠ .ip) (AllocationError
    "Deny policy contracts must use protocol ip because the policy plane is default-deny")
  let label := digest_label platform upper (contract_identity raw)
  return ({
    name := some ("SDA-CONTRACT-" ++ label)
    source := raw.source
    source_tag := some (← tag_of groups raw.source)
    destination := raw.destination
    destination_tag := some (← tag_of groups raw.destination)
    action := raw.action
    protocol := raw.protocol
    sgacl_name := some ("SDA-SGACL-" ++ label)
    aces := some [raw.action.text ++ " " ++ raw.protocol.text]
    default_action := some () }, key :: contract_keys)

/-- The order of the contracts. -/
def contract_order (raw : ContractRequest) : String ×ₗ String ×ₗ String ×ₗ String :=
  toLex (raw.source, toLex (raw.destination, toLex (raw.protocol.text, raw.action.text)))

/-! ## The ISE deployment -/

/-- `str(url).rstrip("/")`. -/
def without_slashes (text : String) : String :=
  String.ofList ((chars text).reverse.dropWhile (· = '/')).reverse

/-- The text is the origin of an HTTPS server. -/
def is_https_origin (api_base_url : String) : Py Bool := do
  let parsed_url ← url.urlparse api_base_url
  let port_fits : Bool := match parsed_url.port with
    | .ok none => true
    | .ok (some port) => 1 ≤ port && port ≤ 65535
    | .error _ => false
  return parsed_url.scheme = "https".toList && parsed_url.hostname.isSome && port_fits &&
    (parsed_url.path = [] || parsed_url.path = ['/']) && parsed_url.query.isEmpty && parsed_url.fragment.isEmpty

/-- One ISE node, after those of the given ids and addresses. -/
def derive_ise_node (raw : IseNode) (state : List String × List IPv4Address) :
    Py (IseNode × List String × List IPv4Address) := do
  raise_if (raw.id ∈ state.1) (AllocationError ("Duplicate ISE node " ++ raw.id))
  raise_if (raw.address ∈ state.2) (AllocationError ("Duplicate ISE node address " ++ raw.address.str))
  let api_base_url := without_slashes (← require raw.api_base_url (KeyError "api_base_url"))
  raise_if (!(← is_https_origin api_base_url))
    (AllocationError s!"ISE node {raw.id} api_base_url must be an HTTPS origin")
  return ({
    id := raw.id
    address := raw.address
    api_base_url := some api_base_url
    roles := sortedBy IseRole.text raw.roles }, raw.id :: state.1, raw.address :: state.2)

/-- A production deployment is redundant. -/
def check_ise_redundancy (environment : Environment) (nodes : List IseNode) : Py Unit := do
  if environment = .production then
    let minimum_ise_nodes := policy.redundancy.min_ise_nodes_production.getD 2
    raise_if (nodes.length < minimum_ise_nodes)
      (AllocationError s!"Production policy plane requires at least {minimum_ise_nodes} ISE nodes")
    raise_if ((nodes.filter (IseRole.pan ∈ ·.roles)).length < 2)
      (AllocationError "Production policy plane requires redundant ISE PAN nodes")

/-- The ISE deployment. -/
def derive_ise (environment : Environment) (raw : Ise) : Py Ise := do
  let (nodes, _) ← thread derive_ise_node (sortedBy (·.id) raw.nodes) ([], [])
  let write_node_id ← require raw.write_node_id (KeyError "write_node_id")
  let write_node ← require (nodes.find? (·.id = write_node_id))
    (AllocationError "ISE write_node_id references an unknown node")
  raise_if (IseRole.pan ∉ write_node.roles) (AllocationError "ISE write node must have the PAN role")
  check_ise_redundancy policy environment nodes
  return { raw with write_node_id := some write_node_id, nodes }

/-! ## The SXP connections -/

/-- What the connections so far leave for the next one: ids, transport VRFs and passwords by speaker, peers. -/
structure SxpState where
  connection_ids : List String
  speaker_transport_vrfs : List (String × String)
  speaker_password_refs : List (String × String)
  connection_peers : List (String × IPv4Address × String)

/-- The prefixes of the services of type `ise`. -/
def ise_service_prefixes (shared_services : Option SharedServices) : List String :=
  ((shared_services.map (·.services)).getD []).filter (·.type = .ise) |>.flatMap (·.prefixes)

/-- A listener of an ISE deployment is reached through the service VRF, by an approved prefix. -/
def check_listener (mode : PolicyMode) (shared_services : Option SharedServices) (connection_id transport_vrf : String)
    ( listener_prefix : IPv4Network) : Py Unit := do
  if has_ise mode then
    raise_if ( listener_prefix.str ∉ ise_service_prefixes shared_services) (AllocationError
      s!"SXP connection {connection_id} listener_prefix is not an approved ISE service prefix")
    raise_if (transport_vrf ≠ (shared_services.map (·.vrf)).getD "") (AllocationError
      s!"SXP connection {connection_id} must use the shared-services VRF for an ISE listener")

/-- One SXP connection, after others. -/
def derive_sxp_connection (mode : PolicyMode) (devices : List Device) (vns : List VirtualNetwork)
    (shared_services : Option SharedServices) (ise_addresses : List IPv4Address) (item : SxpConnectionRequest)
    (state : SxpState) : Py (SxpConnection × SxpState) := do
  raise_if (item.id ∈ state.connection_ids) (AllocationError ("Duplicate SXP connection " ++ item.id))
  let speaker ← require (device_by_id devices item.speaker_id)
    (AllocationError s!"SXP connection {item.id} speaker must be a fabric device")
  raise_if (Role.border ∉ speaker.roles && Role.fabric_edge ∉ speaker.roles)
    (AllocationError s!"SXP connection {item.id} speaker must be a border or fabric edge")
  raise_if (has_ise mode && item.listener_ip ∉ ise_addresses)
    (AllocationError s!"SXP connection {item.id} listener {item.listener_ip.str} is not an approved ISE node")
  let transport_vrf ← require item.transport_vrf (KeyError "transport_vrf")
  raise_if (transport_vrf ≠ "global" && transport_vrf ∉ vns.map (·.vrf))
    (AllocationError s!"SXP connection {item.id} references unknown transport VRF {transport_vrf}")
  raise_if ((assoc.lookup item.speaker_id state.speaker_transport_vrfs).any fun vrf => vrf ≠ "" && vrf ≠ transport_vrf)
    (AllocationError s!"SXP speaker {item.speaker_id} cannot use multiple transport VRFs")
  let listener_prefix ← _network (← require item.listener_prefix (KeyError "listener_prefix"))
  raise_if (item.listener_ip ∉ listener_prefix)
    (AllocationError s!"SXP connection {item.id} listener must be inside listener_prefix")
  check_listener mode shared_services item.id transport_vrf listener_prefix
  let peer := (item.speaker_id, item.listener_ip, transport_vrf)
  raise_if (peer ∈ state.connection_peers) (AllocationError "Duplicate SXP speaker/listener/VRF connection")
  raise_if ((assoc.lookup item.speaker_id state.speaker_password_refs).any fun reference =>
      reference ≠ "" && reference ≠ item.password_ref)
    (AllocationError s!"SXP speaker {item.speaker_id} cannot use multiple default password references")
  return ({
    id := item.id
    speaker_id := item.speaker_id
    transport_vrf := some transport_vrf
    source_ip := none
    listener_ip := item.listener_ip
    listener_prefix := some listener_prefix.str
    password_ref := item.password_ref
    local_mode := some () }, {
    connection_ids := item.id :: state.connection_ids
    speaker_transport_vrfs := assoc.set item.speaker_id transport_vrf state.speaker_transport_vrfs
    speaker_password_refs := assoc.set item.speaker_id item.password_ref state.speaker_password_refs
    connection_peers := peer :: state.connection_peers })

/-- Production connections have enough speakers and listeners. -/
def check_sxp_redundancy (environment : Environment) (connections : List SxpConnection) : Py Unit := do
  if environment = .production then
    let minimum_speakers := policy.redundancy.min_sxp_speakers_production.getD 2
    let minimum_listeners := policy.redundancy.min_sxp_listeners_production.getD 2
    raise_if ((connections.map (·.speaker_id)).dedup.length < minimum_speakers)
      (AllocationError s!"Production SXP requires at least {minimum_speakers} speakers")
    raise_if ((connections.map (·.listener_ip)).dedup.length < minimum_listeners)
      (AllocationError s!"Production SXP requires at least {minimum_listeners} listeners")

/-- The SXP connections; their sources are known once the border handoff is. -/
def derive_sxp (environment : Environment) (mode : PolicyMode) (devices : List Device) (vns : List VirtualNetwork)
    (shared_services : Option SharedServices) (ise_addresses : List IPv4Address)
    (raw_connections : List SxpConnectionRequest) : Py Sxp := do
  let (connections, _) ← thread (derive_sxp_connection mode devices vns shared_services ise_addresses)
    (sortedBy (·.id) raw_connections)
    { connection_ids := [], speaker_transport_vrfs := [], speaker_password_refs := [], connection_peers := [] }
  check_sxp_redundancy policy environment connections
  return { connections }

/-! ## The whole section -/

/-- The policy plane, whose default action is to deny. -/
def derive_policy_plane (environment : Environment) (devices : List Device) (vns : List VirtualNetwork)
    (pools : List EndpointPool) (shared_services : Option SharedServices) (raw : PolicyPlaneRequest) (taken : Taken) :
    Py (PolicyPlane × Taken) := do
  check_policy_mode raw
  let (security_groups, taken) ← derive_security_groups policy.toGuardrails domain raw.security_groups taken
  let (contracts, _) ← thread (derive_contract platform upper security_groups)
    (sortedBy contract_order raw.contracts) []
  let ise ← raw.ise.mapM (derive_ise policy environment)
  let ise_addresses := (ise.map fun deployment => deployment.nodes.map (·.address)).getD []
  let sxp ← raw.sxp.mapM (derive_sxp policy environment raw.mode devices vns shared_services ise_addresses)
  return ({
    mode := raw.mode
    contract_version := some ()
    default_action := some ()
    enforcement_device_ids := some (sortedTexts ((devices.filter (Role.fabric_edge ∈ ·.roles)).map (·.id)))
    enforcement_vlan_ids := some (sortedBy id (pools.map (·.vlan_id)))
    ise
    sxp
    security_groups
    contracts }, taken)

end Derive

end orchestrator.allocator
