import SdaOrchestrator.Intent.Overlay

open python ipaddress

namespace orchestrator.intent

/-- The prefix of a routed handoff leaves no host bits for an address that is not usable. -/
def not_usable (network : Option IPv4Network) (address : IPv4Address) : Bool :=
  network.any fun network => network.prefixlen ≤ 30 ∧
    (address = network.network_address ∨ address = network.broadcast_address)

/-- `Address {address} is not a usable host in {network}`. -/
def not_usable_message (network : Option IPv4Network) (address : IPv4Address) : String :=
  "Address " ++ address.str ++ " is not a usable host in " ++
    (network.map IPv4Network.str).getD ""

/-! ## The border handoff -/

def FabricIntent.handoff_enabled (intent : FabricIntent) : Bool :=
  intent.border_handoff.any (·.enabled)

def FabricIntent.handoff_mode (intent : FabricIntent) : Option HandoffMode :=
  intent.border_handoff.bind (·.mode)

/-- The peers of an enabled handoff. -/
def FabricIntent.handoff_peers (intent : FabricIntent) : List HandoffPeer :=
  if intent.handoff_enabled then (intent.border_handoff.bind (·.peers)).getD [] else []

def HandoffPeer.network (peer : HandoffPeer) : Option IPv4Network := ipv4_network peer.pfx

def HandoffPeer.device (peer : HandoffPeer) : Option String := required_string peer.device_id

def HandoffPeer.vrf_name (peer : HandoffPeer) : Option String := required_string peer.vrf

/-- The fusion node that a peer names; schema version 1.2 alone reads it. -/
def HandoffPeer.fusion (version : SchemaVersion) (peer : HandoffPeer) : Option String :=
  if version = .v1_2 then required_string peer.fusion_node_id else none

def HandoffPeer.key (peer : HandoffPeer) : Option (String × String × String) := do
  return (← peer.device, ← peer.vrf_name, peer.neighbor_ip.str)

def HandoffPeer.device_vlan (peer : HandoffPeer) : Option (String × Int) := do
  return (← peer.device, ← integer peer.vlan_id 1 4094)

/-- The device and the VRF of a peer, when it declares both. -/
def HandoffPeer.border_vrf (peer : HandoffPeer) : Option (String × String) := do
  return (← peer.device, ← peer.vrf_name)

def peer_issues (intent : FabricIntent) (earlier : List HandoffPeer) (peer : HandoffPeer) :
    List ValidationIssue :=
  let index := earlier.length
  let path := s!"$.border_handoff.peers[{index}]"
  let devices := intent.devices
  let fusions := intent.fusions
  let peer_keys := declared (fun index => s!"$.border_handoff.peers[{index}]") HandoffPeer.key earlier
  let device_vlans := declared (fun index => s!"$.border_handoff.peers[{index}].vlan_id")
    HandoffPeer.device_vlan earlier
  _required_string peer.device_id s!"{path}.device_id" ++
    (if intent.schema_version = .v1_2 then
      _required_string peer.fusion_node_id s!"{path}.fusion_node_id"
    else []) ++
    _required_string peer.vrf s!"{path}.vrf" ++
    _required_string peer.interface s!"{path}.interface" ++
    _integer peer.vlan_id s!"{path}.vlan_id" 1 4094 ++
    _integer peer.remote_as s!"{path}.remote_as" 1 4294967295 ++
    _ipv4_network peer.pfx s!"{path}.prefix" ++
    (match peer.device with
    | some device_id =>
      if device_id ∉ (device_ids devices).map Prod.fst then
        _add "reference.device" s!"{path}.device_id" ("Unknown device_id " ++ reprText device_id)
      else add_if (!has_role devices device_id .border) "bgp.peer.not_border" s!"{path}.device_id"
        "BGP handoff peer must target a border device"
    | none => []) ++
    (match peer.vrf_name with
    | some vrf =>
      add_if (vrf ∉ (vrf_names intent.virtual_networks).map Prod.fst) "reference.vrf" s!"{path}.vrf"
        ("Unknown VRF " ++ reprText vrf)
    | none => []) ++
    (match peer.fusion intent.schema_version with
    | some fusion_id =>
      if fusion_id ∉ (fusion_ids fusions).map Prod.fst then
        _add "reference.fusion_node" s!"{path}.fusion_node_id"
          ("Unknown fusion node " ++ reprText fusion_id)
      else add_if ((assoc.lookup fusion_id (fusion_asns fusions)).any (peer.remote_as ≠ ·))
        "bgp.remote_as.mismatch" s!"{path}.remote_as"
        "BGP remote AS does not match the referenced fusion node"
    | none => []) ++
    add_if (peer.network.any fun network => network.prefixlen ∉ [30, 31]) "bgp.prefix_length"
      s!"{path}.prefix" "BGP handoffs must use /31 or /30" ++
    add_if (outside peer.network peer.local_ip) "bgp.local_ip.outside_prefix" s!"{path}.local_ip"
      (outside_message peer.network peer.local_ip) ++
    add_if (outside peer.network peer.neighbor_ip) "bgp.neighbor_ip.outside_prefix"
      s!"{path}.neighbor_ip" (outside_message peer.network peer.neighbor_ip) ++
    add_if (not_usable peer.network peer.local_ip) "bgp.local_ip.not_usable" s!"{path}.local_ip"
      (not_usable_message peer.network peer.local_ip) ++
    add_if (not_usable peer.network peer.neighbor_ip) "bgp.neighbor_ip.not_usable"
      s!"{path}.neighbor_ip" (not_usable_message peer.network peer.neighbor_ip) ++
    add_if (peer.local_ip = peer.neighbor_ip) "bgp.peer.same_address" path
      "Local and neighbor addresses must differ" ++
    _check_duplicate peer_keys peer.key path "BGP peer" ++
    _check_duplicate device_vlans peer.device_vlan s!"{path}.vlan_id" "handoff VLAN on device"

/-- The device of a peer is known and a border. -/
def HandoffPeer.border (devices : List Device) (peer : HandoffPeer) : Option String :=
  peer.device.filter fun device_id =>
    device_id ∈ (device_ids devices).map Prod.fst && has_role devices device_id .border

/-- The fusion node of a peer, when it is known. -/
def HandoffPeer.known_fusion (intent : FabricIntent) (peer : HandoffPeer) : Option String :=
  (peer.fusion intent.schema_version).filter
    fun fusion_id => fusion_id ∈ (fusion_ids intent.fusions).map Prod.fst

/-- `fusion_by_border_vrf.get((border_id, vrf), set())`. -/
def fusion_by_border_vrf (intent : FabricIntent) (pair : String × String) : List String :=
  ((intent.handoff_peers.filter (·.border_vrf = some pair)).filterMap
    (HandoffPeer.known_fusion intent)).dedup

/-- The devices with a border role, in the order in which they are declared. -/
def border_ids (devices : List Device) : List String :=
  ((device_roles devices).filter (Role.border ∈ ·.2)).map Prod.fst

def border_vrf_issues (intent : FabricIntent) (border_id vrf : String) : List ValidationIssue :=
  let described := "Border " ++ reprText border_id
  if (border_id, vrf) ∉ intent.handoff_peers.filterMap HandoffPeer.border_vrf then
    _add "bgp.border_vrf_without_peer" "$.border_handoff.peers"
      (described ++ " has no BGP handoff for VRF " ++ reprText vrf)
  else
    add_if (intent.metadata.environment = .production &&
        (fusion_by_border_vrf intent (border_id, vrf)).length < 2)
      "bgp.border_vrf.insufficient_fusion_redundancy" "$.border_handoff.peers"
      (described ++ " VRF " ++ reprText vrf ++ " requires peers to at least two fusion nodes")

/-- What the peers of an enabled handoff have to cover. -/
def coverage_issues (intent : FabricIntent) : List ValidationIssue :=
  let peers := intent.handoff_peers
  (border_ids intent.devices).flatMap (fun border_id =>
      add_if (border_id ∉ peers.filterMap (HandoffPeer.border intent.devices))
        "bgp.border_without_peer" "$.border_handoff.peers"
        ("Border device " ++ reprText border_id ++ " has no BGP handoff peer")) ++
    if intent.schema_version = .v1_2 then
      (sortedSet ((fusion_ids intent.fusions).map Prod.fst)).flatMap (fun fusion_id =>
          add_if (fusion_id ∉ peers.filterMap (HandoffPeer.known_fusion intent))
            "bgp.fusion_without_peer" "$.border_handoff.peers"
            ("Fusion node " ++ reprText fusion_id ++ " has no BGP handoff peer")) ++
        (sortedTexts (border_ids intent.devices)).flatMap fun border_id =>
          (sortedSet ((vrf_names intent.virtual_networks).map Prod.fst)).flatMap fun vrf =>
            border_vrf_issues intent border_id vrf
    else []

def handoff_issues (intent : FabricIntent) : List ValidationIssue :=
  let enabled := intent.handoff_enabled
  let mode := intent.handoff_mode
  add_if (mode = some .isolated && enabled) "bgp.handoff.mode_conflict" "$.border_handoff"
      "Isolated mode requires enabled=false" ++
    add_if (mode = some .bgp && !enabled) "bgp.handoff.mode_conflict" "$.border_handoff"
      "BGP mode requires enabled=true" ++
    warn_if (mode = some .isolated) "bgp.handoff.isolated" "$.border_handoff"
      "Fabric is intentionally isolated and has no external Layer-3 handoff" ++
    add_if (intent.metadata.environment = .production && (!enabled || mode = some .isolated))
      "bgp.handoff.required" "$.border_handoff"
      "Production requires an enabled BGP/fusion border handoff" ++
    if enabled then
      _integer (intent.border_handoff.bind (·.local_as)) "$.border_handoff.local_as" 1 4294967295 ++
        _list (intent.border_handoff.bind (·.peers)) "$.border_handoff.peers" ++
        add_if intent.handoff_peers.isEmpty "bgp.peers.empty" "$.border_handoff.peers"
          "At least one BGP peer is required" ++
        each intent.handoff_peers (peer_issues intent) ++ coverage_issues intent
    else []

/-! ## The shared services -/

def ServiceAttachment.network (attachment : ServiceAttachment) : Option IPv4Network :=
  ipv4_network attachment.pfx

/-- The shared services, which schema version 1.2 alone reads. -/
def FabricIntent.services (intent : FabricIntent) : Option SharedServices :=
  if intent.schema_version = .v1_2 then intent.shared_services else none

def FabricIntent.service_attachments (intent : FabricIntent) : List ServiceAttachment :=
  (intent.services.map (·.attachments)).getD []

/-- The checks of one of the two addresses of an attachment. -/
def ServiceAttachment.address_issues (attachment : ServiceAttachment) (path : String)
    (address : IPv4Address) : List ValidationIssue :=
  add_if (outside attachment.network address) "shared_service.attachment.address_outside_prefix" path
      ("Address " ++ address.str ++ " is outside " ++
        (attachment.network.map IPv4Network.str).getD "") ++
    add_if (not_usable attachment.network address) "shared_service.attachment.address_not_usable"
      path (not_usable_message attachment.network address)

def service_attachment_issues (fusions : List FusionNode) (earlier : List ServiceAttachment)
    (attachment : ServiceAttachment) : List ValidationIssue :=
  let index := earlier.length
  let path := s!"$.shared_services.attachments[{index}]"
  let attachment_ids := declared (fun index => s!"$.shared_services.attachments[{index}].id")
    (fun attachment : ServiceAttachment => required_string attachment.id) earlier
  let attached_fusions :=
    declared (fun index => s!"$.shared_services.attachments[{index}].fusion_node_id")
      (fun attachment : ServiceAttachment => required_string attachment.fusion_node_id) earlier
  _required_string attachment.id s!"{path}.id" ++
    _required_string attachment.fusion_node_id s!"{path}.fusion_node_id" ++
    _required_string attachment.interface s!"{path}.interface" ++
    _integer attachment.vlan_id s!"{path}.vlan_id" 1 4094 ++
    _check_duplicate attachment_ids (required_string attachment.id) s!"{path}.id"
      "shared-service attachment id" ++
    (match required_string attachment.fusion_node_id with
    | some fusion_id =>
      add_if (fusion_id ∉ (fusion_ids fusions).map Prod.fst) "reference.fusion_node"
        s!"{path}.fusion_node_id" ("Unknown fusion node " ++ reprText fusion_id)
    | none => []) ++
    _check_duplicate attached_fusions (required_string attachment.fusion_node_id)
      s!"{path}.fusion_node_id" "fusion shared-service attachment" ++
    _ipv4_network attachment.pfx s!"{path}.prefix" ++
    add_if (attachment.network.any fun network => network.prefixlen ∉ [30, 31])
      "shared_service.attachment.prefix_length" s!"{path}.prefix"
      "Shared-service handoffs must use /30 or /31" ++
    attachment.address_issues s!"{path}.local_ip" attachment.local_ip ++
    attachment.address_issues s!"{path}.next_hop" attachment.next_hop ++
    add_if (attachment.local_ip = attachment.next_hop) "shared_service.attachment.same_address" path
      "Shared-service local and next-hop addresses must differ"

def service_issues (intent : FabricIntent) (earlier : List Service) (service : Service) :
    List ValidationIssue :=
  let index := earlier.length
  let path := s!"$.shared_services.services[{index}]"
  let service_ids := declared (fun index => s!"$.shared_services.services[{index}].id")
    (fun service : Service => required_string service.id) earlier
  let pool_networks := intent.endpoint_pools.filterMap EndpointPool.network
  let prefixes := service.prefixes.filterMap fun text => ipv4_network text
  _required_string service.id s!"{path}.id" ++
    _check_duplicate service_ids (required_string service.id) s!"{path}.id" "shared service id" ++
    service.prefixes.zipIdx.flatMap (fun (text, prefix_index) =>
      let prefix_path := s!"{path}.prefixes[{prefix_index}]"
      _ipv4_network text prefix_path ++
        match ipv4_network text with
        | some network =>
          add_if (pool_networks.any network.overlaps) "shared_service.prefix.overlap" prefix_path
            ("Shared-service prefix " ++ network.str ++ " overlaps fabric endpoint space")
        | none => []) ++
    service.addresses.zipIdx.flatMap (fun (address, address_index) =>
      add_if (!prefixes.isEmpty && !prefixes.any (address ∈ ·))
        "shared_service.address.outside_prefix" s!"{path}.addresses[{address_index}]"
        ("Address " ++ address.str ++ " is outside the service prefixes")) ++
    service.consumer_virtual_networks.zipIdx.flatMap fun (consumer, consumer_index) =>
      add_if (consumer ∉ (vn_names intent.virtual_networks).map Prod.fst)
        "reference.virtual_network" s!"{path}.consumer_virtual_networks[{consumer_index}]"
        ("Unknown virtual network " ++ reprText consumer)

def shared_service_issues (intent : FabricIntent) : List ValidationIssue :=
  if intent.schema_version ≠ .v1_2 then []
  else
    let vrf := required_string (intent.services.map (·.vrf))
    let fusion_ids := (fusion_ids intent.fusions).map Prod.fst
    let attached := intent.service_attachments.filterMap
      fun attachment => required_string attachment.fusion_node_id
    _mapping intent.services "$.shared_services" ++
      _required_string (intent.services.map (·.vrf)) "$.shared_services.vrf" ++
      (match vrf with
      | some vrf =>
        add_if (vrf ∉ (vrf_names intent.virtual_networks).map Prod.fst)
          "reference.shared_services_vrf" "$.shared_services.vrf"
          ("Unknown shared-services VRF " ++ reprText vrf)
      | none => []) ++
      _list (intent.services.map (·.attachments)) "$.shared_services.attachments" ++
      each intent.service_attachments (service_attachment_issues intent.fusions) ++
      (if intent.metadata.environment = .production then
        (sortedSet fusion_ids).flatMap fun fusion_id =>
          add_if (fusion_id ∉ attached) "shared_service.attachment.missing"
            "$.shared_services.attachments"
            ("Fusion node " ++ reprText fusion_id ++ " has no shared-service attachment")
      else []) ++
      _list (intent.services.map (·.services)) "$.shared_services.services" ++
      each ((intent.services.map (·.services)).getD []) (service_issues intent)

end orchestrator.intent
