import SdaOrchestrator.Intent.Fabric

open python ipaddress

namespace orchestrator.intent

/-! ## The virtual networks -/

def VirtualNetwork.vn_name (vn : VirtualNetwork) : Option String := required_string vn.name

def VirtualNetwork.vrf_name (vn : VirtualNetwork) : Option String := required_string vn.vrf

def VirtualNetwork.l3_instance (vn : VirtualNetwork) : Option Int :=
  integer vn.l3_instance_id 1 16777215

def vn_names (vns : List VirtualNetwork) : List (String × String) :=
  declared (fun index => s!"$.virtual_networks[{index}].name") VirtualNetwork.vn_name vns

def vrf_names (vns : List VirtualNetwork) : List (String × String) :=
  declared (fun index => s!"$.virtual_networks[{index}].vrf") VirtualNetwork.vrf_name vns

def l3_instances (vns : List VirtualNetwork) : List (Int × String) :=
  declared (fun index => s!"$.virtual_networks[{index}].l3_instance_id")
    VirtualNetwork.l3_instance vns

def route_distinguishers (vns : List VirtualNetwork) : List (String × String) :=
  declared (fun index => s!"$.virtual_networks[{index}].rd")
    (fun vn : VirtualNetwork => required_string vn.rd) vns

def virtual_network_issues (earlier : List VirtualNetwork) (vn : VirtualNetwork) :
    List ValidationIssue :=
  let index := earlier.length
  let path := s!"$.virtual_networks[{index}]"
  _required_string vn.name s!"{path}.name" ++ _required_string vn.vrf s!"{path}.vrf" ++
    _integer vn.l3_instance_id s!"{path}.l3_instance_id" 1 16777215 ++
    _required_string vn.rd s!"{path}.rd" ++
    add_if vn.route_targets.isEmpty "vn.route_targets.empty" s!"{path}.route_targets"
      "At least one route target is required" ++
    _check_duplicate (vn_names earlier) vn.vn_name s!"{path}.name" "virtual-network name" ++
    _check_duplicate (vrf_names earlier) vn.vrf_name s!"{path}.vrf" "VRF name" ++
    _check_duplicate (l3_instances earlier) vn.l3_instance s!"{path}.l3_instance_id"
      "L3 instance id" ++
    _check_duplicate (route_distinguishers earlier) (required_string vn.rd) s!"{path}.rd"
      "route distinguisher"

/-! ## The fabric zones -/

/-- `hierarchy_descends_from(node_id, ancestor_id)`: every round visits another child. -/
def hierarchy_descends_from (parents : List (String × String)) (ancestor_id : String) :
    Nat → List String → String → Bool
  | 0, _, _ => false
  | fuel + 1, visited, cursor =>
    if cursor ∈ visited then false
    else if cursor = ancestor_id then true
    else
      match assoc.lookup cursor parents with
      | none => false
      | some parent => hierarchy_descends_from parents ancestor_id fuel (cursor :: visited) parent

/-- The node of a zone is known, and its site is, but the one is not below the other. -/
def FabricZone.outside_site (hierarchy : List HierarchyNode) (sites : List FabricSite)
    (zone : FabricZone) : Bool :=
  let parents := hierarchy_parents hierarchy
  match required_string zone.fabric_site_id, required_string zone.hierarchy_node_id with
  | some site_id, some node_id =>
    match assoc.lookup site_id (fabric_site_nodes sites) with
    | some site_node =>
      node_id ∈ (hierarchy_node_ids hierarchy).map Prod.fst &&
        !hierarchy_descends_from parents site_node (parents.length + 1) [] node_id
    | none => false
  | _, _ => false

def zone_issues (hierarchy : List HierarchyNode) (sites : List FabricSite)
    (vns : List VirtualNetwork) (earlier : List FabricZone) (zone : FabricZone) :
    List ValidationIssue :=
  let index := earlier.length
  let path := s!"$.fabric_zones[{index}]"
  let zone_ids := declared (fun index => s!"$.fabric_zones[{index}].id")
    (fun zone : FabricZone => required_string zone.id) earlier
  _required_string zone.id s!"{path}.id" ++
    _required_string zone.fabric_site_id s!"{path}.fabric_site_id" ++
    _required_string zone.hierarchy_node_id s!"{path}.hierarchy_node_id" ++
    _check_duplicate zone_ids (required_string zone.id) s!"{path}.id" "fabric zone id" ++
    (match required_string zone.fabric_site_id with
    | some site_id =>
      add_if (site_id ∉ (fabric_site_ids sites).map Prod.fst) "reference.fabric_site"
        s!"{path}.fabric_site_id" ("Unknown fabric site " ++ reprText site_id)
    | none => []) ++
    (match required_string zone.hierarchy_node_id with
    | some node_id =>
      add_if (node_id ∉ (hierarchy_node_ids hierarchy).map Prod.fst) "reference.hierarchy_node"
        s!"{path}.hierarchy_node_id" ("Unknown hierarchy node " ++ reprText node_id)
    | none => []) ++
    add_if (zone.outside_site hierarchy sites) "zone.outside_site" s!"{path}.hierarchy_node_id"
      "Fabric zone hierarchy node is outside its fabric site" ++
    zone.virtual_networks.zipIdx.flatMap fun (vn_name, vn_index) =>
      add_if (vn_name ∉ (vn_names vns).map Prod.fst) "reference.virtual_network"
        s!"{path}.virtual_networks[{vn_index}]" ("Unknown virtual network " ++ reprText vn_name)

def zones_issues (intent : FabricIntent) : List ValidationIssue :=
  if intent.schema_version.has_hierarchy then
    each (intent.fabric_zones.getD [])
      (zone_issues intent.hierarchy intent.sites intent.virtual_networks)
  else []

/-! ## The endpoint pools -/

def EndpointPool.pool_id (pool : EndpointPool) : Option String := required_string pool.id

def EndpointPool.vlan (pool : EndpointPool) : Option Int := integer pool.vlan_id 1 4094

def EndpointPool.l2_instance (pool : EndpointPool) : Option Int :=
  integer pool.l2_instance_id 1 16777215

def EndpointPool.network (pool : EndpointPool) : Option IPv4Network := ipv4_network pool.pfx

/-- The site and the VLAN of a pool, when it declares both. -/
def EndpointPool.site_vlan (pool : EndpointPool) : Option (String × Int) := do
  return (← required_string pool.site, ← pool.vlan)

def LocalDhcp.issues (devices : List Device) (helpers : List IPv4Address) (path : String)
    (dhcp : LocalDhcp) : List ValidationIssue :=
  _required_string dhcp.server_device_id s!"{path}.server_device_id" ++
    add_if ((required_string dhcp.server_device_id).any fun server_id =>
        !has_role devices server_id .border)
      "dhcp.server.role" s!"{path}.server_device_id"
      "Local DHCP server must be a fabric border device" ++
    add_if (dhcp.helper_address ∉ helpers) "dhcp.helper.mismatch" s!"{path}.helper_address"
      "Local DHCP helper address must be present in dhcp_helpers" ++
    _integer dhcp.lease_minutes s!"{path}.lease_minutes" 5 10080

def pool_issues (version : SchemaVersion) (sites : List FabricSite) (devices : List Device)
    (vns : List VirtualNetwork) (earlier : List EndpointPool) (pool : EndpointPool) :
    List ValidationIssue :=
  let index := earlier.length
  let path := s!"$.endpoint_pools[{index}]"
  let pool_ids := declared (fun index => s!"$.endpoint_pools[{index}].id")
    EndpointPool.pool_id earlier
  let site_vlans := declared (fun index => s!"$.endpoint_pools[{index}].vlan_id")
    EndpointPool.site_vlan earlier
  let l2_instances := declared (fun index => s!"$.endpoint_pools[{index}].l2_instance_id")
    EndpointPool.l2_instance earlier
  let label := (pool.site_vlan.map fun (site, vlan) => s!"VLAN {vlan} in site {site}").getD ""
  _required_string pool.id s!"{path}.id" ++ _required_string pool.site s!"{path}.site" ++
    _required_string pool.virtual_network s!"{path}.virtual_network" ++
    (match required_string pool.site with
    | some site =>
      add_if (version.has_hierarchy && site ∉ (fabric_site_ids sites).map Prod.fst)
        "reference.fabric_site" s!"{path}.site" ("Unknown fabric site " ++ reprText site)
    | none => []) ++
    _check_duplicate pool_ids pool.pool_id s!"{path}.id" "endpoint-pool id" ++
    (match required_string pool.virtual_network with
    | some vn_name =>
      add_if (vn_name ∉ (vn_names vns).map Prod.fst) "reference.virtual_network"
        s!"{path}.virtual_network" ("Unknown virtual network " ++ reprText vn_name)
    | none => []) ++
    _integer pool.vlan_id s!"{path}.vlan_id" 1 4094 ++
    add_if (pool.vlan_id ∈ [1002, 1003, 1004, 1005]) "vlan.reserved" s!"{path}.vlan_id"
      "Legacy reserved VLAN ID is not allowed" ++
    _check_duplicate site_vlans pool.site_vlan s!"{path}.vlan_id" label ++
    _integer pool.l2_instance_id s!"{path}.l2_instance_id" 1 16777215 ++
    _check_duplicate l2_instances pool.l2_instance s!"{path}.l2_instance_id" "L2 instance id" ++
    _ipv4_network pool.pfx s!"{path}.prefix" ++
    add_if (outside pool.network pool.gateway) "pool.gateway.outside_prefix" s!"{path}.gateway"
      ("Gateway " ++ pool.gateway.str ++ " is not in " ++
        (pool.network.map IPv4Network.str).getD "") ++
    add_if pool.dhcp_helpers.isEmpty "pool.dhcp_helpers.empty" s!"{path}.dhcp_helpers"
      "At least one external DHCP helper is required" ++
    match pool.dhcp with
    | some dhcp => dhcp.issues devices pool.dhcp_helpers s!"{path}.dhcp"
    | none => []

/-! ## The endpoint attachments -/

/-- `pool_context`: the pools by their ids. -/
def pool_context (pools : List EndpointPool) : List (String × EndpointPool) :=
  dict_of ((pools.filter (·.id ≠ "")).map fun pool => (pool.id, pool))

/-- `link_interfaces`. -/
def link_interfaces (links : List Link) : List (String × String) :=
  links.flatMap fun link => link.endpoints.map fun endpoint => (endpoint.device_id, endpoint.interface)

/-- The port of an attachment, when it declares one. -/
def EndpointAttachment.port (attachment : EndpointAttachment) : Option (String × String) := do
  return (← required_string attachment.device_id, ← required_string attachment.interface)

instance name_pair_lawful : LawfulBEq (String × String) := inferInstance

def attachment_issues (intent : FabricIntent) (earlier : List EndpointAttachment)
    (attachment : EndpointAttachment) : List ValidationIssue :=
  let index := earlier.length
  let path := s!"$.endpoint_attachments[{index}]"
  let attachment_ids := declared (fun index => s!"$.endpoint_attachments[{index}].id")
    (fun attachment : EndpointAttachment => required_string attachment.id) earlier
  let attachment_interfaces :=
    declared (fun index => s!"$.endpoint_attachments[{index}].interface") EndpointAttachment.port
      earlier
  let device_id := required_string attachment.device_id
  let site := required_string attachment.site
  _required_string attachment.id s!"{path}.id" ++
    _required_string attachment.device_id s!"{path}.device_id" ++
    _required_string attachment.interface s!"{path}.interface" ++
    _required_string attachment.site s!"{path}.site" ++
    _required_string attachment.virtual_network s!"{path}.virtual_network" ++
    _required_string attachment.endpoint_pool_id s!"{path}.endpoint_pool_id" ++
    _integer attachment.vlan_id s!"{path}.vlan_id" 1 4094 ++
    _check_duplicate attachment_ids (required_string attachment.id) s!"{path}.id"
      "endpoint attachment id" ++
    _check_duplicate attachment_interfaces attachment.port s!"{path}.interface"
      "endpoint attachment interface" ++
    add_if (device_id.any fun device_id => !has_role intent.devices device_id .fabric_edge)
      "attachment.device.role" s!"{path}.device_id"
      "Endpoint attachment must target a fabric-edge device" ++
    add_if (device_id.any fun device_id =>
        site.isSome && assoc.lookup device_id (device_sites intent.devices) ≠ site)
      "attachment.site" s!"{path}.site" "Endpoint attachment site must match device site" ++
    add_if (attachment.port.any (· ∈ link_interfaces intent.links))
      "attachment.interface.fabric_link" s!"{path}.interface"
      "Endpoint attachment cannot reuse a fabric-link interface" ++
    match (required_string attachment.endpoint_pool_id).bind
        (assoc.lookup · (pool_context intent.endpoint_pools)) with
    | none => _add "reference.endpoint_pool" s!"{path}.endpoint_pool_id" "Unknown endpoint pool"
    | some pool =>
      add_if (site.any (pool.site ≠ ·)) "attachment.pool.site" s!"{path}.site"
          "Endpoint pool site does not match attachment" ++
        add_if ((required_string attachment.virtual_network).any (pool.virtual_network ≠ ·))
          "attachment.pool.virtual_network" s!"{path}.virtual_network"
          "Endpoint pool VN does not match attachment" ++
        add_if ((integer attachment.vlan_id 1 4094).any (pool.vlan_id ≠ ·))
          "attachment.pool.vlan" s!"{path}.vlan_id" "Endpoint pool VLAN does not match attachment"

def overlay_issues (intent : FabricIntent) : List ValidationIssue :=
  each intent.virtual_networks virtual_network_issues ++ zones_issues intent ++
    each intent.endpoint_pools
      (pool_issues intent.schema_version intent.sites intent.devices intent.virtual_networks) ++
    each (intent.endpoint_attachments.getD []) (attachment_issues intent)

end orchestrator.intent
