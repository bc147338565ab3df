import SdaOrchestrator.Renderer.Underlay

open python ipaddress orchestrator.store

namespace orchestrator.renderer

open orchestrator.intent

section Overlay

variable (platform : Platform) (intent : FabricIntent)

/-! ## VRFs and gateways -/

def route_target_lines (route_target : String) : Py (List String) := do
  let safe_rt ← safe route_target "route target"
  return ["  route-target import " ++ safe_rt, "  route-target export " ++ safe_rt]

def vrf_block (vn : VirtualNetwork) : Py (List Block) := do
  let vrf ← safe vn.vrf "VRF"
  let rd ← safe vn.rd "route distinguisher"
  let route_targets ← collect (sortedTexts vn.route_targets) route_target_lines
  let instance_id := vn.l3_instance_id
  return [
    plain_block platform ("vrf_" ++ vrf) (
      ["vrf definition " ++ vrf, " rd " ++ rd, " address-family ipv4"] ++ route_targets ++
      ["  exit-address-family"]),
    plain_block platform s!"lisp_l3_{instance_id}" [
      "router lisp", s!" instance-id {instance_id}", "  service ipv4", "   eid-table vrf " ++ vrf,
      "   database-mapping limit dynamic 5000", "   exit-service-ipv4", "  exit-instance-id",
      " exit-router-lisp"]]

def _vrf_blocks : Py (List Block) :=
  collect (sortedBy (·.l3_instance_id) intent.virtual_networks) (vrf_block platform)

/-- The multicast group of each pool for broadcast, unknown unicast and multicast. -/
def bum_groups : List (String × IPv4Address) :=
  dict_of (((intent.multicast.bind (·.l2_bum_groups)).getD []).map fun group =>
    (group.endpoint_pool_id, group.group))

/-- A helper command; a local DHCP server is reached in the global table. -/
def helper_command (pool : EndpointPool) (helper : IPv4Address) : String :=
  (if pool.dhcp.any (·.helper_address = helper) then " ip helper-address global"
    else " ip helper-address") ++ " " ++ helper.str

/-- The flood group of a pool in its L2 instance. -/
def flood_commands (pool : EndpointPool) : List String :=
  match assoc.lookup pool.id (bum_groups intent) with
  | some group => ["   broadcast-underlay " ++ group.str]
  | none =>
    if intent.schema_version ≠ .v1_2 then ["   broadcast-underlay 232.0.0.1"] else []

def pool_blocks (locator : String) (pool : EndpointPool) : Py (List Block) := do
  let vn ← network_of_pool intent pool
  let vlan := pool.vlan_id
  let vrf ← safe vn.vrf "VRF"
  let network ← network_of pool.pfx
  let pool_name ← safe_spaced pool.id "pool id"
  let pool_token ← safe pool.id "dynamic EID"
  let l3_instance_id := vn.l3_instance_id
  let l2_instance_id := pool.l2_instance_id
  return [
    plain_block platform s!"vlan_{vlan}" [s!"vlan {vlan}", " name " ++ pool_name],
    plain_block platform s!"svi_{vlan}" (
      [s!"interface Vlan{vlan}", " description Anycast gateway " ++ pool_name,
        " vrf forwarding " ++ vrf,
        " ip address " ++ pool.gateway.str ++ " " ++ network.netmask.str, " no ip redirects"] ++
      pool.dhcp_helpers.map (helper_command pool) ++ [" no shutdown"]),
    plain_block platform ("lisp_pool_" ++ pool_token) (
      ["router lisp", s!" instance-id {l3_instance_id}", "  dynamic-eid " ++ pool_token,
        "   database-mapping " ++ network.str ++ " locator-set " ++ locator,
        "   exit-dynamic-eid", "  exit-instance-id", s!" instance-id {l2_instance_id}",
        "  service ethernet", s!"   eid-table vlan {vlan}"] ++ flood_commands intent pool ++
      ["   database-mapping mac locator-set " ++ locator, "   exit-service-ethernet",
        "  exit-instance-id", " exit-router-lisp"])]

def _edge_overlay_blocks : Py (List Block) := do
  let vrfs ← _vrf_blocks platform intent
  let locator ← locator_name intent
  let pools ← collect (sortedBy (·.vlan_id) intent.endpoint_pools) (pool_blocks platform intent locator)
  return vrfs ++ pools

/-! ## Endpoint ports -/

def attachment_block (attachment : EndpointAttachment) : Py Block := do
  -- an empty description falls back as a missing one does
  let described := attachment.description.filter (· ≠ "")
  let attachment_id ← safe attachment.id "endpoint attachment id"
  let interface ← safe attachment.interface "endpoint interface"
  let description ← safe_spaced (described.getD ("SDA endpoint " ++ attachment.id))
    "endpoint description"
  let vlan := attachment.vlan_id
  return plain_block platform ("endpoint_attachment_" ++ attachment_id) [
    "interface " ++ interface, " description " ++ description, " switchport mode access",
    s!" switchport access vlan {vlan}", " spanning-tree portfast", " no shutdown"]

/-- The attachments of a device, in the order of their ids. -/
def attachments_of (device : Device) : List EndpointAttachment :=
  sortedBy (·.id) ((intent.endpoint_attachments.getD []).filter (·.device_id = device.id))

def _edge_endpoint_attachment_blocks (device : Device) : Py (List Block) :=
  (attachments_of intent device).mapM (attachment_block platform)

/-! ## Local DHCP -/

def dhcp_block (device : Device) (pool : EndpointPool) : Py (List Block) := do
  match pool.dhcp with
  | none => return []
  | some dhcp =>
    if dhcp.server_device_id ≠ device.id then return []
    else
      let network ← network_of pool.pfx
      let days := dhcp.lease_minutes / 1440
      let remainder := dhcp.lease_minutes % 1440
      let hours := remainder / 60
      let minutes := remainder % 60
      let gateway := pool.gateway.str
      let pool_id ← safe pool.id "endpoint pool id"
      return [plain_block platform ("local_dhcp_" ++ pool_id) (
        ["ip dhcp excluded-address " ++ gateway,
          "ip dhcp pool SDA-DHCP-" ++ short_digest platform pool.id,
          " network " ++ network.network_address.str ++ " " ++ network.netmask.str,
          " default-router " ++ gateway, s!" lease {days} {hours} {minutes}"] ++
        (sortedTexts (dhcp.dns_servers.map IPv4Address.str)).map (" dns-server " ++ ·))]

def _border_local_dhcp_blocks (device : Device) : Py (List Block) :=
  collect (sortedBy (·.id) intent.endpoint_pools) (dhcp_block platform device)

end Overlay

/-! ## Multicast in the overlay -/

section Multicast

variable (platform : Platform) (intent : FabricIntent)

/-- Native multicast is enabled. -/
def native_multicast : Bool :=
  intent.multicast.any fun multicast => multicast.enabled && multicast.transport = .native

/-- The overlay policies, in the order of their instances. -/
def policies_of : List OverlayPolicy :=
  sortedBy (·.l3_instance_id) ((intent.multicast.bind (·.overlay_policies)).getD [])

/-- `(intent.get("border_handoff") or {}).get("peers", [])`. -/
def handoff_peers_of : List HandoffPeer := (intent.border_handoff.bind (·.peers)).getD []

/-- The multicast routing, access list and RP of a policy on one device. -/
def policy_commands (register_source : Bool) (policy : OverlayPolicy) : Py (List String) := do
  let vrf ← safe policy.vrf "multicast VRF"
  let network ← network_of policy.group_range
  let access_list ← safe policy.access_list "multicast access list"
  let instance_id := policy.l3_instance_id
  let common := ["ip multicast-routing vrf " ++ vrf, "no ip access-list standard " ++ access_list,
    "ip access-list standard " ++ access_list,
    " 10 permit " ++ network.network_address.str ++ " " ++ network.hostmask.str]
  match policy.mode with
  | .ssm => return common ++ [s!"ip pim vrf {vrf} ssm range {access_list}"]
  | .asm =>
    let rp_address ← require policy.rp_address (KeyError "rp_address")
    return common ++
      (if register_source then [s!"ip pim vrf {vrf} register-source Loopback{instance_id}"] else []) ++
      ["ip pim vrf " ++ vrf ++ " rp-address " ++ rp_address.str ++ " " ++ access_list]

/-- The pools of a virtual network, in the order of their VLANs. -/
def pools_of (virtual_network : String) : List EndpointPool :=
  sortedBy (·.vlan_id) (intent.endpoint_pools.filter (·.virtual_network = virtual_network))

/-- The handoffs of a device in a VRF, in the order of their VLANs. -/
def device_peers (device : Device) (vrf : String) : List HandoffPeer :=
  sortedBy (·.vlan_id) ((handoff_peers_of intent).filter fun peer =>
    peer.device_id = device.id && peer.vrf = vrf)

def edge_svi_block (pool : EndpointPool) : Block :=
  let vlan := pool.vlan_id
  plain_block platform s!"multicast_edge_svi_{vlan}" [
    s!"interface Vlan{vlan}", " ip pim passive", " ip igmp version 3", " ip igmp explicit-tracking"]

def border_pim_block (peer : HandoffPeer) : Py Block := do
  let interface ← safe peer.interface "multicast handoff interface"
  let vlan := peer.vlan_id
  return plain_block platform s!"multicast_border_handoff_{vlan}" [
    "interface " ++ interface, " ip pim sparse-mode"]

/-- The blocks of a policy on a device that has a segment loopback in it. -/
def overlay_policy_blocks (locator : String) (device : Device) (policy : OverlayPolicy) :
    Py (List Block) := do
  match policy.segment_loopbacks.find? (·.device_id = device.id) with
  | none => return []
  | some loopback =>
    let vrf ← safe policy.vrf "multicast VRF"
    let instance_id := policy.l3_instance_id
    let segment_address := loopback.address.str
    let commands ← policy_commands true policy
    let virtual_network ← safe_spaced policy.virtual_network "virtual network"
    let core_group ← require policy.core_group (KeyError "core_group")
    let count := core_group.count
    let borders ←
      if Role.border ∈ device.roles then
        (device_peers intent device vrf).mapM (border_pim_block platform)
      else pure []
    return [
      plain_block platform s!"multicast_policy_{instance_id}" commands,
      plain_block platform s!"multicast_segment_{instance_id}" [
        s!"interface Loopback{instance_id}",
        " description SDA multicast segment " ++ virtual_network, " vrf forwarding " ++ vrf,
        " ip address " ++ segment_address ++ " 255.255.255.255", " ip pim sparse-mode",
        " no shutdown"],
      plain_block platform s!"multicast_lisp_{instance_id}" [
        s!"interface LISP0.{instance_id}", " vrf forwarding " ++ vrf,
        " ip pim lisp transport multicast",
        " ip pim lisp core-group-range " ++ core_group.start.str ++ " " ++ toString count],
      plain_block platform s!"multicast_lisp_database_{instance_id}" [
        "router lisp", s!" instance-id {instance_id}", "  service ipv4",
        "   database-mapping " ++ segment_address ++ "/32 locator-set " ++ locator,
        "   exit-service-ipv4", "  exit-instance-id", " exit-router-lisp"]] ++
      (if Role.fabric_edge ∈ device.roles then
        (pools_of intent policy.virtual_network).map (edge_svi_block platform)
      else []) ++ borders

def _multicast_overlay_blocks (device : Device) : Py (List Block) := do
  if native_multicast intent then
    let locator ← locator_name intent
    collect (policies_of intent) (overlay_policy_blocks platform intent locator device)
  else return []

def fusion_pim_block (peer : HandoffPeer) : Block :=
  let vlan := peer.vlan_id
  plain_block platform s!"fusion_multicast_handoff_{vlan}" [
    s!"interface Vlan{vlan}", " ip pim sparse-mode"]

/-- The handoffs of a fusion node in a VRF, in the order of their VLANs. -/
def fusion_peers (fusion : FusionNode) (vrf : String) : List HandoffPeer :=
  sortedBy (·.vlan_id) ((handoff_peers_of intent).filter fun peer =>
    peer.fusion_node_id.getD "None" = fusion.id && peer.vrf = vrf)

def fusion_policy_blocks (fusion : FusionNode) (policy : OverlayPolicy) : Py (List Block) := do
  let _ ← safe policy.vrf "multicast VRF"
  let peers := fusion_peers intent fusion policy.vrf
  if peers = [] then return []
  else
    let commands ← policy_commands false policy
    let instance_id := policy.l3_instance_id
    return plain_block platform s!"fusion_multicast_policy_{instance_id}" commands ::
      peers.map (fusion_pim_block platform)

def _fusion_multicast_blocks (fusion : FusionNode) : Py (List Block) := do
  if native_multicast intent then
    collect (policies_of intent) (fusion_policy_blocks platform intent fusion)
  else return []

end Multicast

end orchestrator.renderer
