import Mathlib.Data.Prod.Lex
import SdaOrchestrator.Renderer.Overlay

open python ipaddress orchestrator.store

namespace orchestrator.renderer

open orchestrator.intent

section Handoff

variable (platform : Platform) (intent : FabricIntent)

/-! ## Trunks -/

/-- A VLAN that a handoff carries over a physical interface. -/
structure TrunkVlan where
  interface : String
  vlan_id : Int

/-- `",".join(str(item) for item in sorted(vlans))` of an interface. -/
def allowed_vlans (trunks : List TrunkVlan) (interface : String) : String :=
  join "," ((sortedBy id ((trunks.filter (·.interface = interface)).map (·.vlan_id))).map toString)

def trunk_block (name description : String) (trunks : List TrunkVlan) (interface : String) : Block :=
  plain_block platform (name ++ replace '/' '_' interface) [
    "interface " ++ interface, " description " ++ description, " switchport mode trunk",
    " switchport trunk allowed vlan " ++ allowed_vlans trunks interface, " no shutdown"]

/-- One trunk for each interface; every one is inserted before those already there. -/
def trunk_blocks (name description : String) (trunks : List TrunkVlan) : List Block :=
  (sortedSet (trunks.map (·.interface))).reverse.map (trunk_block platform name description trunks)

/-! ## The border side -/

/-- What a handoff peer contributes on its device: its trunk VLAN and its blocks. -/
structure PeerPart where
  trunk : Option TrunkVlan
  blocks : List Block

def border_peer (local_as : Int) (device : Device) (peer : HandoffPeer) : Py PeerPart := do
  let vrf ← safe peer.vrf "handoff VRF"
  let neighbor := peer.neighbor_ip.str
  let remote_as := peer.remote_as
  let interface ← safe peer.interface "handoff interface"
  let network ← network_of peer.pfx
  let vlan_id := peer.vlan_id
  let trunk ←
    match peer.border_interface.filter (· ≠ "") with
    | none => pure none
    | some border_interface => do
      let physical_interface ← safe border_interface "border physical interface"
      pure (some ⟨physical_interface, vlan_id⟩)
  return {
    trunk
    blocks := [
      plain_block platform s!"handoff_{vrf}_{vlan_id}" [
        s!"vlan {vlan_id}", " name SDA-HANDOFF-" ++ vrf, "interface " ++ interface,
        " description BGP fusion handoff " ++ vrf, " vrf forwarding " ++ vrf,
        " ip address " ++ peer.local_ip.str ++ " " ++ network.netmask.str, " no shutdown"],
      plain_block platform (s!"bgp_{vrf}_" ++ replace '.' '_' neighbor) [
        s!"router bgp {local_as}", " bgp router-id " ++ device.loopback0_ip.str,
        " address-family ipv4 vrf " ++ vrf, s!"  neighbor {neighbor} remote-as {remote_as}",
        s!"  neighbor {neighbor} activate", "  redistribute lisp metric 10",
        "  exit-address-family"]] }

/-- The peers of a device. -/
def border_peers (device : Device) : List HandoffPeer :=
  (handoff_peers_of intent).filter (·.device_id = device.id)

def _border_handoff_blocks (device : Device) : Py (List Block) := do
  match intent.border_handoff.filter (·.enabled) with
  | none => return []
  | some handoff =>
    let local_as ← require handoff.local_as (KeyError "local_as")
    let parts ← (border_peers intent device).mapM (border_peer platform local_as device)
    return trunk_blocks platform "border_trunk_" "SDA fusion handoff trunk"
      (parts.filterMap PeerPart.trunk) ++ parts.flatMap PeerPart.blocks

/-! ## The fusion side -/

/-- `{item["vrf"]: item for item in intent["virtual_networks"]}`. -/
def networks_by_vrf : List (String × VirtualNetwork) :=
  dict_of (intent.virtual_networks.map fun vn => (vn.vrf, vn))

/-- The peers of a fusion node, in the order of their VRFs and VLANs. -/
def peers_of_fusion (fusion : FusionNode) : List HandoffPeer :=
  sortedBy (fun peer => toLex (peer.vrf, peer.vlan_id))
    ((handoff_peers_of intent).filter fun peer => peer.fusion_node_id.getD "" = fusion.id)

/-- The VRF of a fusion node is defined with the first peer in it. -/
def fusion_vrf_block (earlier : List HandoffPeer) (vrf : String) (vn : VirtualNetwork) :
    Py (List Block) := do
  if vrf ∈ earlier.map (·.vrf) then return []
  else
    let rd ← safe vn.rd "route distinguisher"
    return [plain_block platform ("fusion_vrf_" ++ vrf) [
      "vrf definition " ++ vrf, " rd " ++ rd, " address-family ipv4", "  exit-address-family"]]

def fusion_peer (local_as border_as : Int) (earlier : List HandoffPeer) (peer : HandoffPeer) :
    Py PeerPart := do
  let vrf ← safe peer.vrf "fusion VRF"
  let vn ← require (assoc.lookup peer.vrf (networks_by_vrf intent)) (KeyError peer.vrf)
  let definition ← fusion_vrf_block platform earlier vrf vn
  let vlan_id := peer.vlan_id
  let physical_interface ← require peer.fusion_interface (KeyError "fusion_interface")
  let fusion_interface ← safe physical_interface "fusion physical interface"
  let network ← network_of peer.pfx
  let neighbor_ip := peer.local_ip.str
  return {
    trunk := some ⟨fusion_interface, vlan_id⟩
    blocks := definition ++ [
      plain_block platform s!"fusion_handoff_{vrf}_{vlan_id}" [
        s!"vlan {vlan_id}", " name SDA-HANDOFF-" ++ vrf, s!"interface Vlan{vlan_id}",
        " description SDA border handoff " ++ vrf, " vrf forwarding " ++ vrf,
        " ip address " ++ peer.neighbor_ip.str ++ " " ++ network.netmask.str, " no shutdown"],
      plain_block platform (s!"fusion_bgp_{vrf}_" ++ replace '.' '_' neighbor_ip) [
        s!"router bgp {local_as}", " address-family ipv4 vrf " ++ vrf,
        s!"  neighbor {neighbor_ip} remote-as {border_as}", s!"  neighbor {neighbor_ip} activate",
        "  exit-address-family"]] }

/-- Every item with the items before it. -/
def with_earlier {α : Type} (items : List α) : List (List α × α) :=
  items.zipIdx.map fun (item, index) => (items.take index, item)

def _fusion_handoff_blocks (fusion : FusionNode) : Py (List Block) := do
  match intent.border_handoff.filter (·.enabled) with
  | none => return []
  | some handoff =>
    let border_as ← require handoff.local_as (KeyError "local_as")
    let parts ← (with_earlier (peers_of_fusion intent fusion)).mapM fun (earlier, peer) =>
      fusion_peer platform intent fusion.bgp_asn border_as earlier peer
    return trunk_blocks platform "fusion_trunk_" "SDA border handoff trunk"
      (parts.filterMap PeerPart.trunk) ++ parts.flatMap PeerPart.blocks

/-! ## Shared services -/

/-- The prefix list and the route map of a label. -/
def policy_blocks (label : String) (prefixes : List String) : Py (List Block) := do
  let prefix_name := _policy_name platform "PFX" label
  let route_map_name := _policy_name platform "RMAP" label
  let entries ← (sortedSet prefixes).zipIdx.mapM fun (text, index) => do
    let pfx ← safe text "route-leak prefix"
    let seq := (index + 1) * 10
    return s!"ip prefix-list {prefix_name} seq {seq} permit {pfx}"
  return [
    plain_block platform ("prefix_list_" ++ label) (
      ("no ip prefix-list " ++ prefix_name) :: entries),
    plain_block platform ("route_map_" ++ label) [
      "no route-map " ++ route_map_name, s!"route-map {route_map_name} permit 10",
      " match ip address prefix-list " ++ prefix_name]]

/-- `virtual_networks[vrf]["route_targets"][0]` as a safe token. -/
def first_route_target (vn : VirtualNetwork) (label : String) : Py String := do
  let route_target ← require vn.route_targets.head? (IndexError "list index out of range")
  safe route_target label

/-- What a leak contributes: the route target of its consumer and its blocks. -/
structure LeakPart where
  consumer_rt : String
  blocks : List Block

def leak_part (service_rt : String) (leak : RouteLeak) : Py LeakPart := do
  let consumer_vrf ← safe leak.consumer_vrf "consumer VRF"
  let vn ← require (assoc.lookup consumer_vrf (networks_by_vrf intent))
    (RenderError "Shared-services consumer VRF is unknown")
  let consumer_rt ← first_route_target vn "consumer route target"
  let export_label := consumer_vrf ++ "_export"
  let import_label := consumer_vrf ++ "_import"
  let exports ← policy_blocks platform export_label leak.export_prefixes
  let imports ← policy_blocks platform import_label leak.import_prefixes
  return {
    consumer_rt
    blocks := exports ++ imports ++ [
      plain_block platform ("shared_leak_vrf_" ++ consumer_vrf) [
        "vrf definition " ++ consumer_vrf, " address-family ipv4",
        "  route-target export " ++ consumer_rt, "  route-target import " ++ service_rt,
        "  export map " ++ _policy_name platform "RMAP" export_label,
        "  import map " ++ _policy_name platform "RMAP" import_label, "  exit-address-family"]] }

/-- `ip route vrf ...` for a service prefix. -/
def static_route (service_vrf : String) (next_hop : IPv4Address) (text : String) : Py String := do
  let network ← network_of text
  return "ip route vrf " ++ service_vrf ++ " " ++ network.network_address.str ++ " " ++
    network.netmask.str ++ " " ++ next_hop.str

/-- The blocks that attach the services to a fusion node. -/
def service_attachment_blocks (fusion : FusionNode) (service_vrf : String)
    (service_prefixes : List String) (attachment : ServiceAttachment) : Py (List Block) := do
  let vlan_id := attachment.vlan_id
  let asn := fusion.bgp_asn
  let interface ← safe attachment.interface "shared-service interface"
  let network ← network_of attachment.pfx
  let routes ← service_prefixes.mapM (static_route service_vrf attachment.next_hop)
  return [
    plain_block platform "shared_service_attachment" [
      s!"vlan {vlan_id}", " name SDA-SHARED-SERVICES", "interface " ++ interface,
      " description SDA shared-services handoff", " switchport mode trunk",
      s!" switchport trunk allowed vlan {vlan_id}", " no shutdown", s!"interface Vlan{vlan_id}",
      " description SDA shared-services routed handoff", " vrf forwarding " ++ service_vrf,
      " ip address " ++ attachment.local_ip.str ++ " " ++ network.netmask.str, " no shutdown"],
    plain_block platform "shared_service_static_routes" routes,
    plain_block platform "shared_service_bgp_redistribution" [
      s!"router bgp {asn}", " address-family ipv4 vrf " ++ service_vrf, "  redistribute static",
      "  exit-address-family"]]

/-- The leaks, in the order of their consumers. -/
def route_leaks_of (shared : SharedServices) : List RouteLeak :=
  sortedBy (·.consumer_vrf) shared.route_leaks

def service_prefixes_of (shared : SharedServices) : List String :=
  sortedSet (shared.services.flatMap (·.prefixes))

def consumer_prefixes_of (shared : SharedServices) : List String :=
  sortedSet (shared.route_leaks.flatMap (·.export_prefixes))

def _fusion_shared_service_blocks (fusion : FusionNode) : Py (List Block) := do
  match intent.shared_services with
  | none => return []
  | some shared =>
    let attachment ← require (shared.attachments.find? (·.fusion_node_id = fusion.id))
      (RenderError ("Fusion node " ++ fusion.id ++ " has no shared-service attachment"))
    let service_vrf ← safe shared.vrf "shared-services VRF"
    let vn ← require (assoc.lookup service_vrf (networks_by_vrf intent))
      (RenderError "Shared-services VRF is not a virtual network")
    let service_rt ← first_route_target vn "shared-services route target"
    let service_prefixes := service_prefixes_of shared
    let consumer_prefixes := consumer_prefixes_of shared
    raise_if (service_prefixes.isEmpty || consumer_prefixes.isEmpty)
      (RenderError "Shared-services route policy has no approved prefixes")
    let exports ← policy_blocks platform "service_export" service_prefixes
    let imports ← policy_blocks platform "service_import" consumer_prefixes
    let leaks ← (route_leaks_of shared).mapM (leak_part platform intent service_rt)
    let vrf_policy := plain_block platform "shared_service_vrf_policy" (
      ["vrf definition " ++ service_vrf, " address-family ipv4",
        "  route-target export " ++ service_rt] ++
      (sortedSet (leaks.map (·.consumer_rt))).map ("  route-target import " ++ ·) ++
      ["  export map " ++ _policy_name platform "RMAP" "service_export",
        "  import map " ++ _policy_name platform "RMAP" "service_import",
        "  exit-address-family"])
    let attached ← service_attachment_blocks platform fusion service_vrf service_prefixes attachment
    return exports ++ imports ++ leaks.flatMap (·.blocks) ++ [vrf_policy] ++ attached

end Handoff

end orchestrator.renderer
