import SdaOrchestrator.Renderer.Overlay
import SdaOrchestrator.Reconciliation.OwnedState

open python ipaddress orchestrator.store

namespace orchestrator.reconciliation

open orchestrator.intent orchestrator.renderer

/-! ## Owned resources -/

/-- `_resource(...)`, without its hashes. -/
structure OwnedResource where
  key : String
  kind : String
  configured_lines : List String
  remove_commands : List String
  gate_command : String
  forbidden_lines : List String
  remove_order : Int

/-- The fields that the state hash covers. -/
def OwnedResource.state (resource : OwnedResource) : List (String × Value) := [
  ("configured_lines", texts resource.configured_lines),
  ("remove_commands", texts resource.remove_commands),
  ("gate_command", .str resource.gate_command),
  ("forbidden_lines", texts resource.forbidden_lines)]

def OwnedResource.document (platform : Platform) (resource : OwnedResource) : Value :=
  .dict ([("key", .str resource.key), ("kind", .str resource.kind)] ++ resource.state ++ [
    ("remove_order", .int resource.remove_order),
    ("state_hash", .str (platform.sha256_json (.dict resource.state))),
    ("remove_command_hash", .str (platform.sha256_json (texts resource.remove_commands)))])

/-- A resource on the device that owns it. -/
abbrev Owned := String × OwnedResource

def _router_lisp_mapping_remove (instance_id : Int) (mapping : String) : List String := [
  "router lisp", s!" instance-id {instance_id}", "  service ipv4", "   no " ++ mapping,
  "   exit-service-ipv4", "  exit-instance-id", " exit-router-lisp"]

def _router_lisp_bum_remove (instance_id : Int) (group : String) : List String := [
  "router lisp", s!" instance-id {instance_id}", "  service ethernet",
  "   no broadcast-underlay " ++ group, "   exit-service-ethernet", "  exit-instance-id",
  " exit-router-lisp"]

def _interface_remove (interface : String) (lines : List String) : List String :=
  ("interface " ++ interface) :: lines.map (" no " ++ ·)

/-! ## The nodes of an intent -/

/-- A device or a fusion node; the roles of a fusion node are added to it. -/
inductive Node where
  | device (device : Device)
  | fusion (fusion : FusionNode)

def Node.roles : Node → List String
  | .device node => node.roles.map Role.text
  | .fusion _ => ["fusion"]

/-- `{**node, "roles": sorted(set(node["roles"]))}`. -/
def Node.descriptor : Node → Value
  | .device node => .dict (node.fields (sortedSet (node.roles.map Role.text)))
  | .fusion node => .dict (node.fields ++ [("roles", texts ["fusion"])])

/-- `{**devices, **fusion_nodes}`. -/
def all_nodes (intent : FabricIntent) : List (String × Node) :=
  dict_of (intent.devices.map (fun device => (device.id, Node.device device)) ++
    (intent.fusion_nodes.getD []).map fun fusion => (fusion.id, Node.fusion fusion))

section Resources

variable (intent : FabricIntent)

/-! ## The underlay -/

/-- The RP device ids, in order; an id may occur twice. -/
def owned_rp_devices (multicast : Multicast) : List String :=
  sortedTexts (multicast.rp_device_ids.getD [])

def rp_loopback_resource (rp_address : IPv4Address) : OwnedResource :=
  let loopback := "Loopback" ++ toString (rp_loopback_id intent)
  { key := "multicast.underlay.rp_loopback"
    kind := "multicast_rp_loopback"
    configured_lines :=
      ["interface " ++ loopback, "ip address " ++ rp_address.str ++ " 255.255.255.255"]
    remove_commands := ["no interface " ++ loopback]
    gate_command := "show running-config | section ^interface " ++ loopback ++ "$"
    forbidden_lines := ["interface " ++ loopback]
    remove_order := 200 }

def msdp_peer_resource (peer : String) : OwnedResource :=
  let line := s!"ip msdp peer {peer} connect-source Loopback0"
  { key := "multicast.underlay.msdp_peer:" ++ peer
    kind := "msdp_peer"
    configured_lines := [line]
    remove_commands := ["no " ++ line]
    gate_command := s!"show running-config | include ^ip msdp peer {peer} "
    forbidden_lines := [line]
    remove_order := 300 }

def msdp_global_resource (suffix line : String) : OwnedResource :=
  { key := "multicast.underlay.msdp_" ++ suffix
    kind := "msdp_global"
    configured_lines := [line]
    remove_commands := ["no " ++ line]
    gate_command := "show running-config | include ^" ++ line ++ "$"
    forbidden_lines := [line]
    remove_order := 250 }

/-- The addresses of the other RP devices that the intent has. -/
def owned_msdp_peers (multicast : Multicast) (device_id : String) : List String :=
  sortedTexts (((owned_rp_devices multicast).filter (· ≠ device_id)).filterMap fun peer_id =>
    (assoc.lookup peer_id (devices_by_id intent.devices)).map (·.loopback0_ip.str))

def msdp_resources (multicast : Multicast) (device_id : String) : List OwnedResource :=
  if multicast.rp_mode = .anycast then
    let peers := owned_msdp_peers intent multicast device_id
    peers.map msdp_peer_resource ++
      if peers.isEmpty then [] else [
        msdp_global_resource "cache" "ip msdp cache-sa-state",
        msdp_global_resource "originator" "ip msdp originator-id Loopback0"]
  else []

def rp_resources (multicast : Multicast) : List Owned :=
  match intent.fabric.multicast.bind (·.rp_address) with
  | none => []
  | some rp_address =>
    if underlay_multicast intent.fabric then
      (owned_rp_devices multicast).flatMap fun device_id =>
        (rp_loopback_resource intent rp_address :: msdp_resources intent multicast device_id).map
          (device_id, ·)
    else []

/-! ## The overlay policies -/

def routing_resource (vrf : String) : OwnedResource :=
  { key := "multicast.overlay.routing:" ++ vrf
    kind := "multicast_routing"
    configured_lines := ["ip multicast-routing vrf " ++ vrf]
    remove_commands := ["no ip multicast-routing vrf " ++ vrf]
    gate_command := "show running-config | include ^ip multicast-routing vrf " ++ vrf ++ "$"
    forbidden_lines := ["ip multicast-routing vrf " ++ vrf]
    remove_order := 400 }

def acl_resource (vrf acl : String) (group_range : IPv4Network) : OwnedResource :=
  let acl_lines := ["ip access-list standard " ++ acl,
    "10 permit " ++ group_range.network_address.str ++ " " ++ group_range.hostmask.str]
  { key := "multicast.overlay.acl:" ++ vrf
    kind := "overlay_acl"
    configured_lines := acl_lines
    remove_commands := ["no ip access-list standard " ++ acl]
    gate_command := "show running-config | section ^ip access-list standard " ++ acl ++ "$"
    forbidden_lines := acl_lines
    remove_order := 500 }

def policy_resource (vrf : String) (policy_lines : List String) : OwnedResource :=
  { key := "multicast.overlay.policy:" ++ vrf
    kind := "overlay_policy"
    configured_lines := policy_lines
    remove_commands := policy_lines.map ("no " ++ ·)
    gate_command := s!"show running-config | include ^ip pim vrf {vrf} "
    forbidden_lines := policy_lines
    remove_order := 600 }

/-- `{item["device_id"]: item["address"] for item in policy["segment_loopbacks"]}`. -/
def segment_by_device (policy : OverlayPolicy) : List (String × String) :=
  dict_of (policy.segment_loopbacks.map fun loopback => (loopback.device_id, loopback.address.str))

/-- The fusion nodes that a VRF is handed off to. -/
def participating_fusion (vrf : String) : List String :=
  sortedSet (((handoff_peers_of intent).filter (·.vrf = vrf)).filterMap fun peer =>
    peer.fusion_node_id.filter (· ≠ ""))

/-- The PIM lines of a policy on a device. -/
def owned_policy_lines (policy : OverlayPolicy) (device_id : String) : Py (List String) := do
  let vrf := policy.vrf
  let acl := policy.access_list
  let instance_id := policy.l3_instance_id
  match policy.mode with
  | .ssm => return [s!"ip pim vrf {vrf} ssm range {acl}"]
  | .asm =>
    let rp_address ← require policy.rp_address (KeyError "rp_address")
    return (if device_id ∈ (segment_by_device policy).map Prod.fst then
        [s!"ip pim vrf {vrf} register-source Loopback{instance_id}"] else []) ++
      ["ip pim vrf " ++ vrf ++ " rp-address " ++ rp_address.str ++ " " ++ acl]

def participant_resources (policy : OverlayPolicy) (group_range : IPv4Network)
    (device_id : String) : Py (List Owned) := do
  let policy_lines ← owned_policy_lines policy device_id
  return [routing_resource policy.vrf, acl_resource policy.vrf policy.access_list group_range,
    policy_resource policy.vrf policy_lines].map (device_id, ·)

def segment_resource (instance_id : Int) (address : String) : OwnedResource :=
  let loopback := "Loopback" ++ toString instance_id
  { key := s!"multicast.overlay.segment_loopback:{instance_id}"
    kind := "segment_loopback"
    configured_lines := ["interface " ++ loopback, "ip address " ++ address ++ " 255.255.255.255"]
    remove_commands := ["no interface " ++ loopback]
    gate_command := "show running-config | section ^interface " ++ loopback ++ "$"
    forbidden_lines := ["interface " ++ loopback]
    remove_order := 700 }

def lisp_interface_resource (instance_id : Int) (core_group : CoreGroup) : OwnedResource :=
  let lisp_interface := "LISP0." ++ toString instance_id
  let count := core_group.count
  { key := s!"multicast.overlay.lisp_interface:{instance_id}"
    kind := "lisp_interface"
    configured_lines := ["interface " ++ lisp_interface, "ip pim lisp transport multicast",
      "ip pim lisp core-group-range " ++ core_group.start.str ++ " " ++ toString count]
    remove_commands := ["no interface " ++ lisp_interface]
    gate_command := "show running-config | section ^interface " ++ lisp_interface ++ "$"
    forbidden_lines := ["interface " ++ lisp_interface]
    remove_order := 750 }

def lisp_mapping_resource (instance_id : Int) (address : String) : OwnedResource :=
  let mapping := "database-mapping " ++ address ++ "/32 locator-set " ++
    intent.lisp.locator_set.getD "rloc_fabric"
  { key := s!"multicast.overlay.lisp_mapping:{instance_id}"
    kind := "lisp_mapping"
    configured_lines := [mapping]
    remove_commands := _router_lisp_mapping_remove instance_id mapping
    gate_command := "show running-config | section ^router lisp"
    forbidden_lines := [mapping]
    remove_order := 800 }

def edge_svi_resource (pool : EndpointPool) : OwnedResource :=
  let vlan := "Vlan" ++ toString pool.vlan_id
  let lines := ["ip pim passive", "ip igmp version 3", "ip igmp explicit-tracking"]
  { key := "multicast.overlay.edge_svi:" ++ toString pool.vlan_id
    kind := "edge_svi"
    configured_lines := lines
    remove_commands := _interface_remove vlan lines
    gate_command := "show running-config | section ^interface " ++ vlan ++ "$"
    forbidden_lines := lines
    remove_order := 900 }

/-- PIM on the interface of a handoff of either side. -/
def handoff_pim_resource (key interface : String) : OwnedResource :=
  let lines := ["ip pim sparse-mode"]
  { key
    kind := "handoff_pim"
    configured_lines := lines
    remove_commands := _interface_remove interface lines
    gate_command := "show running-config | section ^interface " ++ interface ++ "$"
    forbidden_lines := lines
    remove_order := 900 }

def border_handoff_resource (vrf : String) (peer : HandoffPeer) : OwnedResource :=
  let vlan := peer.vlan_id
  handoff_pim_resource s!"multicast.overlay.border_handoff:{vrf}:{vlan}" peer.interface

def fusion_handoff_resource (vrf : String) (peer : HandoffPeer) : OwnedResource :=
  let vlan := peer.vlan_id
  handoff_pim_resource s!"multicast.overlay.fusion_handoff:{vrf}:{vlan}" s!"Vlan{vlan}"

/-- The handoffs that a test selects in a VRF, in the order of their VLANs. -/
def owned_peers (vrf : String) (selected : HandoffPeer → Bool) : List HandoffPeer :=
  sortedBy (·.vlan_id) ((handoff_peers_of intent).filter fun peer => selected peer && peer.vrf = vrf)

/-- What a policy owns on a device that has a segment loopback in it. -/
def segment_resources (policy : OverlayPolicy) (segment : String × String) : Py (List Owned) := do
  let (device_id, address) := segment
  let instance_id := policy.l3_instance_id
  let core_group ← require policy.core_group (KeyError "core_group")
  let node ← require (assoc.lookup device_id (all_nodes intent)) (KeyError device_id)
  let edges :=
    if "fabric_edge" ∈ node.roles then
      (pools_of intent policy.virtual_network).map edge_svi_resource
    else []
  let borders :=
    if "border" ∈ node.roles then
      (owned_peers intent policy.vrf (·.device_id = device_id)).map
        (border_handoff_resource policy.vrf)
    else []
  return ([segment_resource instance_id address, lisp_interface_resource instance_id core_group,
    lisp_mapping_resource intent instance_id address] ++ edges ++ borders).map (device_id, ·)

def fusion_resources (policy : OverlayPolicy) (fusion_id : String) : List Owned :=
  (owned_peers intent policy.vrf (·.fusion_node_id.getD "None" = fusion_id)).map fun peer =>
    (fusion_id, fusion_handoff_resource policy.vrf peer)

def policy_resources (policy : OverlayPolicy) : Py (List Owned) := do
  let group_range ← network_of policy.group_range
  let fusions := participating_fusion intent policy.vrf
  let participants := sortedSet ((segment_by_device policy).map Prod.fst ++ fusions)
  let common ← collect participants (participant_resources policy group_range)
  let segments ← collect (sortedBy Prod.fst (segment_by_device policy))
    (segment_resources intent policy)
  return common ++ segments ++ fusions.flatMap (fusion_resources intent policy)

/-! ## Flood groups -/

def bum_resource (pool : EndpointPool) (group : IPv4Address) : OwnedResource :=
  let l2_instance_id := pool.l2_instance_id
  let line := "broadcast-underlay " ++ group.str
  { key := s!"multicast.overlay.bum:{l2_instance_id}"
    kind := "l2_bum"
    configured_lines := [line]
    remove_commands := _router_lisp_bum_remove l2_instance_id group.str
    gate_command := "show running-config | section ^router lisp"
    forbidden_lines := [line]
    remove_order := 850 }

def bum_resources : List Owned :=
  let edge_ids := sortedTexts ((intent.devices.filter (Role.fabric_edge ∈ ·.roles)).map (·.id))
  (sortedBy (·.vlan_id) intent.endpoint_pools).flatMap fun pool =>
    match assoc.lookup pool.id (bum_groups intent) with
    | none => []
    | some group => edge_ids.map fun device_id => (device_id, bum_resource pool group)

/-! ## The manifest -/

/-- What a device owns. -/
structure OwnedDevice where
  device : Value
  resources : List OwnedResource

structure OwnedState where
  fabric_id : String
  intent_hash : String
  devices : List (String × OwnedDevice)

/-- The resources that an intent owns, in the order in which they are added. -/
def owned_resources : Py (List Owned) := do
  match intent.multicast with
  | none => return []
  | some multicast =>
    if intent.schema_version = .v1_2 && multicast.enabled && multicast.transport = .native then
      let policies ← collect (policies_of intent) (policy_resources intent)
      return rp_resources intent multicast ++ policies ++ bum_resources intent
    else return []

def normalized_device (resources : List Owned) (device_id : String) :
    Py (String × OwnedDevice) := do
  let ordered := sortedBy OwnedResource.key ((resources.filter (·.1 = device_id)).map Prod.snd)
  raise_if (¬ (ordered.map OwnedResource.key).Nodup)
    (ReconciliationError ("Duplicate owned multicast resource key on " ++ device_id))
  let node ← require (assoc.lookup device_id (all_nodes intent)) (KeyError device_id)
  return (device_id, ⟨node.descriptor, ordered⟩)

def build_multicast_owned_state (platform : Platform) : Py OwnedState := do
  let resources ← owned_resources intent
  let devices ← (sortedSet (resources.map Prod.fst)).mapM (normalized_device intent resources)
  return { fabric_id := intent.fabric.id, intent_hash := platform.sha256_json intent.document, devices }

end Resources

def OwnedDevice.document (platform : Platform) (device : OwnedDevice) : Value :=
  .dict [("device", device.device),
    ("resources", sections (OwnedResource.document platform) device.resources)]

def OwnedState.body (platform : Platform) (manifest : OwnedState) : List (String × Value) := [
  ("owned_state_schema_version", .str OWNED_STATE_SCHEMA_VERSION), ("scope", .str "multicast"),
  ("fabric_id", .str manifest.fabric_id), ("intent_hash", .str manifest.intent_hash),
  ("devices", .dict (manifest.devices.map fun (device_id, device) =>
    (device_id, device.document platform)))]

def OwnedState.document (platform : Platform) (manifest : OwnedState) : Value :=
  .dict (manifest.body platform ++
    [("manifest_hash", .str (platform.sha256_json (.dict (manifest.body platform))))])

end orchestrator.reconciliation
