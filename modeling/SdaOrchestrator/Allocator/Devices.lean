import SdaOrchestrator.Allocator.Requirements

open python ipaddress orchestrator.store

namespace orchestrator.allocator

open orchestrator.intent

/-! ## Platforms -/

/-- The runs of decimal digits of a text, as numbers, from the number that is being read. -/
def digit_runs : Option Nat → List Char → List Nat
  | reading, [] => reading.toList
  | reading, c :: rest =>
    match digitValue? c with
    | some digit => digit_runs (some (reading.getD 0 * 10 + digit)) rest
    | none => reading.toList ++ digit_runs none rest

/-- `_version_tuple(value)`. -/
def _version_tuple (value : String) : Py (List Nat) := do
  let numbers := digit_runs none (chars value)
  raise_if numbers.isEmpty (AllocationError s!"Software version {reprText value} is not comparable")
  return numbers.take 4

/-- `str(names)` of a list of texts. -/
def listed (names : List String) : String := "[" ++ join ", " (names.map reprText) ++ "]"

/-- `_platform_guardrail(device, policy)` of a platform, its software and the roles it is to have. -/
def _platform_guardrail (policy : Policy) (model software_version : String) (roles : List Role) : Py Unit := do
  let entry ← require (policy.platform_matrix.find? (·.model = model))
    (AllocationError s!"Platform {model} is not approved by guardrails")
  let unsupported := (roles.map Role.text).filter (· ∉ entry.roles)
  raise_if (!unsupported.isEmpty)
    (AllocationError s!"Platform {model} does not support requested roles {listed (sortedSet unsupported)}")
  let version ← _version_tuple software_version
  let min_ios_xe ← require entry.min_ios_xe (KeyError "min_ios_xe")
  raise_if (version < (← _version_tuple min_ios_xe))
    (AllocationError s!"Platform {model} requires IOS XE {min_ios_xe} or later")

section Derive

variable (upper : String → String) (policy : Policy) (domain : String)

/-! ## Devices and fusion nodes -/

/-- One device, after those of the given ids. -/
def derive_device (raw : DeviceRequest) (state : List String × Taken) : Py (Device × List String × Taken) := do
  raise_if (raw.id ∈ state.1) (AllocationError ("Duplicate device id " ++ raw.id))
  _platform_guardrail policy raw.platform raw.software_version raw.roles
  let prefix_len ← policy.prefix_len "loopbacks"
  let (loopback, taken) ← reserve_prefix policy.supernets domain "loopbacks" prefix_len state.2
  return ({
    id := raw.id
    hostname := upper (raw.hostname.getD raw.id)
    site := raw.site
    platform := raw.platform
    software_version := raw.software_version
    management_ip := raw.management_ip
    dashboard_management_ip := raw.dashboard_management_ip
    loopback0_ip := loopback.network_address
    roles := sortedBy Role.text raw.roles
    credential_ref := raw.credential_ref }, raw.id :: state.1, taken)

/-- The devices, in the order of their ids. -/
def derive_devices (raw_devices : List DeviceRequest) (taken : Taken) : Py (List Device × Taken) := do
  raise_if (raw_devices.length < 2) (AllocationError "At least two devices are required")
  let (devices, _, taken) ← thread (derive_device upper policy domain) (sortedBy (·.id) raw_devices) ([], taken)
  return (devices, taken)

/-- One fusion node, after those of the given ids. -/
def derive_fusion_node (device_ids : List String) (raw : FusionNode) (fusion_ids : List String) :
    Py (FusionNode × List String) := do
  raise_if (raw.id ∈ fusion_ids || raw.id ∈ device_ids) (AllocationError ("Duplicate fusion or device id " ++ raw.id))
  _platform_guardrail policy raw.platform raw.software_version [.fusion]
  return ({ raw with hostname := upper raw.hostname }, raw.id :: fusion_ids)

/-- The fusion nodes, in the order of their ids. -/
def derive_fusion_nodes (devices : List Device) (raw_fusion_nodes : List FusionNode) : Py (List FusionNode) := do
  let (fusion_nodes, _) ← thread (derive_fusion_node upper policy (devices.map (·.id)))
    (sortedBy (·.id) raw_fusion_nodes) []
  return fusion_nodes

/-! ## Links -/

/-- `list(subnet)[index]`. -/
def nth_address (subnet : IPv4Network) (index : Nat) : Py IPv4Address :=
  if index < subnet.num_addresses then .ok (.ofNat (subnet.network_address.value + index))
  else .error (IndexError "list index out of range")

/-- One link of two devices. -/
def derive_link (devices : List Device) ( p2p_prefix : Int) (raw : LinkRequest) (taken : Taken) : Py (Link × Taken) := do
  let endpoints := sortedBy (fun item => toLex (item.device_id, item.interface)) raw.endpoints
  raise_if (endpoints.length ≠ 2) (AllocationError s!"Link {raw.id} must have exactly two endpoints")
  raise_if (endpoints.any fun item => item.device_id ∉ devices.map (·.id))
    (AllocationError s!"Link {raw.id} references an unknown device")
  let (subnet, taken) ← reserve_prefix policy.supernets domain "underlay_p2p" p2p_prefix taken
  let addressed ← endpoints.zipIdx.mapM fun (endpoint, index) => do
    return {
      device_id := endpoint.device_id
      interface := endpoint.interface
      ip := ← nth_address subnet index : LinkEndpoint }
  return ({
    id := raw.id
    subnet := subnet.str
    pim_sparse_mode := raw.pim_sparse_mode
    bfd := raw.bfd
    endpoints := addressed }, taken)

/-- The links, in the order of their ids. -/
def derive_links (devices : List Device) (raw_links : List LinkRequest) (taken : Taken) : Py (List Link × Taken) := do
  let p2p_prefix ← policy.prefix_len "underlay_p2p"
  thread (derive_link policy domain devices p2p_prefix) (sortedBy (·.id) raw_links) taken

/-! ## Virtual networks -/

/-- The ASN and the virtual networks with their pools. -/
def derive_overlay (devices : List Device) (speaks_bgp : Bool) (raw_vns : List VirtualNetworkRequest)
    (taken : Taken) : Py ((Int × List (VirtualNetwork × List EndpointPool)) × Taken) := do
  let (local_as, taken) ← derive_local_as policy.toGuardrails domain speaks_bgp taken
  let l3_range ← policy.range "l3_instance_id"
  let vlan_range ← policy.range "vlan_id"
  let l2_range ← policy.range "l2_instance_id"
  let l2_base ← require l2_range.base (KeyError "base")
  let l2_max := l2_range.max.getD 16777215
  let (derived, taken) ← thread
    (derive_virtual_network policy.toGuardrails domain devices local_as l3_range vlan_range l2_base l2_max)
    (sortedBy (·.name) raw_vns) taken
  return ((local_as, derived), taken)

end Derive

/-! ## Endpoint attachments -/

/-- `devices_by_id.get(device_id)`. -/
def device_by_id (devices : List Device) (device_id : String) : Option Device :=
  assoc.lookup device_id (dict_of (devices.map fun device => (device.id, device)))

/-- `endpoint_pools_by_key.get((site, virtual_network))`. -/
def pool_by_key (pools : List EndpointPool) (site virtual_network : String) : Option EndpointPool :=
  assoc.lookup (site, virtual_network) (dict_of (pools.map fun pool => ((pool.site, pool.virtual_network), pool)))

/-- `fabric_link_interfaces`. -/
def fabric_link_interfaces (links : List Link) : List (String × String) :=
  links.flatMap fun link => link.endpoints.map fun endpoint => (endpoint.device_id, endpoint.interface)

/-- One attachment, after those of the given ids and interfaces. -/
def derive_attachment (devices : List Device) (links : List Link) (pools : List EndpointPool)
    (raw : AttachmentRequest) (state : List String × List (String × String)) :
    Py (EndpointAttachment × List String × List (String × String)) := do
  raise_if (raw.id ∈ state.1) (AllocationError ("Duplicate endpoint attachment id " ++ raw.id))
  raise_if ((raw.device_id, raw.interface) ∈ state.2)
    (AllocationError s!"Duplicate endpoint attachment interface {raw.device_id} {raw.interface}")
  let not_an_edge := AllocationError s!"Endpoint attachment {raw.id} must reference a fabric-edge device"
  let device ← require (device_by_id devices raw.device_id) not_an_edge
  raise_if (Role.fabric_edge ∉ device.roles) not_an_edge
  raise_if (device.site ≠ raw.site)
    (AllocationError s!"Endpoint attachment {raw.id} site does not match device site")
  raise_if ((raw.device_id, raw.interface) ∈ fabric_link_interfaces links)
    (AllocationError s!"Endpoint attachment {raw.id} cannot reuse a fabric link interface")
  let pool ← require (pool_by_key pools raw.site raw.virtual_network)
    (AllocationError s!"Endpoint attachment {raw.id} references an unknown site virtual network")
  return ({
    id := raw.id
    device_id := raw.device_id
    interface := raw.interface
    site := raw.site
    virtual_network := raw.virtual_network
    endpoint_pool_id := pool.id
    vlan_id := pool.vlan_id
    description := raw.description }, raw.id :: state.1, (raw.device_id, raw.interface) :: state.2)

/-- The attachments, in the order of their ids. -/
def derive_attachments (devices : List Device) (links : List Link) (pools : List EndpointPool)
    (raw_attachments : List AttachmentRequest) : Py (List EndpointAttachment) := do
  let (attachments, _) ← thread (derive_attachment devices links pools) (sortedBy (·.id) raw_attachments) ([], [])
  return attachments

end orchestrator.allocator
