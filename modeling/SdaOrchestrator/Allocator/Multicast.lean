import SdaOrchestrator.Allocator.Services

open python ipaddress orchestrator.store

namespace orchestrator.allocator

open orchestrator.intent

theorem ssm_no_host_bits : 2 ^ (32 - 8) ∣ (IPv4Address.ofOctets 232 0 0 0).value := ⟨232, rfl⟩

theorem multicast_no_host_bits : 2 ^ (32 - 4) ∣ (IPv4Address.ofOctets 224 0 0 0).value := ⟨14, rfl⟩

theorem ssm_prefixlen_le : 8 ≤ 32 := by omega

theorem multicast_prefixlen_le : 4 ≤ 32 := by omega

/-- `_network("232.0.0.0/8")`. -/
def ssm_space : IPv4Network where
  network_address := .ofOctets 232 0 0 0
  prefixlen := 8
  prefixlen_le := ssm_prefixlen_le
  no_host_bits := ssm_no_host_bits

/-- `_network("224.0.0.0/4")`. -/
def multicast_space : IPv4Network where
  network_address := .ofOctets 224 0 0 0
  prefixlen := 4
  prefixlen_le := multicast_prefixlen_le
  no_host_bits := multicast_no_host_bits

/-- `next(iter(sorted(set(names) - set(known))), None)`: the name that a report of unknown names gives. -/
def first_unknown (names known : List String) : Option String := (sortedSet (names.filter (· ∉ known))).head?

/-- `if unknown: raise AllocationError(report.format(unknown[0]))`. -/
def refuse (unknown : Option String) (report : String → String) : Py Unit :=
  match unknown with
  | some name => .error (AllocationError (report name))
  | none => .ok ()

/-- `address + offset` of an IPv4 address. -/
def plus (address : IPv4Address) (offset : Nat) : Py IPv4Address :=
  if address.value + offset < 2 ^ 32 then .ok (.ofNat (address.value + offset))
  else .error ⟨"AddressValueError", s!"{address.value + offset} (>= 2**32) is not permitted as an IPv4 address"⟩

section Derive

variable (platform : Platform) (upper : String → String) (policy : Policy) (domain : String)

/-- `sha256_json(value)[:12].upper()`. -/
def digest_label (value : Value) : String := upper (take 12 (platform.sha256_json value))

/-! ## The rendezvous point of the underlay -/

/-- The address that the RP devices share, where the fabric has one. -/
def derive_underlay_rp (environment : Environment) (raw : MulticastRequest) (rp_device_ids : List String)
    (taken : Taken) : Py (Option IPv4Address × Taken) := do
  if raw.enabled && raw.rp_mode ≠ .none then
    let _ ← policy.require_pool "multicast_rp"
    raise_if rp_device_ids.isEmpty (AllocationError "Enabled ASM multicast requires RP devices")
    raise_if (raw.rp_mode = .anycast && environment = .production && rp_device_ids.length < 2)
      (AllocationError "Production Anycast-RP requires at least two RP devices")
    let prefix_len ← policy.prefix_len_or_host "multicast_rp"
    let ( rp_prefix, taken) ← reserve_prefix policy.supernets domain "multicast_rp" prefix_len taken
    return (some rp_prefix.network_address, taken)
  else return (none, taken)

/-! ## The core groups -/

/-- The prefix length of the core groups and how many groups each prefix has, where the policies have any. -/
def core_group_shape (raw : MulticastRequest) : Py (Option (Int × Int)) := do
  if raw.enabled && raw.transport = .native && !(raw.overlay_policies.getD []).isEmpty then
    let _ ← policy.require_pool "multicast_core_groups"
    let core_supernet ← policy.supernet "multicast_core_groups"
    raise_if (!core_supernet.subnet_of ssm_space)
      (AllocationError "Guardrail pool multicast_core_groups must be inside 232.0.0.0/8")
    let core_prefix_len ← policy.prefix_len "multicast_core_groups"
    raise_if (core_prefix_len < core_supernet.prefixlen || 32 < core_prefix_len)
      (AllocationError "Guardrail multicast_core_groups prefix_len is invalid")
    let count := policy.core_group_usable_count.getD 1000
    raise_if (count < 1 || 2 ^ (32 - core_prefix_len).toNat - 1 < count)
      (AllocationError "Guardrail multicast_core_groups usable_count does not fit its prefix")
    return some (core_prefix_len, count)
  else return none

/-- The core group of one overlay policy. -/
def derive_core_group (shape : Option (Int × Int)) (taken : Taken) : Py (Option CoreGroup × Taken) := do
  match shape with
  | none => return (none, taken)
  | some (core_prefix_len, count) =>
    let ( core_prefix, taken) ← reserve_prefix policy.supernets domain "multicast_core_groups" core_prefix_len taken
    return (some { pfx := core_prefix.str, start := ← plus core_prefix.network_address 1, count }, taken)

/-! ## The overlay policies -/

/-- The loopback of one device in the VRF of a policy. -/
def derive_segment (device : Device) (taken : Taken) : Py (SegmentLoopback × Taken) := do
  let prefix_len ← policy.prefix_len_or_host "multicast_overlay_loopbacks"
  let ( segment_prefix, taken) ←
    reserve_prefix policy.supernets domain "multicast_overlay_loopbacks" prefix_len taken
  raise_if ( segment_prefix.prefixlen ≠ 32)
    (AllocationError "Guardrail multicast_overlay_loopbacks must allocate /32 addresses")
  return ({ device_id := device.id, address := segment_prefix.network_address }, taken)

/-- The mode that the selections of the request give a virtual network. -/
def expected_mode (raw : MulticastRequest) (virtual_network : String) : OverlayMode :=
  if virtual_network ∈ raw.asm_virtual_networks then .asm else .ssm

/-- The groups of a policy, which its mode admits. -/
def group_range_of (ssm_range : IPv4Network) (raw : OverlayPolicyRequest) : Py IPv4Network := do
  let group_range ← _network raw.group_range
  raise_if (!group_range.subnet_of multicast_space)
    (AllocationError s!"Multicast overlay policy {raw.virtual_network} group_range is not multicast")
  raise_if (raw.mode = .ssm && !group_range.subnet_of ssm_range)
    (AllocationError s!"SSM policy {raw.virtual_network} group_range must be inside {ssm_range.str}")
  raise_if (raw.mode = .asm && group_range.overlaps ssm_space)
    (AllocationError s!"ASM policy {raw.virtual_network} group_range cannot overlap SSM space")
  return group_range

/-- The rendezvous point of an ASM policy, and the prefix that covers it. -/
def overlay_rp_of (raw : OverlayPolicyRequest) : Py (Option IPv4Address × Option String) := do
  if raw.mode = .asm then
    let overlay_rp_address ← require raw.rp_address (KeyError "rp_address")
    let rp_prefix ← _network (← require raw.rp_prefix (KeyError "rp_prefix"))
    raise_if (overlay_rp_address.is_multicast || overlay_rp_address ∉ rp_prefix)
      (AllocationError s!"ASM policy {raw.virtual_network} RP address must be unicast and inside rp_prefix")
    return (some overlay_rp_address, some rp_prefix.str)
  else return (none, none)

/-- One overlay policy, after those of the given virtual networks. -/
def derive_overlay_policy (multicast : MulticastRequest) (ssm_range : IPv4Network) (vns : List VirtualNetwork)
    (multicast_devices : List Device) (shape : Option (Int × Int)) (raw : OverlayPolicyRequest)
    (state : List String × Taken) : Py (OverlayPolicy × List String × Taken) := do
  raise_if (raw.virtual_network ∈ state.1)
    (AllocationError s!"Duplicate multicast overlay policy for virtual network {raw.virtual_network}")
  let vn ← require (vn_by_name vns raw.virtual_network)
    (AllocationError s!"Multicast overlay policy references unknown virtual network {raw.virtual_network}")
  raise_if (raw.virtual_network ∉ multicast.asm_virtual_networks ++ multicast.ssm_virtual_networks)
    (AllocationError s!"Multicast overlay policy {raw.virtual_network} is absent from ASM/SSM selections")
  raise_if (raw.mode ≠ expected_mode multicast raw.virtual_network)
    (AllocationError s!"Multicast overlay policy {raw.virtual_network} mode does not match ASM/SSM selection")
  let group_range ← group_range_of ssm_range raw
  let identity : Value := .dict [
    ("vrf", .str vn.vrf), ("mode", .str raw.mode.text), ("group_range", .str group_range.str)]
  let (rp_address, rp_prefix) ← overlay_rp_of raw
  let (segment_loopbacks, taken) ← thread (derive_segment policy domain) multicast_devices state.2
  let (core_group, taken) ← derive_core_group policy domain shape taken
  return ({
    virtual_network := raw.virtual_network
    vrf := vn.vrf
    l3_instance_id := vn.l3_instance_id
    mode := raw.mode
    group_range := group_range.str
    access_list := "SDA-MCAST-" ++ digest_label platform upper identity
    rp_address
    rp_prefix
    segment_loopbacks
    core_group }, raw.virtual_network :: state.1, taken)

/-! ## The groups of the layer 2 segments -/

/-- The group of one endpoint pool. -/
def derive_bum_group (endpoint_pool : EndpointPool) (taken : Taken) : Py (BumGroup × Taken) := do
  let ( bum_prefix, taken) ← reserve_prefix policy.supernets domain "multicast_bum_groups" 32 taken
  return ({
    endpoint_pool_id := endpoint_pool.id
    l2_instance_id := endpoint_pool.l2_instance_id
    vlan_id := endpoint_pool.vlan_id
    group := bum_prefix.network_address }, taken)

/-- The groups of the endpoint pools of a fabric with native transport, in the order of their L2 instances. -/
def derive_bum_groups (raw : MulticastRequest) (pools : List EndpointPool) (taken : Taken) :
    Py (List BumGroup × Taken) := do
  if raw.enabled && raw.transport = .native then
    let bum_pool ← policy.require_pool "multicast_bum_groups"
    let bum_supernet ← policy.supernet "multicast_bum_groups"
    raise_if (!bum_supernet.subnet_of multicast_space || bum_supernet.overlaps ssm_space)
      (AllocationError "Guardrail pool multicast_bum_groups must be ASM multicast space")
    raise_if (bum_pool.prefix_len.getD 32 ≠ 32)
      (AllocationError "Guardrail multicast_bum_groups must allocate /32 groups")
    thread (derive_bum_group policy domain) (sortedBy (·.l2_instance_id) pools) taken
  else return ([], taken)

/-! ## The whole section -/

/-- The devices that take part in the overlay multicast. -/
def multicast_devices (devices : List Device) : List Device :=
  sortedBy (·.id) (devices.filter fun device => Role.border ∈ device.roles || Role.fabric_edge ∈ device.roles)

/-- What the request selects names borders, virtual networks and links that fit. -/
def check_selections (devices : List Device) (links : List Link) (vns : List VirtualNetwork)
    (raw : MulticastRequest) : Py Unit := do
  let border_ids := (devices.filter (Role.border ∈ ·.roles)).map (·.id)
  refuse (first_unknown (raw.rp_device_ids.getD []) border_ids) fun name =>
    s!"Multicast RP device {name} is not a border"
  refuse (first_unknown (raw.asm_virtual_networks ++ raw.ssm_virtual_networks) (vns.map (·.name))) fun name =>
    s!"Multicast references unknown virtual network {name}"
  refuse ((sortedSet (raw.asm_virtual_networks.filter (· ∈ raw.ssm_virtual_networks))).head?) fun name =>
    s!"Virtual network {name} cannot use both ASM and SSM"
  raise_if (raw.enabled && raw.transport = .native && links.any fun link => link.pim_sparse_mode ≠ some true)
    (AllocationError "Native multicast requires PIM sparse mode on every fabric link")

/-- The overlay policies go with the rest of the request and with the devices. -/
def check_overlay_request (devices : List Device) (raw : MulticastRequest)
    (raw_overlay_policies : List OverlayPolicyRequest) : Py Unit := do
  let selected := !raw.asm_virtual_networks.isEmpty || !raw.ssm_virtual_networks.isEmpty
  raise_if (raw.enabled && selected && raw_overlay_policies.isEmpty)
    (AllocationError "Enabled overlay multicast requires explicit per-VN overlay_policies")
  raise_if (!raw.enabled && !raw_overlay_policies.isEmpty)
    (AllocationError "Disabled multicast cannot declare overlay_policies")
  raise_if (raw.enabled && !raw_overlay_policies.isEmpty && (multicast_devices devices).isEmpty)
    (AllocationError "Overlay multicast requires at least one border or fabric-edge device")
  raise_if (!raw_overlay_policies.isEmpty && (assoc.lookup "multicast_overlay_loopbacks" policy.supernets).isNone)
    (AllocationError "Guardrail pool multicast_overlay_loopbacks is missing")

/-- The multicast section. -/
def derive_multicast (environment : Environment) (devices : List Device) (links : List Link)
    (vns : List VirtualNetwork) (pools : List EndpointPool) (raw : MulticastRequest) (taken : Taken) :
    Py (Multicast × Taken) := do
  check_selections devices links vns raw
  let rp_device_ids := sortedTexts (raw.rp_device_ids.getD [])
  let (underlay_rp_address, taken) ← derive_underlay_rp policy domain environment raw rp_device_ids taken
  let ssm_range ← _network (raw.ssm_range.getD "232.0.0.0/8")
  raise_if (!ssm_range.subnet_of ssm_space) (AllocationError "Multicast ssm_range must be inside 232.0.0.0/8")
  let raw_overlay_policies := raw.overlay_policies.getD []
  check_overlay_request policy devices raw raw_overlay_policies
  let shape ← core_group_shape policy raw
  let (overlay_policies, _, taken) ← thread
    (derive_overlay_policy platform upper policy domain raw ssm_range vns (multicast_devices devices) shape)
    (sortedBy (·.virtual_network) raw_overlay_policies) ([], taken)
  refuse (first_unknown (raw.asm_virtual_networks ++ raw.ssm_virtual_networks)
    (overlay_policies.map (·.virtual_network))) fun name =>
      s!"Missing multicast overlay policy for virtual network {name}"
  let (l2_bum_groups, taken) ← derive_bum_groups policy domain raw pools taken
  return ({
    enabled := raw.enabled
    transport := raw.transport
    rp_mode := raw.rp_mode
    rp_address := underlay_rp_address
    rp_device_ids := some rp_device_ids
    asm_virtual_networks := sortedTexts raw.asm_virtual_networks
    ssm_virtual_networks := sortedTexts raw.ssm_virtual_networks
    ssm_range := some ssm_range.str
    overlay_policies := some overlay_policies
    l2_bum_groups := some l2_bum_groups }, taken)

end Derive

end orchestrator.allocator
