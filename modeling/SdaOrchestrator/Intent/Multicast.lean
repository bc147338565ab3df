import SdaOrchestrator.Intent.Handoff

open python ipaddress

namespace orchestrator.intent

/-- `ip_network("232.0.0.0/8")`. -/
def ssm_space : IPv4Network := ⟨.ofOctets 232 0 0 0, 8, by decide, by decide⟩

/-- `ip_network("224.0.0.0/4")`. -/
def multicast_space : IPv4Network := ⟨.ofOctets 224 0 0 0, 4, by decide, by decide⟩

/-- Both lists hold the same values. -/
def same_set {α : Type*} [DecidableEq α] (first second : List α) : Bool :=
  first.all (· ∈ second) && second.all (· ∈ first)

theorem same_set_iff {α : Type*} [DecidableEq α] {first second : List α} :
    same_set first second ↔ ∀ x, x ∈ first ↔ x ∈ second := by
  rw [same_set, Bool.and_eq_true, List.all_eq_true, List.all_eq_true]
  simp only [decide_eq_true_eq]
  exact ⟨fun h x => ⟨h.1 x, h.2 x⟩, fun h => ⟨fun x => (h x).mp, fun x => (h x).mpr⟩⟩

/-- The multicast section, which schema version 1.2 alone admits. -/
def FabricIntent.multicast_context (intent : FabricIntent) : Option Multicast :=
  if intent.schema_version = .v1_2 then intent.multicast else none

def FabricIntent.multicast_enabled (intent : FabricIntent) : Bool :=
  intent.multicast_context.any (·.enabled)

/-- Native multicast transport is selected. -/
def FabricIntent.native_transport (intent : FabricIntent) : Bool :=
  intent.multicast_context.any (·.transport = .native)

def FabricIntent.rp_mode (intent : FabricIntent) : Option RpMode :=
  intent.multicast_context.map (·.rp_mode)

def FabricIntent.rp_device_ids (intent : FabricIntent) : List String :=
  (intent.multicast_context.bind (·.rp_device_ids)).getD []

def FabricIntent.asm_vns (intent : FabricIntent) : List String :=
  (intent.multicast_context.map (·.asm_virtual_networks)).getD []

def FabricIntent.ssm_vns (intent : FabricIntent) : List String :=
  (intent.multicast_context.map (·.ssm_virtual_networks)).getD []

def FabricIntent.ssm_range (intent : FabricIntent) : Option IPv4Network :=
  ipv4_network (intent.multicast_context.bind (·.ssm_range))

def FabricIntent.overlay_policies (intent : FabricIntent) : List OverlayPolicy :=
  (intent.multicast_context.bind (·.overlay_policies)).getD []

def FabricIntent.l2_bum_groups (intent : FabricIntent) : List BumGroup :=
  (intent.multicast_context.bind (·.l2_bum_groups)).getD []

/-! ## Rendezvous points and modes -/

def rp_issues (intent : FabricIntent) : List ValidationIssue :=
  intent.rp_device_ids.zipIdx.flatMap (fun (rp_device_id, index) =>
      let path := s!"$.multicast.rp_device_ids[{index}]"
      if rp_device_id ∉ (device_ids intent.devices).map Prod.fst then
        _add "reference.device" path ("Unknown RP device " ++ reprText rp_device_id)
      else add_if (!has_role intent.devices rp_device_id .border) "multicast.rp.not_border" path
        "Multicast RP devices must be border nodes") ++
    (if intent.multicast_enabled && intent.rp_mode ∈ [some .anycast, some .static] then
      _ipv4_address (intent.multicast_context.bind (·.rp_address)) "$.multicast.rp_address"
    else []) ++
    add_if (intent.multicast_enabled && intent.rp_mode = some .anycast &&
        intent.metadata.environment = .production && intent.rp_device_ids.length < 2)
      "ha.multicast_rp" "$.multicast.rp_device_ids"
      "Production Anycast-RP requires at least two border nodes"

/-- The multicast section of the fabric repeats what the top level says. -/
def alignment_issues (intent : FabricIntent) : List ValidationIssue :=
  let fabric := intent.fabric.multicast
  let multicast := intent.multicast_context
  let misaligned (differs : Bool) (field : String) : List ValidationIssue :=
    add_if differs "multicast.fabric_alignment" s!"$.fabric.multicast.{field}"
      s!"Fabric multicast {field} must match the top-level multicast intent"
  _mapping fabric "$.fabric.multicast" ++
    misaligned (fabric.map (·.enabled) ≠ multicast.map (·.enabled)) "enabled" ++
    misaligned (fabric.bind (·.transport) ≠ multicast.map (·.transport)) "transport" ++
    misaligned (fabric.bind (·.rp_address) ≠ multicast.bind (·.rp_address)) "rp_address" ++
    add_if (sortedTexts ((fabric.bind (·.rp_device_ids)).getD []) ≠ sortedTexts intent.rp_device_ids)
      "multicast.fabric_alignment" "$.fabric.multicast.rp_device_ids"
      "Fabric multicast RP devices must match the top-level multicast intent"

def mode_issues (intent : FabricIntent) : List ValidationIssue :=
  (if intent.multicast_enabled && intent.native_transport then
    intent.links.zipIdx.flatMap fun (link, index) =>
      add_if (link.pim_sparse_mode ≠ some true) "multicast.native.pim_required"
        s!"$.links[{index}].pim_sparse_mode"
        "Native multicast requires PIM sparse mode on every fabric link"
  else []) ++
    _ipv4_network (intent.multicast_context.bind (·.ssm_range)) "$.multicast.ssm_range" ++
    add_if (intent.ssm_range.any fun range => !range.subnet_of ssm_space) "multicast.ssm_range"
      "$.multicast.ssm_range" "SSM range must be inside 232.0.0.0/8" ++
    add_if (intent.multicast_enabled && !intent.asm_vns.isEmpty && intent.rp_mode = some .none)
      "multicast.asm.rp_required" "$.multicast.rp_mode"
      "ASM virtual networks require a static or Anycast rendezvous point" ++
    (sortedSet (intent.asm_vns ++ intent.ssm_vns)).flatMap (fun vn_name =>
      add_if (vn_name ∉ (vn_names intent.virtual_networks).map Prod.fst)
        "reference.virtual_network" "$.multicast"
        ("Unknown multicast virtual network " ++ reprText vn_name)) ++
    (sortedSet (intent.asm_vns.filter (· ∈ intent.ssm_vns))).flatMap fun vn_name =>
      _add "multicast.mode_conflict" "$.multicast"
        ("Virtual network " ++ reprText vn_name ++ " cannot use both ASM and SSM")

/-! ## Overlay policies -/

/-- `vn_context`: the virtual networks by their names. -/
def vn_context (vns : List VirtualNetwork) : List (String × VirtualNetwork) :=
  dict_of ((vns.filter (·.name ≠ "")).map fun vn => (vn.name, vn))

/-- `expected_multicast_devices`. -/
def expected_multicast_devices (devices : List Device) : List String :=
  ((device_roles devices).filter fun entry =>
    .border ∈ entry.2 || .fabric_edge ∈ entry.2).map Prod.fst

def OverlayPolicy.vn_name (policy : OverlayPolicy) : Option String :=
  required_string policy.virtual_network

def OverlayPolicy.group_network (policy : OverlayPolicy) : Option IPv4Network :=
  ipv4_network policy.group_range

/-- The prefix of the core group of a policy. -/
def OverlayPolicy.core_network (policy : OverlayPolicy) : Option IPv4Network :=
  ipv4_network (policy.core_group.map (·.pfx))

/-- The segment-loopback addresses of the policies, with the path of each. -/
def segment_addresses (policies : List OverlayPolicy) : List (IPv4Address × String) :=
  policies.zipIdx.flatMap fun (policy, index) =>
    declared (fun position =>
        s!"$.multicast.overlay_policies[{index}].segment_loopbacks[{position}].address")
      (fun loopback : SegmentLoopback => some loopback.address) policy.segment_loopbacks

def segment_issues (devices : List Device) (policies : List OverlayPolicy) (path : String)
    (earlier : List SegmentLoopback) (loopback : SegmentLoopback) : List ValidationIssue :=
  let index := earlier.length
  let loopback_path := s!"{path}.segment_loopbacks[{index}]"
  let device_id := required_string loopback.device_id
  let seen := segment_addresses policies ++
    declared (fun index => s!"{path}.segment_loopbacks[{index}].address")
      (fun loopback : SegmentLoopback => some loopback.address) earlier
  _required_string loopback.device_id s!"{loopback_path}.device_id" ++
    add_if (device_id ∈ earlier.map fun loopback => required_string loopback.device_id)
      "unique.duplicate" s!"{loopback_path}.device_id"
      "Duplicate multicast segment-loopback device" ++
    add_if (device_id.all (· ∉ expected_multicast_devices devices))
      "multicast.overlay.loopback_device" s!"{loopback_path}.device_id"
      "Segment loopbacks are allowed only on border and fabric-edge devices" ++
    _check_duplicate seen (some loopback.address) s!"{loopback_path}.address"
      "multicast segment-loopback address"

/-- The virtual network of a policy agrees with what the policy says of it. -/
def policy_network_issues (intent : FabricIntent) (earlier : List OverlayPolicy) (path : String)
    (policy : OverlayPolicy) : List ValidationIssue :=
  let names := declared (fun index => s!"$.multicast.overlay_policies[{index}].virtual_network")
    OverlayPolicy.vn_name earlier
  match policy.vn_name with
  | none => []
  | some vn_name =>
    let expected_mode : Option OverlayMode :=
      if vn_name ∈ intent.asm_vns then some .asm
      else if vn_name ∈ intent.ssm_vns then some .ssm else none
    _check_duplicate names (some vn_name) s!"{path}.virtual_network"
        "multicast overlay virtual network" ++
      (match assoc.lookup vn_name (vn_context intent.virtual_networks) with
      | none =>
        _add "reference.virtual_network" s!"{path}.virtual_network"
          ("Unknown multicast virtual network " ++ reprText vn_name)
      | some vn =>
        add_if (required_string policy.vrf ≠ some vn.vrf) "multicast.overlay.vrf_mismatch"
            s!"{path}.vrf" "Multicast overlay VRF must match the virtual network" ++
          add_if (integer policy.l3_instance_id 1 16777215 ≠ some vn.l3_instance_id)
            "multicast.overlay.instance_mismatch" s!"{path}.l3_instance_id"
            "Multicast overlay instance ID must match the virtual network") ++
      add_if (some policy.mode ≠ expected_mode) "multicast.overlay.mode_mismatch" s!"{path}.mode"
        "Multicast overlay mode must match the ASM/SSM selection"

def group_range_issues (ssm_range : Option IPv4Network) (path : String) (policy : OverlayPolicy) :
    List ValidationIssue :=
  let range := policy.group_network
  add_if (range.any fun range => !range.subnet_of multicast_space) "multicast.overlay.group_range"
      s!"{path}.group_range" "Overlay group range must be an IPv4 multicast prefix" ++
    add_if (policy.mode = .ssm && range.any fun range => ssm_range.any fun ssm => !range.subnet_of ssm)
      "multicast.overlay.ssm_range" s!"{path}.group_range"
      "SSM overlay group range must be inside the fabric SSM range" ++
    add_if (policy.mode = .asm && range.any (·.overlaps ssm_space)) "multicast.overlay.asm_range"
      s!"{path}.group_range" "ASM overlay group range cannot overlap SSM space"

def overlay_rp_issues (path : String) (policy : OverlayPolicy) : List ValidationIssue :=
  match policy.mode with
  | .asm =>
    _ipv4_address policy.rp_address s!"{path}.rp_address" ++
      _ipv4_network policy.rp_prefix s!"{path}.rp_prefix" ++
      add_if (policy.rp_address.any (·.is_multicast)) "multicast.overlay.rp_address"
        s!"{path}.rp_address" "Overlay RP address must be unicast" ++
      add_if (policy.rp_address.any fun address => outside (ipv4_network policy.rp_prefix) address)
        "multicast.overlay.rp_prefix" s!"{path}.rp_address"
        "Overlay RP address must be inside rp_prefix"
  | .ssm =>
    add_if (policy.rp_address.isSome || policy.rp_prefix.isSome) "multicast.overlay.rp_unexpected"
      path "SSM overlay policy cannot declare an RP"

/-- The prefixes of the core groups of the policies, with the path of each. -/
def core_group_prefixes (policies : List OverlayPolicy) : List (String × IPv4Network) :=
  policies.zipIdx.filterMap fun (policy, index) =>
    policy.core_network.map (s!"$.multicast.overlay_policies[{index}].core_group.prefix", ·)

def core_group_issues (native : Bool) (earlier : List OverlayPolicy) (path : String)
    (policy : OverlayPolicy) : List ValidationIssue :=
  if native then
    let group := policy.core_group
    let count := (group.map (·.count)).bind fun count => integer count 1 16777214
    _mapping group s!"{path}.core_group" ++
      _ipv4_network (group.map (·.pfx)) s!"{path}.core_group.prefix" ++
      _ipv4_address (group.map (·.start)) s!"{path}.core_group.start" ++
      _integer (group.map (·.count)) s!"{path}.core_group.count" 1 16777214 ++
      match policy.core_network with
      | none => []
      | some network =>
        add_if (!network.subnet_of ssm_space) "multicast.overlay.core_group_range"
            s!"{path}.core_group.prefix"
            "Native transport core groups must be inside 232.0.0.0/8" ++
          (core_group_prefixes earlier).flatMap (fun (previous_path, previous) =>
            add_if (network.overlaps previous) "multicast.overlay.core_group_overlap"
              s!"{path}.core_group.prefix" s!"Core group prefix overlaps {previous_path}") ++
          add_if ((group.map (·.start)).any (· ≠ .ofNat (network.network_address.value + 1)))
            "multicast.overlay.core_group_start" s!"{path}.core_group.start"
            "Core group start must be the first address after the network boundary" ++
          add_if (count.any ((network.num_addresses : Int) - 1 < ·)) "multicast.overlay.core_group_count"
            s!"{path}.core_group.count" "Core group count exceeds the reserved prefix"
  else
    add_if policy.core_group.isSome "multicast.overlay.core_group_unexpected" s!"{path}.core_group"
      "Head-end replication cannot declare native core groups"

def overlay_policy_issues (intent : FabricIntent) (earlier : List OverlayPolicy)
    (policy : OverlayPolicy) : List ValidationIssue :=
  let index := earlier.length
  let path := s!"$.multicast.overlay_policies[{index}]"
  let access_lists := declared (fun index => s!"$.multicast.overlay_policies[{index}].access_list")
    (fun policy : OverlayPolicy => required_string policy.access_list) earlier
  let access_list := required_string policy.access_list
  _required_string policy.virtual_network s!"{path}.virtual_network" ++
    _required_string policy.access_list s!"{path}.access_list" ++
    _check_duplicate access_lists access_list s!"{path}.access_list"
      "multicast overlay access list" ++
    add_if (access_list.any fun name => !access_list_pattern.fullmatch name)
      "multicast.overlay.access_list" s!"{path}.access_list"
      "Multicast access-list name must be an owned deterministic name" ++
    _required_string policy.vrf s!"{path}.vrf" ++
    _integer policy.l3_instance_id s!"{path}.l3_instance_id" 1 16777215 ++
    _ipv4_network policy.group_range s!"{path}.group_range" ++
    policy_network_issues intent earlier path policy ++
    group_range_issues intent.ssm_range path policy ++ overlay_rp_issues path policy ++
    each policy.segment_loopbacks (segment_issues intent.devices earlier path) ++
    add_if (!same_set (policy.segment_loopbacks.map fun loopback => required_string loopback.device_id)
        ((expected_multicast_devices intent.devices).map some))
      "multicast.overlay.loopback_membership" s!"{path}.segment_loopbacks"
      "Every border and fabric-edge device requires one segment loopback" ++
    core_group_issues intent.native_transport earlier path policy

/-! ## Groups for broadcast, unknown unicast and multicast -/

def bum_group_issues (pools : List EndpointPool) (earlier : List BumGroup) (group : BumGroup) :
    List ValidationIssue :=
  let index := earlier.length
  let path := s!"$.multicast.l2_bum_groups[{index}]"
  let bum_pool_ids := declared (fun index => s!"$.multicast.l2_bum_groups[{index}].endpoint_pool_id")
    (fun group : BumGroup => required_string group.endpoint_pool_id) earlier
  let bum_addresses := declared (fun index => s!"$.multicast.l2_bum_groups[{index}].group")
    (fun group : BumGroup => some group.group) earlier
  _required_string group.endpoint_pool_id s!"{path}.endpoint_pool_id" ++
    _integer group.l2_instance_id s!"{path}.l2_instance_id" 1 16777215 ++
    _integer group.vlan_id s!"{path}.vlan_id" 1 4094 ++
    (match required_string group.endpoint_pool_id with
    | none => []
    | some pool_id =>
      _check_duplicate bum_pool_ids (some pool_id) s!"{path}.endpoint_pool_id"
          "L2 BUM endpoint pool" ++
        match assoc.lookup pool_id (pool_context pools) with
        | none =>
          _add "reference.endpoint_pool" s!"{path}.endpoint_pool_id"
            ("Unknown endpoint pool " ++ reprText pool_id)
        | some pool =>
          add_if (integer group.l2_instance_id 1 16777215 ≠ some pool.l2_instance_id)
              "multicast.bum.instance_mismatch" s!"{path}.l2_instance_id"
              "BUM L2 instance must match the endpoint pool" ++
            add_if (integer group.vlan_id 1 4094 ≠ some pool.vlan_id) "multicast.bum.vlan_mismatch"
              s!"{path}.vlan_id" "BUM VLAN must match the endpoint pool") ++
    _check_duplicate bum_addresses (some group.group) s!"{path}.group" "L2 BUM multicast group" ++
    add_if (!group.group.is_multicast || group.group ∈ ssm_space) "multicast.bum.group"
      s!"{path}.group" "L2 BUM group must use non-SSM IPv4 multicast space"

def multicast_issues (intent : FabricIntent) : List ValidationIssue :=
  if intent.schema_version ≠ .v1_2 then []
  else
    let policies := intent.overlay_policies
    let expected_bum_pool_ids :=
      if intent.multicast_enabled && intent.native_transport then
        (pool_context intent.endpoint_pools).map Prod.fst
      else []
    _mapping intent.multicast_context "$.multicast" ++ rp_issues intent ++
      alignment_issues intent ++ mode_issues intent ++
      each policies (overlay_policy_issues intent) ++
      add_if (intent.multicast_enabled &&
          !same_set (policies.filterMap OverlayPolicy.vn_name) (intent.asm_vns ++ intent.ssm_vns))
        "multicast.overlay.policy_membership" "$.multicast.overlay_policies"
        "Overlay policies must match the complete ASM/SSM virtual-network set" ++
      add_if (!intent.multicast_enabled && !policies.isEmpty) "multicast.overlay.disabled"
        "$.multicast.overlay_policies" "Disabled multicast cannot contain overlay policies" ++
      each intent.l2_bum_groups (bum_group_issues intent.endpoint_pools) ++
      add_if (!same_set
          (intent.l2_bum_groups.filterMap fun group => required_string group.endpoint_pool_id)
          expected_bum_pool_ids)
        "multicast.bum.membership" "$.multicast.l2_bum_groups"
        "Native multicast requires exactly one BUM group per endpoint pool"

end orchestrator.intent
