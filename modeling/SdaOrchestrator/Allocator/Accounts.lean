import SdaOrchestrator.Allocator.Reserves

open python ipaddress orchestrator.store journal

namespace orchestrator.allocator

open orchestrator.intent

/-! ## The resources of the sections -/

/-- The text of the prefix of a length at an address. -/
def block_text (address : IPv4Address) ( prefix_len : Int) : String := address.str ++ "/" ++ toString prefix_len

/-- The length of the prefixes of a pool, where each stands for a single address of the intent. -/
def Guardrails.length_of (guardrails : Guardrails) (pool_id : String) : Int :=
  ((assoc.lookup pool_id guardrails.supernets).bind (·.prefix_len)).getD 32

section Resources

variable (guardrails : Guardrails)

/-- An address that stands for a prefix of its pool. -/
def address_resource (pool_id : String) (address : IPv4Address) : Resource :=
  .network pool_id (block_text address (guardrails.length_of pool_id))

def device_resources (device : Device) : List Resource := [address_resource guardrails "loopbacks" device.loopback0_ip]

def link_resources (link : Link) : List Resource := [.network "underlay_p2p" link.subnet]

def pool_resources (pool : EndpointPool) : List Resource :=
  [.scalar .vlan_id pool.vlan_id, .scalar .l2_instance_id pool.l2_instance_id, .network "overlay_hosts" pool.pfx]

def overlay_resources (derived : VirtualNetwork × List EndpointPool) : List Resource :=
  .scalar .l3_instance_id derived.1.l3_instance_id :: derived.2.flatMap pool_resources

def attachment_resources (attachment : ServiceAttachment) : List Resource :=
  [.scalar .vlan_id attachment.vlan_id, .network "shared_service_handoff" attachment.pfx]

def shared_service_resources (shared_services : SharedServices) : List Resource :=
  shared_services.attachments.flatMap attachment_resources

def segment_resources (segment : SegmentLoopback) : List Resource :=
  [address_resource guardrails "multicast_overlay_loopbacks" segment.address]

def overlay_policy_resources (policy : OverlayPolicy) : List Resource :=
  policy.segment_loopbacks.flatMap (segment_resources guardrails) ++
    policy.core_group.toList.map fun group => .network "multicast_core_groups" group.pfx

def bum_resources (group : BumGroup) : List Resource := [.network "multicast_bum_groups" (block_text group.group 32)]

def multicast_resources (multicast : Multicast) : List Resource :=
  multicast.rp_address.toList.map (address_resource guardrails "multicast_rp") ++
    (multicast.overlay_policies.getD []).flatMap (overlay_policy_resources guardrails) ++
    (multicast.l2_bum_groups.getD []).flatMap bum_resources

def policy_plane_resources (plane : PolicyPlane) : List Resource :=
  plane.security_groups.map fun group => .scalar .sgt group.tag

def identity_resources (identities : Int × List MultihomingGroup) : List Resource :=
  .scalar .lisp_domain_id identities.1 :: identities.2.map fun group => .scalar .lisp_multihoming_id group.multihoming_id

def peer_resources (peer : HandoffPeer) : List Resource :=
  [.scalar .vlan_id peer.vlan_id, .network "border_handoff" peer.pfx]

def handoff_resources (handoff : BorderHandoff) : List Resource := (handoff.peers.getD []).flatMap peer_resources

def asn_resources (speaks_bgp : Bool) (local_as : Int) : List Resource :=
  if speaks_bgp then [.scalar .asn local_as] else []

end Resources

/-! ## Single reservations -/

section Single

variable {guardrails : Guardrails} {domain pool_id : String} {kind : Kind} {prefix_len : Int} {taken after : Taken}

theorem prefix_len_eq_ok (hok : guardrails.prefix_len pool_id = .ok prefix_len) :
    guardrails.length_of pool_id = prefix_len := by
  simp only [Guardrails.prefix_len, bind_eq_ok_iff, require_eq_ok] at hok
  obtain ⟨pool, hpool, hlength⟩ := hok
  rw [Guardrails.length_of, hpool, Option.bind_some, hlength, Option.getD_some]

theorem prefix_len_or_host_eq_ok (hok : guardrails.prefix_len_or_host pool_id = .ok prefix_len) :
    guardrails.length_of pool_id = prefix_len := by
  simp only [Guardrails.prefix_len_or_host, bind_eq_ok_iff, require_eq_ok, pure_eq_ok_iff] at hok
  obtain ⟨pool, hpool, rfl⟩ := hok
  rw [Guardrails.length_of, hpool, Option.bind_some]

theorem str_of_reserve_prefix {network : IPv4Network}
    (hok : reserve_prefix guardrails.supernets domain pool_id prefix_len taken = .ok (network, after)) :
    network.str = block_text network.network_address prefix_len := by
  rw [block_text, ← prefixlen_of_reserve_prefix hok]
  rfl

theorem reserves_network {network : IPv4Network}
    (hok : reserve_prefix guardrails.supernets domain pool_id prefix_len taken = .ok (network, after)) :
    ReservesAll guardrails domain taken [.network pool_id network.str] after :=
  .single (.network hok)

theorem reserves_block {network : IPv4Network}
    (hok : reserve_prefix guardrails.supernets domain pool_id prefix_len taken = .ok (network, after)) :
    ReservesAll guardrails domain taken [.network pool_id (block_text network.network_address prefix_len)] after :=
  str_of_reserve_prefix hok ▸ reserves_network hok

theorem reserves_address {network : IPv4Network} (hlength : guardrails.length_of pool_id = prefix_len)
    (hok : reserve_prefix guardrails.supernets domain pool_id prefix_len taken = .ok (network, after)) :
    ReservesAll guardrails domain taken [address_resource guardrails pool_id network.network_address] after := by
  rw [address_resource, hlength]
  exact reserves_block hok

section Range

variable {name : String} {range : RangePolicy} {minimum maximum value : Int}
  (hrange : assoc.lookup name guardrails.ranges = some range) (hbounds : range.bounds = .ok (minimum, maximum))

include hrange hbounds

theorem ranged_of_bounds (hlow : minimum ≤ value) (hhigh : value ≤ maximum) : guardrails.Ranged name value :=
  ⟨range, minimum, maximum, hrange, hbounds, hlow, hhigh⟩

/-- A scalar of the range that has the name. -/
theorem reserves_scalar (hname : name ∈ kind.range_names)
    (hok : reserve_scalar domain kind minimum maximum taken = .ok (value, after)) :
    ReservesAll guardrails domain taken [.scalar kind value] after := by
  rw [reserve_scalar_eq_ok_iff, first_scalar_eq_ok_iff] at hok
  obtain ⟨⟨hlow, hhigh, hfree, -⟩, rfl⟩ := hok
  exact .single (.scalar (.inl ⟨name, hname, ranged_of_bounds hrange hbounds hlow hhigh⟩) hfree)

end Range

theorem reserves_or_request {name : String} {range : RangePolicy} {requested : Option Int} {value : Int}
    (hrange : assoc.lookup name guardrails.ranges = some range) (hname : name ∈ kind.range_names)
    (hok : reserve_or_request domain kind range requested taken = .ok (value, after)) :
    ReservesAll guardrails domain taken [.scalar kind value] after := by
  obtain ⟨⟨minimum, maximum⟩, hbounds, -⟩ := bind_eq_ok_iff.mp hok
  obtain ⟨⟨hlow, hhigh, hfree, -⟩, rfl⟩ := (reserve_or_request_eq_ok_iff hbounds).mp hok
  exact .single (.scalar (.inl ⟨name, hname, ranged_of_bounds hrange hbounds hlow hhigh⟩) hfree)

end Single

/-! ## Devices, links and virtual networks -/

section Fabric

variable {upper : String → String} {policy : Policy} {domain : String} {taken after : Taken}

theorem reserves_devices {raw_devices : List DeviceRequest} {devices : List Device}
    (hok : derive_devices upper policy domain raw_devices taken = .ok (devices, after)) :
    ReservesAll policy.toGuardrails domain taken (devices.flatMap (device_resources policy.toGuardrails)) after := by
  simp only [derive_devices, bind_eq_ok_iff, raise_if_eq_ok, exists_const, Prod.exists, pure_eq_ok_iff, Prod.mk.injEq] at hok
  obtain ⟨-, found, ids, last, hloop, rfl, rfl⟩ := hok
  refine run_of_thread Prod.snd ?_ hloop
  intro raw before device next hdevice
  simp only [derive_device, bind_eq_ok_iff, raise_if_eq_ok, exists_const, Prod.exists, pure_eq_ok_iff,
    Prod.mk.injEq] at hdevice
  obtain ⟨-, _, -, prefix_len, hlength, loopback, reserved, hreserve, rfl, rfl⟩ := hdevice
  exact reserves_address ( prefix_len_eq_ok hlength) hreserve

theorem reserves_links {devices : List Device} {raw_links : List LinkRequest} {links : List Link}
    (hok : derive_links policy domain devices raw_links taken = .ok (links, after)) :
    ReservesAll policy.toGuardrails domain taken (links.flatMap link_resources) after := by
  obtain ⟨ p2p_prefix, -, hloop⟩ := bind_eq_ok_iff.mp hok
  refine run_of_thread id ?_ hloop
  intro raw before link next hlink
  simp only [derive_link, bind_eq_ok_iff, raise_if_eq_ok, exists_const, Prod.exists, pure_eq_ok_iff, Prod.mk.injEq] at hlink
  obtain ⟨-, -, subnet, reserved, hreserve, addressed, -, rfl, rfl⟩ := hlink
  exact reserves_network hreserve

theorem reserves_vlan {vlan_range l2_range : RangePolicy} {bounds : Int × Int} {l2_base vlan l2_id : Int}
    (hvlan_range : assoc.lookup "vlan_id" policy.ranges = some vlan_range) (hbounds : vlan_range.bounds = .ok bounds)
    (hl2_range : assoc.lookup "l2_instance_id" policy.ranges = some l2_range) (hbase : l2_range.base = some l2_base)
    (hok : reserve_vlan domain bounds l2_base (l2_range.max.getD 16777215) taken = .ok ((vlan, l2_id), after)) :
    ReservesAll policy.toGuardrails domain taken [.scalar .vlan_id vlan, .scalar .l2_instance_id l2_id] after := by
  simp only [reserve_vlan, bind_eq_ok_iff, Prod.exists, raise_if_eq_ok, exists_const, pure_eq_ok_iff, Prod.mk.injEq,
    Bool.or_eq_false_iff, decide_eq_false_iff_not, not_lt] at hok
  obtain ⟨found, reserved, hreserve, ⟨hmax, hfree⟩, ⟨rfl, rfl⟩, rfl⟩ := hok
  have hvlan : ReservesAll policy.toGuardrails domain taken [.scalar .vlan_id found] reserved :=
    reserves_scalar hvlan_range hbounds (by decide) hreserve
  rw [reserve_scalar_eq_ok_iff, first_scalar_eq_ok_iff] at hreserve
  obtain ⟨⟨hlow, hhigh, -, -⟩, -⟩ := hreserve
  have hsame : l2_base + found - l2_base = found := by omega
  have hadmits : policy.Admits (.scalar .l2_instance_id (l2_base + found)) := by
    refine .inr ⟨rfl, l2_range, l2_base, hl2_range, hbase, ?_, hmax⟩
    rw [hsame]
    exact ranged_of_bounds hvlan_range hbounds hlow hhigh
  exact hvlan.append (.single (.scalar hadmits hfree))

theorem reserves_overlay {devices : List Device} {speaks_bgp : Bool} {raw_vns : List VirtualNetworkRequest}
    {local_as : Int} {derived : List (VirtualNetwork × List EndpointPool)}
    (hok : derive_overlay policy domain devices speaks_bgp raw_vns taken = .ok ((local_as, derived), after)) :
    ReservesAll policy.toGuardrails domain taken
      (asn_resources speaks_bgp local_as ++ derived.flatMap overlay_resources) after := by
  simp only [derive_overlay, bind_eq_ok_iff, Prod.exists, pure_eq_ok_iff, Prod.mk.injEq, Guardrails.range,
    require_eq_ok] at hok
  obtain ⟨asn, reserved, hasn, l3_range, hl3_range, vlan_range, hvlan_range, l2_range, hl2_range, l2_base, hbase,
    found, last, hloop, ⟨rfl, rfl⟩, rfl⟩ := hok
  refine Run.append (?_ : ReservesAll _ _ _ _ reserved) (run_of_thread id ?_ hloop)
  · cases speaks_bgp with
    | false =>
      obtain ⟨rfl, rfl⟩ := Prod.mk.inj (Except.ok.inj hasn)
      exact .nil
    | true =>
      simp only [derive_local_as, ↓reduceIte, Guardrails.range, bind_eq_ok_iff, require_eq_ok] at hasn
      obtain ⟨range, hrange, bounds, hbounds, hreserve⟩ := hasn
      exact reserves_scalar hrange hbounds (by decide) hreserve
  intro raw_vn before result next hvn
  simp only [derive_virtual_network, bind_eq_ok_iff, Prod.exists, pure_eq_ok_iff, Prod.mk.injEq] at hvn
  obtain ⟨low, high, hl3_bounds, l3_id, l3_taken, hl3, pools, final, hpools, rfl, rfl⟩ := hvn
  refine (reserves_scalar hl3_range hl3_bounds (by decide) hl3).append ?_
  refine run_of_thread id ?_ hpools
  intro site site_taken pool pool_taken hpool
  simp only [derive_pool, bind_eq_ok_iff, Prod.exists, pure_eq_ok_iff, Prod.mk.injEq] at hpool
  obtain ⟨helpers, dhcp, -, vlan_low, vlan_high, hbounds, vlan, l2_id, between, hvlan, overlay, -, cidr, -, supernet,
    -, prefix_len, -, network, rest, hreserve, rfl, rfl⟩ := hpool
  exact (reserves_vlan hvlan_range hbounds hl2_range hbase hvlan).append (reserves_network hreserve)

end Fabric

/-! ## Services and multicast -/

section Services

variable {platform : Platform} {upper : String → String} {policy : Policy} {domain : String} {taken after : Taken}
  {environment : Environment} {vns : List VirtualNetwork} {pools : List EndpointPool}

theorem reserves_shared_services {fusion_ids : List String} {raw : SharedServicesRequest}
    {shared_services : SharedServices}
    (hok : derive_shared_services policy domain environment fusion_ids vns pools raw taken =
      .ok (shared_services, after)) :
    ReservesAll policy.toGuardrails domain taken (shared_service_resources shared_services) after := by
  simp only [derive_shared_services, bind_eq_ok_iff, raise_if_eq_ok, exists_const, Prod.exists, pure_eq_ok_iff,
    Prod.mk.injEq, Guardrails.require_range, require_eq_ok] at hok
  obtain ⟨-, _, -, shared_vlan_range, hrange, attachments, ids, fusions, last, hloop, _, -, services, service_ids, imports, -,
    leaks, -, rfl, rfl⟩ := hok
  show ReservesAll _ _ _ (attachments.flatMap attachment_resources) _
  refine run_of_thread Prod.snd ?_ hloop
  intro raw_attachment before attachment next hattachment
  simp only [derive_service_attachment, bind_eq_ok_iff, raise_if_eq_ok, exists_const, Prod.exists, pure_eq_ok_iff,
    Prod.mk.injEq] at hattachment
  obtain ⟨-, -, -, low, high, hbounds, vlan, between, hvlan, prefix_len, -, pfx, reserved, hreserve, -, local_ip, -,
    next_hop, -, rfl, rfl⟩ := hattachment
  exact (reserves_scalar hrange hbounds (by decide) hvlan).append (reserves_network hreserve)

theorem reserves_underlay_rp {raw : MulticastRequest} {rp_device_ids : List String} {rp_address : Option IPv4Address}
    (hok : derive_underlay_rp policy domain environment raw rp_device_ids taken = .ok (rp_address, after)) :
    ReservesAll policy.toGuardrails domain taken
      (rp_address.toList.map (address_resource policy.toGuardrails "multicast_rp")) after := by
  unfold derive_underlay_rp at hok
  split at hok
  · simp only [bind_eq_ok_iff, raise_if_eq_ok, exists_const, Prod.exists, pure_eq_ok_iff, Prod.mk.injEq] at hok
    obtain ⟨_, -, -, -, prefix_len, hlength, rp_prefix, reserved, hreserve, rfl, rfl⟩ := hok
    exact reserves_address ( prefix_len_or_host_eq_ok hlength) hreserve
  · obtain ⟨rfl, rfl⟩ := Prod.mk.inj (pure_eq_ok_iff.mp hok)
    exact .nil

theorem reserves_overlay_policy {multicast : MulticastRequest} {ssm_range : IPv4Network} {members : List Device}
    {shape : Option (Int × Int)} {raw : OverlayPolicyRequest} {before next : List String × Taken}
    {overlay_policy : OverlayPolicy}
    (hok : derive_overlay_policy platform upper policy domain multicast ssm_range vns members shape raw before =
      .ok (overlay_policy, next)) :
    ReservesAll policy.toGuardrails domain before.2 (overlay_policy_resources policy.toGuardrails overlay_policy)
      next.2 := by
  simp only [derive_overlay_policy, bind_eq_ok_iff, raise_if_eq_ok, exists_const, Prod.exists, pure_eq_ok_iff,
    Prod.mk.injEq] at hok
  obtain ⟨-, vn, -, -, -, group_range, -, rp_address, rp_prefix, -, segments, between, hsegments, core_group, last, hcore,
    rfl, rfl⟩ := hok
  refine Run.append (run_of_thread id ?_ hsegments) (?_ : ReservesAll _ _ between _ _)
  · intro device segment_taken segment segment_after hsegment
    simp only [derive_segment, bind_eq_ok_iff, raise_if_eq_ok, exists_const, Prod.exists, pure_eq_ok_iff,
      Prod.mk.injEq] at hsegment
    obtain ⟨prefix_len, hlength, segment_prefix, reserved, hreserve, -, rfl, rfl⟩ := hsegment
    exact reserves_address ( prefix_len_or_host_eq_ok hlength) hreserve
  · unfold derive_core_group at hcore
    split at hcore
    · obtain ⟨rfl, rfl⟩ := Prod.mk.inj (pure_eq_ok_iff.mp hcore)
      exact .nil
    · simp only [bind_eq_ok_iff, Prod.exists, pure_eq_ok_iff, Prod.mk.injEq] at hcore
      obtain ⟨ core_prefix, reserved, hreserve, start, -, rfl, rfl⟩ := hcore
      exact reserves_network hreserve

theorem reserves_bum_groups {raw : MulticastRequest} {groups : List BumGroup}
    (hok : derive_bum_groups policy domain raw pools taken = .ok (groups, after)) :
    ReservesAll policy.toGuardrails domain taken (groups.flatMap bum_resources) after := by
  unfold derive_bum_groups at hok
  split at hok
  · simp only [bind_eq_ok_iff, raise_if_eq_ok, exists_const] at hok
    obtain ⟨_, -, _, -, -, -, hloop⟩ := hok
    refine run_of_thread id ?_ hloop
    intro endpoint_pool before group next hgroup
    simp only [derive_bum_group, bind_eq_ok_iff, Prod.exists, pure_eq_ok_iff, Prod.mk.injEq] at hgroup
    obtain ⟨ bum_prefix, reserved, hreserve, rfl, rfl⟩ := hgroup
    exact reserves_block hreserve
  · obtain ⟨rfl, rfl⟩ := Prod.mk.inj (pure_eq_ok_iff.mp hok)
    exact .nil

theorem reserves_multicast {devices : List Device} {links : List Link} {raw : MulticastRequest} {multicast : Multicast}
    (hok : derive_multicast platform upper policy domain environment devices links vns pools raw taken =
      .ok (multicast, after)) :
    ReservesAll policy.toGuardrails domain taken (multicast_resources policy.toGuardrails multicast) after := by
  simp only [derive_multicast, bind_eq_ok_iff, raise_if_eq_ok, exists_const, Prod.exists, pure_eq_ok_iff,
    Prod.mk.injEq] at hok
  obtain ⟨_, -, rp_address, rp_taken, hrp, ssm_range, -, -, _, -, shape, -, policies, _, policy_taken, hpolicies, _, -,
    groups, last, hgroups, rfl, rfl⟩ := hok
  have hoverlay := run_of_thread Prod.snd reserves_overlay_policy hpolicies
  exact ((reserves_underlay_rp hrp).append hoverlay).append (reserves_bum_groups hgroups)

end Services

/-! ## Policy plane, LISP identities and handoff -/

section Handoff

variable {platform : Platform} {upper : String → String} {policy : Policy} {domain : String} {taken after : Taken}
  {environment : Environment} {devices : List Device} {vns : List VirtualNetwork}

theorem reserves_security_groups {raw_groups : List SecurityGroupRequest} {groups : List SecurityGroup}
    (hok : derive_security_groups policy.toGuardrails domain raw_groups taken = .ok (groups, after)) :
    ReservesAll policy.toGuardrails domain taken (groups.map fun group => .scalar .sgt group.tag) after := by
  simp only [derive_security_groups, bind_eq_ok_iff, require_eq_ok, Prod.exists, pure_eq_ok_iff, Prod.mk.injEq] at hok
  obtain ⟨range, hrange, found, names, last, hloop, rfl, rfl⟩ := hok
  rw [List.map_eq_flatMap]
  refine run_of_thread Prod.snd ?_ hloop
  intro raw_group before group next hgroup
  simp only [derive_security_group, bind_eq_ok_iff, raise_if_eq_ok, exists_const, Prod.exists, pure_eq_ok_iff,
    Prod.mk.injEq] at hgroup
  obtain ⟨-, tag, reserved, hreserve, rfl, rfl⟩ := hgroup
  exact reserves_or_request hrange (by decide) hreserve

theorem reserves_policy_plane {pools : List EndpointPool} {shared_services : Option SharedServices}
    {raw : PolicyPlaneRequest} {plane : PolicyPlane}
    (hok : derive_policy_plane platform upper policy domain environment devices vns pools shared_services raw taken =
      .ok (plane, after)) :
    ReservesAll policy.toGuardrails domain taken (policy_plane_resources plane) after := by
  simp only [derive_policy_plane, bind_eq_ok_iff, Prod.exists, pure_eq_ok_iff, Prod.mk.injEq] at hok
  obtain ⟨_, -, groups, last, hgroups, contracts, keys, -, ise, -, sxp, -, rfl, rfl⟩ := hok
  exact reserves_security_groups hgroups

theorem reserves_identities {requirements : Requirements} {identities : Option (Int × List MultihomingGroup)}
    (hok : derive_identities policy requirements devices taken = .ok (identities, after)) :
    ReservesAll policy.toGuardrails requirements.allocation_domain taken
      (identities.toList.flatMap identity_resources) after := by
  unfold derive_identities at hok
  split at hok
  · simp only [derive_lisp_identities, bind_eq_ok_iff, require_eq_ok, Prod.exists, pure_eq_ok_iff,
      Prod.mk.injEq] at hok
    obtain ⟨found, final, rest, ⟨domain_range, hdomain_range, range, hrange, identity, reserved, hreserve, _, -, groups, last,
      hloop, ⟨rfl, rfl⟩, rfl⟩, rfl, rfl⟩ := hok
    rw [Option.toList_some, List.flatMap_singleton, identity_resources]
    refine (reserves_or_request hdomain_range (by decide) hreserve).append ?_
    rw [List.map_eq_flatMap]
    refine run_of_thread id ?_ hloop
    intro site_id before group next hgroup
    simp only [derive_multihoming_group, bind_eq_ok_iff, Prod.exists, pure_eq_ok_iff, Prod.mk.injEq] at hgroup
    obtain ⟨multihoming_id, between, hidentity, rfl, rfl⟩ := hgroup
    exact reserves_or_request hrange (by decide) hidentity
  · obtain ⟨rfl, rfl⟩ := Prod.mk.inj (pure_eq_ok_iff.mp hok)
    exact .nil

theorem reserves_handoff {version : SchemaVersion} {fusion_nodes : List FusionNode} {local_as : Int}
    {raw_handoff : Option HandoffRequest} {handoff : BorderHandoff}
    (hok : derive_handoff policy domain version environment devices fusion_nodes vns local_as raw_handoff taken =
      .ok (handoff, after)) :
    ReservesAll policy.toGuardrails domain taken (handoff_resources handoff) after := by
  unfold derive_handoff at hok
  split at hok
  · obtain ⟨rfl, rfl⟩ := Prod.mk.inj (pure_eq_ok_iff.mp hok)
    exact .nil
  · simp only [bind_eq_ok_iff, Prod.exists, pure_eq_ok_iff, Prod.mk.injEq, Guardrails.require_range,
      require_eq_ok] at hok
    obtain ⟨_, -, range, hrange, raw_peers, -, peers, last, hloop, rfl, rfl⟩ := hok
    refine run_of_thread id ?_ hloop
    intro peer before result next hpeer
    simp only [derive_peer, bind_eq_ok_iff, raise_if_eq_ok, exists_const, Prod.exists, pure_eq_ok_iff,
      Prod.mk.injEq] at hpeer
    obtain ⟨-, -, low, high, hbounds, vlan, between, hvlan, prefix_len, -, pfx, reserved, hreserve, local_ip, -,
      neighbor_ip, -, remote_as, -, rfl, rfl⟩ := hpeer
    exact (reserves_scalar hrange hbounds (by decide) hvlan).append (reserves_network hreserve)

end Handoff

end orchestrator.allocator
