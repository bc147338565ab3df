import SdaOrchestrator.Allocator.Exact
import SdaOrchestrator.Intent.Addresses

open python ipaddress orchestrator.store

namespace orchestrator.allocator

open orchestrator.intent

/-! ## The intent that is read back -/

/-- A fabric site as the schema of the intent admits it: without a LISP multihoming id, with one of the profiles. -/
def DerivedSite.read (site : DerivedSite) : Option FabricSite := do
  guard site.lisp_multihoming_id.isNone
  let profile ← [SiteProfile.fabric_in_a_box, .small_site, .medium_site, .large_site].find? (·.text = site.selected)
  return {
    id := site.id
    name := site.name
    hierarchy_node_id := site.hierarchy_node_id
    endpoint_count := site.endpoint_count
    ap_count := site.ap_count
    site_local_services := site.site_local_services
    high_availability := site.high_availability
    profile }

/-- The derived intent as `validate_intent` reads it. -/
def DerivedIntent.read (intent : DerivedIntent) : Option FabricIntent := do
  let fabric_sites ← intent.context.mapM fun context => context.fabric_sites.mapM DerivedSite.read
  return {
    schema_version := intent.schema_version
    deployment_model := intent.context.map (·.deployment_model)
    site_hierarchy := intent.context.map (·.site_hierarchy)
    fabric_sites
    fabric_zones := intent.context.map (·.fabric_zones)
    metadata := intent.metadata
    fabric := intent.fabric
    devices := intent.devices
    links := intent.links
    lisp := intent.lisp
    virtual_networks := intent.virtual_networks
    endpoint_pools := intent.endpoint_pools
    endpoint_attachments := intent.endpoint_attachments
    fusion_nodes := intent.fusion_nodes
    shared_services := intent.shared_services
    multicast := intent.multicast
    policy_plane := intent.policy_plane
    border_handoff := some intent.border_handoff }

/-! ## Subnets that are carved from pools -/

/-- A subnet of the address plan, with the prefix that is reserved for it. -/
structure PlannedSubnet where
  pool_id : String
  pfx : String
  subnet : Subnet

/-- The subnet lies in its prefix, and its distinct addresses lie in the subnet. -/
def PlannedSubnet.Carved (planned : PlannedSubnet) : Prop :=
  planned.subnet.Proper ∧ ∃ found network, planned.subnet.network = some found ∧ _network planned.pfx = .ok network ∧
    ∀ address ∈ found, address ∈ network

/-- The addresses of the subnet can be used by hosts. -/
def Usable (subnet : Subnet) : Prop := ∀ address ∈ subnet.addresses, not_usable subnet.network address = false

theorem ipv4_network_str (network : IPv4Network) : ipv4_network (some network.str) = some network := by
  rw [ipv4_network, Option.bind_some, IPv4Network.ip_network_str]

theorem network_of_ipv4_network {text : String} {network : IPv4Network}
    (hnetwork : ipv4_network (some text) = some network) : _network text = .ok network := by
  rw [ipv4_network, Option.bind_some] at hnetwork
  split at hnetwork
  · rename_i found hfound
    obtain rfl := Option.some.inj hnetwork
    rw [_network, hfound]
  · cases hnetwork

/-- A subnet that is all of its prefix. -/
theorem carved_whole {pool_id text : String} {network : IPv4Network} {addresses : List IPv4Address}
    (hnetwork : ipv4_network (some text) = some network) (hnodup : addresses.Nodup)
    (hmembers : ∀ address ∈ addresses, address ∈ network) :
    PlannedSubnet.Carved ⟨pool_id, text, ⟨ipv4_network (some text), addresses⟩⟩ :=
  ⟨⟨hnodup, network, hnetwork, hmembers⟩, network, network, hnetwork, network_of_ipv4_network hnetwork, fun _ hin => hin⟩

theorem usable_iff {network : IPv4Network} {addresses : List IPv4Address} :
    Usable ⟨some network, addresses⟩ ↔ ∀ address ∈ addresses, network.prefixlen ≤ 30 →
      address ≠ network.network_address ∧ address ≠ network.broadcast_address := by
  refine forall₂_congr fun address _ => ?_
  rw [not_usable_eq_false_iff]
  exact ⟨fun husable => husable network rfl, fun husable found hfound => Option.some.inj hfound ▸ husable⟩

section Sections

variable {policy : Policy} {domain : String} {taken after : Taken}

/-- A single address in its own prefix. -/
theorem carved_loopback {pool_id : String} {prefix_len : Int} {network : IPv4Network}
    (hlength : policy.length_of pool_id = prefix_len)
    (hok : reserve_prefix policy.supernets domain pool_id prefix_len taken = .ok (network, after)) :
    PlannedSubnet.Carved ⟨pool_id, block_text network.network_address (policy.length_of pool_id),
      .loopback network.network_address⟩ := by
  refine ⟨proper_loopback _, _, network, rfl, ?_, fun address haddress => ?_⟩
  · rw [hlength, ← str_of_reserve_prefix hok, network_str]
  · rw [IPv4Network.mem_host.mp haddress]
    exact network.network_address_mem

theorem carved_devices {upper : String → String} {raw_devices : List DeviceRequest} {devices : List Device}
    (hok : derive_devices upper policy domain raw_devices taken = .ok (devices, after)) {device : Device}
    (hdevice : device ∈ devices) : PlannedSubnet.Carved ⟨"loopbacks",
      block_text device.loopback0_ip (policy.length_of "loopbacks"), .loopback device.loopback0_ip⟩ := by
  simp only [derive_devices, bind_eq_ok_iff, raise_if_eq_ok, exists_const, Prod.exists, pure_eq_ok_iff,
    Prod.mk.injEq] at hok
  obtain ⟨-, found, ids, last, hloop, rfl, rfl⟩ := hok
  obtain ⟨raw, -, before, between, hround⟩ := mem_of_thread hloop hdevice
  simp only [derive_device, bind_eq_ok_iff, raise_if_eq_ok, exists_const, Prod.exists, pure_eq_ok_iff,
    Prod.mk.injEq] at hround
  obtain ⟨-, _, -, prefix_len, hlength, loopback, reserved, hreserve, rfl, -⟩ := hround
  exact carved_loopback (prefix_len_eq_ok hlength) hreserve

/-- The addresses of a prefix by their position. -/
theorem nth_address_eq_ok {network : IPv4Network} {index : Nat} {address : IPv4Address}
    (hok : nth_address network index = .ok address) : address ∈ network ∧
      address.value = network.network_address.value + index ∧ index < network.num_addresses := by
  unfold nth_address at hok
  split at hok
  · rename_i hindex
    obtain rfl := Except.ok.inj hok
    refine ⟨?_, IPv4Network.addresses_value hindex, hindex⟩
    rw [← IPv4Network.mem_addresses]
    exact List.mem_map_of_mem (List.mem_range.mpr hindex)
  · cases hok

/-- A link has the first two addresses of a prefix of the length that the guardrails give. -/
theorem link_spec {devices : List Device} {raw_links : List LinkRequest} {links : List Link}
    (hok : derive_links policy domain devices raw_links taken = .ok (links, after)) {link : Link} (hlink : link ∈ links) :
    ∃ network first second, link.subnet = network.str ∧ policy.prefix_len "underlay_p2p" = .ok network.prefixlen ∧
      link.endpoints.map (·.ip) = [first, second] ∧ nth_address network 0 = .ok first ∧
        nth_address network 1 = .ok second := by
  simp only [derive_links, bind_eq_ok_iff] at hok
  obtain ⟨ p2p_prefix, hlength, hloop⟩ := hok
  obtain ⟨raw, -, before, between, hround⟩ := mem_of_thread hloop hlink
  simp only [derive_link, bind_eq_ok_iff, raise_if_eq_ok, exists_const, Prod.exists, pure_eq_ok_iff, Prod.mk.injEq,
    decide_eq_false_iff_not, ne_eq, not_not] at hround
  obtain ⟨htwo, -, subnet, reserved, hreserve, addressed, haddressed, rfl, -⟩ := hround
  obtain ⟨one, other, hendpoints⟩ := List.length_eq_two.mp htwo
  rw [hendpoints] at haddressed
  simp only [List.zipIdx_cons, List.zipIdx_nil, List.mapM_cons, List.mapM_nil, bind_eq_ok_iff, pure_eq_ok_iff] at haddressed
  obtain ⟨_, ⟨first, hfirst, rfl⟩, _, ⟨_, ⟨second, hsecond, rfl⟩, _, rfl, rfl⟩, rfl⟩ := haddressed
  refine ⟨subnet, first, second, rfl, ?_, rfl, hfirst, hsecond⟩
  rw [hlength, prefixlen_of_reserve_prefix hreserve]

theorem carved_link {devices : List Device} {raw_links : List LinkRequest} {links : List Link}
    (hok : derive_links policy domain devices raw_links taken = .ok (links, after)) {link : Link} (hlink : link ∈ links) :
    PlannedSubnet.Carved ⟨"underlay_p2p", link.subnet, link.addressing⟩ ∧
      (Usable link.addressing ↔ policy.prefix_len "underlay_p2p" = .ok 31) := by
  obtain ⟨network, first, second, hsubnet, hlength, hips, hfirst, hsecond⟩ := link_spec hok hlink
  obtain ⟨hfirst_mem, hfirst_value, -⟩ := nth_address_eq_ok hfirst
  obtain ⟨hsecond_mem, hsecond_value, htwo⟩ := nth_address_eq_ok hsecond
  have hnetwork : ipv4_network (some link.subnet) = some network := by rw [hsubnet, ipv4_network_str]
  have hne : first ≠ second := by
    rintro rfl
    omega
  rw [Link.addressing, hips]
  refine ⟨carved_whole hnetwork (by simpa using hne) (by simpa using ⟨hfirst_mem, hsecond_mem⟩), ?_⟩
  rw [Link.network, hnetwork, usable_iff, hlength, Except.ok.injEq]
  constructor
  · intro husable
    -- the network address is a host address of a /31 alone
    have hlong : ¬network.prefixlen ≤ 30 := by
      intro hshort
      exact (husable first List.mem_cons_self hshort).1 (IPv4Address.ext (by omega))
    have hpair : network.prefixlen ≠ 32 := by
      intro hsingle
      rw [IPv4Network.num_addresses, hsingle] at htwo
      omega
    have hle := network.prefixlen_le
    omega
  · intro hlength address _ hshort
    omega

theorem first_host_usable {network : IPv4Network} (hshort : network.prefixlen ≤ 30) :
    network.first_host ∈ network ∧ network.first_host ≠ network.network_address ∧
      network.first_host ≠ network.broadcast_address := by
  have hfour : 2 ^ 2 ≤ network.num_addresses := Nat.pow_le_pow_right (by omega) (by omega)
  have hvalue : network.first_host.value = network.network_address.value + 1 := by
    rw [IPv4Network.first_host, if_pos hshort]
    exact IPv4Network.addresses_value (by omega)
  refine ⟨?_, fun hsame => ?_, fun hsame => ?_⟩
  · rw [IPv4Network.mem_iff, IPv4Address.le_iff, IPv4Address.le_iff, IPv4Network.broadcast_address_value]
    omega
  · rw [hsame] at hvalue
    omega
  · rw [hsame, IPv4Network.broadcast_address_value] at hvalue
    omega

theorem carved_pool {devices : List Device} {vlan_range : RangePolicy} {l2_base l2_max : Int} {virtual_network : String}
    {site : SiteRequest} {pool : EndpointPool}
    (hok : derive_pool policy.toGuardrails domain devices vlan_range l2_base l2_max virtual_network site taken =
      .ok (pool, after)) :
    PlannedSubnet.Carved ⟨"overlay_hosts", pool.pfx, pool.addressing⟩ ∧ Usable pool.addressing := by
  obtain ⟨network, supernet_length, hnetwork, hgateway, hlength⟩ := derive_pool_spec hok
  obtain ⟨-, -, -, hbits, -⟩ := host_prefix_eq_ok_iff.mp hlength
  obtain ⟨-, htwo, -⟩ := host_bits_spec (required_hosts site.users (site.headroom_percent.getD 25))
  have hshort : network.prefixlen ≤ 30 := by omega
  obtain ⟨hmem, hfirst, hlast⟩ := first_host_usable hshort
  rw [EndpointPool.addressing, hgateway]
  refine ⟨carved_whole hnetwork (List.nodup_singleton _) (List.forall_mem_singleton.mpr hmem), ?_⟩
  rw [hnetwork, usable_iff]
  exact List.forall_mem_singleton.mpr fun _ => ⟨hfirst, hlast⟩

/-- The first two host addresses of a prefix can be used. -/
theorem hosts_usable {network : IPv4Network} {first second : IPv4Address} (hfirst : host_at network 0 = .ok first)
    (hsecond : host_at network 1 = .ok second) :
    (first ∈ network ∧ second ∈ network) ∧ first ≠ second ∧ (network.prefixlen ≤ 30 →
      (first ≠ network.network_address ∧ first ≠ network.broadcast_address) ∧
        second ≠ network.network_address ∧ second ≠ network.broadcast_address) := by
  have hbroadcast := IPv4Network.broadcast_address_value network
  unfold host_at at hfirst hsecond
  by_cases hshort : network.prefixlen ≤ 30
  · rw [if_pos hshort] at hfirst hsecond
    split at hsecond
    · rename_i hroom
      rw [if_pos (by omega)] at hfirst
      obtain rfl := Except.ok.inj hfirst
      obtain rfl := Except.ok.inj hsecond
      have hvalue {offset : Nat} (hoffset : offset < network.num_addresses) := IPv4Network.addresses_value hoffset
      have hone := hvalue (show 1 < network.num_addresses by omega)
      have htwo := hvalue (show 2 < network.num_addresses by omega)
      simp only [IPv4Network.mem_iff, IPv4Address.le_iff, ne_eq, IPv4Address.ext_iff, hbroadcast, Nat.add_zero,
        Nat.add_assoc, Nat.reduceAdd, hone, htwo]
      omega
    · cases hsecond
  · rw [if_neg hshort] at hfirst hsecond
    obtain ⟨hfirst_mem, hfirst_value, -⟩ := nth_address_eq_ok hfirst
    obtain ⟨hsecond_mem, hsecond_value, -⟩ := nth_address_eq_ok hsecond
    refine ⟨⟨hfirst_mem, hsecond_mem⟩, ?_, fun hcontra => absurd hcontra hshort⟩
    rintro rfl
    omega

theorem carved_hosts {pool_id : String} {network : IPv4Network} {first second : IPv4Address}
    (hfirst : host_at network 0 = .ok first) (hsecond : host_at network 1 = .ok second) :
    PlannedSubnet.Carved ⟨pool_id, network.str, ⟨ipv4_network (some network.str), [first, second]⟩⟩ ∧
      Usable ⟨ipv4_network (some network.str), [first, second]⟩ := by
  obtain ⟨⟨hfirst_mem, hsecond_mem⟩, hne, husable⟩ := hosts_usable hfirst hsecond
  refine ⟨carved_whole (ipv4_network_str network) (by simpa using hne) (by simpa using ⟨hfirst_mem, hsecond_mem⟩), ?_⟩
  rw [ipv4_network_str, usable_iff]
  intro address haddress hshort
  obtain rfl | rfl : address = first ∨ address = second := by simpa using haddress
  · exact (husable hshort).1
  · exact (husable hshort).2

theorem usable_loopback (address : IPv4Address) : Usable (.loopback address) := fun _ _ => loopback_usable

theorem carved_attachments {environment : Environment} {fusion_ids : List String} {vns : List VirtualNetwork}
    {pools : List EndpointPool} {raw : SharedServicesRequest} {shared_services : SharedServices}
    (hok : derive_shared_services policy domain environment fusion_ids vns pools raw taken =
      .ok (shared_services, after)) {attachment : ServiceAttachment}
    (hattachment : attachment ∈ shared_services.attachments) :
    PlannedSubnet.Carved ⟨"shared_service_handoff", attachment.pfx, attachment.addressing⟩ ∧
      Usable attachment.addressing := by
  simp only [derive_shared_services, bind_eq_ok_iff, raise_if_eq_ok, exists_const, Prod.exists, pure_eq_ok_iff,
    Prod.mk.injEq] at hok
  obtain ⟨-, _, -, range, -, attachments, ids, fusions, last, hloop, _, -, services, service_ids, imports, -, leaks, -, rfl,
    -⟩ := hok
  obtain ⟨request, -, before, between, hround⟩ := mem_of_thread hloop hattachment
  simp only [derive_service_attachment, bind_eq_ok_iff, raise_if_eq_ok, exists_const, Prod.exists, pure_eq_ok_iff,
    Prod.mk.injEq] at hround
  obtain ⟨-, -, -, low, high, -, vlan, vlan_taken, -, prefix_len, -, pfx, reserved, -, -, local_ip, hlocal, next_hop,
    hnext, rfl, -⟩ := hround
  exact carved_hosts hlocal hnext

theorem carved_peers {version : SchemaVersion} {environment : Environment} {devices : List Device}
    {fusion_nodes : List FusionNode} {vns : List VirtualNetwork} {local_as : Int} {raw_handoff : Option HandoffRequest}
    {handoff : BorderHandoff}
    (hok : derive_handoff policy domain version environment devices fusion_nodes vns local_as raw_handoff taken =
      .ok (handoff, after)) {peer : HandoffPeer} (hpeer : peer ∈ handoff.peers.getD []) :
    PlannedSubnet.Carved ⟨"border_handoff", peer.pfx, peer.addressing⟩ ∧ Usable peer.addressing := by
  unfold derive_handoff at hok
  split at hok
  · obtain ⟨rfl, -⟩ := Prod.mk.inj (pure_eq_ok_iff.mp hok)
    cases hpeer
  · simp only [bind_eq_ok_iff, Prod.exists, pure_eq_ok_iff, Prod.mk.injEq] at hok
    obtain ⟨_, -, range, -, raw_peers, -, peers, last, hloop, rfl, -⟩ := hok
    obtain ⟨raw, -, before, between, hround⟩ := mem_of_thread hloop hpeer
    simp only [derive_peer, bind_eq_ok_iff, raise_if_eq_ok, exists_const, Prod.exists, pure_eq_ok_iff,
      Prod.mk.injEq] at hround
    obtain ⟨-, -, low, high, -, vlan, vlan_taken, -, prefix_len, -, pfx, reserved, -, local_ip, hlocal, neighbor_ip,
      hneighbor, remote_as, -, rfl, -⟩ := hround
    exact carved_hosts hlocal hneighbor

theorem carved_pools {devices : List Device} {speaks_bgp : Bool} {raw_vns : List VirtualNetworkRequest} {local_as : Int}
    {derived : List (VirtualNetwork × List EndpointPool)}
    (hok : derive_overlay policy domain devices speaks_bgp raw_vns taken = .ok ((local_as, derived), after))
    {pool : EndpointPool} (hpool : pool ∈ derived.flatMap Prod.snd) :
    PlannedSubnet.Carved ⟨"overlay_hosts", pool.pfx, pool.addressing⟩ ∧ Usable pool.addressing := by
  simp only [derive_overlay, bind_eq_ok_iff, Prod.exists, pure_eq_ok_iff, Prod.mk.injEq] at hok
  obtain ⟨asn, reserved, -, l3_range, -, vlan_range, -, l2_range, -, l2_base, -, found, last, hloop, ⟨-, rfl⟩, -⟩ := hok
  obtain ⟨entry, hentry, hpool⟩ := List.mem_flatMap.mp hpool
  obtain ⟨raw_vn, -, before, between, hvn⟩ := mem_of_thread hloop hentry
  simp only [derive_virtual_network, bind_eq_ok_iff, Prod.exists, pure_eq_ok_iff, Prod.mk.injEq] at hvn
  obtain ⟨low, high, -, l3_id, l3_taken, -, pools, final, hpools, rfl, -⟩ := hvn
  obtain ⟨site, -, site_taken, pool_taken, hround⟩ := mem_of_thread hpools hpool
  exact carved_pool hround

/-- The rendezvous points of an intent, and whether its multicast is enabled where it has one. -/
theorem carved_multicast {platform : Platform} {upper : String → String} {environment : Environment}
    {devices : List Device} {links : List Link} {vns : List VirtualNetwork} {pools : List EndpointPool}
    {raw : MulticastRequest} {multicast : Multicast}
    (hok : derive_multicast platform upper policy domain environment devices links vns pools raw taken =
      .ok (multicast, after)) :
    (∀ address, multicast.rp_address = some address → multicast.enabled ∧ PlannedSubnet.Carved ⟨"multicast_rp",
      block_text address (policy.length_of "multicast_rp"), .loopback address⟩) ∧
    ∀ overlay_policy ∈ multicast.overlay_policies.getD [], ∀ segment ∈ overlay_policy.segment_loopbacks,
      PlannedSubnet.Carved ⟨"multicast_overlay_loopbacks",
        block_text segment.address (policy.length_of "multicast_overlay_loopbacks"), .loopback segment.address⟩ := by
  simp only [derive_multicast, bind_eq_ok_iff, raise_if_eq_ok, exists_const, Prod.exists, pure_eq_ok_iff,
    Prod.mk.injEq] at hok
  obtain ⟨_, -, rp_address, rp_taken, hrp, ssm_range, -, -, _, -, shape, -, policies, _, policy_taken, hpolicies, _, -,
    groups, last, -, rfl, -⟩ := hok
  constructor
  · rintro address rfl
    unfold derive_underlay_rp at hrp
    split at hrp
    · rename_i henabled
      simp only [bind_eq_ok_iff, raise_if_eq_ok, exists_const, Prod.exists, pure_eq_ok_iff, Prod.mk.injEq,
        Option.some.injEq] at hrp
      obtain ⟨_, -, -, -, prefix_len, hlength, rp_prefix, reserved, hreserve, rfl, -⟩ := hrp
      exact ⟨(Bool.and_eq_true_iff.mp henabled).1, carved_loopback ( prefix_len_or_host_eq_ok hlength) hreserve⟩
    · cases hrp
  · intro overlay_policy hpolicy segment hsegment
    obtain ⟨request, -, before, between, hround⟩ := mem_of_thread hpolicies hpolicy
    simp only [derive_overlay_policy, bind_eq_ok_iff, raise_if_eq_ok, exists_const, Prod.exists, pure_eq_ok_iff,
      Prod.mk.injEq] at hround
    obtain ⟨-, vn, -, -, -, group_range, -, address, rp_prefix, -, segments, segments_taken, hsegments, core_group, _, -,
      rfl, -⟩ := hround
    obtain ⟨device, -, segment_taken, segment_after, hsegment_ok⟩ := mem_of_thread hsegments hsegment
    simp only [derive_segment, bind_eq_ok_iff, raise_if_eq_ok, exists_const, Prod.exists, pure_eq_ok_iff,
      Prod.mk.injEq] at hsegment_ok
    obtain ⟨prefix_len, hlength, segment_prefix, reserved, hreserve, -, rfl, -⟩ := hsegment_ok
    exact carved_loopback ( prefix_len_or_host_eq_ok hlength) hreserve

end Sections

/-! ## The plan of an intent -/

section Plan

variable (guardrails : Guardrails)

/-- A loopback with its prefix. -/
def planned_loopback (pool_id : String) (address : IPv4Address) : PlannedSubnet :=
  ⟨pool_id, block_text address (guardrails.length_of pool_id), .loopback address⟩

/-- The subnets of the interfaces, in the order of the address plan. -/
def planned_interfaces (intent : DerivedIntent) : List PlannedSubnet :=
  intent.devices.map (fun device => planned_loopback guardrails "loopbacks" device.loopback0_ip) ++
    intent.links.map (fun link => ⟨"underlay_p2p", link.subnet, link.addressing⟩) ++
    intent.endpoint_pools.map (fun pool => ⟨"overlay_hosts", pool.pfx, pool.addressing⟩) ++
    (intent.border_handoff.peers.getD []).map (fun peer => ⟨"border_handoff", peer.pfx, peer.addressing⟩) ++
    (intent.shared_services.toList.flatMap fun services => services.attachments.map fun attachment =>
      ⟨"shared_service_handoff", attachment.pfx, attachment.addressing⟩) ++
    intent.multicast.toList.flatMap fun multicast => (multicast.overlay_policies.getD []).flatMap fun overlay_policy =>
      overlay_policy.segment_loopbacks.map fun segment =>
        planned_loopback guardrails "multicast_overlay_loopbacks" segment.address

/-- The subnet of the rendezvous point. -/
def planned_rp (intent : DerivedIntent) : List PlannedSubnet :=
  intent.multicast.toList.flatMap fun multicast =>
    multicast.rp_address.toList.map (planned_loopback guardrails "multicast_rp")

/-- The prefixes of multicast groups, which no interface has. -/
def group_networks (intent : DerivedIntent) : List (String × String) :=
  intent.multicast.toList.flatMap fun multicast =>
    ((multicast.overlay_policies.getD []).flatMap fun overlay_policy =>
      overlay_policy.core_group.toList.map fun group => ("multicast_core_groups", group.pfx)) ++
    (multicast.l2_bum_groups.getD []).map fun group => ("multicast_bum_groups", block_text group.group 32)

variable {guardrails}

/-- The prefixes of an intent are those of its address plan and those of its groups. -/
theorem fabric_networks_perm (intent : DerivedIntent) :
    (fabric_networks guardrails intent).Perm
      ((planned_interfaces guardrails intent ++ planned_rp guardrails intent).map (fun planned =>
        (planned.pool_id, planned.pfx)) ++ group_networks intent) := by
  rw [List.perm_iff_count]
  intro entry
  cases hmulticast : intent.multicast with
  | none =>
    simp only [fabric_networks, planned_interfaces, planned_rp, group_networks, planned_loopback, hmulticast,
      List.map_append, List.map_map, List.map_flatMap, List.count_append, Function.comp_def, Option.toList_none,
      List.flatMap_nil, List.append_nil]
    omega
  | some multicast =>
    have hpolicies := (List.flatMap_append_perm (multicast.overlay_policies.getD [])
      (fun overlay_policy => overlay_policy.segment_loopbacks.map fun segment => ("multicast_overlay_loopbacks",
        block_text segment.address (guardrails.length_of "multicast_overlay_loopbacks")))
      (fun overlay_policy => overlay_policy.core_group.toList.map fun group =>
        ("multicast_core_groups", group.pfx))).count_eq entry
    simp only [fabric_networks, planned_interfaces, planned_rp, group_networks, planned_loopback, hmulticast,
      List.map_append, List.map_map, List.map_flatMap, List.count_append, Function.comp_def, Option.toList_some,
      List.flatMap_singleton] at hpolicies ⊢
    omega

end Plan

/-! ## The plan of a derived intent -/

/-- No address lies in both supernets. -/
def supernets_apart (pool other : PoolPolicy) : Bool :=
  match pool.cidr.map _network, other.cidr.map _network with
  | some (.ok supernet), some (.ok other_supernet) => !supernet.overlaps other_supernet
  | _, _ => true

/-- The supernets of the pools are apart. -/
def Guardrails.PoolsApart (guardrails : Guardrails) : Prop :=
  guardrails.supernets.Pairwise fun first second => supernets_apart first.2 second.2

theorem supernets_disjoint {guardrails : Guardrails} (hapart : guardrails.PoolsApart) {first second : String}
    {supernet other : IPv4Network} (hne : first ≠ second) (hfirst : guardrails.supernet first = .ok supernet)
    (hsecond : guardrails.supernet second = .ok other) : ∀ address ∈ supernet, address ∉ other := by
  simp only [Guardrails.supernet, bind_eq_ok_iff, require_eq_ok] at hfirst hsecond
  obtain ⟨pool, hpool, cidr, hcidr, hsupernet⟩ := hfirst
  obtain ⟨other_pool, hother_pool, other_cidr, hother_cidr, hother⟩ := hsecond
  -- the order of the pools is theirs in the guardrails
  let apart (first second : String × PoolPolicy) : Prop := supernets_apart first.2 second.2 = true
  have hboth : guardrails.supernets.Pairwise fun first second => apart first second ∨ apart second first :=
    List.Pairwise.imp .inl hapart
  have hsymm : Std.Symm fun first second => apart first second ∨ apart second first := ⟨fun _ _ => .symm⟩
  obtain hoverlaps | hoverlaps := hboth.forall (assoc.lookup_mem hpool) (assoc.lookup_mem hother_pool)
    fun hsame => hne (congrArg Prod.fst hsame)
  · simp only [apart, supernets_apart, hcidr, hother_cidr, Option.map_some, hsupernet, hother, Bool.not_eq_true'] at hoverlaps
    exact IPv4Network.not_overlaps_iff.mp hoverlaps
  · simp only [apart, supernets_apart, hcidr, hother_cidr, Option.map_some, hsupernet, hother, Bool.not_eq_true'] at hoverlaps
    exact fun address hmem hother_mem => IPv4Network.not_overlaps_iff.mp hoverlaps address hother_mem hmem

theorem derive_optional_some {α β : Type} {derive_section : α → Taken → Py (β × Taken)} {raw : Option α} {found : β}
    {taken : Taken} {result : Option β × Taken} (hok : derive_optional derive_section raw taken = .ok result)
    (hfound : result.1 = some found) : ∃ request after, derive_section request taken = .ok (found, after) := by
  unfold derive_optional at hok
  split at hok
  · obtain rfl := Except.ok.inj hok
    cases hfound
  · rename_i request
    simp only [bind_eq_ok_iff, Prod.exists, pure_eq_ok_iff] at hok
    obtain ⟨derived, after, hsection, rfl⟩ := hok
    obtain rfl := Option.some.inj hfound
    exact ⟨request, after, hsection⟩

section Stages

variable {platform : Platform} {upper : String → String} {policy : Policy} {requirements : Requirements}
  {network_ledger : List NetworkRow} {scalar_ledger : List ScalarRow} {derived : DerivedFabric}
  (stages : Stages platform upper policy requirements network_ledger scalar_ledger derived)

include stages

/-- The prefixes of a derived intent share no address where its pools share none. -/
theorem Stages.networks_disjoint (hapart : policy.toGuardrails.PoolsApart) :
    (fabric_networks policy.toGuardrails derived.intent).Pairwise fun first second => Disjoint first.2 second.2 := by
  have hadmitted := stages.network_admitted
  have hpairwise := stages.networks_pairwise
  rw [stages.networks, List.pairwise_map] at hpairwise
  rw [stages.networks, List.forall_mem_map] at hadmitted
  refine hpairwise.imp_of_mem fun {first second} hfirst hsecond hpools => ?_
  by_cases hpool : first.1 = second.1
  · exact hpools hpool
  · obtain ⟨-, supernet, network, hsupernet, hnetwork, hinside⟩ := hadmitted first hfirst
    obtain ⟨-, other_supernet, other, hother_supernet, hother, hother_inside⟩ := hadmitted second hsecond
    intro named other_named hnamed hother_named address hmem hother_mem
    obtain rfl := Except.ok.inj (hnetwork.symm.trans hnamed)
    obtain rfl := Except.ok.inj (hother.symm.trans hother_named)
    exact supernets_disjoint hapart hpool hsupernet hother_supernet address (hinside address hmem)
      (hother_inside address hother_mem)

/-- The subnets of the plan are carved from their prefixes, and hosts can use the addresses of all but the links. -/
theorem Stages.carved : ∀ planned ∈ planned_interfaces policy.toGuardrails derived.intent ++
    planned_rp policy.toGuardrails derived.intent,
      planned.Carved ∧ (Usable planned.subnet ∨ ∃ link ∈ derived.intent.links, planned.subnet = link.addressing) := by
  obtain ⟨hservices, hmulticast, -⟩ := stages.sections
  have hderived := congrArg DerivedFabric.intent stages.derived_eq
  have hmulticast_ok {multicast : Multicast} (hfound : multicast ∈ derived.intent.multicast.toList) :=
    derive_optional_some stages.multicast_ok (hmulticast.symm.trans (Option.mem_toList.mp hfound))
  have hservices_ok {services : SharedServices} (hfound : services ∈ derived.intent.shared_services.toList) :=
    derive_optional_some stages.shared_services_ok (hservices.symm.trans (Option.mem_toList.mp hfound))
  simp only [planned_interfaces, planned_rp, List.forall_mem_append, List.forall_mem_map, List.forall_mem_flatMap]
  refine ⟨⟨⟨⟨⟨⟨?_, ?_⟩, ?_⟩, ?_⟩, ?_⟩, ?_⟩, ?_⟩
  · intro device hdevice
    rw [hderived] at hdevice
    exact ⟨carved_devices stages.devices_ok hdevice, Or.inl (usable_loopback _)⟩
  · intro link hlink
    have hstage := hlink
    rw [hderived] at hstage
    exact ⟨(carved_link stages.links_ok hstage).1, .inr ⟨link, hlink, rfl⟩⟩
  · intro pool hpool
    rw [hderived] at hpool
    obtain ⟨hcarved, husable⟩ := carved_pools stages.overlay_ok hpool
    exact ⟨hcarved, .inl husable⟩
  · intro peer hpeer
    rw [hderived] at hpeer
    obtain ⟨hcarved, husable⟩ := carved_peers stages.handoff_ok hpeer
    exact ⟨hcarved, .inl husable⟩
  · intro services hfound attachment hattachment
    obtain ⟨raw, after, hok⟩ := hservices_ok hfound
    obtain ⟨hcarved, husable⟩ := carved_attachments hok hattachment
    exact ⟨hcarved, .inl husable⟩
  · intro multicast hfound overlay_policy hpolicy segment hsegment
    obtain ⟨raw, after, hok⟩ := hmulticast_ok hfound
    exact ⟨(carved_multicast hok).2 overlay_policy hpolicy segment hsegment, Or.inl (usable_loopback _)⟩
  · intro multicast hfound address haddress
    obtain ⟨raw, after, hok⟩ := hmulticast_ok hfound
    exact ⟨((carved_multicast hok).1 address (Option.mem_toList.mp haddress)).2, Or.inl (usable_loopback _)⟩

/-- The sections that the earlier versions of the schema lack, and what the handoff and the rendezvous point go with. -/
theorem Stages.consistent :
    (derived.intent.schema_version ≠ .v1_2 →
      derived.intent.shared_services = none ∧ derived.intent.multicast = none) ∧
    (derived.intent.border_handoff.enabled = false → derived.intent.border_handoff.peers = none) ∧
    derived.intent.fabric.multicast = derived.intent.multicast.map fabric_multicast ∧
    ∀ multicast, derived.intent.multicast = some multicast → multicast.rp_address.isSome → multicast.enabled := by
  obtain ⟨-, hsection, -⟩ := stages.sections
  have hderived := congrArg DerivedFabric.intent stages.derived_eq
  have hversion : derived.intent.schema_version = requirements.schema_version :=
    congrArg DerivedIntent.schema_version hderived
  have hservices := congrArg DerivedIntent.shared_services hderived
  have hmulticast := congrArg DerivedIntent.multicast hderived
  have hfabric : derived.intent.fabric.multicast = (derived_fabric requirements stages.multicast.1).multicast :=
    congrArg (·.fabric.multicast) hderived
  have hhandoff : derived.intent.border_handoff = stages.handoff.1 := congrArg DerivedIntent.border_handoff hderived
  refine ⟨fun hearlier => ?_, fun hdisabled => ?_, ?_, fun multicast hfound hrp => ?_⟩
  · rw [hversion] at hearlier
    exact ⟨hservices.trans (if_neg hearlier), hmulticast.trans (if_neg hearlier)⟩
  · rw [hhandoff] at hdisabled ⊢
    have hok := stages.handoff_ok
    unfold derive_handoff at hok
    split at hok
    · rw [← pure_eq_ok_iff.mp hok]
    · simp only [bind_eq_ok_iff, pure_eq_ok_iff] at hok
      obtain ⟨_, -, _, -, _, -, _, -, hresult⟩ := hok
      rw [← hresult] at hdisabled
      cases hdisabled
  · rw [hfabric, hmulticast, derived_fabric]
    by_cases hcurrent : requirements.schema_version = .v1_2
    · simp only [hcurrent, decide_true, ↓reduceIte]
    · simp only [hcurrent, decide_false, Bool.false_eq_true, ↓reduceIte, Option.map_none]
  · obtain ⟨raw, after, hok⟩ := derive_optional_some stages.multicast_ok (hsection.symm.trans hfound)
    obtain ⟨address, haddress⟩ := Option.isSome_iff_exists.mp hrp
    exact ((carved_multicast hok).1 address haddress).1

/-- The plan of a derived intent is the plan of the intent that is read back. -/
theorem Stages.subnets_of_read {intent : FabricIntent} (hread : derived.intent.read = some intent) :
    (planned_interfaces policy.toGuardrails derived.intent).map PlannedSubnet.subnet = interface_subnets intent ∧
      (planned_rp policy.toGuardrails derived.intent).map PlannedSubnet.subnet =
        (underlay_rp intent).toList.map Subnet.loopback := by
  obtain ⟨hearlier, hdisabled, hfabric, hrp⟩ := stages.consistent
  simp only [DerivedIntent.read, Option.bind_eq_bind, Option.bind_eq_some_iff, Option.pure_def, Option.some.injEq] at hread
  obtain ⟨fabric_sites, -, hintent⟩ := hread
  have hpeers : intent.handoff_peers = derived.intent.border_handoff.peers.getD [] := by
    rw [← hintent, FabricIntent.handoff_peers, FabricIntent.handoff_enabled, Option.any_some, Option.bind_some]
    split
    · rfl
    · rename_i hoff
      rw [hdisabled (Bool.not_eq_true _ ▸ hoff), Option.getD_none]
  have hattachments : intent.service_attachments =
      derived.intent.shared_services.toList.flatMap (·.attachments) := by
    rw [← hintent, FabricIntent.service_attachments, FabricIntent.services]
    split
    · cases derived.intent.shared_services <;> simp
    · rename_i hversion
      rw [(hearlier hversion).1]
      rfl
  have hpolicies : intent.overlay_policies =
      derived.intent.multicast.toList.flatMap fun multicast => multicast.overlay_policies.getD [] := by
    rw [← hintent, FabricIntent.overlay_policies, FabricIntent.multicast_context]
    split
    · cases derived.intent.multicast <;> simp
    · rename_i hversion
      rw [(hearlier hversion).2]
      rfl
  have hunderlay : underlay_rp intent = derived.intent.multicast.bind (·.rp_address) := by
    rw [← hintent, underlay_rp, hfabric]
    cases hmulticast : derived.intent.multicast with
    | none => rfl
    | some multicast =>
      rw [Option.map_some, Option.bind_some, Option.filter_some]
      split
      · rfl
      · rename_i hoff
        cases hrp_address : multicast.rp_address with
        | none => rfl
        | some address =>
          exact absurd (hrp multicast hmulticast (by rw [hrp_address]; rfl)) hoff
  have hsame : intent.devices = derived.intent.devices ∧ intent.links = derived.intent.links ∧
      intent.endpoint_pools = derived.intent.endpoint_pools := by
    rw [← hintent]
    exact ⟨rfl, rfl, rfl⟩
  obtain ⟨hdevices, hlinks, hpools⟩ := hsame
  constructor
  · rw [interface_subnets, hdevices, hlinks, hpools, hpeers, hattachments, hpolicies]
    simp only [planned_interfaces, planned_loopback, List.map_append, List.map_map, List.map_flatMap, List.flatMap_assoc,
      Function.comp_def]
  · rw [hunderlay, planned_rp]
    cases derived.intent.multicast with
    | none => rfl
    | some multicast =>
      simp only [planned_loopback, Option.toList_some, List.flatMap_singleton, List.map_map, Function.comp_def,
        Option.bind_some]

/-- The subnets of a plan share no address where the pools share none. -/
theorem Stages.subnets_disjoint (hapart : policy.toGuardrails.PoolsApart) :
    ((planned_interfaces policy.toGuardrails derived.intent ++ planned_rp policy.toGuardrails derived.intent).map
      PlannedSubnet.subnet).Pairwise fun first second => ∀ a ∈ first.network, ∀ b ∈ second.network,
        a.overlaps b = false := by
  have hnetworks := ((fabric_networks_perm derived.intent).pairwise_iff fun {_ _} hdisjoint =>
    Disjoint.symm hdisjoint).mp (stages.networks_disjoint hapart)
  have hplanned := List.pairwise_map.mp (List.pairwise_append.mp hnetworks).1
  refine List.pairwise_map.mpr (hplanned.imp_of_mem fun {first second} hfirst hsecond hdisjoint => ?_)
  obtain ⟨⟨-, found, network, hfound, hnetwork, hinside⟩, -⟩ := stages.carved first hfirst
  obtain ⟨⟨-, other_found, other, hother_found, hother, hother_inside⟩, -⟩ := stages.carved second hsecond
  intro a ha b hb
  obtain rfl := Option.some.inj (hfound.symm.trans ha)
  obtain rfl := Option.some.inj (hother_found.symm.trans hb)
  exact IPv4Network.not_overlaps_iff.mpr fun address hmem hother_mem =>
    hdisjoint network other hnetwork hother address (hinside address hmem) (hother_inside address hother_mem)

/-- Hosts can use the addresses of a plan unless its links are longer or shorter than pairs. -/
theorem Stages.usable_iff : (∀ planned ∈ planned_interfaces policy.toGuardrails derived.intent ++
    planned_rp policy.toGuardrails derived.intent, Usable planned.subnet) ↔
      (derived.intent.links = [] ∨ policy.prefix_len "underlay_p2p" = .ok 31) := by
  have hlinks {link : Link} (hlink : link ∈ derived.intent.links) :
      Usable link.addressing ↔ policy.prefix_len "underlay_p2p" = .ok 31 := by
    have hderived : derived.intent.links = stages.links.1 := congrArg (·.intent.links) stages.derived_eq
    exact (carved_link stages.links_ok (hderived ▸ hlink)).2
  constructor
  · intro husable
    cases hlist : derived.intent.links with
    | nil => exact .inl rfl
    | cons link rest =>
      have hlink : link ∈ derived.intent.links := hlist ▸ List.mem_cons_self
      refine .inr ((hlinks hlink).mp (husable ⟨"underlay_p2p", link.subnet, link.addressing⟩ ?_))
      simp only [planned_interfaces, List.mem_append, List.mem_map]
      exact .inl (.inl (.inl (.inl (.inl (.inr ⟨link, hlink, rfl⟩)))))
  · intro hlength planned hplanned
    obtain husable | ⟨link, hlink, hsubnet⟩ := (stages.carved planned hplanned).2
    · exact husable
    · rw [hsubnet, hlinks hlink]
      obtain hnone | hpair := hlength
      · exact absurd (hnone ▸ hlink) List.not_mem_nil
      · exact hpair

end Stages

/-! ## The validator accepts the plan -/

/-- Networks that are pairwise disjoint raise no issue. -/
theorem clean_overlaps_of_pairwise {networks : List AddressNetwork}
    (hpairwise : networks.Pairwise fun first second => first.network.overlaps second.network = false) :
    Clean (_check_network_overlaps networks) := by
  induction hpairwise with
  | nil => exact clean_nil
  | cons hfirst _ ih =>
    simp only [_check_network_overlaps, clean_append, clean_flatMap, clean_add_if]
    exact ⟨hfirst, ih⟩

section Derived

variable {platform : Platform} {upper : String → String} {policy : Policy} {requirements : Requirements}
  {network_ledger : List NetworkRow} {scalar_ledger : List ScalarRow} {derived : DerivedFabric} {intent : FabricIntent}

/-- The validator finds no overlap in a derived intent, and its plan is sound but for links whose prefixes are no pairs. -/
theorem derived_plan_checked
    (hok : derive_fabric_intent platform upper policy requirements network_ledger scalar_ledger = .ok derived)
    (hapart : policy.toGuardrails.PoolsApart) (hread : derived.intent.read = some intent) :
    Clean (_check_network_overlaps (address_networks intent)) ∧
      (SoundPlan intent ↔ intent.links = [] ∨ policy.prefix_len "underlay_p2p" = .ok 31) := by
  obtain ⟨stages⟩ := exists_stages hok
  obtain ⟨hinterfaces, hrp⟩ := stages.subnets_of_read hread
  have hplan : (planned_interfaces policy.toGuardrails derived.intent ++
      planned_rp policy.toGuardrails derived.intent).map PlannedSubnet.subnet = subnets intent := by
    rw [List.map_append, hinterfaces, hrp, subnets]
  have hproper : ∀ subnet ∈ subnets intent, subnet.Proper := by
    rw [← hplan, List.forall_mem_map]
    exact fun planned hplanned => (stages.carved planned hplanned).1.1
  have hdisjoint := stages.subnets_disjoint hapart
  rw [hplan] at hdisjoint
  constructor
  · rw [subnets] at hdisjoint hproper
    have hnetworks : ((interface_subnets intent).map Subnet.network).Pairwise
        fun first second => ∀ a ∈ first, ∀ b ∈ second, a.overlaps b = false :=
      List.pairwise_map.mpr (List.pairwise_append.mp hdisjoint).1
    rw [← address_networks_eq (List.forall_mem_append.mp hproper).1, List.pairwise_map] at hnetworks
    exact clean_overlaps_of_pairwise (hnetworks.imp fun hoverlaps => hoverlaps _ rfl _ rfl)
  · have hassignable : (∀ subnet ∈ subnets intent, ∀ address ∈ subnet.addresses, Assignable subnet.network address) ↔
        ∀ planned ∈ planned_interfaces policy.toGuardrails derived.intent ++
          planned_rp policy.toGuardrails derived.intent, Usable planned.subnet := by
      rw [← List.forall_mem_map, hplan]
      exact forall₂_congr fun subnet hsubnet => forall₂_congr fun address haddress =>
        assignable_iff (hproper subnet hsubnet) haddress
    have hlinks : intent.links = derived.intent.links := by
      simp only [DerivedIntent.read, Option.bind_eq_bind, Option.bind_eq_some_iff, Option.pure_def,
        Option.some.injEq] at hread
      obtain ⟨fabric_sites, -, hintent⟩ := hread
      rw [← hintent]
    rw [hlinks, ← stages.usable_iff, ← hassignable]
    exact ⟨SoundPlan.assignable, fun hall => ⟨nodup_of_disjoint hproper hdisjoint, hall⟩⟩

theorem derived_plan_checked_lab : ∃ derived intent, derive_fabric_intent cpython lab_upper lab_policy lab_requirements
    lab_network_ledger lab_scalar_ledger = .ok derived ∧ derived.intent.read = some intent ∧
      Clean (_check_network_overlaps (address_networks intent)) ∧
        (SoundPlan intent ↔ intent.links = [] ∨ lab_policy.prefix_len "underlay_p2p" = .ok 31) := by
  have hmap : (derive_fabric_intent cpython lab_upper lab_policy lab_requirements lab_network_ledger
      lab_scalar_ledger).toOption.map (fun derived => derived.intent.read.isSome) = some true := by
    decide +kernel
  obtain ⟨derived, hok, hread⟩ := exists_ok_of_map hmap
  obtain ⟨intent, hread⟩ := Option.isSome_iff_exists.mp hread
  have hapart : lab_policy.toGuardrails.PoolsApart := by
    unfold Guardrails.PoolsApart
    decide +kernel
  exact ⟨derived, intent, hok, hread, derived_plan_checked hok hapart hread⟩

end Derived

end orchestrator.allocator
