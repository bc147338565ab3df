import SdaOrchestrator.Allocator.Accounts

open python ipaddress orchestrator.store journal

namespace orchestrator.allocator

open orchestrator.intent

/-! ## What is taken before the first reservation -/

/-- No address lies in both prefixes. -/
def Disjoint (pfx other : String) : Prop := ∀ network other_network,
  _network pfx = .ok network → _network other = .ok other_network → ∀ address ∈ network, address ∉ other_network

theorem Disjoint.symm {pfx other : String} (hdisjoint : Disjoint pfx other) : Disjoint other pfx :=
  fun network other_network hnetwork hother address hmem hother_mem =>
    hdisjoint other_network network hother hnetwork address hother_mem hmem

/-- The dictionary of the results for the values of a dictionary. -/
theorem lookup_mapM {α β : Type} {f : String → α → Py β} {entries : List (String × α)} {found : List (String × β)}
    (hok : (entries.mapM fun (key, value) => do return (key, ← f key value)) = .ok found) {key : String} {value : α}
    (hvalue : assoc.lookup key entries = some value) :
    ∃ result, assoc.lookup key found = some result ∧ f key value = .ok result := by
  rw [mapM_eq_ok_iff] at hok
  induction hok with
  | nil => cases hvalue
  | @cons entry result rest others hentry _ ih =>
    obtain ⟨name, first⟩ := entry
    simp only [bind_eq_ok_iff, pure_eq_ok_iff] at hentry
    obtain ⟨mapped, hmapped, rfl⟩ := hentry
    rw [assoc.lookup_cons] at hvalue
    rw [assoc.lookup_cons]
    by_cases hname : name = key
    · subst hname
      rw [if_pos rfl] at hvalue
      obtain rfl := Option.some.inj hvalue
      exact ⟨mapped, if_pos rfl, hmapped⟩
    · rw [if_neg hname] at hvalue
      rw [if_neg hname]
      exact ih hvalue

/-- The networks of a pool that are taken before the first reservation. -/
def pool_taken (network_ledger : List NetworkRow) (domain pool_id : String) (pool : PoolPolicy) :
    Py (List IPv4Network) := do
  return (← _active_networks network_ledger domain pool_id) ++ (← _policy_reserved_networks pool_id pool)

section Initial

variable {supernets : List (String × PoolPolicy)} {ranges : List (String × RangePolicy)}
  {network_ledger : List NetworkRow} {scalar_ledger : List ScalarRow} {domain : String} {taken : Taken}
  (hinitial : initial_taken supernets ranges network_ledger scalar_ledger domain = .ok taken)

include hinitial

theorem nothing_recorded : taken.net_reservations = [] ∧ taken.scalar_reservations = [] := by
  simp only [initial_taken, bind_eq_ok_iff, pure_eq_ok_iff] at hinitial
  obtain ⟨_, -, _, -, _, -, _, -, _, -, _, -, _, -, _, -, rfl⟩ := hinitial
  exact ⟨rfl, rfl⟩

theorem initial_pools : (supernets.mapM fun (pool_id, pool) => do
    return (pool_id, ← pool_taken network_ledger domain pool_id pool)) = .ok taken.network_taken := by
  simp only [initial_taken, bind_eq_ok_iff, pure_eq_ok_iff] at hinitial
  obtain ⟨network_taken, hnetworks, _, -, _, -, _, -, _, -, _, -, _, -, _, -, rfl⟩ := hinitial
  simpa only [pool_taken, bind_assoc, pure_bind] using hnetworks

/-- The active networks of a pool and those that its policy reserves are taken. -/
theorem initial_networks {pool_id : String} {pool : PoolPolicy} (hpool : assoc.lookup pool_id supernets = some pool) :
    ∃ active reserved, _active_networks network_ledger domain pool_id = .ok active ∧
      _policy_reserved_networks pool_id pool = .ok reserved ∧
      assoc.lookup pool_id taken.network_taken = some (active ++ reserved) := by
  obtain ⟨result, hresult, hfound⟩ := lookup_mapM (initial_pools hinitial) hpool
  simp only [pool_taken, bind_eq_ok_iff, pure_eq_ok_iff] at hfound
  obtain ⟨active, hactive, reserved, hreserved, rfl⟩ := hfound
  exact ⟨active, reserved, hactive, hreserved, hresult⟩

/-- The scalars of a kind that are taken before the first reservation. -/
theorem initial_kind (kind : Kind) : (do
    match assoc.lookup kind.range_name ranges with
    | some range_policy => return _active_scalars scalar_ledger domain kind.text ++
        (← _policy_reserved_scalars kind.text range_policy)
    | none => return _active_scalars scalar_ledger domain kind.text) = (.ok (taken.scalar_taken kind) : Py _) := by
  simp only [initial_taken, bind_eq_ok_iff, pure_eq_ok_iff] at hinitial
  obtain ⟨_, -, _, hvlan, _, hl2, _, hl3, _, hasn, _, hsgt, _, hdomain, _, hmultihoming, rfl⟩ := hinitial
  cases kind with
  | vlan_id => exact hvlan
  | l2_instance_id => exact hl2
  | l3_instance_id => exact hl3
  | asn => exact hasn
  | sgt => exact hsgt
  | lisp_domain_id => exact hdomain
  | lisp_multihoming_id => exact hmultihoming

/-- The active scalars of a kind and those that its range reserves are taken. -/
theorem initial_scalars (kind : Kind) :
    (∀ row ∈ scalar_ledger, row.allocation_domain = domain → row.resource_type = kind.text → holds row.state →
      row.value ∈ taken.scalar_taken kind) ∧
    ∀ range reserved, assoc.lookup kind.range_name ranges = some range →
      _policy_reserved_scalars kind.text range = .ok reserved → ∀ value ∈ reserved, value ∈ taken.scalar_taken kind := by
  have htaken := initial_kind hinitial kind
  have hactive {row : ScalarRow} (hrow : row ∈ scalar_ledger) (hdomain : row.allocation_domain = domain)
      (htype : row.resource_type = kind.text) (hholds : holds row.state) :
      row.value ∈ _active_scalars scalar_ledger domain kind.text := by
    refine List.mem_map_of_mem (List.mem_filter.mpr ⟨hrow, ?_⟩)
    simp only [hdomain, htype, hholds, decide_true, Bool.and_self]
  split at htaken
  · rename_i range_policy hrange
    simp only [bind_eq_ok_iff, pure_eq_ok_iff] at htaken
    obtain ⟨found, hfound, hsame⟩ := htaken
    rw [← hsame]
    refine ⟨fun row hrow hdomain htype hholds => List.mem_append_left _ (hactive hrow hdomain htype hholds), ?_⟩
    intro range reserved hlookup hreserved value hvalue
    obtain rfl := Option.some.inj (hrange.symm.trans hlookup)
    obtain rfl := Except.ok.inj (hfound.symm.trans hreserved)
    exact List.mem_append_right _ hvalue
  · rename_i hnone
    rw [← pure_eq_ok_iff.mp htaken]
    refine ⟨fun row hrow hdomain htype hholds => hactive hrow hdomain htype hholds, ?_⟩
    intro range reserved hlookup
    rw [hnone] at hlookup
    cases hlookup

/-- What the ledger keeps and what the policy reserves of a pool is held from the start. -/
theorem initial_holds_network {pool_id pfx : String} {pool : PoolPolicy} {network : IPv4Network}
    (hpool : assoc.lookup pool_id supernets = some pool) (hnamed : _network pfx = .ok network)
    (hkept : pfx ∈ pool.reserved ∨ ∃ row ∈ network_ledger, row.allocation_domain = domain ∧
      row.resource_pool_id = pool_id ∧ holds row.state ∧ row.pfx = pfx) :
    taken.Holds (.network pool_id pfx) := by
  obtain ⟨active, reserved, hactive, hreserved, hlookup⟩ := initial_networks hinitial hpool
  refine ⟨active ++ reserved, network, hlookup, List.mem_append.mpr ?_, hnamed⟩
  obtain hraw | ⟨row, hrow, hdomain, hrow_pool, hholds, rfl⟩ := hkept
  · right
    simp only [ _policy_reserved_networks, bind_eq_ok_iff, require_eq_ok] at hreserved
    obtain ⟨cidr, -, supernet, -, hall⟩ := hreserved
    obtain ⟨found, hfound, hparsed⟩ := exists_of_mapM hall hraw
    simp only [bind_eq_ok_iff, pure_eq_ok_iff] at hparsed
    obtain ⟨parsed, hread, _, -, rfl⟩ := hparsed
    rwa [Except.ok.inj (hnamed.symm.trans hread)]
  · left
    have hmem : row ∈ network_ledger.filter fun item => item.allocation_domain = domain &&
        item.resource_pool_id = pool_id && holds item.state := by
      refine List.mem_filter.mpr ⟨hrow, ?_⟩
      simp only [hdomain, hrow_pool, hholds, decide_true, Bool.and_self]
    obtain ⟨found, hfound, hparsed⟩ := exists_of_mapM hactive hmem
    rwa [Except.ok.inj (hnamed.symm.trans hparsed)]

end Initial

/-! ## What a whole derivation reserves -/

section Fabric

/-- The prefixes of an intent, each after its pool, in the order of their reservations. -/
def fabric_networks (guardrails : Guardrails) (intent : DerivedIntent) : List (String × String) :=
  let address (pool_id : String) (address : IPv4Address) :=
    (pool_id, block_text address (guardrails.length_of pool_id))
  intent.devices.map (fun device => address "loopbacks" device.loopback0_ip) ++
    intent.links.map (fun link => ("underlay_p2p", link.subnet)) ++
    intent.endpoint_pools.map (fun pool => ("overlay_hosts", pool.pfx)) ++
    (intent.shared_services.toList.flatMap fun services =>
      services.attachments.map fun attachment => ("shared_service_handoff", attachment.pfx)) ++
    (intent.multicast.toList.flatMap fun multicast =>
      multicast.rp_address.toList.map (address "multicast_rp") ++
      ((multicast.overlay_policies.getD []).flatMap fun policy =>
        policy.segment_loopbacks.map (fun segment => address "multicast_overlay_loopbacks" segment.address) ++
        policy.core_group.toList.map fun group => ("multicast_core_groups", group.pfx)) ++
      (multicast.l2_bum_groups.getD []).map fun group => ("multicast_bum_groups", block_text group.group 32)) ++
    (intent.border_handoff.peers.getD []).map fun peer => ("border_handoff", peer.pfx)

/-- The scalars of an intent. -/
def fabric_scalars (intent : DerivedIntent) : List (Kind × Int) :=
  intent.virtual_networks.map (fun vn => (.l3_instance_id, vn.l3_instance_id)) ++
    (intent.endpoint_pools.flatMap fun pool => [(.vlan_id, pool.vlan_id), (.l2_instance_id, pool.l2_instance_id)]) ++
    (intent.shared_services.toList.flatMap fun services =>
      services.attachments.map fun attachment => (.vlan_id, attachment.vlan_id)) ++
    (intent.policy_plane.toList.flatMap fun plane => plane.security_groups.map fun group => (.sgt, group.tag)) ++
    intent.lisp.domain_id.toList.map (fun id => (.lisp_domain_id, id)) ++
    (intent.lisp.multihoming_groups.getD []).map (fun group => (.lisp_multihoming_id, group.multihoming_id)) ++
    (intent.border_handoff.peers.getD []).map fun peer => (.vlan_id, peer.vlan_id)

end Fabric

/-! ## The stages of a derivation -/

/-- Routes of the fabric carry an AS of their own, not the default one. -/
def Requirements.speaks_bgp (requirements : Requirements) : Bool :=
  bgp_enabled requirements.border_handoff || requirements.fabric.control_plane_mode = .lisp_bgp_transit

section Stages

variable (platform : Platform) (upper : String → String) (policy : Policy) (requirements : Requirements)
  (network_ledger : List NetworkRow) (scalar_ledger : List ScalarRow)

/-- What each section of a derivation returns, and what is taken after it. -/
structure Stages (derived : DerivedFabric) where
  context : Option SiteContext
  initial : Taken
  devices : List Device × Taken
  fusion_nodes : List FusionNode
  links : List Link × Taken
  overlay : (Int × List (VirtualNetwork × List EndpointPool)) × Taken
  attachments : List EndpointAttachment
  shared_services : Option SharedServices × Taken
  multicast : Option Multicast × Taken
  policy_plane : Option PolicyPlane × Taken
  control_planes : List String
  identities : Option (Int × List MultihomingGroup) × Taken
  handoff : BorderHandoff × Taken
  sourced : Option PolicyPlane
  request_ok : check_request policy requirements = .ok ()
  context_ok : _derive_site_context policy requirements = .ok context
  initial_ok : initial_taken policy.supernets policy.ranges network_ledger scalar_ledger
    requirements.allocation_domain = .ok initial
  devices_ok : derive_devices upper policy requirements.allocation_domain requirements.devices initial = .ok devices
  fusion_nodes_ok : derive_fusion_nodes upper policy devices.1 (requirements.fusion_nodes.getD []) = .ok fusion_nodes
  links_ok : derive_links policy requirements.allocation_domain devices.1 requirements.links devices.2 = .ok links
  overlay_ok : derive_overlay policy requirements.allocation_domain devices.1 requirements.speaks_bgp
    requirements.virtual_networks links.2 = .ok overlay
  attachments_ok : derive_attachments devices.1 links.1 (overlay.1.2.flatMap Prod.snd)
    (requirements.endpoint_attachments.getD []) = .ok attachments
  shared_services_ok : derive_optional (derive_shared_services policy requirements.allocation_domain
    requirements.metadata.environment (fusion_nodes.map (·.id)) (overlay.1.2.map Prod.fst)
    (overlay.1.2.flatMap Prod.snd)) requirements.shared_services overlay.2 = .ok shared_services
  multicast_ok : derive_optional (derive_multicast platform upper policy requirements.allocation_domain
    requirements.metadata.environment devices.1 links.1 (overlay.1.2.map Prod.fst) (overlay.1.2.flatMap Prod.snd))
    requirements.multicast shared_services.2 = .ok multicast
  policy_plane_ok : derive_optional (derive_policy_plane platform upper policy requirements.allocation_domain
    requirements.metadata.environment devices.1 (overlay.1.2.map Prod.fst) (overlay.1.2.flatMap Prod.snd)
    shared_services.1) requirements.policy_plane multicast.2 = .ok policy_plane
  control_planes_ok : derive_control_planes policy requirements devices.1 fusion_nodes = .ok control_planes
  identities_ok : derive_identities policy requirements devices.1 policy_plane.2 = .ok identities
  handoff_ok : derive_handoff policy requirements.allocation_domain requirements.schema_version
    requirements.metadata.environment devices.1 fusion_nodes (overlay.1.2.map Prod.fst) overlay.1.1
    requirements.border_handoff identities.2 = .ok handoff
  sourced_ok : derive_sources devices.1 handoff.1 policy_plane.1 = .ok sourced
  derived_eq : derived = {
    intent := {
      schema_version := requirements.schema_version
      context
      metadata := requirements.metadata
      fabric := derived_fabric requirements multicast.1
      devices := devices.1
      links := links.1
      lisp := derived_lisp requirements devices.1 control_planes identities.1
      virtual_networks := overlay.1.2.map Prod.fst
      endpoint_pools := overlay.1.2.flatMap Prod.snd
      endpoint_attachments := if attachments.isEmpty then none else some attachments
      fusion_nodes := if requirements.schema_version = .v1_2 then some fusion_nodes else none
      shared_services := if requirements.schema_version = .v1_2 then shared_services.1 else none
      multicast := if requirements.schema_version = .v1_2 then multicast.1 else none
      policy_plane := if requirements.schema_version = .v1_2 then sourced else none
      border_handoff := handoff.1 }
    reservations := {
      allocation_domain := requirements.allocation_domain
      fabric_id := requirements.fabric.id
      network := handoff.2.net_reservations
      scalar := handoff.2.scalar_reservations } }

variable {platform upper policy requirements network_ledger scalar_ledger} {derived : DerivedFabric}

/-- A derivation that succeeds has gone through its stages. -/
theorem exists_stages
    (hok : derive_fabric_intent platform upper policy requirements network_ledger scalar_ledger = .ok derived) :
    Nonempty (Stages platform upper policy requirements network_ledger scalar_ledger derived) := by
  simp only [derive_fabric_intent, bind_eq_ok_iff, pure_eq_ok_iff, decide_eq_true_eq] at hok
  obtain ⟨_, hrequest, context, hcontext, _, -, initial, hinitial, devices, hdevices, fusion_nodes, hfusion_nodes, links,
    hlinks, overlay, hoverlay, attachments, hattachments, shared_services, hshared_services, multicast, hmulticast,
    policy_plane, hpolicy_plane, control_planes, hcontrol_planes, identities, hidentities, handoff, hhandoff, sourced,
    hsourced, rfl⟩ := hok
  exact ⟨{
    context, initial, devices, fusion_nodes, links, overlay, attachments, shared_services, multicast, policy_plane,
    control_planes, identities, handoff, sourced
    request_ok := hrequest
    context_ok := hcontext
    initial_ok := hinitial
    devices_ok := hdevices
    fusion_nodes_ok := hfusion_nodes
    links_ok := hlinks
    overlay_ok := hoverlay
    attachments_ok := hattachments
    shared_services_ok := hshared_services
    multicast_ok := hmulticast
    policy_plane_ok := hpolicy_plane
    control_planes_ok := hcontrol_planes
    identities_ok := hidentities
    handoff_ok := hhandoff
    sourced_ok := hsourced
    derived_eq := rfl }⟩

end Stages

end orchestrator.allocator
