import SdaOrchestrator.Allocator.Sound

open python ipaddress orchestrator.store journal

namespace orchestrator.allocator

open orchestrator.intent

/-! ## The reservations are the resources of the intent -/

/-- The reservation of a prefix in a domain. -/
def reserved_network (domain : String) (entry : String × String) : NetworkReservation where
  allocation_domain := domain
  resource_pool_id := entry.1
  pfx := entry.2
  state := "reserved"

/-- The scalar of a resource. -/
def Resource.scalars : Resource → List (Kind × Int)
  | .network _ _ => []
  | .scalar kind value => [(kind, value)]

/-- The reservation of a scalar in a domain. -/
def reserved_scalar (domain : String) (entry : Kind × Int) : ScalarReservation where
  allocation_domain := domain
  resource_type := entry.1.text
  value := toString entry.2
  state := "reserved"

section Exact

variable {platform : Platform} {upper : String → String} {policy : Policy} {requirements : Requirements}
  {network_ledger : List NetworkRow} {scalar_ledger : List ScalarRow} {derived : DerivedFabric}

theorem flatMap_nothing {α β : Type} (items : List α) : (items.flatMap fun _ => ([] : List β)) = [] :=
  List.flatMap_eq_nil_iff.mpr fun _ _ => rfl

theorem derive_optional_none {α β : Type} {derive_section : α → Taken → Py (β × Taken)} {taken : Taken}
    {result : Option β × Taken} (hok : derive_optional derive_section none taken = .ok result) : result.1 = none := by
  obtain rfl := Except.ok.inj hok
  rfl

theorem groups_of_sources {devices : List Device} {handoff : BorderHandoff} {plane sourced : Option PolicyPlane}
    (hok : derive_sources devices handoff plane = .ok sourced) :
    sourced.map (·.security_groups) = plane.map (·.security_groups) := by
  cases plane with
  | none =>
    obtain rfl := pure_eq_ok_iff.mp hok
    rfl
  | some plane =>
    simp only [derive_sources, Option.mapM_some, map_eq_pure_bind, bind_eq_ok_iff, pure_eq_ok_iff] at hok
    obtain ⟨_, ⟨sxp, -, rfl⟩, rfl⟩ := hok
    rfl

/-- The intent has the sections that are derived: the earlier versions of the schema have none of them. -/
theorem Stages.sections (stages : Stages platform upper policy requirements network_ledger scalar_ledger derived) :
    derived.intent.shared_services = stages.shared_services.1 ∧ derived.intent.multicast = stages.multicast.1 ∧
      derived.intent.policy_plane.map (·.security_groups) = stages.policy_plane.1.map (·.security_groups) := by
  have hderived := congrArg DerivedFabric.intent stages.derived_eq
  have hgroups := groups_of_sources stages.sourced_ok
  rw [hderived]
  simp only
  by_cases hversion : requirements.schema_version = .v1_2
  · simp only [hversion, ↓reduceIte]
    exact ⟨trivial, trivial, hgroups⟩
  · obtain ⟨-, hservices, hplane⟩ := requirements.versioned hversion
    have hmulticast : requirements.multicast = none := by
      have hrequest := stages.request_ok
      simp only [check_request, raise_if_bind_eq_ok_iff, Bool.and_eq_false_iff, decide_eq_false_iff_not, not_not,
        hversion, false_or, Option.isSome_eq_false_iff, Option.isNone_iff_eq_none] at hrequest
      exact hrequest.1
    have hservices_ok := stages.shared_services_ok
    have hmulticast_ok := stages.multicast_ok
    have hplane_ok := stages.policy_plane_ok
    rw [hservices] at hservices_ok
    rw [hmulticast] at hmulticast_ok
    rw [hplane] at hplane_ok
    rw [if_neg hversion, if_neg hversion, if_neg hversion, derive_optional_none hservices_ok,
      derive_optional_none hmulticast_ok, derive_optional_none hplane_ok]
    exact ⟨rfl, rfl, rfl⟩

/-- The networks of the sections are those of the intent, in its order. -/
theorem Stages.networks (stages : Stages platform upper policy requirements network_ledger scalar_ledger derived) :
    derived.reservations.network =
      (fabric_networks policy.toGuardrails derived.intent).map (reserved_network requirements.allocation_domain) := by
  obtain ⟨hservices, hmulticast, -⟩ := stages.sections
  have hderived := congrArg DerivedFabric.intent stages.derived_eq
  rw [stages.recorded.1, fabric_networks, hservices, hmulticast, hderived]
  have hasn : (asn_resources requirements.speaks_bgp stages.overlay.1.1).flatMap
      (Resource.network_record requirements.allocation_domain) = [] := by
    unfold asn_resources
    split <;> rfl
  simp only [Stages.resources, List.map_eq_flatMap, List.flatMap_append, List.flatMap_assoc, List.flatMap_cons,
    List.flatMap_nil, List.append_nil, List.nil_append, hasn, device_resources, link_resources, overlay_resources,
    pool_resources, shared_service_resources, attachment_resources, multicast_resources, overlay_policy_resources,
    segment_resources, bum_resources, policy_plane_resources, identity_resources, handoff_resources, peer_resources,
    address_resource, Resource.network_record, reserved_network, flatMap_nothing]

theorem overlay_scalars_perm {α : Type} (derived : List (VirtualNetwork × List EndpointPool))
    (of_vn : VirtualNetwork → List α) (of_pool : EndpointPool → List α) :
    (derived.flatMap fun entry => of_vn entry.1 ++ entry.2.flatMap of_pool).Perm
      ((derived.map Prod.fst).flatMap of_vn ++ (derived.flatMap Prod.snd).flatMap of_pool) := by
  rw [List.flatMap_map, List.flatMap_assoc]
  exact (List.flatMap_append_perm _ _ _).symm

/-- The route distinguisher of a virtual network is its L3 instance in the AS of the fabric. -/
theorem rd_of_overlay {domain : String} {devices : List Device} {speaks_bgp : Bool}
    {raw_vns : List VirtualNetworkRequest} {taken after : Taken} {local_as : Int}
    {overlay : List (VirtualNetwork × List EndpointPool)}
    (hok : derive_overlay policy domain devices speaks_bgp raw_vns taken = .ok ((local_as, overlay), after)) :
    ∀ entry ∈ overlay, entry.1.rd = s!"{local_as}:{entry.1.l3_instance_id}" := by
  simp only [derive_overlay, bind_eq_ok_iff, Prod.exists, pure_eq_ok_iff, Prod.mk.injEq] at hok
  obtain ⟨asn, reserved, -, l3_range, -, vlan_range, -, l2_range, -, l2_base, -, found, last, hloop, ⟨rfl, rfl⟩, rfl⟩ := hok
  intro entry hentry
  obtain ⟨raw_vn, -, before, between, hvn⟩ := mem_of_thread hloop hentry
  simp only [derive_virtual_network, bind_eq_ok_iff, Prod.exists, pure_eq_ok_iff, Prod.mk.injEq] at hvn
  obtain ⟨low, high, -, l3_id, l3_taken, -, pools, final, -, rfl, -⟩ := hvn
  rfl

/-- A handoff that is enabled has the AS of the fabric. -/
theorem local_as_of_handoff {domain : String} {version : SchemaVersion} {environment : Environment}
    {devices : List Device} {fusion_nodes : List FusionNode} {vns : List VirtualNetwork} {local_as : Int}
    {raw_handoff : Option HandoffRequest} {taken : Taken} {result : BorderHandoff × Taken}
    (hok : derive_handoff policy domain version environment devices fusion_nodes vns local_as raw_handoff taken =
      .ok result) : result.1.enabled → result.1.local_as = some local_as := by
  unfold derive_handoff at hok
  split at hok
  · obtain rfl := pure_eq_ok_iff.mp hok
    exact fun henabled => nomatch henabled
  · simp only [bind_eq_ok_iff, pure_eq_ok_iff] at hok
    obtain ⟨_, -, _, -, _, -, _, -, rfl⟩ := hok
    exact fun _ => rfl

theorem scalar_records (domain : String) (resources : List Resource) :
    resources.flatMap (Resource.scalar_record domain) =
      (resources.flatMap Resource.scalars).map (reserved_scalar domain) := by
  rw [List.map_flatMap]
  refine List.flatMap_congr fun resource _ => ?_
  cases resource <;> rfl

theorem scalars_of_asn (speaks_bgp : Bool) (local_as : Int) :
    (asn_resources speaks_bgp local_as).flatMap Resource.scalars = if speaks_bgp then [(Kind.asn, local_as)] else [] := by
  unfold asn_resources
  split <;> rfl

theorem scalars_of_identities (identities : Option (Int × List MultihomingGroup)) :
    (identities.toList.flatMap identity_resources).flatMap Resource.scalars =
      (identities.map Prod.fst).toList.map (fun id => (Kind.lisp_domain_id, id)) ++
        ((identities.map Prod.snd).getD []).map fun group => (Kind.lisp_multihoming_id, group.multihoming_id) := by
  cases identities with
  | none => rfl
  | some identities =>
    simp only [Option.map_some, Option.toList_some, Option.getD_some, identity_resources, List.flatMap_cons,
      List.flatMap_nil, List.append_nil, List.map_eq_flatMap, List.flatMap_assoc, Resource.scalars,
      List.singleton_append]

/-- The scalars of the sections are those of the intent, and the AS of a fabric that speaks BGP. -/
theorem Stages.scalars (stages : Stages platform upper policy requirements network_ledger scalar_ledger derived) :
    (stages.resources.flatMap Resource.scalars).Perm
      ((if requirements.speaks_bgp then [(Kind.asn, stages.overlay.1.1)] else []) ++ fabric_scalars derived.intent) := by
  obtain ⟨hservices, -, hgroups⟩ := stages.sections
  have hderived := congrArg DerivedFabric.intent stages.derived_eq
  have hplane : (derived.intent.policy_plane.toList.flatMap fun plane =>
      plane.security_groups.map fun group => (Kind.sgt, group.tag)) =
      stages.policy_plane.1.toList.flatMap fun plane => plane.security_groups.map fun group => (Kind.sgt, group.tag) := by
    have hmap (plane : Option PolicyPlane) : (plane.toList.flatMap fun plane =>
        plane.security_groups.map fun group => (Kind.sgt, group.tag)) =
        (plane.map (·.security_groups)).toList.flatMap fun groups => groups.map fun group => (Kind.sgt, group.tag) := by
      cases plane <;> rfl
    rw [hmap, hgroups, ← hmap]
  have hlisp : derived.intent.lisp.domain_id = stages.identities.1.map Prod.fst ∧
      derived.intent.lisp.multihoming_groups = stages.identities.1.map Prod.snd := by
    rw [hderived]
    exact ⟨rfl, rfl⟩
  have hvns : derived.intent.virtual_networks = stages.overlay.1.2.map Prod.fst := congrArg (·.virtual_networks) hderived
  have hpools : derived.intent.endpoint_pools = stages.overlay.1.2.flatMap Prod.snd := congrArg (·.endpoint_pools) hderived
  have hhandoff : derived.intent.border_handoff = stages.handoff.1 := congrArg (·.border_handoff) hderived
  have hoverlay := overlay_scalars_perm stages.overlay.1.2
    (fun vn => [(Kind.l3_instance_id, vn.l3_instance_id)])
    (fun pool => [(Kind.vlan_id, pool.vlan_id), (Kind.l2_instance_id, pool.l2_instance_id)])
  rw [fabric_scalars, hservices, hplane, hlisp.1, hlisp.2, hvns, hpools, hhandoff, Stages.resources]
  simp only [List.flatMap_append, scalars_of_asn, scalars_of_identities]
  simp only [List.flatMap_append, List.flatMap_assoc, List.map_eq_flatMap, device_resources, address_resource, link_resources, overlay_resources, pool_resources,
    shared_service_resources, attachment_resources, multicast_resources, overlay_policy_resources, segment_resources,
    bum_resources, policy_plane_resources, handoff_resources, peer_resources, Resource.scalars, List.flatMap_cons,
    List.flatMap_nil, List.append_nil, List.nil_append, flatMap_nothing, List.append_assoc, List.cons_append] at hoverlay ⊢
  refine .append_left _ ?_
  simpa only [List.append_assoc] using hoverlay.append_right _

/-- The reservations are the prefixes of the intent in its order, and its scalars with the AS of a fabric that speaks
BGP, which is the one in its route distinguishers and in its handoff. -/
structure Accounted (guardrails : Guardrails) (requirements : Requirements) (derived : DerivedFabric) : Prop where
  networks : derived.reservations.network =
    (fabric_networks guardrails derived.intent).map (reserved_network requirements.allocation_domain)
  scalars : ∃ local_as : Int,
    derived.reservations.scalar.Perm (((if requirements.speaks_bgp then [(Kind.asn, local_as)] else []) ++
      fabric_scalars derived.intent).map (reserved_scalar requirements.allocation_domain)) ∧
    (∀ vn ∈ derived.intent.virtual_networks, vn.rd = s!"{local_as}:{vn.l3_instance_id}") ∧
    (derived.intent.border_handoff.enabled → derived.intent.border_handoff.local_as = some local_as)

end Exact

end orchestrator.allocator
