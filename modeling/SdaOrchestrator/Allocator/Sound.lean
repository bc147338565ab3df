import SdaOrchestrator.Allocator.Ledger

open python ipaddress orchestrator.store journal

namespace orchestrator.allocator

open orchestrator.intent

/-! ## The resources of a whole derivation -/

section Stages

variable {platform : Platform} {upper : String → String} {policy : Policy} {requirements : Requirements}
  {network_ledger : List NetworkRow} {scalar_ledger : List ScalarRow} {derived : DerivedFabric}

theorem reserves_optional {α β : Type} {domain : String} {derive_section : α → Taken → Py (β × Taken)} {entries : β → List Resource}
    {raw : Option α} {result : Option β} {taken after : Taken}
    (hsection : ∀ {raw found before next}, derive_section raw before = .ok (found, next) →
      ReservesAll policy.toGuardrails domain before (entries found) next)
    (hok : derive_optional derive_section raw taken = .ok (result, after)) :
    ReservesAll policy.toGuardrails domain taken (result.toList.flatMap entries) after := by
  unfold derive_optional at hok
  split at hok
  · obtain ⟨rfl, rfl⟩ := Prod.mk.inj (Except.ok.inj hok)
    exact .nil
  · simp only [bind_eq_ok_iff, Prod.exists, pure_eq_ok_iff, Prod.mk.injEq] at hok
    obtain ⟨found, next, hfound, rfl, rfl⟩ := hok
    rw [Option.toList_some, List.flatMap_singleton]
    exact hsection hfound

/-- The resources of the sections, in the order of their reservations. -/
def Stages.resources (stages : Stages platform upper policy requirements network_ledger scalar_ledger derived) :
    List Resource :=
  stages.devices.1.flatMap (device_resources policy.toGuardrails) ++ stages.links.1.flatMap link_resources ++
    (asn_resources requirements.speaks_bgp stages.overlay.1.1 ++ stages.overlay.1.2.flatMap overlay_resources) ++
    stages.shared_services.1.toList.flatMap shared_service_resources ++
    stages.multicast.1.toList.flatMap (multicast_resources policy.toGuardrails) ++
    stages.policy_plane.1.toList.flatMap policy_plane_resources ++
    stages.identities.1.toList.flatMap identity_resources ++ handoff_resources stages.handoff.1

theorem Stages.reserves (stages : Stages platform upper policy requirements network_ledger scalar_ledger derived) :
    ReservesAll policy.toGuardrails requirements.allocation_domain stages.initial stages.resources stages.handoff.2 :=
  (((((((reserves_devices stages.devices_ok).append (reserves_links stages.links_ok)).append
    (reserves_overlay stages.overlay_ok)).append (reserves_optional reserves_shared_services stages.shared_services_ok)).append
    (reserves_optional reserves_multicast stages.multicast_ok)).append
    (reserves_optional reserves_policy_plane stages.policy_plane_ok)).append
    (reserves_identities stages.identities_ok)).append (reserves_handoff stages.handoff_ok)

/-- The records of a derivation are those of its resources. -/
theorem Stages.recorded (stages : Stages platform upper policy requirements network_ledger scalar_ledger derived) :
    derived.reservations.network =
        stages.resources.flatMap (Resource.network_record requirements.allocation_domain) ∧
      derived.reservations.scalar =
        stages.resources.flatMap (Resource.scalar_record requirements.allocation_domain) := by
  obtain ⟨hnetwork, hscalar⟩ := stages.reserves.recorded
  obtain ⟨hnone, hnone'⟩ := nothing_recorded stages.initial_ok
  rw [hnone, List.nil_append] at hnetwork
  rw [hnone', List.nil_append] at hscalar
  have hderived := congrArg DerivedFabric.reservations stages.derived_eq
  exact ⟨(congrArg Reservations.network hderived).trans hnetwork, (congrArg Reservations.scalar hderived).trans hscalar⟩

end Stages

/-! ## Networks and scalars keep apart -/

section Apart

variable {platform : Platform} {upper : String → String} {policy : Policy} {requirements : Requirements}
  {network_ledger : List NetworkRow} {scalar_ledger : List ScalarRow} {derived : DerivedFabric}

theorem mem_network_record {domain : String} {resource : Resource} {item : NetworkReservation} :
    item ∈ resource.network_record domain ↔ item.allocation_domain = domain ∧ item.state = "reserved" ∧
      resource = .network item.resource_pool_id item.pfx := by
  cases resource with
  | scalar kind value => simp [Resource.network_record]
  | network pool_id pfx =>
    obtain ⟨allocation_domain, resource_pool_id, item_pfx, state⟩ := item
    simp only [Resource.network_record, List.mem_singleton, NetworkReservation.mk.injEq, Resource.network.injEq]
    tauto

theorem mem_scalar_record {domain : String} {resource : Resource} {item : ScalarReservation} :
    item ∈ resource.scalar_record domain ↔ item.allocation_domain = domain ∧ item.state = "reserved" ∧
      ∃ kind value, resource = .scalar kind value ∧ item.resource_type = kind.text ∧ item.value = toString value := by
  cases resource with
  | network pool_id pfx => simp [Resource.scalar_record]
  | scalar kind value =>
    obtain ⟨allocation_domain, resource_type, text, state⟩ := item
    simp only [Resource.scalar_record, List.mem_singleton, ScalarReservation.mk.injEq, Resource.scalar.injEq]
    constructor
    · rintro ⟨rfl, rfl, rfl, rfl⟩
      exact ⟨rfl, rfl, kind, value, ⟨rfl, rfl⟩, rfl, rfl⟩
    · rintro ⟨rfl, rfl, other, number, ⟨rfl, rfl⟩, rfl, rfl⟩
      exact ⟨rfl, rfl, rfl, rfl⟩

theorem Kind.text_injective : Function.Injective Kind.text := by
  intro first second hsame
  revert hsame
  cases first <;> cases second <;> decide

section Stages

variable (stages : Stages platform upper policy requirements network_ledger scalar_ledger derived)

include stages

theorem Stages.network_admitted : ∀ item ∈ derived.reservations.network,
    item.allocation_domain = requirements.allocation_domain ∧
      policy.Admits (.network item.resource_pool_id item.pfx) := by
  intro item hitem
  rw [stages.recorded.1] at hitem
  obtain ⟨resource, hresource, hrecord⟩ := List.mem_flatMap.mp hitem
  obtain ⟨hdomain, -, rfl⟩ := mem_network_record.mp hrecord
  exact ⟨hdomain, stages.reserves.forall_mem (·.admits) _ hresource⟩

/-- A prefix that is kept in a pool is disjoint from those that are reserved there. -/
theorem Stages.network_free {item : NetworkReservation} (hitem : item ∈ derived.reservations.network)
    {pool : PoolPolicy} (hpool : assoc.lookup item.resource_pool_id policy.supernets = some pool) {pfx : String}
    (hkept : pfx ∈ pool.reserved ∨ ∃ row ∈ network_ledger, row.allocation_domain = requirements.allocation_domain ∧
      row.resource_pool_id = item.resource_pool_id ∧ holds row.state ∧ row.pfx = pfx) : Disjoint pfx item.pfx := by
  rw [stages.recorded.1] at hitem
  obtain ⟨resource, hresource, hrecord⟩ := List.mem_flatMap.mp hitem
  obtain ⟨-, -, rfl⟩ := mem_network_record.mp hrecord
  intro known candidate hknown hcandidate
  have hholds := initial_holds_network stages.initial_ok hpool hknown hkept
  exact exclusive_reserves.apart_of_held stages.reserves hholds _ hresource rfl known candidate hknown hcandidate

theorem Stages.networks_pairwise : derived.reservations.network.Pairwise fun first second =>
    first.resource_pool_id = second.resource_pool_id → Disjoint first.pfx second.pfx := by
  rw [stages.recorded.1, List.pairwise_flatMap]
  constructor
  · intro resource _
    cases resource with
    | network pool_id pfx => exact List.pairwise_singleton _ _
    | scalar kind value => exact .nil
  · refine (exclusive_reserves.pairwise stages.reserves).imp fun hapart first hfirst second hsecond => ?_
    obtain ⟨-, -, rfl⟩ := mem_network_record.mp hfirst
    obtain ⟨-, -, rfl⟩ := mem_network_record.mp hsecond
    exact hapart

theorem Stages.scalar_admitted : ∀ item ∈ derived.reservations.scalar,
    item.allocation_domain = requirements.allocation_domain ∧
      ∃ kind value, item.resource_type = Kind.text kind ∧ item.value = toString value ∧
        policy.Admits (.scalar kind value) ∧ item.value ∉ stages.initial.scalar_taken kind := by
  intro item hitem
  rw [stages.recorded.2] at hitem
  obtain ⟨resource, hresource, hrecord⟩ := List.mem_flatMap.mp hitem
  obtain ⟨hdomain, -, kind, value, rfl, htype, hvalue⟩ := mem_scalar_record.mp hrecord
  refine ⟨hdomain, kind, value, htype, hvalue, stages.reserves.forall_mem (·.admits) _ hresource, ?_⟩
  intro hmem
  rw [hvalue] at hmem
  have hholds : stages.initial.Holds (.scalar kind value) := hmem
  exact exclusive_reserves.apart_of_held stages.reserves hholds _ hresource rfl rfl

/-- A scalar that is reserved is none that the ledger keeps. -/
theorem Stages.scalar_free {item : ScalarReservation} (hitem : item ∈ derived.reservations.scalar) {row : ScalarRow}
    (hrow : row ∈ scalar_ledger) (hdomain : row.allocation_domain = requirements.allocation_domain)
    (htype : row.resource_type = item.resource_type) (hholds : holds row.state) : row.value ≠ item.value := by
  obtain ⟨-, kind, value, hkind, hvalue, -, hfree⟩ := stages.scalar_admitted item hitem
  intro hsame
  exact hfree (hsame ▸ (initial_scalars stages.initial_ok kind).1 row hrow hdomain (htype.trans hkind) hholds)

theorem Stages.scalars_nodup :
    (derived.reservations.scalar.map fun item => (item.resource_type, item.value)).Nodup := by
  rw [stages.recorded.2, List.Nodup, List.pairwise_map, List.pairwise_flatMap]
  constructor
  · intro resource _
    cases resource with
    | network pool_id pfx => exact .nil
    | scalar kind value => exact List.pairwise_singleton _ _
  · refine (exclusive_reserves.pairwise stages.reserves).imp fun hapart first hfirst second hsecond hsame => ?_
    obtain ⟨-, -, kind, value, rfl, htype, hvalue⟩ := mem_scalar_record.mp hfirst
    obtain ⟨-, -, other_kind, other, rfl, hother_type, hother_value⟩ := mem_scalar_record.mp hsecond
    obtain ⟨hsame_type, hsame_value⟩ := Prod.mk.inj hsame
    refine hapart (Kind.text_injective (htype.symm.trans (hsame_type.trans hother_type))) ?_
    exact numerals.toString_injective (hvalue.symm.trans (hsame_value.trans hother_value))

end Stages

/-- The prefixes lie in the supernets of their pools, and each is disjoint from the others of its pool, from those that
the ledger keeps there for the domain and from those that the guardrails reserve. -/
structure NetworksPlaced (policy : Policy) (domain : String) (network_ledger : List NetworkRow)
    (items : List NetworkReservation) : Prop where
  inside : ∀ item ∈ items, item.allocation_domain = domain ∧ ∃ supernet network,
    policy.supernet item.resource_pool_id = .ok supernet ∧ _network item.pfx = .ok network ∧
      ∀ address ∈ network, address ∈ supernet
  unreserved : ∀ item ∈ items, ∃ pool, assoc.lookup item.resource_pool_id policy.supernets = some pool ∧
    ∀ raw_prefix ∈ pool.reserved, Disjoint raw_prefix item.pfx
  free : ∀ item ∈ items, ∀ row ∈ network_ledger, row.allocation_domain = domain →
    row.resource_pool_id = item.resource_pool_id → holds row.state → Disjoint row.pfx item.pfx
  pairwise : items.Pairwise fun first second =>
    first.resource_pool_id = second.resource_pool_id → Disjoint first.pfx second.pfx

/-- The scalars are set aside for their types, are neither kept by the ledger for the domain nor reserved by the
guardrails, and none is there twice. -/
structure ScalarsPlaced (policy : Policy) (domain : String) (scalar_ledger : List ScalarRow)
    (items : List ScalarReservation) : Prop where
  inside : ∀ item ∈ items, item.allocation_domain = domain ∧ ∃ kind value,
    item.resource_type = Kind.text kind ∧ item.value = toString value ∧ policy.Admits (.scalar kind value)
  unreserved : ∀ item ∈ items, ∀ kind range reserved, item.resource_type = Kind.text kind →
    assoc.lookup kind.range_name policy.ranges = some range →
      _policy_reserved_scalars kind.text range = .ok reserved → item.value ∉ reserved
  free : ∀ item ∈ items, ∀ row ∈ scalar_ledger, row.allocation_domain = domain →
    row.resource_type = item.resource_type → holds row.state → row.value ≠ item.value
  nodup : (items.map fun item => (item.resource_type, item.value)).Nodup

/-- The scalars of a derivation are placed in their ranges without a clash. -/
theorem reserved_scalars_placed
    (hok : derive_fabric_intent platform upper policy requirements network_ledger scalar_ledger = .ok derived) :
    ScalarsPlaced policy requirements.allocation_domain scalar_ledger derived.reservations.scalar := by
  obtain ⟨stages⟩ := exists_stages hok
  refine ⟨?_, ?_, ?_, stages.scalars_nodup⟩
  · intro item hitem
    obtain ⟨hdomain, kind, value, htype, hvalue, hadmits, -⟩ := stages.scalar_admitted item hitem
    exact ⟨hdomain, kind, value, htype, hvalue, hadmits⟩
  · intro item hitem kind range reserved htype hrange hreserved hmem
    obtain ⟨-, found, value, hfound, -, -, hfree⟩ := stages.scalar_admitted item hitem
    obtain rfl := Kind.text_injective (htype.symm.trans hfound)
    exact hfree ((initial_scalars stages.initial_ok kind).2 range reserved hrange hreserved _ hmem)
  · exact fun item hitem row hrow hdomain htype hholds => stages.scalar_free hitem hrow hdomain htype hholds

theorem reserved_scalars_placed_lab : ∃ derived, derive_fabric_intent cpython lab_upper lab_policy lab_requirements
    lab_network_ledger lab_scalar_ledger = .ok derived ∧ derived.reservations.scalar.length = 21 ∧
      ScalarsPlaced lab_policy "lab" lab_scalar_ledger derived.reservations.scalar := by
  obtain ⟨derived, hok, -, hscalars⟩ := lab_derives
  exact ⟨derived, hok, hscalars, reserved_scalars_placed hok⟩

end Apart

end orchestrator.allocator
