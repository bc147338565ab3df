import SdaOrchestrator.Allocator.Devices

open python ipaddress orchestrator.store

namespace orchestrator.allocator

open orchestrator.intent

/-- `list(network.hosts())[index]`. -/
def host_at (network : IPv4Network) (index : Nat) : Py IPv4Address :=
  if network.prefixlen ≤ 30 then
    if index + 2 < network.num_addresses then .ok (.ofNat (network.network_address.value + 1 + index))
    else .error (IndexError "list index out of range")
  else nth_address network index

/-- `vn_by_name.get(name)`. -/
def vn_by_name (vns : List VirtualNetwork) (name : String) : Option VirtualNetwork :=
  assoc.lookup name (dict_of (vns.map fun vn => (vn.name, vn)))

section Derive

variable (policy : Policy) (domain : String)

/-! ## The attachments of the service VRF -/

/-- One attachment, after those of the given ids and fusion nodes. -/
def derive_service_attachment (shared_vlan_range : RangePolicy) (fusion_ids : List String)
    (raw : ServiceAttachmentRequest) (state : (List String × List String) × Taken) :
    Py (ServiceAttachment × (List String × List String) × Taken) := do
  raise_if (raw.id ∈ state.1.1) (AllocationError ("Duplicate shared-service attachment " ++ raw.id))
  raise_if (raw.fusion_node_id ∉ fusion_ids)
    (AllocationError s!"Shared-service attachment {raw.id} references unknown fusion node {raw.fusion_node_id}")
  raise_if (raw.fusion_node_id ∈ state.1.2)
    (AllocationError s!"Fusion node {raw.fusion_node_id} has multiple shared-service attachments")
  let bounds ← shared_vlan_range.bounds
  let (vlan, taken) ← reserve_scalar domain .vlan_id bounds.1 bounds.2 state.2
  let prefix_len ← policy.prefix_len "shared_service_handoff"
  let (pfx, taken) ← reserve_prefix policy.supernets domain "shared_service_handoff" prefix_len taken
  raise_if (pfx.num_addresses < 2)
    (AllocationError s!"Shared-service handoff {pfx.str} must provide two usable addresses")
  return ({
    id := raw.id
    fusion_node_id := raw.fusion_node_id
    interface := raw.interface
    vlan_id := vlan
    pfx := pfx.str
    local_ip := ← host_at pfx 0
    next_hop := ← host_at pfx 1 }, (raw.id :: state.1.1, raw.fusion_node_id :: state.1.2), taken)

/-! ## The services -/

/-- The addresses that the consumers of the services import, by consumer. -/
abbrev Imports := List (String × List String)

/-- `import_prefixes_by_consumer.setdefault(consumer, set()).update(prefixes)`. -/
def import_prefixes (prefixes : List String) (imports : Imports) (consumer : String) : Imports :=
  assoc.set consumer ((assoc.lookup consumer imports).getD [] ++ prefixes) imports

/-- The service takes no address of an endpoint pool. -/
def check_service_overlap (service_id : String) (pools : List EndpointPool) ( service_prefix : IPv4Network) :
    Py Unit :=
  pools.forM fun endpoint_pool => do
    let endpoint_prefix ← _network endpoint_pool.pfx
    raise_if ( service_prefix.overlaps endpoint_prefix) (AllocationError
      s!"Shared service {service_id} prefix { service_prefix.str} overlaps fabric endpoint pool { endpoint_prefix.str}")

/-- One service, after those of the given ids, and what it adds to the imports. -/
def derive_service (pools : List EndpointPool) (vns : List VirtualNetwork) (raw : Service)
    (state : List String × Imports) : Py (Service × List String × Imports) := do
  raise_if (raw.id ∈ state.1) (AllocationError ("Duplicate shared service id " ++ raw.id))
  let prefixes := sortedTexts ((← raw.prefixes.mapM _network).map IPv4Network.str)
  let parsed_prefixes ← prefixes.mapM _network
  parsed_prefixes.forM (check_service_overlap raw.id pools)
  let addresses := sortedBy (·.str) raw.addresses
  addresses.forM fun address =>
    raise_if (!parsed_prefixes.any (address ∈ ·))
      (AllocationError s!"Shared service {raw.id} address {address.str} is outside its advertised prefixes")
  let consumers := sortedTexts raw.consumer_virtual_networks
  match sortedSet (consumers.filter (· ∉ vns.map (·.name))) with
  | unknown :: _ => .error (AllocationError s!"Shared service {raw.id} references unknown virtual network {unknown}")
  | [] =>
    return ({ raw with addresses, prefixes, consumer_virtual_networks := consumers }, raw.id :: state.1,
      consumers.foldl (import_prefixes prefixes) state.2)

/-- The leak between the service VRF and the one of a consumer. -/
def derive_route_leak (service_vrf : String) (pools : List EndpointPool) (vns : List VirtualNetwork)
    (imports : Imports) (consumer : String) : Py RouteLeak := do
  let export_prefixes := sortedTexts ((pools.filter (·.virtual_network = consumer)).map (·.pfx))
  raise_if export_prefixes.isEmpty (AllocationError s!"Shared-services consumer {consumer} has no endpoint pool")
  let vn ← require (vn_by_name vns consumer) (KeyError consumer)
  return {
    consumer_vrf := vn.vrf
    service_vrf
    import_prefixes := sortedSet ((assoc.lookup consumer imports).getD [])
    export_prefixes }

/-- Every fusion node of a production fabric is attached. -/
def check_attached (environment : Environment) (fusion_ids attached_fusions : List String) : Py Unit :=
  if environment = .production then
    match sortedSet (fusion_ids.filter (· ∉ attached_fusions)) with
    | missing :: _ =>
      .error (AllocationError s!"Production shared services are missing attachment for fusion node {missing}")
    | [] => .ok ()
  else .ok ()

/-! ## The whole section -/

/-- The shared services, whose default action is to deny. -/
def derive_shared_services (environment : Environment) (fusion_ids : List String) (vns : List VirtualNetwork)
    (pools : List EndpointPool) (raw : SharedServicesRequest) (taken : Taken) : Py (SharedServices × Taken) := do
  raise_if (raw.vrf ∉ vns.map (·.vrf)) (AllocationError s!"Shared-services VRF {raw.vrf} is unknown")
  let _ ← policy.require_pool "shared_service_handoff"
  let shared_vlan_range ← policy.require_range "shared_service_vlan_id"
  let (attachments, (_, attached_fusions), taken) ← thread
    (derive_service_attachment policy domain shared_vlan_range fusion_ids)
    (sortedBy (·.id) raw.attachments) (([], []), taken)
  check_attached environment fusion_ids attached_fusions
  let (services, _, imports) ← thread (derive_service pools vns) (sortedBy (·.id) raw.services) ([], [])
  let route_leaks ← (sortedTexts (imports.map Prod.fst)).mapM (derive_route_leak raw.vrf pools vns imports)
  return ({ vrf := raw.vrf, attachments, services, route_leaks }, taken)

end Derive

end orchestrator.allocator
