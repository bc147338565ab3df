import SdaOrchestrator.Allocator.Handoff
import SdaOrchestrator.Allocator.SiteContext
import SdaOrchestrator.Store.Cpython

open python ipaddress orchestrator.store

namespace orchestrator.allocator

open orchestrator.intent

/-- The intent that the requirements come to. -/
structure DerivedIntent where
  schema_version : SchemaVersion
  context : Option SiteContext
  metadata : Metadata
  fabric : Fabric
  devices : List Device
  links : List Link
  lisp : Lisp
  virtual_networks : List VirtualNetwork
  endpoint_pools : List EndpointPool
  endpoint_attachments : Option (List EndpointAttachment)
  fusion_nodes : Option (List FusionNode)
  shared_services : Option SharedServices
  multicast : Option Multicast
  policy_plane : Option PolicyPlane
  border_handoff : BorderHandoff

/-- `reservation_body`. -/
structure Reservations where
  allocation_domain : String
  fabric_id : String
  network : List NetworkReservation
  scalar : List ScalarReservation

/-- What `derive_fabric_intent` returns, but for the hashes. -/
structure DerivedFabric where
  intent : DerivedIntent
  reservations : Reservations

section Derive

variable (platform : Platform) (upper : String → String) (policy : Policy)

/-! ## Checks of the request -/

/-- The checks before the first reservation. -/
def check_request (requirements : Requirements) : Py Unit := do
  let fabric := requirements.fabric
  raise_if (requirements.schema_version ≠ .v1_2 && requirements.multicast.isSome)
    (AllocationError "Top-level multicast requirements require schema_version 1.2")
  raise_if (requirements.allocation_domain = "") (AllocationError "allocation_domain is required")
  raise_if (fabric.control_plane_mode.text ∉ policy.allowed_modes)
    (AllocationError s!"Control-plane mode {fabric.control_plane_mode.text} is not approved")
  let identity_override_requested := fabric.lisp_domain_id.isSome ||
    (requirements.fabric_sites.getD []).any (·.lisp_multihoming_id.isSome)
  raise_if (identity_override_requested &&
      (requirements.schema_version ≠ .v1_2 || fabric.control_plane_mode ≠ .lisp_pubsub))
    (AllocationError "LISP identity overrides require schema 1.2 lisp_pubsub mode")

/-- The pools that every fabric needs. -/
def check_pools : Py Unit :=
  ["underlay_p2p", "loopbacks", "overlay_hosts"].forM fun pool_id => do
    let _ ← policy.require_pool pool_id

/-- The control planes, of which there are enough, as there are borders and fusion nodes. -/
def derive_control_planes (requirements : Requirements) (devices : List Device) (fusion_nodes : List FusionNode) :
    Py (List String) := do
  let redundancy := policy.redundancy
  let control_planes := (devices.filter (Role.control_plane ∈ ·.roles)).map (·.id)
  raise_if control_planes.isEmpty (AllocationError "At least one control-plane device is required")
  if requirements.metadata.environment = .production then
    raise_if ((border_ids devices).length < redundancy.min_borders_production.getD 2)
      (AllocationError "Production guardrails require redundant borders")
    raise_if (control_planes.length < redundancy.min_control_planes_production.getD 2)
      (AllocationError "Production guardrails require redundant control planes")
    raise_if (requirements.schema_version = .v1_2 &&
        fusion_nodes.length < redundancy.min_fusion_nodes_production.getD 2)
      (AllocationError "Production guardrails require redundant fusion nodes")
  return control_planes

/-! ## The sections that only schema version 1.2 writes -/

/-- The LISP identities, where the fabric publishes and subscribes. -/
def derive_identities (requirements : Requirements) (devices : List Device) (taken : Taken) :
    Py (Option (Int × List MultihomingGroup) × Taken) := do
  if requirements.schema_version = .v1_2 && requirements.fabric.control_plane_mode = .lisp_pubsub then
    let sites := (requirements.fabric_sites.getD []).map fun site =>
      { id := site.id, lisp_multihoming_id := site.lisp_multihoming_id : SiteIdentity }
    let (identities, taken) ← derive_lisp_identities policy.toGuardrails requirements.allocation_domain
      requirements.fabric.lisp_domain_id sites devices taken
    return (some identities, taken)
  else return (none, taken)

/-- `intent["fabric"]["multicast"]`. -/
def fabric_multicast (multicast : Multicast) : FabricMulticast where
  enabled := multicast.enabled
  rp_address := multicast.rp_address
  rp_loopback_id := multicast.rp_address.map fun _ => 60000
  ssm_default := some (!multicast.ssm_virtual_networks.isEmpty)
  transport := some multicast.transport
  rp_device_ids := multicast.rp_device_ids.filter (!·.isEmpty)

/-- `intent["fabric"]`. -/
def derived_fabric (requirements : Requirements) (multicast : Option Multicast) : Fabric :=
  let fabric := requirements.fabric
  let versioned : Bool := requirements.schema_version = .v1_2
  { id := fabric.id
    name := fabric.name
    control_plane_mode := if versioned then some fabric.control_plane_mode else none
    mtu := fabric.mtu
    mtu_headroom := some 50
    isis_process := some (fabric.isis_process.getD "SDA-ISIS")
    isis_area := some (fabric.isis_area.getD "49.0001")
    multicast := if versioned then multicast.map fabric_multicast else none }

/-- `text.replace("-", "_")`. -/
def underscored (text : String) : String :=
  String.ofList ((chars text).map fun c => if c = '-' then '_' else c)

/-- `intent["lisp"]`. -/
def derived_lisp (requirements : Requirements) (devices : List Device) (control_planes : List String)
    (identities : Option (Int × List MultihomingGroup)) : Lisp :=
  let fabric := requirements.fabric
  let versioned : Bool := requirements.schema_version = .v1_2
  let publishes := versioned && fabric.control_plane_mode = .lisp_pubsub
  { site_name := fabric.lisp_site_name.getD (underscored fabric.id)
    auth_key_ref := fabric.lisp_auth_key_ref
    locator_set := some (fabric.locator_set.getD "rloc_fabric")
    map_servers := sortedTexts control_planes
    control_plane_mode := if versioned then some fabric.control_plane_mode else none
    publishers := if publishes then some (sortedTexts control_planes) else none
    subscribers := if publishes then some (sortedTexts (border_ids devices)) else none
    domain_id := identities.map Prod.fst
    multihoming_groups := identities.map Prod.snd }

/-! ## The whole derivation -/

/-- A section that the requirements may leave out. -/
def derive_optional {α β : Type} (derive_section : α → Taken → Py (β × Taken)) (raw : Option α) (taken : Taken) :
    Py (Option β × Taken) :=
  match raw with
  | none => .ok (none, taken)
  | some raw => do
    let (found, taken) ← derive_section raw taken
    return (some found, taken)

/-- `derive_fabric_intent(requirements, policy, network_ledger, scalar_ledger)`. -/
def derive_fabric_intent (requirements : Requirements) (network_ledger : List NetworkRow)
    (scalar_ledger : List ScalarRow) : Py DerivedFabric := do
  check_request policy requirements
  let domain := requirements.allocation_domain
  let environment := requirements.metadata.environment
  let version := requirements.schema_version
  let context ← _derive_site_context policy requirements
  check_pools policy
  let taken ← initial_taken policy.supernets policy.ranges network_ledger scalar_ledger domain
  let (devices, taken) ← derive_devices upper policy domain requirements.devices taken
  let fusion_nodes ← derive_fusion_nodes upper policy devices (requirements.fusion_nodes.getD [])
  let (links, taken) ← derive_links policy domain devices requirements.links taken
  let speaks_bgp := bgp_enabled requirements.border_handoff ||
    requirements.fabric.control_plane_mode = .lisp_bgp_transit
  let ((local_as, overlay), taken) ← derive_overlay policy domain devices speaks_bgp requirements.virtual_networks taken
  let vns := overlay.map Prod.fst
  let pools := overlay.flatMap Prod.snd
  let attachments ← derive_attachments devices links pools (requirements.endpoint_attachments.getD [])
  let (shared_services, taken) ← derive_optional (derive_shared_services policy domain environment
    (fusion_nodes.map (·.id)) vns pools) requirements.shared_services taken
  let (multicast, taken) ← derive_optional (derive_multicast platform upper policy domain environment devices links vns pools)
    requirements.multicast taken
  let (policy_plane, taken) ← derive_optional (derive_policy_plane platform upper policy domain environment devices vns pools
    shared_services) requirements.policy_plane taken
  let control_planes ← derive_control_planes policy requirements devices fusion_nodes
  let (identities, taken) ← derive_identities policy requirements devices taken
  let (border_handoff, taken) ← derive_handoff policy domain version environment devices fusion_nodes vns local_as
    requirements.border_handoff taken
  let policy_plane ← derive_sources devices border_handoff policy_plane
  let versioned : Bool := version = .v1_2
  return {
    intent := {
      schema_version := version
      context
      metadata := requirements.metadata
      fabric := derived_fabric requirements multicast
      devices
      links
      lisp := derived_lisp requirements devices control_planes identities
      virtual_networks := vns
      endpoint_pools := pools
      endpoint_attachments := if attachments.isEmpty then none else some attachments
      fusion_nodes := if versioned then some fusion_nodes else none
      shared_services := if versioned then shared_services else none
      multicast := if versioned then multicast else none
      policy_plane := if versioned then policy_plane else none
      border_handoff }
    reservations := {
      allocation_domain := domain
      fabric_id := requirements.fabric.id
      network := taken.net_reservations
      scalar := taken.scalar_reservations } }

end Derive

/-! ## A production fabric in the lab -/

def lab_pool (cidr : String) (prefix_len : Option Int) (reserved : List String) : PoolPolicy where
  cidr := some cidr
  prefix_len
  reserved

/-- `policy/guardrails.yaml`, where some prefixes are kept back. -/
def lab_policy : Policy where
  supernets := [("underlay_p2p", lab_pool "10.252.0.0/16" (some 31) []),
    ("loopbacks", lab_pool "10.253.0.0/16" (some 32) ["10.253.0.0/31"]),
    ("overlay_hosts", lab_pool "10.0.0.0/9" none []), ("border_handoff", lab_pool "172.31.0.0/16" (some 31) []),
    ("multicast_rp", lab_pool "10.254.0.0/24" (some 32) []),
    ("multicast_overlay_loopbacks", lab_pool "10.254.1.0/24" (some 32) []),
    ("multicast_core_groups", lab_pool "232.0.0.0/8" (some 22) []),
    ("multicast_bum_groups", lab_pool "239.0.0.0/8" (some 32) []),
    ("shared_service_handoff", lab_pool "172.30.0.0/24" (some 30) [])]
  ranges := [("vlan_id", lab_range 100 3900), ("l3_instance_id", lab_range 4099 4999),
    ("l2_instance_id", { min := none, max := some 16777215, base := some 8000, reserved := [], reserved_ranges := [] }),
    ("bgp_asn_local", lab_range 65001 65100), ("handoff_vlan_id", lab_range 3000 3900), ("sgt", lab_range 2 65519),
    ("shared_service_vlan_id", lab_range 3901 3999), ("lisp_domain_id", lab_range 1 4294967295),
    ("lisp_multihoming_id", lab_range 1 65535)]
  rd_asn := some 65000
  allowed_modes := ["classic_lisp", "lisp_bgp_transit", "lisp_pubsub"]
  deployment_models := ["single_site", "distributed_campus"]
  max_depth := some 16
  site_profiles := [⟨"fabric_in_a_box", 999, 49⟩, ⟨"small_site", 9999, 499⟩, ⟨"medium_site", 49999, 2499⟩,
    ⟨"large_site", 100000, 10000⟩]
  platform_matrix := [⟨"C9500-48Y4C", ["border", "control_plane", "fusion", "underlay"], some "17.12"⟩,
    ⟨"C9300-24P", ["fabric_edge", "underlay"], some "17.12"⟩]
  redundancy := {
    min_borders_production := some 2
    min_control_planes_production := some 2
    min_fusion_nodes_production := some 2
    min_ise_nodes_production := some 2
    min_sxp_speakers_production := some 2
    min_sxp_listeners_production := some 2 }
  fusion := { require_full_mesh_production := some true, min_fusion_nodes_per_border_vrf_production := some 2 }
  core_group_usable_count := some 1000

def lab_device (id model : String) (roles : List Role) (number : Nat) : DeviceRequest where
  id
  hostname := none
  site := "SJC23"
  platform := model
  software_version := "17.18.3"
  management_ip := .ofOctets 192 0 2 number
  dashboard_management_ip := none
  roles
  credential_ref := s!"secret://sda-lab/devices/{id}"

def lab_fusion_node (number : Nat) : FusionNode where
  id := s!"fusion-0{number}"
  hostname := s!"sjc23-fusion-0{number}"
  platform := "C9500-48Y4C"
  software_version := "17.18.3"
  management_ip := .ofOctets 192 0 2 (20 + number)
  dashboard_management_ip := none
  credential_ref := s!"secret://sda-lab/devices/fusion-0{number}"
  bgp_asn := 65100

def lab_ise_node (number : Nat) : IseNode where
  id := s!"ise-0{number}"
  address := .ofOctets 10 200 0 (30 + number)
  api_base_url := some s!"https://ise-0{number}.lab:9060/"
  roles := [.pan]

def lab_sxp (border number : Nat) : SxpConnectionRequest where
  id := s!"sxp-0{border}"
  speaker_id := s!"border-0{border}"
  transport_vrf := some "CORP_VN"
  listener_ip := .ofOctets 10 200 0 (30 + number)
  listener_prefix := some "10.200.0.0/24"
  password_ref := "secret://sda-lab/sxp/password"

def lab_adjacency (border fusion : Nat) : AdjacencyRequest where
  border_device_id := s!"border-0{border}"
  fusion_node_id := s!"fusion-0{fusion}"
  border_interface := s!"TwentyFiveGigE1/0/4{fusion}"
  fusion_interface := s!"TwentyFiveGigE1/0/{border}"
  virtual_networks := none

def lab_requirements : Requirements where
  schema_version := .v1_2
  allocation_domain := "lab"
  deployment_model := some .single_site
  site_hierarchy := some [
    { id := "global", name := "Global", type := .global, parent_id := none, address := none
      latitude := none, longitude := none, timezone := none },
    { id := "building-23", name := "SJC23", type := .building, parent_id := some "global"
      address := none, latitude := none, longitude := none, timezone := none }]
  fabric_sites := some [
    { id := "SJC23", name := "SJC23", hierarchy_node_id := "building-23", endpoint_count := 1200, ap_count := 40
      site_local_services := false, high_availability := true, profile := none, lisp_multihoming_id := none }]
  fabric_zones := some [
    { id := "zone-1", fabric_site_id := "SJC23", hierarchy_node_id := "building-23", virtual_networks := ["Guest"] }]
  metadata := {
    name := "sjc23", environment := .production, organization := "lab", region := "emea", change_reference := none }
  fabric := {
    id := "fabric-sjc23", name := "SJC23", mtu := 9100, control_plane_mode := .lisp_pubsub, isis_process := none
    isis_area := none, lisp_site_name := none, lisp_auth_key_ref := "secret://sda-lab/lisp/key", locator_set := none
    lisp_domain_id := none }
  devices := [lab_device "edge-01" "C9300-24P" [.underlay, .fabric_edge] 11,
    lab_device "border-02" "C9500-48Y4C" [.border, .control_plane] 2,
    lab_device "border-01" "C9500-48Y4C" [.border, .control_plane] 1]
  links := [
    { id := "link-01", pim_sparse_mode := some true, bfd := none, endpoints := [
        { device_id := "edge-01", interface := "TenGigabitEthernet1/1/1" },
        { device_id := "border-01", interface := "TwentyFiveGigE1/0/1" }] },
    { id := "link-02", pim_sparse_mode := some true, bfd := none, endpoints := [
        { device_id := "edge-01", interface := "TenGigabitEthernet1/1/2" },
        { device_id := "border-02", interface := "TwentyFiveGigE1/0/1" }] }]
  virtual_networks := [
    { name := "Guest", vrf := "GUEST_VN", sites := [
      { site := "SJC23", users := 200, headroom_percent := none, dhcp_helpers := [.ofOctets 10 200 0 5], dhcp := none }] },
    { name := "Corp", vrf := "CORP_VN", sites := [
      { site := "SJC23", users := 50, headroom_percent := none, dhcp_helpers := [.ofOctets 10 200 0 5], dhcp := none }] }]
  endpoint_attachments := some [
    { id := "port-01", device_id := "edge-01", interface := "GigabitEthernet1/0/7", site := "SJC23"
      virtual_network := "Corp", description := none }]
  fusion_nodes := some [lab_fusion_node 2, lab_fusion_node 1]
  shared_services := some {
    vrf := "CORP_VN"
    attachments := [
      { id := "services-02", fusion_node_id := "fusion-02", interface := "TwentyFiveGigE1/0/48" },
      { id := "services-01", fusion_node_id := "fusion-01", interface := "TwentyFiveGigE1/0/48" }]
    services := [
      { id := "ise", type := .ise, addresses := [.ofOctets 10 200 0 31, .ofOctets 10 200 0 32]
        prefixes := ["10.200.0.0/24"], consumer_virtual_networks := ["Guest", "Corp"] }] }
  multicast := some {
    enabled := true, transport := .native, rp_mode := .anycast, rp_device_ids := some ["border-02", "border-01"]
    asm_virtual_networks := ["Corp"], ssm_virtual_networks := [], ssm_range := none
    overlay_policies := some [
      { virtual_network := "Corp", mode := .asm, group_range := "239.1.0.0/16", rp_address := some (.ofOctets 10 9 9 9)
        rp_prefix := some "10.9.9.0/24" }] }
  policy_plane := some {
    mode := .hybrid, contract_version := some (), default_action := some ()
    ise := some { credential_ref := "secret://sda-lab/ise/ers", ca_bundle_ref := none, write_node_id := some "ise-01"
                  nodes := [lab_ise_node 2, lab_ise_node 1] }
    sxp := some [lab_sxp 2 2, lab_sxp 1 1]
    security_groups := [{ name := "Servers", tag := some 30 }, { name := "Employees", tag := none }]
    contracts := [{ source := "Employees", destination := "Servers", action := .permit, protocol := .tcp }] }
  border_handoff := some {
    enabled := true, mode := .bgp, remote_as := none, peers := none
    adjacencies := some [lab_adjacency 2 2, lab_adjacency 1 2, lab_adjacency 2 1, lab_adjacency 1 1] }
  versioned := fun hversion => absurd rfl hversion

/-- The upper case of the texts of the lab. -/
def lab_upper (text : String) : String := String.ofList ((chars text).map Char.toUpper)

/-- Another fabric of the lab has the first link prefix and the first VLAN. -/
def lab_network_ledger : List NetworkRow := [
  { allocation_domain := "lab", resource_pool_id := "underlay_p2p", state := some "committed", pfx := "10.252.0.0/31" }]

def lab_scalar_ledger : List ScalarRow := [
  { allocation_domain := "lab", resource_type := "vlan_id", state := some "committed", value := "100" }]

theorem lab_derives : ∃ derived, derive_fabric_intent cpython lab_upper lab_policy lab_requirements lab_network_ledger
    lab_scalar_ledger = .ok derived ∧ derived.reservations.network.length = 24 ∧
      derived.reservations.scalar.length = 21 := by
  have hmap : (derive_fabric_intent cpython lab_upper lab_policy lab_requirements lab_network_ledger
      lab_scalar_ledger).toOption.map (fun derived =>
        (derived.reservations.network.length, derived.reservations.scalar.length)) = some (24, 21) := by
    decide +kernel
  obtain ⟨derived, hok, hcounts⟩ := exists_ok_of_map hmap
  exact ⟨derived, hok, Prod.mk.inj hcounts⟩

end orchestrator.allocator
