import SdaOrchestrator.Intent.Lisp

open python ipaddress

namespace orchestrator.intent

/-- A network that the intent assigns, with its path and its kind. -/
structure AddressNetwork where
  path : String
  network : IPv4Network
  kind : String

/-- The networks of the items of a list that have one. -/
def networks_of {α : Type*} (items : List α) (path : Nat → String) (kind : String)
    (network : α → Option IPv4Network) : List AddressNetwork :=
  items.zipIdx.filterMap fun (item, index) => (network item).map (⟨path index, ·, kind⟩)

/-- `address_networks`, in the order in which the sections extend it. -/
def address_networks (intent : FabricIntent) : List AddressNetwork :=
  networks_of intent.devices (fun index => s!"$.devices[{index}].loopback0_ip") "loopback"
      (fun device => some (.host device.loopback0_ip)) ++
    networks_of intent.links (fun index => s!"$.links[{index}].subnet") "underlay link"
      Link.network ++
    networks_of intent.endpoint_pools (fun index => s!"$.endpoint_pools[{index}].prefix")
      "endpoint pool" EndpointPool.network ++
    networks_of intent.handoff_peers (fun index => s!"$.border_handoff.peers[{index}].prefix")
      "BGP handoff" HandoffPeer.network ++
    networks_of intent.service_attachments
      (fun index => s!"$.shared_services.attachments[{index}].prefix") "shared-service handoff"
      ServiceAttachment.network ++
    intent.overlay_policies.zipIdx.flatMap fun (policy, index) =>
      networks_of policy.segment_loopbacks
        (fun position =>
          s!"$.multicast.overlay_policies[{index}].segment_loopbacks[{position}].address")
        "multicast segment loopback" fun loopback => some (.host loopback.address)

/-- `_check_network_overlaps(networks, issues)`. -/
def _check_network_overlaps : List AddressNetwork → List ValidationIssue
  | [] => []
  | first :: rest =>
    rest.flatMap (fun second =>
      let described := second.kind ++ " " ++ second.network.str
      let overlapped := first.kind ++ " " ++ first.network.str ++ " at " ++ first.path
      add_if (first.network.overlaps second.network) "address.overlap" second.path
        s!"{described} overlaps {overlapped}") ++
    _check_network_overlaps rest

/-- The sections that are validated before the policy plane. -/
def early_issues (texts : Texts) (intent : FabricIntent) : List ValidationIssue :=
  schema_issues texts.error_message intent ++ metadata_issues intent ++ hierarchy_issues intent ++
    topology_issues texts intent ++ overlay_issues intent ++ handoff_issues intent ++
    shared_service_issues intent ++ multicast_issues intent ++ contract_version_issues intent

/-- `validate_intent(document)` of a document that has the shape of the schema. -/
def validate_intent (texts : Texts) (intent : FabricIntent) : ValidationResult where
  issues :=
    -- an older policy contract ends the validation
    if intent.schema_version = .v1_2 && intent.policy.all (·.contract_version.isNone) then
      early_issues texts intent
    else
      early_issues texts intent ++ policy_issues intent ++
        _check_network_overlaps (address_networks intent) ++ lisp_issues intent ++
        add_if intent.endpoint_pools.isEmpty "endpoint_pools.empty" "$.endpoint_pools"
          "A deployable fabric intent requires at least one endpoint pool"

/-- The intents that `validate_intent` accepts, section by section. -/
structure Accepted (texts : Texts) (intent : FabricIntent) : Prop where
  schema : schema_errors intent = []
  metadata : Clean (metadata_issues intent)
  hierarchy : Clean (hierarchy_issues intent)
  topology : Clean (topology_issues texts intent)
  overlay : Clean (overlay_issues intent)
  handoff : Clean (handoff_issues intent)
  shared_services : Clean (shared_service_issues intent)
  multicast : Clean (multicast_issues intent)
  contract_version : Clean (contract_version_issues intent)
  policy : Clean (policy_issues intent)
  networks : Clean (_check_network_overlaps (address_networks intent))
  lisp : Clean (lisp_issues intent)
  pools : intent.endpoint_pools ≠ []

theorem accepted_of_is_valid {texts : Texts} {intent : FabricIntent}
    (hvalid : (validate_intent texts intent).is_valid) : Accepted texts intent := by
  rw [ValidationResult.is_valid_iff, validate_intent] at hvalid
  simp only at hvalid
  split at hvalid
  · -- the older contract is itself an error
    rename_i hcontract
    rw [Bool.and_eq_true, decide_eq_true_iff] at hcontract
    simp only [early_issues, contract_version_issues, clean_append, hcontract.1, hcontract.2,
      ne_eq, not_true_eq_false, if_false, clean_add_if, Bool.true_eq_false, and_false] at hvalid
  · simp only [early_issues, clean_append, clean_add_if, List.isEmpty_eq_false_iff] at hvalid
    obtain ⟨⟨⟨⟨⟨⟨⟨⟨⟨⟨⟨⟨hschema, hmetadata⟩, hhierarchy⟩, htopology⟩, hoverlay⟩, hhandoff⟩, hshared⟩,
      hmulticast⟩, hcontract⟩, hpolicy⟩, hnetworks⟩, hlisp⟩, hpools⟩ := hvalid
    exact ⟨schema_errors_of_clean hschema, hmetadata, hhierarchy, htopology, hoverlay, hhandoff,
      hshared, hmulticast, hcontract, hpolicy, hnetworks, hlisp, hpools⟩

/-- The networks of an accepted intent are pairwise disjoint. -/
theorem pairwise_of_clean_overlaps {networks : List AddressNetwork}
    (hclean : Clean (_check_network_overlaps networks)) :
    networks.Pairwise fun first second => first.network.overlaps second.network = false := by
  induction networks with
  | nil => exact List.Pairwise.nil
  | cons first rest ih =>
    simp only [_check_network_overlaps, clean_append, clean_flatMap, clean_add_if] at hclean
    exact List.Pairwise.cons hclean.1 (ih hclean.2)

/-! ## The fusion nodes of an accepted intent -/

section Fusions

variable {texts : Texts} {intent : FabricIntent}

theorem Accepted.v1_2_of_fusion (haccepted : Accepted texts intent) {fusion : FusionNode}
    (hfusion : fusion ∈ intent.fusion_nodes.getD []) : intent.schema_version = .v1_2 := by
  have hsome : intent.fusion_nodes.isSome := by
    cases hnodes : intent.fusion_nodes with
    | none =>
      rw [hnodes] at hfusion
      cases hfusion
    | some nodes => rfl
  have hversion := version_errors_of_schema_errors haccepted.schema
  cases h : intent.schema_version with
  | v1_2 => rfl
  | v1_1 => simp [version_errors, h, excluded, hsome] at hversion
  | v1_0 => simp [version_errors, h, excluded, hsome] at hversion

theorem Accepted.fusion_clean (haccepted : Accepted texts intent) {fusion : FusionNode}
    (hfusion : fusion ∈ intent.fusion_nodes.getD []) :
    ∃ earlier, Clean (fusion_issues texts intent.devices earlier fusion) := by
  have hversion := haccepted.v1_2_of_fusion hfusion
  have htopology := haccepted.topology
  simp only [topology_issues, fusions_issues, hversion, ne_eq, not_true_eq_false, if_false,
    clean_append] at htopology
  have hmem : fusion ∈ intent.fusions := by
    rw [FabricIntent.fusions, if_pos hversion]
    exact hfusion
  obtain ⟨earlier, rest, -, hclean⟩ := clean_each_mem htopology.1.1.2.1.2 hmem
  exact ⟨earlier, hclean⟩

theorem Accepted.fusion_id_ne_empty (haccepted : Accepted texts intent) {fusion : FusionNode}
    (hfusion : fusion ∈ intent.fusion_nodes.getD []) : fusion.id ≠ "" := by
  obtain ⟨earlier, hclean⟩ := haccepted.fusion_clean hfusion
  simp only [fusion_issues, clean_append, clean_required_string] at hclean
  obtain ⟨⟨⟨⟨⟨⟨⟨⟨⟨⟨hid, -⟩, -⟩, -⟩, -⟩, -⟩, -⟩, -⟩, -⟩, -⟩, -⟩ := hclean
  intro hempty
  rw [hempty] at hid
  exact absurd hid (by decide +kernel)

end Fusions

/-! ## The lab fabric -/

/-- A lower case and messages for evaluating `validate_intent`. -/
def plain_texts : Texts where
  lower text := String.ofList ((chars text).map Char.toLower)
  error_message error := error.validator

/-- `examples/fabric-intent.lab.yaml`. -/
def lab_intent : FabricIntent where
  schema_version := .v1_0
  deployment_model := none
  site_hierarchy := none
  fabric_sites := none
  fabric_zones := none
  metadata := {
    name := "SJC23 SDA-style lab fabric", environment := .lab, organization := "LAB-ORG"
    region := "AMER-WEST", change_reference := some "LAB-001" }
  fabric := {
    id := "fab-sjc23-001", name := "SJC23-FABRIC", control_plane_mode := none, mtu := 9100
    mtu_headroom := none, isis_process := none, isis_area := none, multicast := none }
  devices := [
    { id := "border-cp-01", hostname := "SJC23-BORDER-CP-01", site := "SJC23"
      platform := "C9500-32C", software_version := "17.18.3"
      management_ip := .ofOctets 192 0 2 10, dashboard_management_ip := none
      loopback0_ip := .ofOctets 10 255 1 1, roles := [.border, .control_plane]
      credential_ref := "secret://sda-lab/devices/border-cp-01" },
    { id := "edge-01", hostname := "SJC23-EDGE-01", site := "SJC23"
      platform := "C9300X-48HXN", software_version := "17.18.3"
      management_ip := .ofOctets 192 0 2 11, dashboard_management_ip := none
      loopback0_ip := .ofOctets 10 255 1 11, roles := [.fabric_edge]
      credential_ref := "secret://sda-lab/devices/edge-01" }]
  links := [
    { id := "border-cp-01--edge-01", subnet := "10.255.0.0/31", pim_sparse_mode := none, bfd := none
      endpoints := [
        { device_id := "border-cp-01", interface := "TwentyFiveGigE1/0/2", ip := .ofOctets 10 255 0 0 },
        { device_id := "edge-01", interface := "TwentyFiveGigE1/0/1", ip := .ofOctets 10 255 0 1 }] }]
  lisp := {
    site_name := "site_sjc23", auth_key_ref := "secret://sda-lab/lisp/site-sjc23"
    locator_set := none, map_servers := ["border-cp-01"], control_plane_mode := none
    publishers := none, subscribers := none, domain_id := none, multihoming_groups := none }
  virtual_networks := [
    { name := "Corporate", vrf := "CORP_VN", l3_instance_id := 4099, rd := "65001:4099"
      route_targets := ["65001:4099"] },
    { name := "Guest", vrf := "GUEST_VN", l3_instance_id := 4100, rd := "65001:4100"
      route_targets := ["65001:4100"] }]
  endpoint_pools := [
    { id := "sjc23-corporate-data", site := "SJC23", virtual_network := "Corporate", vlan_id := 100
      l2_instance_id := 8100, pfx := "10.30.100.0/24", gateway := .ofOctets 10 30 100 1
      dhcp_helpers := [.ofOctets 10 20 0 10, .ofOctets 10 20 0 11], dhcp := none },
    { id := "sjc23-guest-wifi", site := "SJC23", virtual_network := "Guest", vlan_id := 200
      l2_instance_id := 8200, pfx := "10.30.200.0/24", gateway := .ofOctets 10 30 200 1
      dhcp_helpers := [.ofOctets 10 20 0 10, .ofOctets 10 20 0 11], dhcp := none }]
  endpoint_attachments := none
  fusion_nodes := none
  shared_services := none
  multicast := none
  policy_plane := none
  border_handoff := some { enabled := false, mode := some .isolated, local_as := none, peers := none }

example : (validate_intent plain_texts lab_intent).is_valid := by decide +kernel

end orchestrator.intent
