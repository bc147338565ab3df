import SdaOrchestrator.Intent.Validate

open python ipaddress

namespace orchestrator.intent

/-! ## The lab fabric under schema version 1.2 -/

def lab_fusion (number : Nat) : FusionNode where
  id := s!"fusion-0{number}"
  hostname := s!"SJC23-FUSION-0{number}"
  platform := "C9500-32C"
  software_version := "17.18.3"
  management_ip := .ofOctets 192 0 2 (20 + number)
  dashboard_management_ip := none
  credential_ref := s!"secret://sda-lab/devices/fusion-0{number}"
  bgp_asn := 65100

def lab_shared_services : SharedServices where
  vrf := "CORP_VN"
  attachments := [{
    id := "services-01", fusion_node_id := "fusion-01", interface := "TwentyFiveGigE1/0/48", vlan_id := 900
    pfx := "10.9.0.0/30", local_ip := .ofOctets 10 9 0 1, next_hop := .ofOctets 10 9 0 2 }]
  services := [{
    id := "dns", type := .dns, addresses := [.ofOctets 10 20 0 53], prefixes := ["10.20.0.0/24"]
    consumer_virtual_networks := ["Guest"] }]
  route_leaks := [{
    consumer_vrf := "GUEST_VN", service_vrf := "CORP_VN", import_prefixes := ["10.20.0.0/24"]
    export_prefixes := ["10.30.200.0/24"] }]

/-- The fabric without multicast, with the given policy plane. -/
def lab_policy_intent (policy : PolicyPlane) : FabricIntent :=
  { lab_intent with
    schema_version := .v1_2
    deployment_model := some .single_site
    site_hierarchy := some [
      { id := "global", name := "Global", type := .global, parent_id := none, address := none
        latitude := none, longitude := none, timezone := none },
      { id := "building-23", name := "SJC23", type := .building, parent_id := some "global"
        address := none, latitude := none, longitude := none, timezone := none }]
    fabric_sites := some [
      { id := "SJC23", name := "SJC23", hierarchy_node_id := "building-23", endpoint_count := 10
        ap_count := 0, site_local_services := false, high_availability := false
        profile := .fabric_in_a_box }]
    fabric := { lab_intent.fabric with
      multicast := some {
        enabled := false, rp_address := none, rp_loopback_id := none, ssm_default := none
        transport := some .head_end_replication, rp_device_ids := none } }
    fusion_nodes := some [lab_fusion 1, lab_fusion 2]
    shared_services := some lab_shared_services
    multicast := some {
      enabled := false, transport := .head_end_replication, rp_mode := .none, rp_address := none
      rp_device_ids := none, asm_virtual_networks := [], ssm_virtual_networks := []
      ssm_range := some "232.0.0.0/8", overlay_policies := some [], l2_bum_groups := some [] }
    policy_plane := some policy }

def lab_ise : Ise where
  credential_ref := "secret://sda-lab/ise/ers"
  ca_bundle_ref := none
  write_node_id := some "ise-01"
  nodes := [{
    id := "ise-01", address := .ofOctets 192 0 2 31, api_base_url := some "https://ise-01.lab:9060"
    roles := [.pan] }]

/-- What employees may send to servers. -/
def lab_contract (name sgacl_name : String) (protocol : Protocol) : Contract where
  name := some name
  source := "Employees"
  source_tag := some 10
  destination := "Servers"
  destination_tag := some 20
  action := .permit
  protocol
  sgacl_name := some sgacl_name
  aces := some ["permit " ++ protocol.text]
  default_action := some ()

def lab_web : Contract := lab_contract "web" "SDA-SGACL-0123456789AB" .tcp

def lab_voice : Contract := lab_contract "voice" "SDA-SGACL-BA9876543210" .udp

/-- A policy plane that ISE enforces. -/
def lab_policy (contracts : List Contract) : PolicyPlane where
  mode := .ise
  contract_version := some ()
  default_action := some ()
  enforcement_device_ids := some ["edge-01"]
  enforcement_vlan_ids := some [100, 200]
  ise := some lab_ise
  sxp := none
  security_groups := [{ name := "Employees", tag := 10 }, { name := "Servers", tag := 20 }]
  contracts

example : (validate_intent plain_texts (lab_policy_intent (lab_policy [lab_web]))).is_valid := by
  decide +kernel

end orchestrator.intent
