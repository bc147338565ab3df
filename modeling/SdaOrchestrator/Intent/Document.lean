import SdaOrchestrator.Intent.Schema

/-! The document of an intent, as it is hashed, stored and handed to the worker. -/

open python ipaddress

namespace orchestrator.intent

/-- A field that is always there. -/
def field (name : String) (value : Value) : List (String × Value) := [(name, value)]

/-- A field that may be absent. -/
def optional {α : Type*} (name : String) (value : Option α) (document : α → Value) :
    List (String × Value) :=
  value.elim [] fun found => [(name, document found)]

theorem lookup_field (key name : String) (value : Value) :
    assoc.lookup key (field name value) = if name = key then some value else none := rfl

theorem lookup_optional {α : Type*} (key name : String) (value : Option α) (document : α → Value) :
    assoc.lookup key (optional name value document) =
      if name = key then value.map document else none := by
  cases value with
  | none => exact (ite_self none).symm
  | some found => rfl

def texts (items : List String) : Value := .list (items.map .str)

/-- A list of sections. -/
def sections {α : Type*} (document : α → Value) (items : List α) : Value :=
  .list (items.map document)

def address_text (address : IPv4Address) : Value := .str address.str

def Number.document : Number → Value
  | .int value => .int value
  | .float value text => .float value text

def HierarchyNode.document (node : HierarchyNode) : Value :=
  .dict (field "id" (.str node.id) ++ field "name" (.str node.name) ++
    field "type" (.str node.type.text) ++ optional "parent_id" node.parent_id .str ++
    optional "address" node.address .str ++ optional "latitude" node.latitude Number.document ++
    optional "longitude" node.longitude Number.document ++ optional "timezone" node.timezone .str)

def FabricSite.document (site : FabricSite) : Value :=
  .dict [("id", .str site.id), ("name", .str site.name),
    ("hierarchy_node_id", .str site.hierarchy_node_id),
    ("endpoint_count", .int site.endpoint_count), ("ap_count", .int site.ap_count),
    ("site_local_services", .bool site.site_local_services),
    ("high_availability", .bool site.high_availability), ("profile", .str site.profile.text)]

def FabricZone.document (zone : FabricZone) : Value :=
  .dict [("id", .str zone.id), ("fabric_site_id", .str zone.fabric_site_id),
    ("hierarchy_node_id", .str zone.hierarchy_node_id),
    ("virtual_networks", texts zone.virtual_networks)]

def Metadata.document (metadata : Metadata) : Value :=
  .dict (field "name" (.str metadata.name) ++
    field "environment" (.str metadata.environment.text) ++
    field "organization" (.str metadata.organization) ++ field "region" (.str metadata.region) ++
    optional "change_reference" metadata.change_reference .str)

def FabricMulticast.document (multicast : FabricMulticast) : Value :=
  .dict (field "enabled" (.bool multicast.enabled) ++
    optional "rp_address" multicast.rp_address address_text ++
    optional "rp_loopback_id" multicast.rp_loopback_id .int ++
    optional "ssm_default" multicast.ssm_default .bool ++
    optional "transport" multicast.transport (.str ·.text) ++
    optional "rp_device_ids" multicast.rp_device_ids texts)

def Fabric.document (fabric : Fabric) : Value :=
  .dict (field "id" (.str fabric.id) ++ field "name" (.str fabric.name) ++
    field "underlay_protocol" (.str "isis") ++
    optional "control_plane_mode" fabric.control_plane_mode (.str ·.text) ++
    field "mtu" (.int fabric.mtu) ++ optional "mtu_headroom" fabric.mtu_headroom .int ++
    optional "isis_process" fabric.isis_process .str ++
    optional "isis_area" fabric.isis_area .str ++
    optional "multicast" fabric.multicast FabricMulticast.document)

/-- The fields of a device with the given role texts. -/
def Device.fields (device : Device) (roles : List String) : List (String × Value) :=
  field "id" (.str device.id) ++ field "hostname" (.str device.hostname) ++
    field "site" (.str device.site) ++ field "platform" (.str device.platform) ++
    field "software_version" (.str device.software_version) ++
    field "management_ip" (address_text device.management_ip) ++
    optional "dashboard_management_ip" device.dashboard_management_ip address_text ++
    field "loopback0_ip" (address_text device.loopback0_ip) ++ field "roles" (texts roles) ++
    field "credential_ref" (.str device.credential_ref)

def Device.document (device : Device) : Value :=
  .dict (device.fields (device.roles.map Role.text))

def Bfd.document (bfd : Bfd) : Value :=
  .dict (field "enabled" (.bool bfd.enabled) ++ optional "interval_ms" bfd.interval_ms .int ++
    optional "min_rx_ms" bfd.min_rx_ms .int ++ optional "multiplier" bfd.multiplier .int)

def LinkEndpoint.document (endpoint : LinkEndpoint) : Value :=
  .dict [("device_id", .str endpoint.device_id), ("interface", .str endpoint.interface),
    ("ip", address_text endpoint.ip)]

def Link.document (link : Link) : Value :=
  .dict (field "id" (.str link.id) ++ field "subnet" (.str link.subnet) ++
    optional "pim_sparse_mode" link.pim_sparse_mode .bool ++
    optional "bfd" link.bfd Bfd.document ++
    field "endpoints" (sections LinkEndpoint.document link.endpoints))

def MultihomingGroup.document (group : MultihomingGroup) : Value :=
  .dict [("site_id", .str group.site_id), ("multihoming_id", .int group.multihoming_id),
    ("border_device_ids", texts group.border_device_ids)]

def Lisp.document (lisp : Lisp) : Value :=
  .dict (field "site_name" (.str lisp.site_name) ++ field "auth_key_ref" (.str lisp.auth_key_ref) ++
    optional "locator_set" lisp.locator_set .str ++ field "map_servers" (texts lisp.map_servers) ++
    optional "control_plane_mode" lisp.control_plane_mode (.str ·.text) ++
    optional "publishers" lisp.publishers texts ++ optional "subscribers" lisp.subscribers texts ++
    optional "domain_id" lisp.domain_id .int ++
    optional "multihoming_groups" lisp.multihoming_groups (sections MultihomingGroup.document))

def VirtualNetwork.document (vn : VirtualNetwork) : Value :=
  .dict [("name", .str vn.name), ("vrf", .str vn.vrf), ("l3_instance_id", .int vn.l3_instance_id),
    ("rd", .str vn.rd), ("route_targets", texts vn.route_targets)]

def LocalDhcp.document (dhcp : LocalDhcp) : Value :=
  .dict [("mode", .str "local_border"), ("server_device_id", .str dhcp.server_device_id),
    ("helper_address", address_text dhcp.helper_address), ("relay_global", .bool true),
    ("lease_minutes", .int dhcp.lease_minutes),
    ("dns_servers", sections address_text dhcp.dns_servers)]

def EndpointPool.document (pool : EndpointPool) : Value :=
  .dict (field "id" (.str pool.id) ++ field "site" (.str pool.site) ++
    field "virtual_network" (.str pool.virtual_network) ++ field "vlan_id" (.int pool.vlan_id) ++
    field "l2_instance_id" (.int pool.l2_instance_id) ++ field "prefix" (.str pool.pfx) ++
    field "gateway" (address_text pool.gateway) ++
    field "dhcp_helpers" (sections address_text pool.dhcp_helpers) ++
    optional "dhcp" pool.dhcp LocalDhcp.document)

def EndpointAttachment.document (attachment : EndpointAttachment) : Value :=
  .dict (field "id" (.str attachment.id) ++ field "device_id" (.str attachment.device_id) ++
    field "interface" (.str attachment.interface) ++ field "site" (.str attachment.site) ++
    field "virtual_network" (.str attachment.virtual_network) ++
    field "endpoint_pool_id" (.str attachment.endpoint_pool_id) ++
    field "vlan_id" (.int attachment.vlan_id) ++
    optional "description" attachment.description .str)

/-- The fields of a fusion node, before its roles. -/
def FusionNode.fields (fusion : FusionNode) : List (String × Value) :=
  field "id" (.str fusion.id) ++ field "hostname" (.str fusion.hostname) ++
    field "platform" (.str fusion.platform) ++
    field "software_version" (.str fusion.software_version) ++
    field "management_ip" (address_text fusion.management_ip) ++
    optional "dashboard_management_ip" fusion.dashboard_management_ip address_text ++
    field "credential_ref" (.str fusion.credential_ref) ++ field "bgp_asn" (.int fusion.bgp_asn)

def FusionNode.document (fusion : FusionNode) : Value := .dict fusion.fields

def ServiceAttachment.document (attachment : ServiceAttachment) : Value :=
  .dict [("id", .str attachment.id), ("fusion_node_id", .str attachment.fusion_node_id),
    ("interface", .str attachment.interface), ("vlan_id", .int attachment.vlan_id),
    ("prefix", .str attachment.pfx), ("local_ip", address_text attachment.local_ip),
    ("next_hop", address_text attachment.next_hop)]

def Service.document (service : Service) : Value :=
  .dict [("id", .str service.id), ("type", .str service.type.text),
    ("addresses", sections address_text service.addresses), ("prefixes", texts service.prefixes),
    ("consumer_virtual_networks", texts service.consumer_virtual_networks)]

def RouteLeak.document (leak : RouteLeak) : Value :=
  .dict [("consumer_vrf", .str leak.consumer_vrf), ("service_vrf", .str leak.service_vrf),
    ("import_prefixes", texts leak.import_prefixes), ("export_prefixes", texts leak.export_prefixes)]

def SharedServices.document (shared : SharedServices) : Value :=
  .dict [("vrf", .str shared.vrf), ("default_action", .str "deny"),
    ("attachments", sections ServiceAttachment.document shared.attachments),
    ("services", sections Service.document shared.services),
    ("route_leaks", sections RouteLeak.document shared.route_leaks)]

def SegmentLoopback.document (loopback : SegmentLoopback) : Value :=
  .dict [("device_id", .str loopback.device_id), ("address", address_text loopback.address)]

def CoreGroup.document (group : CoreGroup) : Value :=
  .dict [("prefix", .str group.pfx), ("start", address_text group.start), ("count", .int group.count)]

def OverlayPolicy.document (policy : OverlayPolicy) : Value :=
  .dict (field "virtual_network" (.str policy.virtual_network) ++ field "vrf" (.str policy.vrf) ++
    field "l3_instance_id" (.int policy.l3_instance_id) ++ field "mode" (.str policy.mode.text) ++
    field "group_range" (.str policy.group_range) ++ field "access_list" (.str policy.access_list) ++
    optional "rp_address" policy.rp_address address_text ++
    optional "rp_prefix" policy.rp_prefix .str ++
    field "segment_loopbacks" (sections SegmentLoopback.document policy.segment_loopbacks) ++
    optional "core_group" policy.core_group CoreGroup.document)

def BumGroup.document (group : BumGroup) : Value :=
  .dict [("endpoint_pool_id", .str group.endpoint_pool_id),
    ("l2_instance_id", .int group.l2_instance_id), ("vlan_id", .int group.vlan_id),
    ("group", address_text group.group)]

def Multicast.document (multicast : Multicast) : Value :=
  .dict (field "enabled" (.bool multicast.enabled) ++
    field "transport" (.str multicast.transport.text) ++
    field "rp_mode" (.str multicast.rp_mode.text) ++
    optional "rp_address" multicast.rp_address address_text ++
    optional "rp_device_ids" multicast.rp_device_ids texts ++
    field "asm_virtual_networks" (texts multicast.asm_virtual_networks) ++
    field "ssm_virtual_networks" (texts multicast.ssm_virtual_networks) ++
    optional "ssm_range" multicast.ssm_range .str ++
    optional "overlay_policies" multicast.overlay_policies (sections OverlayPolicy.document) ++
    optional "l2_bum_groups" multicast.l2_bum_groups (sections BumGroup.document))

def IseNode.document (node : IseNode) : Value :=
  .dict (field "id" (.str node.id) ++ field "address" (address_text node.address) ++
    optional "api_base_url" node.api_base_url .str ++
    field "roles" (texts (node.roles.map IseRole.text)))

def Ise.document (ise : Ise) : Value :=
  .dict (field "credential_ref" (.str ise.credential_ref) ++
    optional "ca_bundle_ref" ise.ca_bundle_ref .str ++
    optional "write_node_id" ise.write_node_id .str ++
    field "nodes" (sections IseNode.document ise.nodes))

def SxpConnection.document (connection : SxpConnection) : Value :=
  .dict (field "id" (.str connection.id) ++ field "speaker_id" (.str connection.speaker_id) ++
    optional "transport_vrf" connection.transport_vrf .str ++
    optional "source_ip" connection.source_ip address_text ++
    field "listener_ip" (address_text connection.listener_ip) ++
    optional "listener_prefix" connection.listener_prefix .str ++
    field "password_ref" (.str connection.password_ref) ++
    optional "local_mode" connection.local_mode fun _ => .str "speaker")

def SecurityGroup.document (group : SecurityGroup) : Value :=
  .dict [("name", .str group.name), ("tag", .int group.tag)]

def Contract.document (contract : Contract) : Value :=
  .dict (optional "name" contract.name .str ++ field "source" (.str contract.source) ++
    optional "source_tag" contract.source_tag .int ++
    field "destination" (.str contract.destination) ++
    optional "destination_tag" contract.destination_tag .int ++
    field "action" (.str contract.action.text) ++ field "protocol" (.str contract.protocol.text) ++
    optional "sgacl_name" contract.sgacl_name .str ++ optional "aces" contract.aces texts ++
    optional "default_action" contract.default_action fun _ => .str "deny")

def PolicyPlane.document (policy : PolicyPlane) : Value :=
  .dict (field "mode" (.str policy.mode.text) ++
    optional "contract_version" policy.contract_version (fun _ => .str "1.0") ++
    optional "default_action" policy.default_action (fun _ => .str "deny") ++
    optional "enforcement_device_ids" policy.enforcement_device_ids texts ++
    optional "enforcement_vlan_ids" policy.enforcement_vlan_ids (sections .int) ++
    optional "ise" policy.ise Ise.document ++
    optional "sxp" policy.sxp (fun sxp =>
      .dict [("connections", sections SxpConnection.document sxp.connections)]) ++
    field "security_groups" (sections SecurityGroup.document policy.security_groups) ++
    field "contracts" (sections Contract.document policy.contracts))

def HandoffPeer.document (peer : HandoffPeer) : Value :=
  .dict (field "device_id" (.str peer.device_id) ++
    optional "fusion_node_id" peer.fusion_node_id .str ++ field "vrf" (.str peer.vrf) ++
    field "vlan_id" (.int peer.vlan_id) ++ field "interface" (.str peer.interface) ++
    field "prefix" (.str peer.pfx) ++ field "local_ip" (address_text peer.local_ip) ++
    field "neighbor_ip" (address_text peer.neighbor_ip) ++ field "remote_as" (.int peer.remote_as) ++
    optional "border_interface" peer.border_interface .str ++
    optional "fusion_interface" peer.fusion_interface .str)

def BorderHandoff.document (handoff : BorderHandoff) : Value :=
  .dict (field "enabled" (.bool handoff.enabled) ++ optional "mode" handoff.mode (.str ·.text) ++
    optional "local_as" handoff.local_as .int ++
    optional "peers" handoff.peers (sections HandoffPeer.document))

def FabricIntent.document (intent : FabricIntent) : Value :=
  .dict (field "schema_version" (.str intent.schema_version.text) ++
    optional "deployment_model" intent.deployment_model (.str ·.text) ++
    optional "site_hierarchy" intent.site_hierarchy (sections HierarchyNode.document) ++
    optional "fabric_sites" intent.fabric_sites (sections FabricSite.document) ++
    optional "fabric_zones" intent.fabric_zones (sections FabricZone.document) ++
    field "metadata" intent.metadata.document ++ field "fabric" intent.fabric.document ++
    field "devices" (sections Device.document intent.devices) ++
    field "links" (sections Link.document intent.links) ++ field "lisp" intent.lisp.document ++
    field "virtual_networks" (sections VirtualNetwork.document intent.virtual_networks) ++
    field "endpoint_pools" (sections EndpointPool.document intent.endpoint_pools) ++
    optional "endpoint_attachments" intent.endpoint_attachments
      (sections EndpointAttachment.document) ++
    optional "fusion_nodes" intent.fusion_nodes (sections FusionNode.document) ++
    optional "shared_services" intent.shared_services SharedServices.document ++
    optional "multicast" intent.multicast Multicast.document ++
    optional "policy_plane" intent.policy_plane PolicyPlane.document ++
    optional "border_handoff" intent.border_handoff BorderHandoff.document)

theorem item_devices (intent : FabricIntent) :
    intent.document.item "devices" = .ok (sections Device.document intent.devices) := by
  simp [FabricIntent.document, Value.item, assoc.lookup_append, lookup_field, lookup_optional]

theorem get_fusion_nodes (intent : FabricIntent) :
    intent.document.get "fusion_nodes" =
      .ok (intent.fusion_nodes.map (sections FusionNode.document)) := by
  simp [FabricIntent.document, Value.get, assoc.lookup_append, lookup_field, lookup_optional]

end orchestrator.intent
