import Mathlib.Data.List.Lex
import SdaOrchestrator.Lib.Regex
import SdaOrchestrator.Intent.Issues

/-! What the fabric-intent schema says about the values of a document of its shape:
the bounds on lengths, counts and numbers, the patterns, and the fields that other fields
require or exclude. -/

open python ipaddress regex

namespace orchestrator.intent

/-- One step from the root of a document into it. -/
inductive Part where
  | key (name : String)
  | index (position : Nat)

/-- `str(part)`. -/
def Part.text : Part → String
  | .key name => name
  | .index position => toString position

def Part.show : Part → String
  | .key name => "." ++ name
  | .index position => s!"[{position}]"

/-- An error of the schema validator: the keyword that failed, and where. -/
structure SchemaError where
  validator : String
  absolute_path : List Part

section Keywords

variable {α : Type*}

/-- An error at a path, when the keyword fails there. -/
def fails_if (failed : Bool) (validator : String) (path : List Part) : List SchemaError :=
  if failed then [⟨validator, path⟩] else []

def minLength (bound : Nat) (path : List Part) (name text : String) : List SchemaError :=
  fails_if (len text < bound) "minLength" (path ++ [.key name])

def maxLength (bound : Nat) (path : List Part) (name text : String) : List SchemaError :=
  fails_if (bound < len text) "maxLength" (path ++ [.key name])

def minItems (bound : Nat) (path : List Part) (name : String) (items : List α) : List SchemaError :=
  fails_if (items.length < bound) "minItems" (path ++ [.key name])

def maxItems (bound : Nat) (path : List Part) (name : String) (items : List α) : List SchemaError :=
  fails_if (bound < items.length) "maxItems" (path ++ [.key name])

def uniqueItems [DecidableEq α] (path : List Part) (name : String) (items : List α) :
    List SchemaError :=
  fails_if (¬ items.Nodup) "uniqueItems" (path ++ [.key name])

def minimum (bound : ℚ) (path : List Part) (name : String) (value : ℚ) : List SchemaError :=
  fails_if (value < bound) "minimum" (path ++ [.key name])

def maximum (bound : ℚ) (path : List Part) (name : String) (value : ℚ) : List SchemaError :=
  fails_if (bound < value) "maximum" (path ++ [.key name])

def between (low high : Int) (path : List Part) (name : String) (value : Int) : List SchemaError :=
  minimum low path name value ++ maximum high path name value

/-- `re.search` of a pattern between `^` and `$`, where `$` also matches before a last line feed. -/
def matches_line (pattern : Regex) (text : String) : Bool :=
  pattern.fullmatch text ||
    (endswith text "\n" && pattern.fullmatch (String.ofList (chars text).dropLast))

def pattern (accepts : String → Bool) (path : List Part) (name text : String) : List SchemaError :=
  fails_if (!accepts text) "pattern" (path ++ [.key name])

/-- `required`: the listed fields are present. -/
def required (path : List Part) (present : List Bool) : List SchemaError :=
  present.flatMap fun found => fails_if (!found) "required" path

/-- `"not": {"anyOf": [{"required": [...]}, ...]}`. -/
def excluded (path : List Part) (present : List Bool) : List SchemaError :=
  fails_if (present.any id) "not" path

/-- The errors of a field that may be absent. -/
def present (value : Option α) (errors : α → List SchemaError) : List SchemaError :=
  value.elim [] errors

/-- The errors of the items of a list field. -/
def items_of (path : List Part) (name : String) (items : List α)
    (errors : List Part → α → List SchemaError) : List SchemaError :=
  items.zipIdx.flatMap fun entry => errors (path ++ [.key name, .index entry.2]) entry.1

/-- A list of distinct nonempty texts. -/
def distinct_texts (path : List Part) (name : String) (items : List String) : List SchemaError :=
  uniqueItems path name items ++ items.zipIdx.flatMap fun entry =>
    fails_if (len entry.1 < 1) "minLength" (path ++ [.key name, .index entry.2])

end Keywords

/-! ## The patterns -/

def hexadecimal (c : Char) : Bool := ('A' ≤ c ∧ c ≤ 'F') ∨ isAsciiDigit c

def owned_name (start : String) : Regex :=
  .seq (Regex.literal start) (Regex.concat (List.replicate 12 (.oneOf hexadecimal)))

/-- `^SDA-MCAST-[A-F0-9]{12}$`. -/
def access_list_pattern : Regex := owned_name "SDA-MCAST-"

/-- `^SDA-SGACL-[A-F0-9]{12}$`. -/
def sgacl_pattern : Regex := owned_name "SDA-SGACL-"

/-- `^49\.[0-9]{4}$`. -/
def isis_area_pattern : Regex :=
  .seq (Regex.literal "49.") (Regex.concat (List.replicate 4 (.oneOf isAsciiDigit)))

/-- `^(permit|deny) (ip|tcp|udp|icmp)$`. -/
def ace_pattern : Regex :=
  Regex.concat [Regex.anyOf [Regex.literal "permit", Regex.literal "deny"], Regex.literal " ",
    Regex.anyOf [Regex.literal "ip", Regex.literal "tcp", Regex.literal "udp", Regex.literal "icmp"]]

private def digit_between (low high : Char) : Regex := .oneOf fun c => low ≤ c ∧ c ≤ high

/-- `[1-9][0-9]{0,3}|[1-5][0-9]{4}|6[0-4][0-9]{3}|65[0-4][0-9]{2}|655[0-2][0-9]|6553[0-5]`. -/
def port_pattern : Regex :=
  let digit := Regex.oneOf isAsciiDigit
  let optional := Regex.optional digit
  Regex.anyOf [
    Regex.concat [digit_between '1' '9', optional, optional, optional],
    Regex.concat [digit_between '1' '5', digit, digit, digit, digit],
    Regex.concat [Regex.literal "6", digit_between '0' '4', digit, digit, digit],
    Regex.concat [Regex.literal "65", digit_between '0' '4', digit, digit],
    Regex.concat [Regex.literal "655", digit_between '0' '2', digit],
    Regex.concat [Regex.literal "6553", digit_between '0' '5']]

/-- `https://[A-Za-z0-9.-]+` and an optional port. -/
def origin_pattern (port : Regex) : Regex :=
  Regex.concat [Regex.literal "https://", Regex.plus (.oneOf (alphanumericOr ".-")),
    Regex.optional (.seq (Regex.literal ":") port)]

/-- `^secret://`. -/
def is_secret_ref (text : String) : Bool := startswith text "secret://"

/-! ## The sections -/

def HierarchyNode.schema_errors (path : List Part) (node : HierarchyNode) : List SchemaError :=
  minLength 1 path "id" node.id ++ minLength 1 path "name" node.name ++
    present node.parent_id (minLength 1 path "parent_id") ++
    present node.latitude (fun number =>
      minimum (-90) path "latitude" number.value ++ maximum 90 path "latitude" number.value) ++
    present node.longitude (fun number =>
      minimum (-180) path "longitude" number.value ++ maximum 180 path "longitude" number.value) ++
    present node.timezone (minLength 1 path "timezone")

def FabricSite.schema_errors (path : List Part) (site : FabricSite) : List SchemaError :=
  minLength 1 path "id" site.id ++ minLength 1 path "name" site.name ++
    minLength 1 path "hierarchy_node_id" site.hierarchy_node_id ++
    minimum 1 path "endpoint_count" site.endpoint_count ++ minimum 0 path "ap_count" site.ap_count

def FabricZone.schema_errors (path : List Part) (zone : FabricZone) : List SchemaError :=
  minLength 1 path "id" zone.id ++ minLength 1 path "fabric_site_id" zone.fabric_site_id ++
    minLength 1 path "hierarchy_node_id" zone.hierarchy_node_id ++
    minItems 1 path "virtual_networks" zone.virtual_networks ++
    distinct_texts path "virtual_networks" zone.virtual_networks

def Metadata.schema_errors (path : List Part) (metadata : Metadata) : List SchemaError :=
  minLength 1 path "name" metadata.name ++ minLength 1 path "organization" metadata.organization ++
    minLength 1 path "region" metadata.region

def FabricMulticast.schema_errors (path : List Part) (multicast : FabricMulticast) :
    List SchemaError :=
  present multicast.rp_loopback_id (between 1 2147483647 path "rp_loopback_id") ++
    present multicast.rp_device_ids fun ids =>
      minItems 1 path "rp_device_ids" ids ++ distinct_texts path "rp_device_ids" ids

def Fabric.schema_errors (path : List Part) (fabric : Fabric) : List SchemaError :=
  minLength 1 path "id" fabric.id ++ minLength 1 path "name" fabric.name ++
    between 1550 9216 path "mtu" fabric.mtu ++
    present fabric.mtu_headroom (between 0 500 path "mtu_headroom") ++
    present fabric.isis_process (minLength 1 path "isis_process") ++
    present fabric.isis_area (pattern (matches_line isis_area_pattern) path "isis_area") ++
    present fabric.multicast (FabricMulticast.schema_errors (path ++ [.key "multicast"]))

def Device.schema_errors (path : List Part) (device : Device) : List SchemaError :=
  minLength 1 path "id" device.id ++ minLength 1 path "hostname" device.hostname ++
    minLength 1 path "site" device.site ++ minLength 1 path "platform" device.platform ++
    minLength 1 path "software_version" device.software_version ++
    minItems 1 path "roles" device.roles ++ uniqueItems path "roles" device.roles ++
    pattern is_secret_ref path "credential_ref" device.credential_ref

def Bfd.schema_errors (path : List Part) (bfd : Bfd) : List SchemaError :=
  present bfd.interval_ms (between 50 1000 path "interval_ms") ++
    present bfd.min_rx_ms (between 50 1000 path "min_rx_ms") ++
    present bfd.multiplier (between 3 50 path "multiplier")

def Link.schema_errors (path : List Part) (link : Link) : List SchemaError :=
  minLength 1 path "id" link.id ++ present link.bfd (Bfd.schema_errors (path ++ [.key "bfd"])) ++
    minItems 2 path "endpoints" link.endpoints ++ maxItems 2 path "endpoints" link.endpoints

def MultihomingGroup.schema_errors (path : List Part) (group : MultihomingGroup) :
    List SchemaError :=
  minLength 1 path "site_id" group.site_id ++
    between 1 65535 path "multihoming_id" group.multihoming_id ++
    minItems 2 path "border_device_ids" group.border_device_ids ++
    distinct_texts path "border_device_ids" group.border_device_ids

def Lisp.schema_errors (path : List Part) (lisp : Lisp) : List SchemaError :=
  minLength 1 path "site_name" lisp.site_name ++
    pattern is_secret_ref path "auth_key_ref" lisp.auth_key_ref ++
    present lisp.locator_set (minLength 1 path "locator_set") ++
    minItems 1 path "map_servers" lisp.map_servers ++
    uniqueItems path "map_servers" lisp.map_servers ++
    present lisp.publishers (fun publishers =>
      minItems 1 path "publishers" publishers ++ distinct_texts path "publishers" publishers) ++
    present lisp.subscribers (fun subscribers =>
      minItems 1 path "subscribers" subscribers ++ distinct_texts path "subscribers" subscribers) ++
    present lisp.domain_id (between 1 4294967295 path "domain_id") ++
    present lisp.multihoming_groups fun groups =>
      items_of path "multihoming_groups" groups MultihomingGroup.schema_errors

def VirtualNetwork.schema_errors (path : List Part) (vn : VirtualNetwork) : List SchemaError :=
  between 1 16777215 path "l3_instance_id" vn.l3_instance_id ++
    minItems 1 path "route_targets" vn.route_targets ++
    uniqueItems path "route_targets" vn.route_targets

def LocalDhcp.schema_errors (path : List Part) (dhcp : LocalDhcp) : List SchemaError :=
  minLength 1 path "server_device_id" dhcp.server_device_id ++
    between 5 10080 path "lease_minutes" dhcp.lease_minutes ++
    maxItems 8 path "dns_servers" dhcp.dns_servers ++ uniqueItems path "dns_servers" dhcp.dns_servers

def EndpointPool.schema_errors (path : List Part) (pool : EndpointPool) : List SchemaError :=
  between 1 4094 path "vlan_id" pool.vlan_id ++
    between 1 16777215 path "l2_instance_id" pool.l2_instance_id ++
    minItems 1 path "dhcp_helpers" pool.dhcp_helpers ++
    present pool.dhcp (LocalDhcp.schema_errors (path ++ [.key "dhcp"]))

def EndpointAttachment.schema_errors (path : List Part) (attachment : EndpointAttachment) :
    List SchemaError :=
  minLength 1 path "id" attachment.id ++ minLength 1 path "device_id" attachment.device_id ++
    minLength 1 path "interface" attachment.interface ++
    maxLength 128 path "interface" attachment.interface ++
    minLength 1 path "site" attachment.site ++
    minLength 1 path "virtual_network" attachment.virtual_network ++
    minLength 1 path "endpoint_pool_id" attachment.endpoint_pool_id ++
    between 1 4094 path "vlan_id" attachment.vlan_id ++
    present attachment.description fun description =>
      minLength 1 path "description" description ++ maxLength 120 path "description" description

def FusionNode.schema_errors (path : List Part) (fusion : FusionNode) : List SchemaError :=
  minLength 1 path "id" fusion.id ++ minLength 1 path "hostname" fusion.hostname ++
    minLength 1 path "platform" fusion.platform ++
    minLength 1 path "software_version" fusion.software_version ++
    pattern is_secret_ref path "credential_ref" fusion.credential_ref ++
    between 1 4294967295 path "bgp_asn" fusion.bgp_asn

def ServiceAttachment.schema_errors (path : List Part) (attachment : ServiceAttachment) :
    List SchemaError :=
  minLength 1 path "id" attachment.id ++
    minLength 1 path "fusion_node_id" attachment.fusion_node_id ++
    minLength 1 path "interface" attachment.interface ++
    between 1 4094 path "vlan_id" attachment.vlan_id

def Service.schema_errors (path : List Part) (service : Service) : List SchemaError :=
  minLength 1 path "id" service.id ++
    minItems 1 path "addresses" service.addresses ++ uniqueItems path "addresses" service.addresses ++
    minItems 1 path "prefixes" service.prefixes ++ uniqueItems path "prefixes" service.prefixes ++
    minItems 1 path "consumer_virtual_networks" service.consumer_virtual_networks ++
    distinct_texts path "consumer_virtual_networks" service.consumer_virtual_networks

def RouteLeak.schema_errors (path : List Part) (leak : RouteLeak) : List SchemaError :=
  minLength 1 path "consumer_vrf" leak.consumer_vrf ++
    minLength 1 path "service_vrf" leak.service_vrf ++
    minItems 1 path "import_prefixes" leak.import_prefixes ++
    uniqueItems path "import_prefixes" leak.import_prefixes ++
    minItems 1 path "export_prefixes" leak.export_prefixes ++
    uniqueItems path "export_prefixes" leak.export_prefixes

def SharedServices.schema_errors (path : List Part) (shared : SharedServices) : List SchemaError :=
  minLength 1 path "vrf" shared.vrf ++
    minItems 1 path "attachments" shared.attachments ++
    items_of path "attachments" shared.attachments ServiceAttachment.schema_errors ++
    minItems 1 path "services" shared.services ++
    items_of path "services" shared.services Service.schema_errors ++
    minItems 1 path "route_leaks" shared.route_leaks ++
    items_of path "route_leaks" shared.route_leaks RouteLeak.schema_errors

def SegmentLoopback.schema_errors (path : List Part) (loopback : SegmentLoopback) :
    List SchemaError :=
  minLength 1 path "device_id" loopback.device_id

def OverlayPolicy.schema_errors (path : List Part) (policy : OverlayPolicy) : List SchemaError :=
  minLength 1 path "virtual_network" policy.virtual_network ++ minLength 1 path "vrf" policy.vrf ++
    between 1 16777215 path "l3_instance_id" policy.l3_instance_id ++
    pattern (matches_line access_list_pattern) path "access_list" policy.access_list ++
    minItems 1 path "segment_loopbacks" policy.segment_loopbacks ++
    items_of path "segment_loopbacks" policy.segment_loopbacks SegmentLoopback.schema_errors ++
    present policy.core_group (fun group =>
      between 1 16777214 (path ++ [.key "core_group"]) "count" group.count) ++
    match policy.mode with
    | .asm => required path [policy.rp_address.isSome, policy.rp_prefix.isSome]
    | .ssm => excluded path [policy.rp_address.isSome, policy.rp_prefix.isSome]

def BumGroup.schema_errors (path : List Part) (group : BumGroup) : List SchemaError :=
  minLength 1 path "endpoint_pool_id" group.endpoint_pool_id ++
    between 1 16777215 path "l2_instance_id" group.l2_instance_id ++
    between 1 4094 path "vlan_id" group.vlan_id

def Multicast.schema_errors (path : List Part) (multicast : Multicast) : List SchemaError :=
  present multicast.rp_device_ids (fun ids =>
      minItems 1 path "rp_device_ids" ids ++ distinct_texts path "rp_device_ids" ids) ++
    distinct_texts path "asm_virtual_networks" multicast.asm_virtual_networks ++
    distinct_texts path "ssm_virtual_networks" multicast.ssm_virtual_networks ++
    present multicast.overlay_policies (fun policies =>
      items_of path "overlay_policies" policies OverlayPolicy.schema_errors) ++
    present multicast.l2_bum_groups fun groups =>
      items_of path "l2_bum_groups" groups BumGroup.schema_errors

def IseNode.schema_errors (path : List Part) (node : IseNode) : List SchemaError :=
  minLength 1 path "id" node.id ++
    present node.api_base_url (pattern (matches_line (origin_pattern port_pattern)) path "api_base_url") ++
    minItems 1 path "roles" node.roles ++ uniqueItems path "roles" node.roles

def Ise.schema_errors (path : List Part) (ise : Ise) : List SchemaError :=
  pattern is_secret_ref path "credential_ref" ise.credential_ref ++
    present ise.ca_bundle_ref (pattern is_secret_ref path "ca_bundle_ref") ++
    present ise.write_node_id (minLength 1 path "write_node_id") ++
    minItems 1 path "nodes" ise.nodes ++ items_of path "nodes" ise.nodes IseNode.schema_errors

def SxpConnection.schema_errors (path : List Part) (connection : SxpConnection) :
    List SchemaError :=
  minLength 1 path "id" connection.id ++ minLength 1 path "speaker_id" connection.speaker_id ++
    present connection.transport_vrf (minLength 1 path "transport_vrf") ++
    pattern is_secret_ref path "password_ref" connection.password_ref

def SecurityGroup.schema_errors (path : List Part) (group : SecurityGroup) : List SchemaError :=
  minLength 1 path "name" group.name ++ between 2 65519 path "tag" group.tag

def Contract.schema_errors (path : List Part) (contract : Contract) : List SchemaError :=
  present contract.name (minLength 1 path "name") ++ minLength 1 path "source" contract.source ++
    present contract.source_tag (between 2 65519 path "source_tag") ++
    minLength 1 path "destination" contract.destination ++
    present contract.destination_tag (between 2 65519 path "destination_tag") ++
    present contract.sgacl_name (pattern (matches_line sgacl_pattern) path "sgacl_name") ++
    present contract.aces fun aces =>
      minItems 1 path "aces" aces ++ uniqueItems path "aces" aces ++
        aces.zipIdx.flatMap fun entry =>
          fails_if (!matches_line ace_pattern entry.1) "pattern" (path ++ [.key "aces", .index entry.2])

/-- The fields that contract version 1.0 requires. -/
def PolicyPlane.contract_errors (path : List Part) (policy : PolicyPlane) : List SchemaError :=
  required path [policy.default_action.isSome, policy.enforcement_device_ids.isSome,
      policy.enforcement_vlan_ids.isSome] ++
    present policy.ise (fun ise =>
      required (path ++ [.key "ise"]) [ise.write_node_id.isSome] ++
        items_of (path ++ [.key "ise"]) "nodes" ise.nodes fun path node =>
          required path [node.api_base_url.isSome]) ++
    present policy.sxp (fun sxp =>
      items_of (path ++ [.key "sxp"]) "connections" sxp.connections fun path connection =>
        required path [connection.transport_vrf.isSome, connection.source_ip.isSome,
          connection.listener_prefix.isSome, connection.local_mode.isSome]) ++
    items_of path "contracts" policy.contracts fun path contract =>
      required path [contract.name.isSome, contract.source_tag.isSome,
        contract.destination_tag.isSome, contract.sgacl_name.isSome, contract.aces.isSome,
        contract.default_action.isSome]

def PolicyPlane.schema_errors (path : List Part) (policy : PolicyPlane) : List SchemaError :=
  present policy.enforcement_device_ids (distinct_texts path "enforcement_device_ids") ++
    present policy.enforcement_vlan_ids (fun ids =>
      uniqueItems path "enforcement_vlan_ids" ids ++ ids.zipIdx.flatMap fun entry =>
        let position := path ++ [.key "enforcement_vlan_ids", .index entry.2]
        fails_if (entry.1 < 1) "minimum" position ++ fails_if (4094 < entry.1) "maximum" position) ++
    present policy.ise (Ise.schema_errors (path ++ [.key "ise"])) ++
    present policy.sxp (fun sxp =>
      minItems 1 (path ++ [.key "sxp"]) "connections" sxp.connections ++
        items_of (path ++ [.key "sxp"]) "connections" sxp.connections SxpConnection.schema_errors) ++
    minItems 1 path "security_groups" policy.security_groups ++
    items_of path "security_groups" policy.security_groups SecurityGroup.schema_errors ++
    items_of path "contracts" policy.contracts Contract.schema_errors ++
    present policy.contract_version (fun _ => policy.contract_errors path) ++
    match policy.mode with
    | .ise => required path [policy.ise.isSome] ++ excluded path [policy.sxp.isSome]
    | .sxp => required path [policy.sxp.isSome] ++ excluded path [policy.ise.isSome]
    | .hybrid => required path [policy.ise.isSome, policy.sxp.isSome]
    | .none => excluded path [policy.ise.isSome, policy.sxp.isSome]

def HandoffPeer.schema_errors (path : List Part) (peer : HandoffPeer) : List SchemaError :=
  minLength 1 path "device_id" peer.device_id ++
    present peer.fusion_node_id (minLength 1 path "fusion_node_id") ++
    minLength 1 path "vrf" peer.vrf ++ between 1 4094 path "vlan_id" peer.vlan_id ++
    minLength 1 path "interface" peer.interface ++
    between 1 4294967295 path "remote_as" peer.remote_as ++
    present peer.border_interface (minLength 1 path "border_interface") ++
    present peer.fusion_interface (minLength 1 path "fusion_interface")

def BorderHandoff.schema_errors (path : List Part) (handoff : BorderHandoff) : List SchemaError :=
  present handoff.local_as (between 1 4294967295 path "local_as") ++
    present handoff.peers fun peers => items_of path "peers" peers HandoffPeer.schema_errors

/-- The fields that a schema version requires and excludes. -/
def version_errors (intent : FabricIntent) : List SchemaError :=
  match intent.schema_version with
  | .v1_2 =>
    required [] [intent.deployment_model.isSome, intent.site_hierarchy.isSome,
        intent.fabric_sites.isSome, intent.fusion_nodes.isSome, intent.shared_services.isSome,
        intent.multicast.isSome, intent.policy_plane.isSome] ++
      present intent.multicast fun multicast =>
        required [.key "multicast"] [multicast.overlay_policies.isSome, multicast.l2_bum_groups.isSome]
  | .v1_1 =>
    required [] [intent.deployment_model.isSome, intent.site_hierarchy.isSome,
        intent.fabric_sites.isSome] ++
      excluded [] [intent.fusion_nodes.isSome, intent.shared_services.isSome,
        intent.policy_plane.isSome]
  | .v1_0 =>
    excluded [] [intent.deployment_model.isSome, intent.site_hierarchy.isSome,
      intent.fabric_sites.isSome, intent.fabric_zones.isSome, intent.fusion_nodes.isSome,
      intent.shared_services.isSome, intent.policy_plane.isSome]

/-- `SCHEMA_VALIDATOR.iter_errors(document)`. -/
def schema_errors (intent : FabricIntent) : List SchemaError :=
  present intent.site_hierarchy (fun nodes =>
      minItems 2 [] "site_hierarchy" nodes ++
        items_of [] "site_hierarchy" nodes HierarchyNode.schema_errors) ++
    present intent.fabric_sites (fun sites =>
      minItems 1 [] "fabric_sites" sites ++
        items_of [] "fabric_sites" sites FabricSite.schema_errors) ++
    present intent.fabric_zones (fun zones =>
      items_of [] "fabric_zones" zones FabricZone.schema_errors) ++
    intent.metadata.schema_errors [.key "metadata"] ++
    intent.fabric.schema_errors [.key "fabric"] ++
    minItems 2 [] "devices" intent.devices ++
    items_of [] "devices" intent.devices Device.schema_errors ++
    items_of [] "links" intent.links Link.schema_errors ++
    intent.lisp.schema_errors [.key "lisp"] ++
    minItems 1 [] "virtual_networks" intent.virtual_networks ++
    items_of [] "virtual_networks" intent.virtual_networks VirtualNetwork.schema_errors ++
    minItems 1 [] "endpoint_pools" intent.endpoint_pools ++
    items_of [] "endpoint_pools" intent.endpoint_pools EndpointPool.schema_errors ++
    present intent.endpoint_attachments (fun attachments =>
      maxItems 8192 [] "endpoint_attachments" attachments ++
        items_of [] "endpoint_attachments" attachments EndpointAttachment.schema_errors) ++
    present intent.fusion_nodes (fun nodes =>
      minItems 2 [] "fusion_nodes" nodes ++
        items_of [] "fusion_nodes" nodes FusionNode.schema_errors) ++
    present intent.shared_services (SharedServices.schema_errors [.key "shared_services"]) ++
    present intent.multicast (Multicast.schema_errors [.key "multicast"]) ++
    present intent.policy_plane (PolicyPlane.schema_errors [.key "policy_plane"]) ++
    present intent.border_handoff (BorderHandoff.schema_errors [.key "border_handoff"]) ++
    (if intent.lisp.control_plane_mode = some .lisp_pubsub then
      required [.key "lisp"] [intent.lisp.domain_id.isSome, intent.lisp.multihoming_groups.isSome]
    else []) ++
    version_errors intent

/-- The schema errors as issues, in the order of their paths. What the schema validator
writes as the message of an error is its own. -/
def schema_issues (error_message : SchemaError → String) (intent : FabricIntent) :
    List ValidationIssue :=
  (sortedBy (fun error : SchemaError => error.absolute_path.map Part.text)
    (schema_errors intent)).flatMap fun error =>
      _add ("schema." ++ error.validator) ("$" ++ join "" (error.absolute_path.map Part.show))
        (error_message error)

theorem schema_errors_of_clean {error_message : SchemaError → String} {intent : FabricIntent}
    (hclean : Clean (schema_issues error_message intent)) : schema_errors intent = [] := by
  rw [schema_issues, clean_flatMap] at hclean
  refine List.eq_nil_iff_forall_not_mem.mpr fun error herror => ?_
  exact not_clean_add _ _ _ (hclean error (mem_sortedBy.mpr herror))

theorem version_errors_of_schema_errors {intent : FabricIntent} (h : schema_errors intent = []) :
    version_errors intent = [] := by
  refine List.eq_nil_iff_forall_not_mem.mpr fun error herror => ?_
  have hmem : error ∈ schema_errors intent := List.mem_append_right _ herror
  rw [h] at hmem
  cases hmem

@[simp] theorem fails_if_eq_nil {failed : Bool} {validator : String} {path : List Part} :
    fails_if failed validator path = [] ↔ failed = false := by
  cases failed <;> simp [fails_if]

@[simp] theorem present_eq_nil {α : Type*} {value : Option α} {errors : α → List SchemaError} :
    present value errors = [] ↔ ∀ found, value = some found → errors found = [] := by
  cases value <;> simp [present]

@[simp] theorem items_of_eq_nil {α : Type*} {path : List Part} {name : String} {items : List α}
    {errors : List Part → α → List SchemaError} :
    items_of path name items errors = [] ↔
      ∀ item position, (item, position) ∈ items.zipIdx →
        errors (path ++ [.key name, .index position]) item = [] := by
  rw [items_of, List.flatMap_eq_nil_iff, Prod.forall]

end orchestrator.intent
