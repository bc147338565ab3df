import SdaOrchestrator.Intent.Checks
import SdaOrchestrator.Intent.Hierarchy

open python ipaddress

namespace orchestrator.intent

/-- The texts that come from outside the repository: the lower case of a text, and the
messages of the schema validator. -/
structure Texts where
  lower : String → String
  error_message : SchemaError → String

/-! ## The fabric -/

def FabricMulticast.issues (multicast : FabricMulticast) : List ValidationIssue :=
  if multicast.enabled then
    _ipv4_address multicast.rp_address "$.fabric.multicast.rp_address" ++
      _integer multicast.rp_loopback_id "$.fabric.multicast.rp_loopback_id" 1 2147483647
  else []

def fabric_issues (fabric : Fabric) : List ValidationIssue :=
  _required_string fabric.id "$.fabric.id" ++ _required_string fabric.name "$.fabric.name" ++
    _integer fabric.mtu "$.fabric.mtu" 1550 9216 ++
    warn_if ((integer fabric.mtu 1550 9216).any (· < 9100)) "fabric.mtu.recommended" "$.fabric.mtu"
      "An MTU of at least 9100 is recommended for the validated VXLAN design" ++
    (match fabric.mtu_headroom with
    | some headroom => _integer headroom "$.fabric.mtu_headroom" 0 500
    | none => []) ++
    match fabric.multicast with
    | some multicast => multicast.issues
    | none => []

/-! ## The devices -/

def Device.device_id (device : Device) : Option String := required_string device.id

def device_ids (devices : List Device) : List (String × String) :=
  declared (fun index => s!"$.devices[{index}].id") Device.device_id devices

def Device.known_hostname (texts : Texts) (device : Device) : Option String :=
  (required_string device.hostname).map texts.lower

def device_hostnames (texts : Texts) (devices : List Device) : List (String × String) :=
  declared (fun index => s!"$.devices[{index}].hostname") (Device.known_hostname texts) devices

def device_management_ips (devices : List Device) : List (IPv4Address × String) :=
  declared (fun index => s!"$.devices[{index}].management_ip")
    (fun device : Device => some device.management_ip) devices

def device_dashboard_ips (devices : List Device) : List (IPv4Address × String) :=
  declared (fun index => s!"$.devices[{index}].dashboard_management_ip")
    Device.dashboard_management_ip devices

def device_loopbacks (devices : List Device) : List (IPv4Address × String) :=
  declared (fun index => s!"$.devices[{index}].loopback0_ip")
    (fun device : Device => some device.loopback0_ip) devices

/-- `device_roles`: the roles of each device, by its id. -/
def device_roles (devices : List Device) : List (String × List Role) :=
  dict_of (devices.filterMap fun device => device.device_id.map (·, device.roles))

/-- `role in device_roles.get(device_id, set())`. -/
def has_role (devices : List Device) (device_id : String) (role : Role) : Bool :=
  (assoc.lookup device_id (device_roles devices)).any (role ∈ ·)

def device_sites (devices : List Device) : List (String × String) :=
  dict_of (devices.filterMap fun device => do
    return (← device.device_id, ← required_string device.site))

/-- `role_counts[role]`. -/
def role_count (devices : List Device) (role : Role) : Nat :=
  ((devices.flatMap Device.roles).filter (· = role)).length

def credential_issues (credential_ref path : String) : List ValidationIssue :=
  add_if (!is_secret_ref credential_ref) "security.credential_ref" s!"{path}.credential_ref"
    "credential_ref must use the secret:// reference scheme"

def device_issues (texts : Texts) (version : SchemaVersion) (sites : List FabricSite)
    (earlier : List Device) (device : Device) : List ValidationIssue :=
  let index := earlier.length
  let path := s!"$.devices[{index}]"
  _required_string device.id s!"{path}.id" ++
    _required_string device.hostname s!"{path}.hostname" ++
    _required_string device.site s!"{path}.site" ++
    (match required_string device.site with
    | some site =>
      add_if (version.has_hierarchy && site ∉ (fabric_site_ids sites).map Prod.fst)
        "reference.fabric_site" s!"{path}.site" ("Unknown fabric site " ++ reprText site)
    | none => []) ++
    _required_string device.platform s!"{path}.platform" ++
    _required_string device.software_version s!"{path}.software_version" ++
    _check_duplicate (device_ids earlier) device.device_id s!"{path}.id" "device id" ++
    _check_duplicate (device_hostnames texts earlier) (device.known_hostname texts)
      s!"{path}.hostname" "hostname" ++
    _check_duplicate (device_management_ips earlier) (some device.management_ip)
      s!"{path}.management_ip" "management IP" ++
    _check_duplicate (device_dashboard_ips earlier) device.dashboard_management_ip
      s!"{path}.dashboard_management_ip" "Dashboard management IP" ++
    _check_duplicate (device_loopbacks earlier) (some device.loopback0_ip)
      s!"{path}.loopback0_ip" "loopback IP" ++
    add_if device.roles.isEmpty "device.roles.empty" s!"{path}.roles"
      "At least one role is required" ++
    credential_issues device.credential_ref path

/-! ## The fusion nodes -/

def FusionNode.fusion_id (fusion : FusionNode) : Option String := required_string fusion.id

/-- The fusion nodes, which schema version 1.2 alone reads. -/
def FabricIntent.fusions (intent : FabricIntent) : List FusionNode :=
  if intent.schema_version = .v1_2 then intent.fusion_nodes.getD [] else []

def fusion_ids (fusions : List FusionNode) : List (String × String) :=
  declared (fun index => s!"$.fusion_nodes[{index}].id") FusionNode.fusion_id fusions

/-- `fusion_asns`: the BGP AS of each fusion node, by its id. -/
def fusion_asns (fusions : List FusionNode) : List (String × Int) :=
  dict_of (fusions.filterMap fun fusion => do
    return (← fusion.fusion_id, ← integer fusion.bgp_asn 1 4294967295))

def FusionNode.known_hostname (texts : Texts) (fusion : FusionNode) : Option String :=
  (required_string fusion.hostname).map texts.lower

def fusion_issues (texts : Texts) (devices : List Device) (earlier : List FusionNode)
    (fusion : FusionNode) : List ValidationIssue :=
  let index := earlier.length
  let path := s!"$.fusion_nodes[{index}]"
  let hostnames := device_hostnames texts devices ++
    declared (fun index => s!"$.fusion_nodes[{index}].hostname") (FusionNode.known_hostname texts) earlier
  let management_ips := device_management_ips devices ++
    declared (fun index => s!"$.fusion_nodes[{index}].management_ip")
      (fun fusion : FusionNode => some fusion.management_ip) earlier
  let dashboard_ips := device_dashboard_ips devices ++
    declared (fun index => s!"$.fusion_nodes[{index}].dashboard_management_ip")
      FusionNode.dashboard_management_ip earlier
  _required_string fusion.id s!"{path}.id" ++
    _required_string fusion.hostname s!"{path}.hostname" ++
    _required_string fusion.platform s!"{path}.platform" ++
    _required_string fusion.software_version s!"{path}.software_version" ++
    _check_duplicate (fusion_ids earlier) fusion.fusion_id s!"{path}.id" "fusion node id" ++
    add_if (fusion.fusion_id.any (· ∈ (device_ids devices).map Prod.fst)) "unique.duplicate"
      s!"{path}.id" "Fusion node id duplicates a fabric device id" ++
    _check_duplicate hostnames (fusion.known_hostname texts) s!"{path}.hostname" "hostname" ++
    _check_duplicate management_ips (some fusion.management_ip) s!"{path}.management_ip"
      "management IP" ++
    _check_duplicate dashboard_ips fusion.dashboard_management_ip
      s!"{path}.dashboard_management_ip" "Dashboard management IP" ++
    _integer fusion.bgp_asn s!"{path}.bgp_asn" 1 4294967295 ++
    credential_issues fusion.credential_ref path

def fusions_issues (texts : Texts) (intent : FabricIntent) : List ValidationIssue :=
  if intent.schema_version ≠ .v1_2 then []
  else
    _list intent.fusion_nodes "$.fusion_nodes" ++
      each intent.fusions (fusion_issues texts intent.devices) ++
      add_if (intent.metadata.environment = .production && intent.fusions.length < 2) "ha.fusion"
        "$.fusion_nodes" "Production schema 1.2 requires at least two fusion nodes"

/-- What the roles of all devices have to provide. -/
def role_issues (intent : FabricIntent) : List ValidationIssue :=
  let count := role_count intent.devices
  add_if (count .fabric_edge = 0) "roles.fabric_edge.required" "$.devices"
      "At least one fabric_edge is required" ++
    add_if (count .control_plane = 0) "roles.control_plane.required" "$.devices"
      "At least one control_plane is required" ++
    add_if (count .border = 0) "roles.border.required" "$.devices"
      "At least one border is required" ++
    if intent.metadata.environment = .production then
      add_if (count .control_plane < 2) "ha.control_plane" "$.devices"
          "Production requires at least two control_plane nodes" ++
        add_if (count .border < 2) "ha.border" "$.devices"
          "Production requires at least two border nodes"
    else
      warn_if (count .control_plane = 1) "ha.control_plane.single" "$.devices"
          "Single control-plane node is acceptable only for lab/staging" ++
        warn_if (count .border = 1) "ha.border.single" "$.devices"
          "Single border node is acceptable only for lab/staging"

/-! ## The links -/

def Link.network (link : Link) : Option IPv4Network := ipv4_network link.subnet

def Bfd.issues (path : String) (bfd : Bfd) : List ValidationIssue :=
  if bfd.enabled then
    _integer bfd.interval_ms s!"{path}.interval_ms" 50 1000 ++
      _integer bfd.min_rx_ms s!"{path}.min_rx_ms" 50 1000 ++
      _integer bfd.multiplier s!"{path}.multiplier" 3 50
  else []

/-- `if network and address not in network`. -/
def outside (network : Option IPv4Network) (address : IPv4Address) : Bool :=
  network.any (address ∉ ·)

/-- `Address {address} is not in {network}`. -/
def outside_message (network : Option IPv4Network) (address : IPv4Address) : String :=
  "Address " ++ address.str ++ " is not in " ++ (network.map IPv4Network.str).getD ""

def endpoint_issues (devices : List Device) (path : String) (subnet : Option IPv4Network)
    (earlier : List LinkEndpoint) (endpoint : LinkEndpoint) : List ValidationIssue :=
  let index := earlier.length
  let endpoint_path := s!"{path}.endpoints[{index}]"
  let endpoint_ips := declared (fun index => s!"{path}.endpoints[{index}].ip")
    (fun endpoint : LinkEndpoint => some endpoint.ip) earlier
  _required_string endpoint.device_id s!"{endpoint_path}.device_id" ++
    _required_string endpoint.interface s!"{endpoint_path}.interface" ++
    (match required_string endpoint.device_id with
    | some device_id =>
      add_if (device_id ∉ (device_ids devices).map Prod.fst) "reference.device"
        s!"{endpoint_path}.device_id" ("Unknown device_id " ++ reprText device_id)
    | none => []) ++
    _check_duplicate endpoint_ips (some endpoint.ip) s!"{endpoint_path}.ip" "link endpoint IP" ++
    add_if (outside subnet endpoint.ip) "link.endpoint.outside_subnet" s!"{endpoint_path}.ip"
      (outside_message subnet endpoint.ip)

/-- `len(endpoint_devices) == 2 and endpoint_devices[0] == endpoint_devices[1]`. -/
def Link.is_self (link : Link) : Bool :=
  match link.endpoints.filterMap fun endpoint => required_string endpoint.device_id with
  | [first, second] => first = second
  | _ => false

def link_issues (devices : List Device) (earlier : List Link) (link : Link) :
    List ValidationIssue :=
  let index := earlier.length
  let path := s!"$.links[{index}]"
  let link_ids := declared (fun index => s!"$.links[{index}].id")
    (fun link : Link => required_string link.id) earlier
  _required_string link.id s!"{path}.id" ++
    _check_duplicate link_ids (required_string link.id) s!"{path}.id" "link id" ++
    _ipv4_network link.subnet s!"{path}.subnet" ++
    add_if (link.network.any fun subnet => subnet.prefixlen ∉ [30, 31]) "link.prefix_length"
      s!"{path}.subnet" "Point-to-point links must use /31 or /30" ++
    (match link.bfd with
    | some bfd => bfd.issues s!"{path}.bfd"
    | none => []) ++
    add_if (link.endpoints.length ≠ 2) "link.endpoints.count" s!"{path}.endpoints"
      "Exactly two endpoints are required" ++
    each link.endpoints (endpoint_issues devices path link.network) ++
    add_if link.is_self "link.self" s!"{path}.endpoints"
      "A fabric link cannot connect a device to itself"

def topology_issues (texts : Texts) (intent : FabricIntent) : List ValidationIssue :=
  fabric_issues intent.fabric ++
    each intent.devices (device_issues texts intent.schema_version intent.sites) ++
    fusions_issues texts intent ++ role_issues intent ++
    each intent.links (link_issues intent.devices)

end orchestrator.intent
