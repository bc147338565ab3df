import SdaOrchestrator.Lib.IpAddress

/-! The documents of the shape that the fabric-intent schema prescribes: `type`, `enum`,
`const`, `format`, `additionalProperties` and the unconditional `required` of the schema
are the types below. What the schema says about values is checked in `Intent.Checks`. -/

open python ipaddress

namespace orchestrator.intent

inductive SchemaVersion where
  | v1_0 | v1_1 | v1_2
  deriving DecidableEq

def SchemaVersion.text : SchemaVersion → String
  | .v1_0 => "1.0"
  | .v1_1 => "1.1"
  | .v1_2 => "1.2"

inductive DeploymentModel where
  | single_site | distributed_campus
  deriving DecidableEq

def DeploymentModel.text : DeploymentModel → String
  | .single_site => "single_site"
  | .distributed_campus => "distributed_campus"

inductive HierarchyType where
  | global | area | building | floor
  deriving DecidableEq

def HierarchyType.text : HierarchyType → String
  | .global => "global"
  | .area => "area"
  | .building => "building"
  | .floor => "floor"

inductive SiteProfile where
  | fabric_in_a_box | small_site | medium_site | large_site
  deriving DecidableEq

def SiteProfile.text : SiteProfile → String
  | .fabric_in_a_box => "fabric_in_a_box"
  | .small_site => "small_site"
  | .medium_site => "medium_site"
  | .large_site => "large_site"

inductive Environment where
  | lab | staging | production
  deriving DecidableEq

def Environment.text : Environment → String
  | .lab => "lab"
  | .staging => "staging"
  | .production => "production"

inductive ControlPlaneMode where
  | classic_lisp | lisp_bgp_transit | lisp_pubsub
  deriving DecidableEq

def ControlPlaneMode.text : ControlPlaneMode → String
  | .classic_lisp => "classic_lisp"
  | .lisp_bgp_transit => "lisp_bgp_transit"
  | .lisp_pubsub => "lisp_pubsub"

inductive Transport where
  | native | head_end_replication
  deriving DecidableEq

def Transport.text : Transport → String
  | .native => "native"
  | .head_end_replication => "head_end_replication"

inductive RpMode where
  | anycast | static | none
  deriving DecidableEq

def RpMode.text : RpMode → String
  | .anycast => "anycast"
  | .static => "static"
  | .none => "none"

inductive Role where
  | border | control_plane | fabric_edge | fusion | underlay
  deriving DecidableEq

def Role.text : Role → String
  | .border => "border"
  | .control_plane => "control_plane"
  | .fabric_edge => "fabric_edge"
  | .fusion => "fusion"
  | .underlay => "underlay"

inductive ServiceType where
  | dhcp | dns | ntp | ise | catalyst_center | wlc | other
  deriving DecidableEq

def ServiceType.text : ServiceType → String
  | .dhcp => "dhcp"
  | .dns => "dns"
  | .ntp => "ntp"
  | .ise => "ise"
  | .catalyst_center => "catalyst_center"
  | .wlc => "wlc"
  | .other => "other"

inductive OverlayMode where
  | asm | ssm
  deriving DecidableEq

def OverlayMode.text : OverlayMode → String
  | .asm => "asm"
  | .ssm => "ssm"

inductive PolicyMode where
  | none | ise | sxp | hybrid
  deriving DecidableEq

def PolicyMode.text : PolicyMode → String
  | .none => "none"
  | .ise => "ise"
  | .sxp => "sxp"
  | .hybrid => "hybrid"

inductive IseRole where
  | pan | psn | pxgrid
  deriving DecidableEq

def IseRole.text : IseRole → String
  | .pan => "pan"
  | .psn => "psn"
  | .pxgrid => "pxgrid"

inductive Action where
  | permit | deny
  deriving DecidableEq

def Action.text : Action → String
  | .permit => "permit"
  | .deny => "deny"

inductive Protocol where
  | ip | tcp | udp | icmp
  deriving DecidableEq

def Protocol.text : Protocol → String
  | .ip => "ip"
  | .tcp => "tcp"
  | .udp => "udp"
  | .icmp => "icmp"

inductive HandoffMode where
  | bgp | isolated
  deriving DecidableEq

def HandoffMode.text : HandoffMode → String
  | .bgp => "bgp"
  | .isolated => "isolated"

/-- A field that has one admissible value, where it is present at all. -/
abbrev Constant := Unit

/-- A JSON number. -/
inductive Number where
  | int (value : Int)
  | float (value : ℚ) (text : String)
  deriving DecidableEq

def Number.value : Number → ℚ
  | .int value => value
  | .float value _ => value

structure HierarchyNode where
  id : String
  name : String
  type : HierarchyType
  parent_id : Option String
  address : Option String
  latitude : Option Number
  longitude : Option Number
  timezone : Option String

structure FabricSite where
  id : String
  name : String
  hierarchy_node_id : String
  endpoint_count : Int
  ap_count : Int
  site_local_services : Bool
  high_availability : Bool
  profile : SiteProfile

structure FabricZone where
  id : String
  fabric_site_id : String
  hierarchy_node_id : String
  virtual_networks : List String

structure Metadata where
  name : String
  environment : Environment
  organization : String
  region : String
  change_reference : Option String

structure FabricMulticast where
  enabled : Bool
  rp_address : Option IPv4Address
  rp_loopback_id : Option Int
  ssm_default : Option Bool
  transport : Option Transport
  rp_device_ids : Option (List String)

/-- The fabric, whose `underlay_protocol` is always `isis`. -/
structure Fabric where
  id : String
  name : String
  control_plane_mode : Option ControlPlaneMode
  mtu : Int
  mtu_headroom : Option Int
  isis_process : Option String
  isis_area : Option String
  multicast : Option FabricMulticast

structure Device where
  id : String
  hostname : String
  site : String
  platform : String
  software_version : String
  management_ip : IPv4Address
  dashboard_management_ip : Option IPv4Address
  loopback0_ip : IPv4Address
  roles : List Role
  credential_ref : String

structure Bfd where
  enabled : Bool
  interval_ms : Option Int
  min_rx_ms : Option Int
  multiplier : Option Int

structure LinkEndpoint where
  device_id : String
  interface : String
  ip : IPv4Address

structure Link where
  id : String
  subnet : String
  pim_sparse_mode : Option Bool
  bfd : Option Bfd
  endpoints : List LinkEndpoint

structure MultihomingGroup where
  site_id : String
  multihoming_id : Int
  border_device_ids : List String

structure Lisp where
  site_name : String
  auth_key_ref : String
  locator_set : Option String
  map_servers : List String
  control_plane_mode : Option ControlPlaneMode
  publishers : Option (List String)
  subscribers : Option (List String)
  domain_id : Option Int
  multihoming_groups : Option (List MultihomingGroup)

structure VirtualNetwork where
  name : String
  vrf : String
  l3_instance_id : Int
  rd : String
  route_targets : List String

/-- The `dhcp` section of a pool: always `local_border` with a global relay. -/
structure LocalDhcp where
  server_device_id : String
  helper_address : IPv4Address
  lease_minutes : Int
  dns_servers : List IPv4Address

structure EndpointPool where
  id : String
  site : String
  virtual_network : String
  vlan_id : Int
  l2_instance_id : Int
  pfx : String
  gateway : IPv4Address
  dhcp_helpers : List IPv4Address
  dhcp : Option LocalDhcp

structure EndpointAttachment where
  id : String
  device_id : String
  interface : String
  site : String
  virtual_network : String
  endpoint_pool_id : String
  vlan_id : Int
  description : Option String

structure FusionNode where
  id : String
  hostname : String
  platform : String
  software_version : String
  management_ip : IPv4Address
  dashboard_management_ip : Option IPv4Address
  credential_ref : String
  bgp_asn : Int

structure ServiceAttachment where
  id : String
  fusion_node_id : String
  interface : String
  vlan_id : Int
  pfx : String
  local_ip : IPv4Address
  next_hop : IPv4Address

structure Service where
  id : String
  type : ServiceType
  addresses : List IPv4Address
  prefixes : List String
  consumer_virtual_networks : List String

structure RouteLeak where
  consumer_vrf : String
  service_vrf : String
  import_prefixes : List String
  export_prefixes : List String

/-- The shared services, whose `default_action` is always `deny`. -/
structure SharedServices where
  vrf : String
  attachments : List ServiceAttachment
  services : List Service
  route_leaks : List RouteLeak

structure SegmentLoopback where
  device_id : String
  address : IPv4Address

structure CoreGroup where
  pfx : String
  start : IPv4Address
  count : Int

structure OverlayPolicy where
  virtual_network : String
  vrf : String
  l3_instance_id : Int
  mode : OverlayMode
  group_range : String
  access_list : String
  rp_address : Option IPv4Address
  rp_prefix : Option String
  segment_loopbacks : List SegmentLoopback
  core_group : Option CoreGroup

structure BumGroup where
  endpoint_pool_id : String
  l2_instance_id : Int
  vlan_id : Int
  group : IPv4Address

structure Multicast where
  enabled : Bool
  transport : Transport
  rp_mode : RpMode
  rp_address : Option IPv4Address
  rp_device_ids : Option (List String)
  asm_virtual_networks : List String
  ssm_virtual_networks : List String
  ssm_range : Option String
  overlay_policies : Option (List OverlayPolicy)
  l2_bum_groups : Option (List BumGroup)

structure IseNode where
  id : String
  address : IPv4Address
  api_base_url : Option String
  roles : List IseRole

structure Ise where
  credential_ref : String
  ca_bundle_ref : Option String
  write_node_id : Option String
  nodes : List IseNode

/-- An SXP connection, whose `local_mode` is `speaker` where it is present. -/
structure SxpConnection where
  id : String
  speaker_id : String
  transport_vrf : Option String
  source_ip : Option IPv4Address
  listener_ip : IPv4Address
  listener_prefix : Option String
  password_ref : String
  local_mode : Option Constant

structure Sxp where
  connections : List SxpConnection

structure SecurityGroup where
  name : String
  tag : Int

/-- A contract, whose `default_action` is `deny` where it is present. -/
structure Contract where
  name : Option String
  source : String
  source_tag : Option Int
  destination : String
  destination_tag : Option Int
  action : Action
  protocol : Protocol
  sgacl_name : Option String
  aces : Option (List String)
  default_action : Option Constant

/-- The policy plane, whose `contract_version` is `1.0` and whose `default_action` is
`deny` where they are present. -/
structure PolicyPlane where
  mode : PolicyMode
  contract_version : Option Constant
  default_action : Option Constant
  enforcement_device_ids : Option (List String)
  enforcement_vlan_ids : Option (List Int)
  ise : Option Ise
  sxp : Option Sxp
  security_groups : List SecurityGroup
  contracts : List Contract

structure HandoffPeer where
  device_id : String
  fusion_node_id : Option String
  vrf : String
  vlan_id : Int
  interface : String
  pfx : String
  local_ip : IPv4Address
  neighbor_ip : IPv4Address
  remote_as : Int
  border_interface : Option String
  fusion_interface : Option String

structure BorderHandoff where
  enabled : Bool
  mode : Option HandoffMode
  local_as : Option Int
  peers : Option (List HandoffPeer)

structure FabricIntent where
  schema_version : SchemaVersion
  deployment_model : Option DeploymentModel
  site_hierarchy : Option (List HierarchyNode)
  fabric_sites : Option (List FabricSite)
  fabric_zones : Option (List FabricZone)
  metadata : Metadata
  fabric : Fabric
  devices : List Device
  links : List Link
  lisp : Lisp
  virtual_networks : List VirtualNetwork
  endpoint_pools : List EndpointPool
  endpoint_attachments : Option (List EndpointAttachment)
  fusion_nodes : Option (List FusionNode)
  shared_services : Option SharedServices
  multicast : Option Multicast
  policy_plane : Option PolicyPlane
  border_handoff : Option BorderHandoff

end orchestrator.intent
