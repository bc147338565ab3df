import SdaOrchestrator.Allocator.Requested

/-! The requirements of a fabric that pass their schema, and the guardrails. The schema admits one value
for the `default_action` and `contract_version` of a policy plane, for the `default_action` of the shared
services and for the `mode` of a local DHCP service. -/

open python ipaddress orchestrator.store

namespace orchestrator.allocator

open orchestrator.intent

/-! ## Requirements -/

structure FabricRequest where
  id : String
  name : String
  mtu : Int
  control_plane_mode : ControlPlaneMode
  isis_process : Option String
  isis_area : Option String
  lisp_site_name : Option String
  lisp_auth_key_ref : String
  locator_set : Option String
  lisp_domain_id : Option Int

structure FabricSiteRequest where
  id : String
  name : String
  hierarchy_node_id : String
  endpoint_count : Int
  ap_count : Int
  site_local_services : Bool
  high_availability : Bool
  profile : Option SiteProfile
  lisp_multihoming_id : Option Int

structure DeviceRequest where
  id : String
  hostname : Option String
  site : String
  platform : String
  software_version : String
  management_ip : IPv4Address
  dashboard_management_ip : Option IPv4Address
  roles : List Role
  credential_ref : String

structure LinkEndpointRequest where
  device_id : String
  interface : String

structure LinkRequest where
  id : String
  pim_sparse_mode : Option Bool
  bfd : Option Bfd
  endpoints : List LinkEndpointRequest

structure AttachmentRequest where
  id : String
  device_id : String
  interface : String
  site : String
  virtual_network : String
  description : Option String

structure ServiceAttachmentRequest where
  id : String
  fusion_node_id : String
  interface : String

structure SharedServicesRequest where
  vrf : String
  attachments : List ServiceAttachmentRequest
  services : List Service

structure OverlayPolicyRequest where
  virtual_network : String
  mode : OverlayMode
  group_range : String
  rp_address : Option IPv4Address
  rp_prefix : Option String

structure MulticastRequest where
  enabled : Bool
  transport : Transport
  rp_mode : RpMode
  rp_device_ids : Option (List String)
  asm_virtual_networks : List String
  ssm_virtual_networks : List String
  ssm_range : Option String
  overlay_policies : Option (List OverlayPolicyRequest)

structure SxpConnectionRequest where
  id : String
  speaker_id : String
  transport_vrf : Option String
  listener_ip : IPv4Address
  listener_prefix : Option String
  password_ref : String

structure ContractRequest where
  source : String
  destination : String
  action : Action
  protocol : Protocol

structure PolicyPlaneRequest where
  mode : PolicyMode
  contract_version : Option Constant
  default_action : Option Constant
  ise : Option Ise
  sxp : Option (List SxpConnectionRequest)
  security_groups : List SecurityGroupRequest
  contracts : List ContractRequest

structure AdjacencyRequest where
  border_device_id : String
  fusion_node_id : String
  border_interface : String
  fusion_interface : String
  virtual_networks : Option (List String)

structure PeerRequest where
  device_id : String
  vrf : String
  interface : Option String

structure HandoffRequest where
  enabled : Bool
  mode : HandoffMode
  remote_as : Option Int
  adjacencies : Option (List AdjacencyRequest)
  peers : Option (List PeerRequest)

structure Requirements where
  schema_version : SchemaVersion
  allocation_domain : String
  deployment_model : Option DeploymentModel
  site_hierarchy : Option (List HierarchyNode)
  fabric_sites : Option (List FabricSiteRequest)
  fabric_zones : Option (List FabricZone)
  metadata : Metadata
  fabric : FabricRequest
  devices : List DeviceRequest
  links : List LinkRequest
  virtual_networks : List VirtualNetworkRequest
  endpoint_attachments : Option (List AttachmentRequest)
  fusion_nodes : Option (List FusionNode)
  shared_services : Option SharedServicesRequest
  multicast : Option MulticastRequest
  policy_plane : Option PolicyPlaneRequest
  border_handoff : Option HandoffRequest
  /-- The earlier versions of the schema exclude these sections. -/
  versioned : schema_version ≠ .v1_2 → fusion_nodes = none ∧ shared_services = none ∧ policy_plane = none

/-! ## Guardrails -/

/-- A platform that the guardrails approve. -/
structure PlatformEntry where
  model : String
  roles : List String
  min_ios_xe : Option String

/-- A size of sites; an entry without an id is invalid. -/
structure ProfileEntry where
  id : String
  max_endpoints : Int
  max_aps : Int

structure RedundancyPolicy where
  min_borders_production : Option Int
  min_control_planes_production : Option Int
  min_fusion_nodes_production : Option Int
  min_ise_nodes_production : Option Int
  min_sxp_speakers_production : Option Int
  min_sxp_listeners_production : Option Int

structure FusionPolicy where
  require_full_mesh_production : Option Bool
  min_fusion_nodes_per_border_vrf_production : Option Int

structure Policy extends Guardrails where
  allowed_modes : List String
  deployment_models : List String
  max_depth : Option Int
  site_profiles : List ProfileEntry
  platform_matrix : List PlatformEntry
  redundancy : RedundancyPolicy
  fusion : FusionPolicy
  /-- The `usable_count` of the pool `multicast_core_groups`. -/
  core_group_usable_count : Option Int

/-! ## Pools and ranges by name -/

section Lookups

variable (guardrails : Guardrails)

/-- `if pool_id not in pools: raise AllocationError(...)`. -/
def Guardrails.require_pool (pool_id : String) : Py PoolPolicy :=
  require (assoc.lookup pool_id guardrails.supernets) (AllocationError s!"Guardrail pool {pool_id} is missing")

/-- `if not isinstance(ranges.get(name), Mapping): raise AllocationError(...)`. -/
def Guardrails.require_range (name : String) : Py RangePolicy :=
  require (assoc.lookup name guardrails.ranges) (AllocationError s!"Guardrail range {name} is missing")

/-- `_network(str(pools[pool_id]["cidr"]))`. -/
def Guardrails.supernet (pool_id : String) : Py IPv4Network := do
  let pool ← require (assoc.lookup pool_id guardrails.supernets) (KeyError pool_id)
  _network (← require pool.cidr (KeyError "cidr"))

/-- `int(pools[pool_id]["prefix_len"])`. -/
def Guardrails.prefix_len (pool_id : String) : Py Int := do
  let pool ← require (assoc.lookup pool_id guardrails.supernets) (KeyError pool_id)
  require pool.prefix_len (KeyError "prefix_len")

/-- `int(pools[pool_id].get("prefix_len", 32))`. -/
def Guardrails.prefix_len_or_host (pool_id : String) : Py Int := do
  let pool ← require (assoc.lookup pool_id guardrails.supernets) (KeyError pool_id)
  return pool.prefix_len.getD 32

end Lookups

end orchestrator.allocator
