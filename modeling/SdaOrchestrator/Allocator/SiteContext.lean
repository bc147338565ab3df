import SdaOrchestrator.Allocator.Requirements
import SdaOrchestrator.Allocator.SiteHierarchy

open python orchestrator.store

namespace orchestrator.allocator

open orchestrator.intent

/-- A fabric site of the intent: as it is asked for, with the profile that is selected. -/
structure DerivedSite extends FabricSiteRequest where
  selected : String

structure SiteContext where
  deployment_model : DeploymentModel
  site_hierarchy : List HierarchyNode
  fabric_sites : List DerivedSite
  fabric_zones : List FabricZone

/-! ## Profiles -/

/-- `profile_order` with `profile_limits`, from the entries that are left and those found. -/
def site_profiles : List ProfileEntry → List ProfileEntry → Py (List ProfileEntry)
  | [], found => do
    raise_if found.isEmpty (AllocationError "Guardrail site profiles are missing")
    return found
  | entry :: rest, found => do
    raise_if (entry.id = "") (AllocationError "Guardrail site profile is invalid")
    raise_if (entry.id ∈ found.map (·.id)) (AllocationError ("Duplicate guardrail site profile " ++ entry.id))
    site_profiles rest (found ++ [entry])

/-- The site has no more endpoints and access points than the profile allows. -/
def ProfileEntry.admits (profile : ProfileEntry) (site : FabricSiteRequest) : Bool :=
  site.endpoint_count ≤ profile.max_endpoints && site.ap_count ≤ profile.max_aps

/-! ## Sites -/

/-- `node_by_id.get(node_id)`. -/
def known_node (nodes : List HierarchyNode) (node_id : String) : Option HierarchyNode :=
  nodes.find? (·.id = node_id)

/-- One fabric site, after those of the given ids and nodes. -/
def derive_site (profiles : List ProfileEntry) (nodes : List HierarchyNode) (raw : FabricSiteRequest)
    (state : List String × List String) : Py (DerivedSite × List String × List String) := do
  raise_if (raw.id ∈ state.1) (AllocationError ("Duplicate fabric site id " ++ raw.id))
  let node ← require (known_node nodes raw.hierarchy_node_id)
    (AllocationError s!"Fabric site {raw.id} references an unknown hierarchy node")
  raise_if (node.type = .global) (AllocationError "A fabric site cannot be attached to the global node")
  raise_if (raw.hierarchy_node_id ∈ state.2)
    (AllocationError s!"Hierarchy node {raw.hierarchy_node_id} is already assigned to a fabric site")
  let recommended ← require (profiles.find? (·.admits raw))
    (AllocationError s!"Fabric site {raw.id} exceeds the largest approved site profile")
  let selected := (raw.profile.map SiteProfile.text).getD recommended.id
  let limits ← require (profiles.find? (·.id = selected)) (AllocationError ("Unknown site profile " ++ selected))
  raise_if (!limits.admits raw) (AllocationError s!"Fabric site {raw.id} exceeds selected profile {selected}")
  return ({ raw with selected }, raw.id :: state.1, raw.hierarchy_node_id :: state.2)

/-- How many sites the deployment model asks for. -/
def check_deployment (deployment_model : DeploymentModel) (sites : List DerivedSite) : Py Unit := do
  raise_if (deployment_model = .single_site && sites.length ≠ 1)
    (AllocationError "single_site deployment requires exactly one fabric site")
  raise_if (deployment_model = .distributed_campus && sites.length < 2)
    (AllocationError "distributed_campus requires at least two fabric sites")

/-- The devices and the virtual networks are at known sites. -/
def check_site_references (requirements : Requirements) (site_ids : List String) : Py Unit := do
  requirements.devices.forM fun device =>
    raise_if (device.site ∉ site_ids) (AllocationError s!"Device {device.id} references an unknown fabric site")
  requirements.virtual_networks.forM fun virtual_network =>
    virtual_network.sites.forM fun site =>
      raise_if (site.site ∉ site_ids)
        (AllocationError s!"Virtual network {virtual_network.name} references an unknown fabric site")

/-! ## Zones -/

/-- `parents`. -/
def parents_of (nodes : List HierarchyNode) : List (String × String) := nodes.filterMap parent_entry

/-- `is_descendant(node_id, ancestor_id)`. -/
def is_descendant (parents : List (String × String)) (node_id ancestor_id : String) : Bool :=
  match ascent.climb (assoc.lookup · parents) (· = ancestor_id) (parents.length + 1) [] node_id with
  | .reached _ _ => true
  | _ => false

/-- One fabric zone, after those of the given ids. -/
def derive_zone (nodes : List HierarchyNode) (sites : List DerivedSite) (vn_names : List String)
    (raw : FabricZone) (zone_ids : List String) : Py (FabricZone × List String) := do
  raise_if (raw.id ∈ zone_ids) (AllocationError ("Duplicate fabric zone id " ++ raw.id))
  let site ← require (sites.find? (·.id = raw.fabric_site_id))
    (AllocationError s!"Fabric zone {raw.id} references an unknown site")
  let _ ← require (known_node nodes raw.hierarchy_node_id)
    (AllocationError s!"Fabric zone {raw.id} references an unknown hierarchy node")
  raise_if (!is_descendant (parents_of nodes) raw.hierarchy_node_id site.hierarchy_node_id)
    (AllocationError s!"Fabric zone {raw.id} is outside its fabric site hierarchy")
  match sortedSet (raw.virtual_networks.filter (· ∉ vn_names)) with
  | unknown :: _ => .error (AllocationError s!"Fabric zone {raw.id} references unknown virtual network {unknown}")
  | [] => return ({ raw with virtual_networks := sortedTexts raw.virtual_networks }, raw.id :: zone_ids)

/-! ## The whole context -/

/-- The requirements have one of the keys of the site context. -/
def Requirements.has_context (requirements : Requirements) : Bool :=
  requirements.deployment_model.isSome || requirements.site_hierarchy.isSome || requirements.fabric_sites.isSome ||
    requirements.fabric_zones.isSome

/-- `_derive_site_context(requirements, policy)`, which schema version 1.0 has no use for. -/
def _derive_site_context (policy : Policy) (requirements : Requirements) : Py (Option SiteContext) := do
  if requirements.schema_version = .v1_0 && !requirements.has_context then return none
  raise_if (requirements.schema_version = .v1_0)
    (AllocationError "CVD site context requires requirements schema_version 1.1 or 1.2")
  let asked := (requirements.deployment_model.map DeploymentModel.text).getD ""
  let deployment_model ← require (requirements.deployment_model.filter (·.text ∈ policy.deployment_models))
    (AllocationError s!"Deployment model {asked} is not approved by guardrails")
  let nodes ← site_hierarchy (policy.max_depth.getD MAX_HIERARCHY_DEPTH) (requirements.site_hierarchy.getD [])
  let profiles ← site_profiles policy.site_profiles []
  let (sites, _) ← thread (derive_site profiles nodes) (sortedBy (·.id) (requirements.fabric_sites.getD [])) ([], [])
  check_deployment deployment_model sites
  check_site_references requirements (sites.map (·.id))
  let (zones, _) ← thread (derive_zone nodes sites (requirements.virtual_networks.map (·.name)))
    (sortedBy (·.id) (requirements.fabric_zones.getD [])) []
  return some { deployment_model, site_hierarchy := nodes, fabric_sites := sites, fabric_zones := zones }

end orchestrator.allocator
