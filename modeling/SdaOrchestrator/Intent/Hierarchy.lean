import SdaOrchestrator.Intent.Issues

open python

namespace orchestrator.intent

def MAX_HIERARCHY_DEPTH : Nat := 16

/-- `schema_version in {"1.1", "1.2"}`. -/
def SchemaVersion.has_hierarchy (version : SchemaVersion) : Bool := version ≠ .v1_0

/-! ## The document and its metadata -/

/-- The checks of the root and of `metadata`; the schema leaves no other schema version
and no other environment. -/
def metadata_issues (intent : FabricIntent) : List ValidationIssue :=
  add_if (intent.schema_version ≠ .v1_2 && intent.multicast.isSome) "multicast.unexpected"
      "$.multicast" "Top-level multicast intent requires schema_version 1.2" ++
    _required_string intent.metadata.name "$.metadata.name" ++
    _required_string intent.metadata.organization "$.metadata.organization" ++
    _required_string intent.metadata.region "$.metadata.region"

/-! ## The site hierarchy -/

def HierarchyNode.node_id (node : HierarchyNode) : Option String := required_string node.id

/-- The parent that a node below the global one declares. -/
def HierarchyNode.parent (node : HierarchyNode) : Option String :=
  if node.type = .global then none else required_string node.parent_id

def FabricIntent.hierarchy (intent : FabricIntent) : List HierarchyNode :=
  if intent.schema_version.has_hierarchy then intent.site_hierarchy.getD [] else []

section Hierarchy

variable (hierarchy : List HierarchyNode)

def hierarchy_node_ids : List (String × String) :=
  declared (fun index => s!"$.site_hierarchy[{index}].id") HierarchyNode.node_id hierarchy

def hierarchy_types : List (String × HierarchyType) :=
  dict_of (hierarchy.filterMap fun node => node.node_id.map (·, node.type))

def hierarchy_parents : List (String × String) :=
  dict_of (hierarchy.filterMap fun node => do return (← node.node_id, ← node.parent))

def hierarchy_parent_paths : List (String × String) :=
  dict_of (hierarchy.zipIdx.filterMap fun (node, index) => do
    let node_id ← node.node_id
    let _ ← node.parent
    return (node_id, s!"$.site_hierarchy[{index}].parent_id"))

/-- `hierarchy_parent_paths.get(node_id, "$.site_hierarchy")`. -/
def hierarchy_parent_path (node_id : String) : String :=
  (assoc.lookup node_id (hierarchy_parent_paths hierarchy)).getD "$.site_hierarchy"

def node_issues (earlier : List HierarchyNode) (node : HierarchyNode) : List ValidationIssue :=
  let index := earlier.length
  let path := s!"$.site_hierarchy[{index}]"
  _required_string node.id s!"{path}.id" ++ _required_string node.name s!"{path}.name" ++
    _check_duplicate (hierarchy_node_ids earlier) node.node_id s!"{path}.id" "hierarchy node id" ++
    if node.type = .global then
      add_if node.parent_id.isSome "hierarchy.global_parent" s!"{path}.parent_id"
        "Global node cannot have a parent"
    else _required_string node.parent_id s!"{path}.parent_id"

/-- `allowed_hierarchy_children`. -/
def allowed_hierarchy_children : HierarchyType → List HierarchyType
  | .global => [.area, .building]
  | .area => [.area, .building]
  | .building => [.floor]
  | .floor => []

def parent_issues (node_id parent_id : String) : List ValidationIssue :=
  let path := hierarchy_parent_path hierarchy node_id
  let types := hierarchy_types hierarchy
  if parent_id ∉ (hierarchy_node_ids hierarchy).map Prod.fst then
    _add "reference.hierarchy_parent" path ("Unknown hierarchy parent " ++ reprText parent_id)
  else
    let allowed := ((assoc.lookup parent_id types).map allowed_hierarchy_children).getD []
    add_if ((assoc.lookup node_id types).all (· ∉ allowed)) "hierarchy.parent_type" path
      "Invalid hierarchy parent/child type relationship"

/-- Where the climb from a node to the nodes of known depth ends. -/
inductive Climb where
  | reached (trail : List String) (cursor : String)
  | root (trail : List String) (cursor : String)
  | cycle (cursor : String)
  | unknown

/-- The `while cursor not in depths` loop; `trail` holds the nodes visited so far. -/
def climb (depths : List (String × Nat)) : Nat → List String → String → Climb
  | 0, _, _ => .unknown
  | fuel + 1, trail, cursor =>
    if (assoc.lookup cursor depths).isSome then .reached trail cursor
    else if cursor ∈ trail then .cycle cursor
    else if cursor ∉ (hierarchy_node_ids hierarchy).map Prod.fst then .unknown
    else
      match assoc.lookup cursor (hierarchy_parents hierarchy) with
      | none => .root (trail ++ [cursor]) cursor
      | some parent => climb depths fuel (trail ++ [cursor]) parent

structure DepthState where
  depths : List (String × Nat)
  cycle_reported : Bool
  issues : List ValidationIssue

/-- `for node_id in reversed(trail)`: every node lies one below its parent. -/
def assign_depths : List String → Nat → DepthState → DepthState
  | [], _, state => state
  | node_id :: rest, depth, state =>
    match assoc.lookup node_id state.depths with
    | some known => assign_depths rest known state
    | none =>
      assign_depths rest (depth + 1) { state with
        depths := assoc.set node_id (depth + 1) state.depths
        issues := state.issues ++ add_if (MAX_HIERARCHY_DEPTH < depth + 1) "hierarchy.too_deep"
          (hierarchy_parent_path hierarchy node_id)
          s!"Site hierarchy exceeds maximum depth {MAX_HIERARCHY_DEPTH}" }

def depth_of (state : DepthState) (start : String) : DepthState :=
  match climb hierarchy state.depths (hierarchy.length + 1) [] start with
  | .reached trail cursor =>
    assign_depths hierarchy trail.reverse ((assoc.lookup cursor state.depths).getD 0) state
  | .root trail cursor =>
    assign_depths hierarchy trail.reverse 0
      { state with depths := assoc.set cursor 0 state.depths }
  | .cycle cursor =>
    { state with
      cycle_reported := true
      issues := state.issues ++ add_if (!state.cycle_reported) "hierarchy.cycle"
        (hierarchy_parent_path hierarchy cursor) "Site hierarchy contains a parent cycle" }
  | .unknown => state

def depth_issues : List ValidationIssue :=
  let start : DepthState := {
    depths := ((hierarchy_types hierarchy).filter (·.2 = .global)).map fun entry => (entry.1, 0)
    cycle_reported := false
    issues := [] }
  ((sortedSet ((hierarchy_node_ids hierarchy).map Prod.fst)).foldl (depth_of hierarchy) start).issues

end Hierarchy

/-! ## The fabric sites -/

def FabricSite.site_id (site : FabricSite) : Option String := required_string site.id

def FabricIntent.sites (intent : FabricIntent) : List FabricSite :=
  if intent.schema_version.has_hierarchy then intent.fabric_sites.getD [] else []

def fabric_site_ids (sites : List FabricSite) : List (String × String) :=
  declared (fun index => s!"$.fabric_sites[{index}].id") FabricSite.site_id sites

def fabric_site_nodes (sites : List FabricSite) : List (String × String) :=
  dict_of (sites.filterMap fun site => do
    return (← site.site_id, ← required_string site.hierarchy_node_id))

/-- The hierarchy node of a site, when the hierarchy has it. -/
def FabricSite.known_node (hierarchy : List HierarchyNode) (site : FabricSite) : Option String :=
  (required_string site.hierarchy_node_id).filter
    fun node_id => node_id ∈ (hierarchy_node_ids hierarchy).map Prod.fst

def site_issues (hierarchy : List HierarchyNode) (earlier : List FabricSite) (site : FabricSite) :
    List ValidationIssue :=
  let index := earlier.length
  let path := s!"$.fabric_sites[{index}]"
  let seen := declared (fun index => s!"$.fabric_sites[{index}].hierarchy_node_id")
    (FabricSite.known_node hierarchy) earlier
  _required_string site.id s!"{path}.id" ++ _required_string site.name s!"{path}.name" ++
    _required_string site.hierarchy_node_id s!"{path}.hierarchy_node_id" ++
    _integer site.endpoint_count s!"{path}.endpoint_count" 1 1000000 ++
    _integer site.ap_count s!"{path}.ap_count" 0 100000 ++
    _check_duplicate (fabric_site_ids earlier) site.site_id s!"{path}.id" "fabric site id" ++
    match required_string site.hierarchy_node_id with
    | none => []
    | some node_id =>
      if node_id ∉ (hierarchy_node_ids hierarchy).map Prod.fst then
        _add "reference.hierarchy_node" s!"{path}.hierarchy_node_id"
          ("Unknown hierarchy node " ++ reprText node_id)
      else
        _check_duplicate seen (some node_id) s!"{path}.hierarchy_node_id"
            "fabric-site hierarchy node" ++
          add_if (assoc.lookup node_id (hierarchy_types hierarchy) = some .global)
            "site.global_node" s!"{path}.hierarchy_node_id"
            "A fabric site cannot be attached to the global node"

def hierarchy_issues (intent : FabricIntent) : List ValidationIssue :=
  if !intent.schema_version.has_hierarchy then []
  else
    let hierarchy := intent.hierarchy
    let sites := intent.sites
    _required_string (intent.deployment_model.map DeploymentModel.text) "$.deployment_model" ++
      _list intent.site_hierarchy "$.site_hierarchy" ++ each hierarchy node_issues ++
      add_if ((hierarchy.filter (·.type = .global)).length ≠ 1) "hierarchy.global_count"
        "$.site_hierarchy" "Exactly one global node is required" ++
      (hierarchy_parents hierarchy).flatMap (fun entry => parent_issues hierarchy entry.1 entry.2) ++
      depth_issues hierarchy ++
      _list intent.fabric_sites "$.fabric_sites" ++ each sites (site_issues hierarchy) ++
      add_if (intent.deployment_model = some .single_site && sites.length ≠ 1) "site.count"
        "$.fabric_sites" "single_site requires exactly one fabric site" ++
      add_if (intent.deployment_model = some .distributed_campus && sites.length < 2) "site.count"
        "$.fabric_sites" "distributed_campus requires at least two fabric sites"

end orchestrator.intent
