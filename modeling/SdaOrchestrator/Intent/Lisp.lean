import SdaOrchestrator.Intent.Policy

open python

namespace orchestrator.intent

/-- `borders_by_site`: the border subscribers of a site. -/
def site_borders (devices : List Device) (subscribers : List String) (site_id : String) :
    List String :=
  (border_ids devices).filter fun device_id =>
    device_id ∈ subscribers && (assoc.lookup device_id (device_sites devices)).getD "" = site_id

/-- The sites with at least two border subscribers, which share a multihoming group. -/
def expected_groups (devices : List Device) (subscribers : List String) : List String :=
  let sites := (border_ids devices).map fun device_id =>
    (assoc.lookup device_id (device_sites devices)).getD ""
  (sortedSet sites).filter fun site_id =>
    site_id ≠ "" && 2 ≤ (site_borders devices subscribers site_id).length

def MultihomingGroup.site (group : MultihomingGroup) : Option String := required_string group.site_id

/-- `actual_groups`: the members of the group of each site. -/
def actual_groups (groups : List MultihomingGroup) : List (String × List String) :=
  dict_of (groups.filterMap fun group => group.site.map (·, group.border_device_ids))

def member_issues (devices : List Device) (path : String) (site_id : Option String)
    (earlier : List String) (member : String) : List ValidationIssue :=
  let index := earlier.length
  let member_path := s!"{path}.border_device_ids[{index}]"
  add_if (member ∈ earlier) "unique.duplicate" member_path
      "Duplicate border in LISP multihoming group" ++
    if has_role devices member .border then
      add_if (site_id.isSome && assoc.lookup member (device_sites devices) ≠ site_id)
        "lisp.multihoming.member.wrong_site" member_path
        "LISP multihoming members must belong to the group site"
    else
      _add "lisp.multihoming.member.not_border" member_path
        "LISP multihoming members must be border nodes"

def multihoming_group_issues (devices : List Device) (earlier : List MultihomingGroup)
    (group : MultihomingGroup) : List ValidationIssue :=
  let index := earlier.length
  let path := s!"$.lisp.multihoming_groups[{index}]"
  let group_sites := declared (fun index => s!"$.lisp.multihoming_groups[{index}].site_id")
    MultihomingGroup.site earlier
  let group_ids := declared (fun index => s!"$.lisp.multihoming_groups[{index}].multihoming_id")
    (fun group : MultihomingGroup => integer group.multihoming_id 1 65535) earlier
  _required_string group.site_id s!"{path}.site_id" ++
    _integer group.multihoming_id s!"{path}.multihoming_id" 1 65535 ++
    _check_duplicate group_sites group.site s!"{path}.site_id" "LISP multihoming site" ++
    _check_duplicate group_ids (integer group.multihoming_id 1 65535) s!"{path}.multihoming_id"
      "LISP multihoming id" ++
    each group.border_device_ids (member_issues devices path group.site)

/-- The groups are those of the sites with at least two border subscribers. -/
def membership_issues (devices : List Device) (subscribers : List String)
    (groups : List MultihomingGroup) : List ValidationIssue :=
  let expected := expected_groups devices subscribers
  let actual := actual_groups groups
  let path := "$.lisp.multihoming_groups"
  expected.flatMap (fun site_id =>
      let described := "LISP multihoming group for site " ++ reprText site_id
      match assoc.lookup site_id actual with
      | none => _add "lisp.multihoming.group.missing" path ("Missing " ++ described)
      | some members =>
        add_if (!same_set members (site_borders devices subscribers site_id))
          "lisp.multihoming.group.membership" path
          (described ++ " must contain every border subscriber in that site")) ++
    (sortedSet ((actual.map Prod.fst).filter (· ∉ expected))).flatMap fun site_id =>
      _add "lisp.multihoming.group.unexpected" path
        ("LISP multihoming group for site " ++ reprText site_id ++
          " does not have two border subscribers")

def pubsub_issues (devices : List Device) (lisp : Lisp) : List ValidationIssue :=
  let publishers := lisp.publishers.getD []
  let subscribers := lisp.subscribers.getD []
  let groups := lisp.multihoming_groups.getD []
  _list lisp.publishers "$.lisp.publishers" ++ _list lisp.subscribers "$.lisp.subscribers" ++
    _integer lisp.domain_id "$.lisp.domain_id" 1 4294967295 ++
    add_if (!same_set publishers lisp.map_servers) "lisp.pubsub.publishers" "$.lisp.publishers"
      "Pub/Sub publishers must match the control-plane map-server set" ++
    publishers.zipIdx.flatMap (fun (publisher, index) =>
      add_if (!has_role devices publisher .control_plane) "lisp.publisher.not_control_plane"
        s!"$.lisp.publishers[{index}]" "LISP publishers must be control-plane nodes") ++
    subscribers.zipIdx.flatMap (fun (subscriber, index) =>
      add_if (!has_role devices subscriber .border) "lisp.subscriber.not_border"
        s!"$.lisp.subscribers[{index}]" "LISP subscribers must be border nodes") ++
    add_if (!same_set subscribers (border_ids devices)) "lisp.pubsub.subscribers"
      "$.lisp.subscribers" "Pub/Sub subscribers must match the complete border-node set" ++
    _list lisp.multihoming_groups "$.lisp.multihoming_groups" ++
    each groups (multihoming_group_issues devices) ++
    membership_issues devices subscribers groups

/-- The fabric is of schema version 1.2 and in Pub/Sub mode. -/
def FabricIntent.pubsub (intent : FabricIntent) : Bool :=
  intent.schema_version = .v1_2 && intent.fabric.control_plane_mode = some .lisp_pubsub

def lisp_issues (intent : FabricIntent) : List ValidationIssue :=
  let lisp := intent.lisp
  _required_string lisp.site_name "$.lisp.site_name" ++
    add_if (!is_secret_ref lisp.auth_key_ref) "security.auth_key_ref" "$.lisp.auth_key_ref"
      "auth_key_ref must use the secret:// reference scheme" ++
    add_if lisp.map_servers.isEmpty "lisp.map_servers.empty" "$.lisp.map_servers"
      "At least one map server is required" ++
    lisp.map_servers.zipIdx.flatMap (fun (map_server, index) =>
      add_if (map_server ∉ (device_ids intent.devices).map Prod.fst) "reference.map_server"
        s!"$.lisp.map_servers[{index}]" ("Unknown map-server device_id " ++ reprText map_server)) ++
    add_if (intent.schema_version = .v1_2 &&
        lisp.control_plane_mode ≠ intent.fabric.control_plane_mode)
      "lisp.control_plane_mode.mismatch" "$.lisp.control_plane_mode"
      "LISP and fabric control-plane modes must match" ++
    (if intent.pubsub then pubsub_issues intent.devices lisp else []) ++
    add_if (!intent.pubsub && (lisp.domain_id.isSome || lisp.multihoming_groups.isSome))
      "lisp.identity.unexpected" "$.lisp"
      "LISP domain and multihoming identity fields require schema 1.2 lisp_pubsub mode"

end orchestrator.intent
