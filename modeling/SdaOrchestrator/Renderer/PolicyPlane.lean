import Mathlib.Data.Prod.Lex
import SdaOrchestrator.Renderer.Underlay

open python ipaddress orchestrator.store

namespace orchestrator.renderer

open orchestrator.intent

/-! ## Integer ranges -/

/-- `str(start) if start == end else "{}-{}".format(start, end)`. -/
def range_text (start last : Int) : String :=
  if start = last then toString start else toString start ++ "-" ++ toString last

/-- The ranges of ascending numbers, from an open range on. -/
def compress_ranges (start last : Int) : List Int → List String
  | [] => [range_text start last]
  | next :: rest =>
    if next = last + 1 then compress_ranges start next rest
    else range_text start last :: compress_ranges next next rest

/-- `_compress_integer_ranges(values)`. -/
def _compress_integer_ranges (values : List Int) : String :=
  match sortedBy id values.dedup with
  | [] => ""
  | first :: rest => join "," (compress_ranges first first rest)

section PolicyPlane

variable (platform : Platform) (intent : FabricIntent)

/-! ## Enforcement -/

def default_deny_block (vlan_ids : List Int) : Block :=
  let default_acl := "SDA-SGACL-DEFAULT-DENY"
  plain_block platform "policy_default_deny" [
    "no ip access-list role-based " ++ default_acl, "ip access-list role-based " ++ default_acl,
    " 10 deny ip", "cts role-based permissions default " ++ default_acl,
    "cts role-based enforcement vlan-list " ++ _compress_integer_ranges vlan_ids]

/-- The contracts, in the order of their names. -/
def contracts_of (policy : PolicyPlane) : Py (List Contract) := do
  let named ← policy.contracts.mapM fun contract => do
    return (← require contract.name (KeyError "name"), contract)
  return (sortedBy Prod.fst named).map Prod.snd

def ace_line (ace : String) (index : Nat) : Py String := do
  return " " ++ toString ((index + 1) * 10) ++ " " ++ (← safe_spaced ace "SGACL ACE")

def contract_block (contract : Contract) : Py Block := do
  let sgacl ← require contract.sgacl_name (KeyError "sgacl_name")
  let sgacl_name ← safe sgacl "SGACL name"
  let aces ← require contract.aces (KeyError "aces")
  let lines ← aces.zipIdx.mapM fun (ace, index) => ace_line ace index
  let source_tag ← require contract.source_tag (KeyError "source_tag")
  let destination_tag ← require contract.destination_tag (KeyError "destination_tag")
  return plain_block platform ("policy_contract_" ++ sgacl_name) (
    ["no ip access-list role-based " ++ sgacl_name, "ip access-list role-based " ++ sgacl_name] ++
    lines ++ [s!"cts role-based permissions from {source_tag} to {destination_tag} {sgacl_name}"])

def enforcement_blocks (policy : PolicyPlane) (device : Device) : Py (List Block) := do
  if device.id ∈ policy.enforcement_device_ids.getD [] then
    let contracts ←
      if policy.mode = .sxp then do (← contracts_of policy).mapM (contract_block platform)
      else pure []
    return default_deny_block platform (policy.enforcement_vlan_ids.getD []) :: contracts
  else return []

/-! ## SXP -/

/-- The SXP connections of a device, in the order of their listeners. -/
def connections_of (policy : PolicyPlane) (device_id : String) : List SxpConnection :=
  sortedBy (fun connection => toLex (connection.listener_ip.str, connection.id))
    (((policy.sxp.map (·.connections)).getD []).filter (·.speaker_id = device_id))

def sxp_blocks (policy : PolicyPlane) (device : Device) : Py (List Block) := do
  let connections := connections_of policy device.id
  if connections.isEmpty then return []
  else
    let password_refs := sortedSet (connections.map (·.password_ref))
    let source_ips ← connections.mapM fun connection =>
      require (connection.source_ip.map IPv4Address.str) (KeyError "source_ip")
    let transport_vrfs ← connections.mapM fun connection =>
      require connection.transport_vrf (KeyError "transport_vrf")
    match password_refs, sortedSet source_ips, sortedSet transport_vrfs with
    | [password_ref], [source_ip], [transport_vrf] =>
      let vrf_suffix ←
        if transport_vrf = "global" then pure ""
        else do pure (" vrf " ++ (← safe transport_vrf "SXP transport VRF"))
      return [_block platform "sxp_speaker" (
        ["cts sxp enable", "cts sxp default source-ip " ++ source_ip,
          s!"cts sxp default password <secret:{password_ref}>"] ++
        connections.map (fun connection =>
          "cts sxp connection peer " ++ connection.listener_ip.str ++
            " password default mode local speaker" ++ vrf_suffix) ++
        ["cts sxp log binding-changes"]) [password_ref]]
    | [_], [_], _ =>
      .error (RenderError "One SXP speaker cannot render multiple transport VRFs")
    | [_], _, _ =>
      .error (RenderError "One SXP speaker cannot render multiple source addresses")
    | _, _, _ => .error (RenderError "One SXP speaker cannot render multiple default passwords")

def _policy_plane_blocks (device : Device) : Py (List Block) := do
  match intent.policy_plane.filter (·.mode ≠ .none) with
  | none => return []
  | some policy =>
    let enforcement ← enforcement_blocks platform policy device
    let sxp ← sxp_blocks platform policy device
    return enforcement ++ sxp

/-! ## ISE -/

/-- `"{kind}-{sha256_json(identity)[:16]}"`. -/
def operation_id (kind : String) (identity : List (String × Value)) : Value :=
  .str (kind ++ "-" ++ take 16 (platform.sha256_json (.dict identity)))

def group_operation (group : SecurityGroup) : Value :=
  .dict [
    ("operation_id",
      operation_id platform "ise-sgt" [("resource", .str "sgt"), ("name", .str group.name)]),
    ("resource", .str "sgt"),
    ("strategy", .str "upsert_owned_by_name"),
    ("collision_policy", .str "fail_if_unmanaged"),
    ("lookup", .dict [("name", .str group.name)]),
    ("desired", .dict [
      ("name", .str group.name),
      ("value", .int group.tag),
      ("description", .str "managed-by:meraki-dynamic-sda"),
      ("propogateToApic", .bool false)])]

/-- The access list of a contract and its cell in the egress matrix. -/
def contract_operations (contract : Contract) : Py (List Value) := do
  let name ← require contract.name (KeyError "name")
  let sgacl_name ← require contract.sgacl_name (KeyError "sgacl_name")
  let aces ← require contract.aces (KeyError "aces")
  let description := Value.str ("managed-by:meraki-dynamic-sda contract:" ++ name)
  return [
    .dict [
      ("operation_id",
        operation_id platform "ise-sgacl" [("resource", .str "sgacl"), ("name", .str sgacl_name)]),
      ("resource", .str "sgacl"),
      ("strategy", .str "upsert_owned_by_name"),
      ("collision_policy", .str "fail_if_unmanaged"),
      ("lookup", .dict [("name", .str sgacl_name)]),
      ("desired", .dict [
        ("name", .str sgacl_name),
        ("description", description),
        ("ipVersion", .str "IPV4"),
        ("aclcontent", .str (join "\n" aces))])],
    .dict [
      ("operation_id",
        operation_id platform "ise-cell" [
          ("resource", .str "egressmatrixcell"),
          ("source", .str contract.source),
          ("destination", .str contract.destination)]),
      ("resource", .str "egressmatrixcell"),
      ("strategy", .str "upsert_owned_by_sgt_pair"),
      ("collision_policy", .str "fail_if_unmanaged"),
      ("lookup", .dict [
        ("source_sgt_name", .str contract.source),
        ("destination_sgt_name", .str contract.destination)]),
      ("desired", .dict [
        ("description", description),
        ("matrixCellStatus", .str "ENABLED"),
        ("defaultRule", .str "NONE"),
        ("sgacl_name_refs", .list [.str sgacl_name])])]]

/-- `{str(item["id"]): item for item in ise.get("nodes", [])}`. -/
def nodes_by_id (ise : Ise) : List (String × IseNode) :=
  dict_of (ise.nodes.map fun node => (node.id, node))

/-- `_ise_policy_manifest(intent)`; no manifest is the empty one. -/
def _ise_policy_manifest : Py (Option Value) := do
  match intent.policy_plane.filter fun policy => policy.mode = .ise || policy.mode = .hybrid with
  | none => return none
  | some policy =>
    -- without an ISE section the write node is missing
    let ise ← require policy.ise (KeyError "write_node_id")
    let write_node_id ← require ise.write_node_id (KeyError "write_node_id")
    let write_node ← require (assoc.lookup write_node_id (nodes_by_id ise)) (KeyError write_node_id)
    let groups := (sortedBy (·.name) policy.security_groups).map (group_operation platform)
    let contracts ← collect (← contracts_of policy) (contract_operations platform)
    let api_base_url ← require write_node.api_base_url (KeyError "api_base_url")
    return some (.dict ([
      ("type", .str "cisco_ise_ers"),
      ("executor_contract_version", .str "1.0"),
      ("contains_secret_values", .bool false),
      ("write_node_id", .str write_node_id),
      ("write_node_address", address_text write_node.address),
      ("api_base_url", .str api_base_url),
      ("credential_ref", .str ise.credential_ref),
      ("tls_verify", .bool true),
      ("csrf_mode", .str "auto"),
      ("ownership", .dict [
        ("marker", .str "managed-by:meraki-dynamic-sda"),
        ("unmanaged_collision", .str "fail"),
        ("delete_policy", .str "new_owned_resources_only_during_verified_rollback")]),
      ("preconditions", texts [
        "ers_read_write_enabled", "write_node_is_primary_pan", "trusted_tls_chain",
        "default_egress_matrix_is_deny"]),
      ("operations", .list (groups ++ contracts)),
      ("rollback", .str "restore_prechange_snapshots_and_delete_only_new_owned_resources")] ++
      optional "ca_bundle_ref" (ise.ca_bundle_ref.filter (· ≠ "")) .str))

end PolicyPlane

end orchestrator.renderer
