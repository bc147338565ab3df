import SdaOrchestrator.Allocator.PolicyPlane

open python ipaddress orchestrator.store

namespace orchestrator.allocator

open orchestrator.intent

/-- The fusion side of a peer. -/
structure FusionSide where
  fusion_node_id : String
  border_interface : String
  fusion_interface : String

/-- An entry of `raw_peers`. -/
structure RawPeer where
  device_id : String
  vrf : String
  fusion : Option FusionSide
  interface : Option String
  remote_as : Option Int

/-- `str(item.get("fusion_node_id", ""))`. -/
def RawPeer.fusion_node_id (peer : RawPeer) : String := (peer.fusion.map (·.fusion_node_id)).getD ""

/-- The identifiers of the border devices. -/
def border_ids (devices : List Device) : List String := (devices.filter (Role.border ∈ ·.roles)).map (·.id)

section Derive

variable (policy : Policy) (domain : String)

/-! ## The peers of schema version 1.2 -/

/-- The peers of one adjacency, each after the name of its virtual network. -/
def expand_adjacency (devices : List Device) (fusion_nodes : List FusionNode) (vns : List VirtualNetwork)
    (adjacency : AdjacencyRequest) (adjacency_pairs : List (String × String)) :
    Py (List (String × RawPeer) × List (String × String)) := do
  raise_if (adjacency.border_device_id ∉ border_ids devices)
    (AllocationError "Fusion adjacency must target an approved border")
  let fusion ← require (fusion_nodes.find? (·.id = adjacency.fusion_node_id))
    (AllocationError s!"Fusion adjacency references unknown fusion node {adjacency.fusion_node_id}")
  let pair := (adjacency.border_device_id, adjacency.fusion_node_id)
  raise_if (pair ∈ adjacency_pairs)
    (AllocationError s!"Duplicate border/fusion adjacency {adjacency.border_device_id} to {adjacency.fusion_node_id}")
  let selected_vns := sortedTexts (adjacency.virtual_networks.getD (vns.map (·.name)).dedup)
  refuse (first_unknown selected_vns (vns.map (·.name))) fun name =>
    s!"Fusion adjacency references unknown virtual network {name}"
  let peers ← selected_vns.mapM fun vn_name => do
    let vn ← require (vn_by_name vns vn_name) (KeyError vn_name)
    return (vn_name, ({
      device_id := adjacency.border_device_id
      vrf := vn.vrf
      fusion := some {
        fusion_node_id := adjacency.fusion_node_id
        border_interface := adjacency.border_interface
        fusion_interface := adjacency.fusion_interface }
      interface := none
      remote_as := some fusion.bgp_asn } : RawPeer))
  return (peers, pair :: adjacency_pairs)

/-- The pair of a border and a fusion node that a full mesh has and the adjacencies lack. -/
def missing_pair (devices : List Device) (fusion_nodes : List FusionNode) (adjacency_pairs : List (String × String)) :
    Option (String × String) :=
  let expected_pairs := (border_ids devices).flatMap fun border_id =>
    (fusion_nodes.map (·.id)).map fun fusion_id => (border_id, fusion_id)
  (sortedBy toLex (expected_pairs.filter (· ∉ adjacency_pairs))).head?

/-- `len(fusion_vns_by_border.get((border_id, vn_name), set()))`. -/
def fusion_count (expanded : List (String × RawPeer)) (border_id vn_name : String) : Nat :=
  ((expanded.filter fun (name, peer) => peer.device_id = border_id && name = vn_name).map
    (·.2.fusion_node_id)).dedup.length

/-- A production fabric has the full mesh, and enough fusion nodes for each border and virtual network. -/
def check_full_mesh (environment : Environment) (devices : List Device) (fusion_nodes : List FusionNode)
    (vns : List VirtualNetwork) (adjacency_pairs : List (String × String)) (expanded : List (String × RawPeer)) :
    Py Unit := do
  if environment = .production && policy.fusion.require_full_mesh_production.getD true then
    match missing_pair devices fusion_nodes adjacency_pairs with
    | some (border_id, fusion_id) =>
      .error (AllocationError s!"Production fusion full mesh is missing adjacency {border_id} to {fusion_id}")
    | none =>
      let minimum_fusions := policy.fusion.min_fusion_nodes_per_border_vrf_production.getD 2
      raise_if (minimum_fusions < 1 || (fusion_nodes.length : Int) < minimum_fusions)
        (AllocationError s!"Fusion per-VRF redundancy guardrail must be between 1 and {fusion_nodes.length}")
      (sortedTexts (border_ids devices)).forM fun border_id =>
        (sortedSet (vns.map (·.name))).forM fun vn_name => do
          let count := fusion_count expanded border_id vn_name
          raise_if (count < minimum_fusions) (AllocationError
            (s!"Production fusion redundancy requires {minimum_fusions} nodes for border {border_id} " ++
              s!"virtual network {vn_name}; found {count}"))

/-- The peers that the adjacencies stand for. -/
def adjacency_peers (environment : Environment) (devices : List Device) (fusion_nodes : List FusionNode)
    (vns : List VirtualNetwork) (raw_adjacencies : List AdjacencyRequest) : Py (List RawPeer) := do
  raise_if raw_adjacencies.isEmpty (AllocationError "Schema 1.2 BGP handoff requires fusion adjacencies")
  let (expanded, adjacency_pairs) ← thread (expand_adjacency devices fusion_nodes vns)
    (sortedBy (fun item => toLex (item.border_device_id, item.fusion_node_id)) raw_adjacencies) []
  check_full_mesh policy environment devices fusion_nodes vns adjacency_pairs expanded.flatten
  return expanded.flatten.map Prod.snd

/-! ## The peers of the earlier schema versions -/

/-- The peers that are asked for, else every border in every VRF. -/
def legacy_peers (devices : List Device) (vns : List VirtualNetwork) (raw_handoff : HandoffRequest) :
    Py (List RawPeer) := do
  let remote_as := raw_handoff.remote_as.getD 0
  raise_if (remote_as < 1 || 4294967295 < remote_as)
    (AllocationError "A valid border_handoff.remote_as is required")
  match raw_handoff.peers with
  | some (peer :: peers) =>
    -- the requests carry no AS of their own
    return (peer :: peers).map fun raw => {
      device_id := raw.device_id, vrf := raw.vrf, fusion := none, interface := raw.interface, remote_as := none }
  | _ =>
    return (sortedTexts (border_ids devices)).flatMap fun device_id =>
      (sortedSet (vns.map (·.vrf))).map fun vrf => {
        device_id, vrf, fusion := none, interface := none, remote_as := some remote_as }

/-! ## The handoff -/

/-- `raw_peers`. -/
def raw_peers (version : SchemaVersion) (environment : Environment) (devices : List Device)
    (fusion_nodes : List FusionNode) (vns : List VirtualNetwork) (handoff : HandoffRequest) : Py (List RawPeer) :=
  match version with
  | .v1_2 => adjacency_peers policy environment devices fusion_nodes vns (handoff.adjacencies.getD [])
  | _ => legacy_peers devices vns handoff

/-- One peer of the handoff. -/
def derive_peer (handoff_vlan : RangePolicy) (devices : List Device) (vns : List VirtualNetwork) (peer : RawPeer)
    (taken : Taken) : Py (HandoffPeer × Taken) := do
  raise_if (peer.device_id ∉ border_ids devices)
    (AllocationError "BGP handoff peer must target an approved border")
  raise_if (peer.vrf ∉ vns.map (·.vrf)) (AllocationError s!"BGP handoff peer references unknown VRF {peer.vrf}")
  let bounds ← handoff_vlan.bounds
  let (vlan, taken) ← reserve_scalar domain .vlan_id bounds.1 bounds.2 taken
  let prefix_len ← policy.prefix_len "border_handoff"
  let (pfx, taken) ← reserve_prefix policy.supernets domain "border_handoff" prefix_len taken
  return ({
    device_id := peer.device_id
    fusion_node_id := peer.fusion.map (·.fusion_node_id)
    vrf := peer.vrf
    vlan_id := vlan
    interface := peer.interface.getD s!"Vlan{vlan}"
    pfx := pfx.str
    local_ip := ← host_at pfx 0
    neighbor_ip := ← host_at pfx 1
    remote_as := ← require peer.remote_as
      (TypeError "int() argument must be a string, a bytes-like object or a real number, not 'NoneType'")
    border_interface := peer.fusion.map (·.border_interface)
    fusion_interface := peer.fusion.map (·.fusion_interface) }, taken)

/-- The order of the peers. -/
def peer_order (peer : RawPeer) : String ×ₗ String ×ₗ String :=
  toLex (peer.device_id, toLex (peer.fusion_node_id, peer.vrf))

/-- `raw_handoff.get("enabled") and raw_handoff.get("mode") == "bgp"` of a request that may be absent. -/
def bgp_enabled (raw_handoff : Option HandoffRequest) : Bool :=
  raw_handoff.any fun handoff => handoff.enabled && handoff.mode = .bgp

/-- The border handoff. -/
def derive_handoff (version : SchemaVersion) (environment : Environment) (devices : List Device)
    (fusion_nodes : List FusionNode) (vns : List VirtualNetwork) (local_as : Int) (raw_handoff : Option HandoffRequest)
    (taken : Taken) : Py (BorderHandoff × Taken) := do
  match raw_handoff.filter fun handoff => handoff.enabled && handoff.mode = .bgp with
  | none => return ({ enabled := false, mode := some .isolated, local_as := none, peers := none }, taken)
  | some handoff =>
    let _ ← policy.require_pool "border_handoff"
    let handoff_vlan ← policy.require_range "handoff_vlan_id"
    let raw_peers ← raw_peers policy version environment devices fusion_nodes vns handoff
    let (peers, taken) ← thread (derive_peer policy domain handoff_vlan devices vns)
      (sortedBy peer_order raw_peers) taken
    return ({ enabled := true, mode := some .bgp, local_as := some local_as, peers := some peers }, taken)

end Derive

/-! ## The sources of the SXP connections -/

/-- The source of one connection: the loopback of its speaker, or its lowest address in the transport VRF. -/
def derive_source (devices : List Device) (peers : List HandoffPeer) (connection : SxpConnection) :
    Py SxpConnection := do
  let transport_vrf := connection.transport_vrf.getD ""
  if transport_vrf = "global" then
    let speaker ← require (device_by_id devices connection.speaker_id) (KeyError connection.speaker_id)
    return { connection with source_ip := some speaker.loopback0_ip }
  else
    let source_candidates := sortedBy id ((peers.filter fun peer =>
      peer.device_id = connection.speaker_id && peer.vrf = transport_vrf).map (·.local_ip))
    let source ← require source_candidates.head? (AllocationError
      s!"SXP speaker {connection.speaker_id} has no routed source in transport VRF {transport_vrf}")
    return { connection with source_ip := some source }

/-- The policy plane with the sources of its SXP connections. -/
def derive_sources (devices : List Device) (handoff : BorderHandoff) (policy_plane : Option PolicyPlane) :
    Py (Option PolicyPlane) :=
  policy_plane.mapM fun plane => do
    let sxp ← plane.sxp.mapM fun sxp => do
      return { sxp with connections := ← sxp.connections.mapM (derive_source devices (handoff.peers.getD [])) }
    return { plane with sxp }

end orchestrator.allocator
