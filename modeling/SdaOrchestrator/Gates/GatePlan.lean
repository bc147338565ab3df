import SdaOrchestrator.Renderer.Configuration

open python ipaddress orchestrator.store

namespace orchestrator.gates

open orchestrator.intent orchestrator.reconciliation orchestrator.renderer

/-- A gate that blocks. -/
def gate (gate_id phase_id device_id command evaluator : String)
    (expected : List (String × Value)) : Gate where
  gate_id := gate_id
  phase_id := phase_id
  device_id := device_id
  command := command
  evaluator := evaluator
  expected := expected
  blocking := true
  owned_resource_key := none

def version_gate (node_id software_version : String) : Gate :=
  gate ("precheck.version." ++ node_id) "precheck" node_id "show version" "ios_xe_version"
    [("version", .str software_version)]

/-- A gate on the configuration lines that a command shows. -/
def lines_gate (gate_id phase_id device_id command : String) (lines : List String) : Gate :=
  gate gate_id phase_id device_id command "exact_config_lines" [("lines", texts lines)]

/-- `show ip route vrf ...` has to show the prefix. -/
def route_gate (gate_id phase_id device_id command pfx : String) : Gate :=
  gate gate_id phase_id device_id command "route_prefix" [("prefix", .str pfx)]

/-- `str(prefix).replace(".", "_").replace("/", "_")`. -/
def route_suffix (pfx : String) : String := replace '/' '_' (replace '.' '_' pfx)

section GatePlan

variable (intent : FabricIntent)

/-! ## Removals -/

/-- `active_device_ids`. -/
def active_device_ids : List String :=
  intent.devices.map (·.id) ++ (intent.fusion_nodes.getD []).map (·.id)

def reconciled_gates (entry : String × ReconciledDevice) : Py (List Gate) := do
  let (device_id, device) := entry
  let version ←
    if device_id ∉ active_device_ids intent then do
      let software_version ← (Value.dict device.device).item "software_version"
      pure [version_gate device_id software_version.toStr]
    else pure []
  raise_if (device.gates.any (·.device_id ≠ device_id))
    (ValueError "Reconciliation gate device identity mismatch")
  return version ++ device.gates

def reconciliation_gates : Option Artifact → Py (List Gate)
  | some artifact => collect (sortedBy Prod.fst artifact.reconciliation.devices) (reconciled_gates intent)
  | none => return []

/-! ## The underlay of a device -/

/-- The endpoints of all links. -/
def link_endpoints : List LinkEndpoint := intent.links.flatMap (·.endpoints)

/-- `incident_links` has an entry for the device of every endpoint. -/
def check_endpoints : Py Unit :=
  match (link_endpoints intent).find? (·.device_id ∉ intent.devices.map (·.id)) with
  | some endpoint => .error (KeyError endpoint.device_id)
  | none => .ok ()

/-- `incident_links[device_id]`. -/
def incident_links (device_id : String) : Nat :=
  (link_endpoints intent).countP (·.device_id = device_id)

def license_gate (device_id : String) : Gate :=
  gate ("precheck.license." ++ device_id) "precheck" device_id "show version" "ios_xe_license_level" [
    ("network_package", .str "network-advantage"),
    ("subscription_packages", texts ["catalyst-advantage", "dna-advantage"])]

/-- `multicast.rp_device_ids`, each once. -/
def rp_device_ids (multicast : Multicast) : List String := (multicast.rp_device_ids.getD []).dedup

/-- The loopbacks of the other rendezvous points. -/
def msdp_peers (multicast : Multicast) (device_id : String) : List String :=
  sortedTexts ((rp_device_ids multicast).filterMap fun peer_id =>
    if peer_id ≠ device_id then
      (assoc.lookup peer_id (devices_by_id intent.devices)).map (·.loopback0_ip.str)
    else none)

def msdp_gates (device_id : String) : List Gate :=
  match intent.multicast with
  | some multicast =>
    if multicast.enabled && multicast.rp_mode = .anycast && device_id ∈ rp_device_ids multicast then
      [gate ("underlay.msdp." ++ device_id) "underlay" device_id "show ip msdp peer" "msdp_peers"
        [("peers", texts (msdp_peers intent multicast device_id))]]
    else []
  | none => []

def mtu_gates (device_id : String) : List Gate :=
  (sortedBy (·.id) intent.links).filterMap fun link =>
    (link.endpoints.find? (·.device_id = device_id)).map fun local_ep =>
      gate ("underlay.mtu." ++ device_id ++ "." ++ link.id) "underlay" device_id
        ("show interfaces " ++ local_ep.interface) "interface_mtu"
        [("expected_mtu", .int intent.fabric.mtu)]

def underlay_gates (device : Device) : List Gate :=
  let links := incident_links intent device.id
  [version_gate device.id device.software_version, license_gate device.id] ++
    msdp_gates intent device.id ++
    [gate ("underlay.isis." ++ device.id) "underlay" device.id "show isis neighbors" "isis_neighbors"
      [("minimum_up", .int links)]] ++
    mtu_gates intent device.id ++
    if links > 0 then
      [{ gate ("underlay.bfd." ++ device.id) "underlay" device.id "show bfd neighbors" "bfd_neighbors"
          [("minimum_up", .int links)] with blocking := false }]
    else []

/-! ## LISP and the border handoff -/

def edge_gates (device : Device) : List Gate :=
  let map_server_count := intent.lisp.map_servers.length
  if Role.fabric_edge ∈ device.roles then [
    gate ("lisp.sessions." ++ device.id) "lisp_edges" device.id "show lisp session" "lisp_sessions"
      [("minimum_established", .int map_server_count)],
    gate ("overlay.nve." ++ device.id) "overlay" device.id "show nve peers" "nve_peers"
      [("minimum_up", .int (max 1 map_server_count : Nat))]]
  else []

/-- `handoff.get("enabled")`. -/
def handoff_enabled : Bool := intent.border_handoff.any (·.enabled)

def bgp_gate (gate_id device_id : String) (neighbors : List String) : Gate :=
  gate gate_id "border_handoff" device_id "show bgp ipv4 unicast vrf all summary" "bgp_neighbors"
    [("neighbors", texts (sortedTexts neighbors))]

def border_gates (device : Device) : List Gate :=
  if Role.border ∈ device.roles && handoff_enabled intent then
    [bgp_gate ("border.bgp." ++ device.id) device.id
      (((handoff_peers_of intent).filter (·.device_id = device.id)).map (·.neighbor_ip.str))]
  else []

/-- `pubsub_publishers`: the loopbacks of the publishers. -/
def pubsub_publishers : Py (List String) :=
  (sortedTexts (intent.lisp.publishers.getD [])).mapM fun device_id => do
    let device ← require (assoc.lookup device_id (devices_by_id intent.devices)) (KeyError device_id)
    return device.loopback0_ip.str

/-- `pubsub_multihoming_by_device`. -/
def pubsub_multihoming_by_device : List (String × Int) :=
  dict_of ((intent.lisp.multihoming_groups.getD []).flatMap fun group =>
    group.border_device_ids.map fun device_id => (device_id, group.multihoming_id))

def publisher_gate (device_id : String) (publishers : List String) (vn : VirtualNetwork) : Gate :=
  let instance_id := vn.l3_instance_id
  gate s!"lisp.pubsub.{device_id}.{instance_id}" "overlay" device_id
    s!"show lisp instance-id {instance_id} ipv4 publisher config-propagation" "lisp_publishers"
    [("publishers", texts publishers)]

def pubsub_gates (publishers : List String) (device_id : String) : Py (List Gate) := do
  if intent.lisp.control_plane_mode = some .lisp_pubsub &&
      device_id ∈ intent.lisp.subscribers.getD [] then
    let domain_id ← require intent.lisp.domain_id (KeyError "domain_id")
    let multihoming_id := assoc.lookup device_id (pubsub_multihoming_by_device intent)
    return gate ("lisp.identity." ++ device_id) "overlay" device_id
        "show running-config | section ^router lisp" "lisp_identity"
        [("domain_id", .int domain_id), ("multihoming_id", (multihoming_id.map .int).getD .null)] ::
      (sortedBy (·.l3_instance_id) intent.virtual_networks).map (publisher_gate device_id publishers)
  else return []

/-! ## Multicast -/

/-- The routing, access-list and PIM gates of a policy on a node. -/
def policy_gates (node_id : String) (policy : OverlayPolicy) (rp_lines : List String)
    (network : IPv4Network) (interfaces : List String) : List Gate :=
  let vrf := policy.vrf
  let instance_id := policy.l3_instance_id
  let access_list := policy.access_list
  [lines_gate s!"multicast.policy.{node_id}.{instance_id}" "multicast" node_id
      s!"show running-config | include ^ip multicast-routing vrf {vrf}|^ip pim vrf {vrf}"
      (("ip multicast-routing vrf " ++ vrf) :: rp_lines),
    lines_gate s!"multicast.acl.{node_id}.{instance_id}" "multicast" node_id
      s!"show running-config | section ^ip access-list standard {access_list}$" [
        "ip access-list standard " ++ access_list,
        "10 permit " ++ network.network_address.str ++ " " ++ network.hostmask.str],
    gate s!"multicast.pim.{node_id}.{instance_id}" "multicast" node_id
      s!"show ip pim vrf {vrf} interface" "pim_interfaces"
      [("interfaces", texts (sortedSet interfaces))]]

/-- What a policy says of its groups, after its routing. -/
def rp_lines (register_source : Bool) (policy : OverlayPolicy) : Py (List String) := do
  let vrf := policy.vrf
  let instance_id := policy.l3_instance_id
  let access_list := policy.access_list
  match policy.mode with
  | .ssm => return [s!"ip pim vrf {vrf} ssm range {access_list}"]
  | .asm =>
    let rp_address ← require (policy.rp_address.map IPv4Address.str) (KeyError "rp_address")
    return (if register_source then [s!"ip pim vrf {vrf} register-source Loopback{instance_id}"] else []) ++
      [s!"ip pim vrf {vrf} rp-address {rp_address} {access_list}"]

def passive_svi_gate (device_id : String) (vlan_id : Int) : Gate :=
  lines_gate s!"multicast.passive_svi.{device_id}.{vlan_id}" "multicast" device_id
    s!"show running-config | section ^interface Vlan{vlan_id}$" [
      s!"interface Vlan{vlan_id}", "ip pim passive", "ip igmp version 3", "ip igmp explicit-tracking"]

def rp_route_gates (node_id : String) (policy : OverlayPolicy) : Py (List Gate) := do
  match policy.mode with
  | .asm =>
    let vrf := policy.vrf
    let instance_id := policy.l3_instance_id
    let route ← require policy.rp_prefix (KeyError "rp_prefix")
    return [route_gate s!"multicast.rp_route.{node_id}.{instance_id}" "multicast" node_id
      s!"show ip route vrf {vrf} {route}" route]
  | .ssm => return []

def device_policy_gates (device : Device) (policy : OverlayPolicy) : Py (List Gate) := do
  if device.id ∉ policy.segment_loopbacks.map (·.device_id) then return []
  else
    let instance_id := policy.l3_instance_id
    let passive_svis :=
      if Role.fabric_edge ∈ device.roles then
        sortedBy id ((intent.endpoint_pools.filter (·.virtual_network = policy.virtual_network)).map
          (·.vlan_id))
      else []
    let handoff_interfaces :=
      if Role.border ∈ device.roles then
        ((handoff_peers_of intent).filter fun peer =>
          peer.device_id = device.id && peer.vrf = policy.vrf).map (·.interface)
      else []
    let lines ← rp_lines true policy
    let network ← network_of policy.group_range
    let routes ← rp_route_gates device.id policy
    return policy_gates device.id policy lines network
        ([s!"Loopback{instance_id}", s!"LISP0.{instance_id}"] ++ handoff_interfaces) ++
      passive_svis.map (passive_svi_gate device.id) ++ routes

def multicast_gates (device : Device) : Py (List Gate) := do
  if native_multicast intent then collect (policies_of intent) (device_policy_gates intent device)
  else return []

/-! ## The policy plane -/

def permission_gate (device_id : String) (contract : Contract) : Py Gate := do
  let name ← require contract.name (KeyError "name")
  let source_tag ← require contract.source_tag (KeyError "source_tag")
  let destination_tag ← require contract.destination_tag (KeyError "destination_tag")
  let sgacl_name ← require contract.sgacl_name (KeyError "sgacl_name")
  return gate ("policy.permission." ++ device_id ++ "." ++ name) "policy_plane" device_id
    s!"show cts role-based permissions from {source_tag} to {destination_tag} details"
    "role_permission" [
      ("source_tag", .int source_tag), ("destination_tag", .int destination_tag),
      ("sgacl_name", .str sgacl_name)]

/-- The scan from the end of a range on: the last number without a gap before it, and those after it. -/
def scan_range (last : Int) : List Int → Int × List Int
  | [] => (last, [])
  | next :: rest => if next = last + 1 then scan_range next rest else (last, next :: rest)

/-- The loop over the VLANs, in at most so many rounds. -/
def vlan_ranges : Nat → List Int → List String
  | rounds + 1, start :: rest =>
    let (last, after) := scan_range start rest
    (if start = last then toString start else s!"{start}-{last}") :: vlan_ranges rounds after
  | _, _ => []

/-- The VLANs of the enforcement line. -/
def vlan_list (enforcement_vlan_ids : List Int) : String :=
  let vlan_ids := sortedBy id enforcement_vlan_ids.dedup
  join "," (vlan_ranges vlan_ids.length vlan_ids)

def enforcement_gates (policy : PolicyPlane) (device_id : String) : Py (List Gate) := do
  if device_id ∈ policy.enforcement_device_ids.getD [] then
    let permissions ← (← contracts_of policy).mapM (permission_gate device_id)
    return lines_gate ("policy.enforcement." ++ device_id) "policy_plane" device_id
      "show running-config | include ^cts role-based permissions default|^cts role-based enforcement vlan-list" [
        "cts role-based permissions default SDA-SGACL-DEFAULT-DENY",
        "cts role-based enforcement vlan-list " ++ vlan_list (policy.enforcement_vlan_ids.getD [])] ::
      permissions
  else return []

def sxp_route_gate (device_id transport_vrf listener_prefix : String) : Gate :=
  route_gate ("policy.sxp_route." ++ device_id ++ "." ++ route_suffix listener_prefix) "policy_plane"
    device_id
    (if transport_vrf = "global" then "show ip route " ++ listener_prefix
      else s!"show ip route vrf {transport_vrf} {listener_prefix}")
    listener_prefix

def sxp_connection (connection : SxpConnection) : Py Value := do
  let source_ip ← require (connection.source_ip.map IPv4Address.str) (KeyError "source_ip")
  return .dict [("peer", .str connection.listener_ip.str), ("source_ip", .str source_ip)]

def sxp_gates (policy : PolicyPlane) (device_id : String) : Py (List Gate) := do
  let connections := ((policy.sxp.map (·.connections)).getD []).filter (·.speaker_id = device_id)
  if connections.isEmpty then return []
  else
    let transport_vrfs ← connections.mapM fun connection =>
      require connection.transport_vrf (KeyError "transport_vrf")
    match sortedSet transport_vrfs with
    | [transport_vrf] =>
      let prefixes ← connections.mapM fun connection =>
        require connection.listener_prefix (KeyError "listener_prefix")
      let expected ← (sortedBy (·.listener_ip.str) connections).mapM sxp_connection
      return (sortedSet prefixes).map (sxp_route_gate device_id transport_vrf) ++
        [gate ("policy.sxp." ++ device_id) "policy_plane" device_id
          (if transport_vrf = "global" then "show cts sxp connections"
            else "show cts sxp connections vrf " ++ transport_vrf)
          "sxp_connections" [("connections", .list expected)]]
    | _ => .error (ValueError "One SXP speaker cannot verify multiple transport VRFs")

def policy_plane_gates (device_id : String) : Py (List Gate) := do
  match intent.policy_plane.filter (·.mode ≠ .none) with
  | none => return []
  | some policy =>
    let enforcement ← enforcement_gates policy device_id
    let sxp ← sxp_gates policy device_id
    return enforcement ++ sxp

def device_gates (publishers : List String) (device : Device) : Py (List Gate) := do
  let pubsub ← pubsub_gates intent publishers device.id
  let multicast ← multicast_gates intent device
  let policy_plane ← policy_plane_gates intent device.id
  return underlay_gates intent device ++ edge_gates intent device ++ border_gates intent device ++
    pubsub ++ multicast ++ policy_plane

/-! ## The fusion nodes -/

def fusion_bgp_gates (fusion_id : String) : List Gate :=
  if handoff_enabled intent then
    [bgp_gate ("fusion.bgp." ++ fusion_id) fusion_id
      (((handoff_peers_of intent).filter fun peer =>
        peer.fusion_node_id.filter (· ≠ "") = some fusion_id).map (·.local_ip.str))]
  else []

def fusion_policy_gates (fusion_id : String) (policy : OverlayPolicy) : Py (List Gate) := do
  let peers := (handoff_peers_of intent).filter fun peer =>
    peer.fusion_node_id.getD "None" = fusion_id && peer.vrf = policy.vrf
  if peers.isEmpty then return []
  else
    let lines ← rp_lines false policy
    let network ← network_of policy.group_range
    let routes ← rp_route_gates fusion_id policy
    return policy_gates fusion_id policy lines network
      (peers.map fun peer => "Vlan" ++ toString peer.vlan_id) ++ routes

def fusion_multicast_gates (fusion_id : String) : Py (List Gate) := do
  if native_multicast intent then collect (policies_of intent) (fusion_policy_gates intent fusion_id)
  else return []

/-- The prefixes of a leak in both directions. -/
def leak_gates (fusion_id service_vrf : String) (leak : RouteLeak) : List Gate :=
  let consumer_vrf := leak.consumer_vrf
  (sortedTexts leak.import_prefixes).map (fun pfx =>
    route_gate ("shared.consumer." ++ fusion_id ++ "." ++ consumer_vrf ++ "." ++ route_suffix pfx)
      "shared_services" fusion_id s!"show ip route vrf {consumer_vrf} {pfx}" pfx) ++
  (sortedTexts leak.export_prefixes).map fun pfx =>
    route_gate ("shared.service." ++ fusion_id ++ "." ++ service_vrf ++ "." ++ consumer_vrf ++ "." ++
      route_suffix pfx) "shared_services" fusion_id s!"show ip route vrf {service_vrf} {pfx}" pfx

def shared_service_gates (fusion_id : String) : List Gate :=
  match intent.shared_services with
  | some shared => (route_leaks_of shared).flatMap (leak_gates fusion_id shared.vrf)
  | none => []

def fusion_gates (fusion : FusionNode) : Py (List Gate) := do
  let multicast ← fusion_multicast_gates intent fusion.id
  return version_gate fusion.id fusion.software_version :: fusion_bgp_gates intent fusion.id ++
    multicast ++ shared_service_gates intent fusion.id

/-- `build_gate_plan(intent, artifact)`. -/
def build_gate_plan (artifact : Option Artifact) : Py (List Gate) := do
  let reconciliation ← reconciliation_gates intent artifact
  check_endpoints intent
  let publishers ← pubsub_publishers intent
  let devices ← collect (sortedBy (·.id) intent.devices) (device_gates intent publishers)
  let fusions ← collect (sortedBy (·.id) (intent.fusion_nodes.getD [])) (fusion_gates intent)
  return reconciliation ++ devices ++ fusions

/-! ## The phases and the nodes of the gates -/

variable {intent}

/-- All gates are on the node and in one of the phases. -/
def GatesOn (node_id : String) (phase_ids : List String) (gates : List Gate) : Prop :=
  ∀ gate ∈ gates, gate.device_id = node_id ∧ gate.phase_id ∈ phase_ids

@[simp] theorem gates_on_nil {node_id : String} {phase_ids : List String} :
    GatesOn node_id phase_ids [] := by
  intro gate hgate
  cases hgate

@[simp] theorem gates_on_cons {node_id : String} {phase_ids : List String} {first : Gate}
    {rest : List Gate} : GatesOn node_id phase_ids (first :: rest) ↔
      (first.device_id = node_id ∧ first.phase_id ∈ phase_ids) ∧ GatesOn node_id phase_ids rest :=
  List.forall_mem_cons

@[simp] theorem gates_on_append {node_id : String} {phase_ids : List String} {first second : List Gate} :
    GatesOn node_id phase_ids (first ++ second) ↔
      GatesOn node_id phase_ids first ∧ GatesOn node_id phase_ids second :=
  List.forall_mem_append

theorem gates_on_map {α : Type} {node_id : String} {phase_ids : List String} {items : List α}
    {body : α → Gate}
    (hbody : ∀ item, (body item).device_id = node_id ∧ (body item).phase_id ∈ phase_ids) :
    GatesOn node_id phase_ids (items.map body) := by
  intro gate hgate
  obtain ⟨item, -, rfl⟩ := List.mem_map.mp hgate
  exact hbody item

theorem gates_on_collect {α : Type} {node_id : String} {phase_ids : List String} {items : List α}
    {body : α → Py (List Gate)} {gates : List Gate} (hok : collect items body = .ok gates)
    (hbody : ∀ item found, body item = .ok found → GatesOn node_id phase_ids found) :
    GatesOn node_id phase_ids gates := by
  intro gate hgate
  obtain ⟨item, -, found, hfound, hmem⟩ := mem_of_collect hok hgate
  exact hbody item found hfound gate hmem

theorem GatesOn.mono {node_id : String} {phase_ids others : List String} {gates : List Gate}
    (hgates : GatesOn node_id phase_ids gates) (hsub : ∀ phase_id ∈ phase_ids, phase_id ∈ others) :
    GatesOn node_id others gates := by
  intro gate hgate
  obtain ⟨hnode, hphase⟩ := hgates gate hgate
  exact ⟨hnode, hsub _ hphase⟩

theorem underlay_gates_on (device : Device) :
    GatesOn device.id ["precheck", "underlay"] (underlay_gates intent device) := by
  have hmsdp : GatesOn device.id ["precheck", "underlay"] (msdp_gates intent device.id) := by
    unfold msdp_gates
    split
    · split <;> simp [gate]
    · simp
  have hmtu : GatesOn device.id ["precheck", "underlay"] (mtu_gates intent device.id) := by
    intro found hfound
    obtain ⟨link, -, hlink⟩ := List.mem_filterMap.mp hfound
    obtain ⟨local_ep, -, rfl⟩ := Option.map_eq_some_iff.mp hlink
    simp [gate]
  rw [underlay_gates]
  by_cases hlinks : incident_links intent device.id > 0
  · simp [hlinks, hmsdp, hmtu, gate, version_gate, license_gate]
  · simp [hlinks, hmsdp, hmtu, gate, version_gate, license_gate]

theorem edge_gates_on (device : Device) :
    GatesOn device.id ["lisp_edges", "overlay"] (edge_gates intent device) := by
  unfold edge_gates
  split <;> simp [gate]

theorem border_gates_on (device : Device) :
    GatesOn device.id ["border_handoff"] (border_gates intent device) := by
  unfold border_gates
  split <;> simp [gate, bgp_gate]

theorem pubsub_gates_on {publishers : List String} {device_id : String} {gates : List Gate}
    (hok : pubsub_gates intent publishers device_id = .ok gates) :
    GatesOn device_id ["overlay"] gates := by
  rw [pubsub_gates] at hok
  split at hok
  · simp only [bind_eq_ok_iff, pure_eq_ok_iff] at hok
    obtain ⟨domain_id, -, rfl⟩ := hok
    refine gates_on_cons.mpr ⟨⟨rfl, List.mem_singleton_self _⟩, gates_on_map fun vn => ?_⟩
    exact ⟨rfl, List.mem_singleton_self _⟩
  · obtain rfl := pure_eq_ok_iff.mp hok
    exact gates_on_nil

/-- The gates of a policy on any node are those of the multicast phase. -/
theorem policy_gates_on (node_id : String) (policy : OverlayPolicy) (lines : List String)
    (network : IPv4Network) (interfaces : List String) :
    GatesOn node_id ["multicast"] (policy_gates node_id policy lines network interfaces) := by
  simp [policy_gates, gate, lines_gate]

theorem rp_route_gates_on {node_id : String} {policy : OverlayPolicy} {gates : List Gate}
    (hok : rp_route_gates node_id policy = .ok gates) : GatesOn node_id ["multicast"] gates := by
  rw [rp_route_gates] at hok
  split at hok
  · simp only [bind_eq_ok_iff, pure_eq_ok_iff] at hok
    obtain ⟨_, -, rfl⟩ := hok
    simp [gate, route_gate]
  · obtain rfl := pure_eq_ok_iff.mp hok
    exact gates_on_nil

theorem multicast_gates_on {device : Device} {gates : List Gate}
    (hok : multicast_gates intent device = .ok gates) : GatesOn device.id ["multicast"] gates := by
  rw [multicast_gates] at hok
  split at hok
  · refine gates_on_collect hok fun policy found hfound => ?_
    rw [device_policy_gates] at hfound
    split at hfound
    · obtain rfl := pure_eq_ok_iff.mp hfound
      exact gates_on_nil
    · simp only [bind_eq_ok_iff, pure_eq_ok_iff] at hfound
      obtain ⟨lines, -, network, -, routes, hroutes, rfl⟩ := hfound
      refine gates_on_append.mpr ⟨gates_on_append.mpr ⟨policy_gates_on _ _ _ _ _, ?_⟩,
        rp_route_gates_on hroutes⟩
      exact gates_on_map fun vlan_id => ⟨rfl, List.mem_singleton_self _⟩
  · obtain rfl := pure_eq_ok_iff.mp hok
    exact gates_on_nil

theorem enforcement_gates_on {policy : PolicyPlane} {device_id : String} {gates : List Gate}
    (hok : enforcement_gates policy device_id = .ok gates) :
    GatesOn device_id ["policy_plane"] gates := by
  rw [enforcement_gates] at hok
  split at hok
  · simp only [bind_eq_ok_iff, pure_eq_ok_iff] at hok
    obtain ⟨contracts, -, permissions, hpermissions, rfl⟩ := hok
    refine gates_on_cons.mpr ⟨⟨rfl, List.mem_singleton_self _⟩, fun found hfound => ?_⟩
    obtain ⟨contract, -, hcontract⟩ := mem_of_mapM hpermissions hfound
    simp only [permission_gate, bind_eq_ok_iff, pure_eq_ok_iff] at hcontract
    obtain ⟨_, -, _, -, _, -, _, -, rfl⟩ := hcontract
    exact ⟨rfl, List.mem_singleton_self _⟩
  · obtain rfl := pure_eq_ok_iff.mp hok
    exact gates_on_nil

theorem sxp_gates_on {policy : PolicyPlane} {device_id : String} {gates : List Gate}
    (hok : sxp_gates policy device_id = .ok gates) : GatesOn device_id ["policy_plane"] gates := by
  rw [sxp_gates] at hok
  split at hok
  · obtain rfl := pure_eq_ok_iff.mp hok
    exact gates_on_nil
  · simp only [bind_eq_ok_iff] at hok
    obtain ⟨transport_vrfs, -, hok⟩ := hok
    split at hok
    · simp only [bind_eq_ok_iff, pure_eq_ok_iff] at hok
      obtain ⟨prefixes, -, expected, -, rfl⟩ := hok
      refine gates_on_append.mpr ⟨gates_on_map fun listener_prefix => ?_, ?_⟩
      · exact ⟨rfl, List.mem_singleton_self _⟩
      · simp [gate]
    · cases hok

variable (intent) in
/-- The phases that gates of the intent may be in. -/
def gate_phases : List String :=
  ["precheck", "underlay", "lisp_edges", "overlay", "border_handoff"] ++
    (if intent.shared_services.isSome then ["shared_services"] else []) ++
    (if multicast_enabled intent then ["multicast"] else []) ++
    (if policy_enabled intent then ["policy_plane"] else [])

theorem enabled_of_native (hnative : native_multicast intent) : multicast_enabled intent := by
  unfold native_multicast at hnative
  unfold multicast_enabled
  cases hmulticast : intent.multicast with
  | none =>
    rw [hmulticast] at hnative
    cases hnative
  | some multicast =>
    rw [hmulticast, Option.any_some, Bool.and_eq_true] at hnative
    exact hnative.1

theorem multicast_mem_gate_phases (hnative : native_multicast intent) :
    ∀ phase_id ∈ ["multicast"], phase_id ∈ gate_phases intent := by
  simp [gate_phases, enabled_of_native hnative]

theorem policy_plane_gates_on {device_id : String} {gates : List Gate}
    (hok : policy_plane_gates intent device_id = .ok gates) :
    GatesOn device_id (gate_phases intent) gates := by
  rw [policy_plane_gates] at hok
  split at hok
  · obtain rfl := pure_eq_ok_iff.mp hok
    exact gates_on_nil
  · rename_i policy hpolicy
    simp only [bind_eq_ok_iff, pure_eq_ok_iff] at hok
    obtain ⟨enforcement, henforcement, sxp, hsxp, rfl⟩ := hok
    have henabled : policy_enabled intent := by
      obtain ⟨hpolicy, hmode⟩ := Option.filter_eq_some_iff.mp hpolicy
      simpa [policy_enabled, hpolicy] using hmode
    have hplane := gates_on_append.mpr ⟨enforcement_gates_on henforcement, sxp_gates_on hsxp⟩
    exact hplane.mono (by simp [gate_phases, henabled])

theorem device_gates_on {publishers : List String} {device : Device} {gates : List Gate}
    (hok : device_gates intent publishers device = .ok gates) :
    GatesOn device.id (gate_phases intent) gates := by
  simp only [device_gates, bind_eq_ok_iff, pure_eq_ok_iff] at hok
  obtain ⟨pubsub, hpubsub, multicast, hmulticast, policy_plane, hpolicy, rfl⟩ := hok
  have hunderlay : GatesOn device.id (gate_phases intent) (underlay_gates intent device) :=
    (underlay_gates_on device).mono (by simp [gate_phases])
  have hedge : GatesOn device.id (gate_phases intent) (edge_gates intent device) :=
    (edge_gates_on device).mono (by simp [gate_phases])
  have hborder : GatesOn device.id (gate_phases intent) (border_gates intent device) :=
    (border_gates_on device).mono (by simp [gate_phases])
  have hpubsub : GatesOn device.id (gate_phases intent) pubsub :=
    (pubsub_gates_on hpubsub).mono (by simp [gate_phases])
  have hmulticast : GatesOn device.id (gate_phases intent) multicast := by
    by_cases hnative : native_multicast intent
    · exact (multicast_gates_on hmulticast).mono (multicast_mem_gate_phases hnative)
    · rw [multicast_gates, if_neg hnative] at hmulticast
      obtain rfl := pure_eq_ok_iff.mp hmulticast
      exact gates_on_nil
  simp only [gates_on_append]
  exact ⟨⟨⟨⟨⟨hunderlay, hedge⟩, hborder⟩, hpubsub⟩, hmulticast⟩, policy_plane_gates_on hpolicy⟩

theorem fusion_multicast_gates_on {fusion_id : String} {gates : List Gate}
    (hok : fusion_multicast_gates intent fusion_id = .ok gates) :
    GatesOn fusion_id (gate_phases intent) gates := by
  rw [fusion_multicast_gates] at hok
  split at hok
  · rename_i hnative
    have hmulticast : GatesOn fusion_id ["multicast"] gates := by
      refine gates_on_collect hok fun policy found hfound => ?_
      rw [fusion_policy_gates] at hfound
      split at hfound
      · obtain rfl := pure_eq_ok_iff.mp hfound
        exact gates_on_nil
      · simp only [bind_eq_ok_iff, pure_eq_ok_iff] at hfound
        obtain ⟨lines, -, network, -, routes, hroutes, rfl⟩ := hfound
        exact gates_on_append.mpr ⟨policy_gates_on _ _ _ _ _, rp_route_gates_on hroutes⟩
    exact hmulticast.mono (multicast_mem_gate_phases hnative)
  · obtain rfl := pure_eq_ok_iff.mp hok
    exact gates_on_nil

theorem shared_service_gates_on (fusion_id : String) :
    GatesOn fusion_id (gate_phases intent) (shared_service_gates intent fusion_id) := by
  unfold shared_service_gates
  split
  · rename_i shared hshared
    have hphase : "shared_services" ∈ gate_phases intent := by simp [gate_phases, hshared]
    intro found hfound
    obtain ⟨leak, -, hleak⟩ := List.mem_flatMap.mp hfound
    obtain himport | hexport := List.mem_append.mp hleak
    · obtain ⟨pfx, -, rfl⟩ := List.mem_map.mp himport
      exact ⟨rfl, hphase⟩
    · obtain ⟨pfx, -, rfl⟩ := List.mem_map.mp hexport
      exact ⟨rfl, hphase⟩
  · exact gates_on_nil

theorem fusion_gates_on {fusion : FusionNode} {gates : List Gate}
    (hok : fusion_gates intent fusion = .ok gates) :
    GatesOn fusion.id (gate_phases intent) gates := by
  simp only [fusion_gates, bind_eq_ok_iff, pure_eq_ok_iff] at hok
  obtain ⟨multicast, hmulticast, rfl⟩ := hok
  have hbgp : GatesOn fusion.id (gate_phases intent) (fusion_bgp_gates intent fusion.id) := by
    unfold fusion_bgp_gates
    split <;> simp [gate, bgp_gate, gate_phases]
  have hversion : GatesOn fusion.id (gate_phases intent)
      [version_gate fusion.id fusion.software_version] := by
    simp [version_gate, gate, gate_phases]
  rw [← List.singleton_append]
  simp only [gates_on_append]
  exact ⟨⟨⟨hversion, hbgp⟩, fusion_multicast_gates_on hmulticast⟩, shared_service_gates_on _⟩

theorem reconciled_gates_on {entry : String × ReconciledDevice} {gates : List Gate}
    (hok : reconciled_gates intent entry = .ok gates)
    (hown : GatesOn entry.1 ["multicast_reconciliation"] entry.2.gates) :
    GatesOn entry.1 ["precheck", "multicast_reconciliation"] gates := by
  have hown : GatesOn entry.1 ["precheck", "multicast_reconciliation"] entry.2.gates :=
    hown.mono (by simp)
  rw [reconciled_gates] at hok
  split at hok
  · simp only [bind_eq_ok_iff, raise_if_eq_ok, pure_eq_ok_iff] at hok
    obtain ⟨software_version, -, _, rfl, _, -, rfl⟩ := hok
    refine gates_on_append.mpr ⟨?_, hown⟩
    simp [version_gate, gate]
  · simp only [bind_eq_ok_iff, raise_if_eq_ok, pure_eq_ok_iff] at hok
    obtain ⟨_, rfl, _, -, rfl⟩ := hok
    exact hown

/-- Where a gate of the plan is: on a node of the intent, or on a reconciled device. -/
theorem gate_of_build {artifact : Artifact} {baseline : Option Value} {manifest : Value}
    {platform : Platform}
    (hreconciliation : build_multicast_reconciliation platform baseline manifest =
      .ok artifact.reconciliation)
    {gates : List Gate} (hok : build_gate_plan intent (some artifact) = .ok gates) {gate : Gate}
    (hgate : gate ∈ gates) :
    (gate.device_id ∈ active_device_ids intent ∧ gate.phase_id ∈ gate_phases intent) ∨
      gate.device_id ∈ artifact.reconciliation.devices.map Prod.fst ∧
        gate.phase_id ∈ ["precheck", "multicast_reconciliation"] := by
  simp only [build_gate_plan, reconciliation_gates, bind_eq_ok_iff, pure_eq_ok_iff] at hok
  obtain ⟨reconciled, hreconciled, _, -, publishers, -, devices, hdevices, fusions, hfusions, rfl⟩ := hok
  simp only [List.mem_append] at hgate
  obtain (hgate | hgate) | hgate := hgate
  · obtain ⟨entry, hentry, found, hfound, hmem⟩ := mem_of_collect hreconciled hgate
    have hentry := mem_sortedBy.mp hentry
    have hkey := List.mem_map_of_mem (f := Prod.fst) hentry
    have hown : GatesOn entry.1 ["multicast_reconciliation"] entry.2.gates := by
      intro own hmem
      obtain ⟨hphase, hdevice⟩ := gate_of_reconciled hreconciliation hentry hmem
      exact ⟨hdevice, by simp [hphase]⟩
    obtain ⟨hnode, hphase⟩ := reconciled_gates_on hfound hown gate hmem
    exact .inr ⟨hnode ▸ hkey, hphase⟩
  · obtain ⟨device, hdevice, found, hfound, hmem⟩ := mem_of_collect hdevices hgate
    obtain ⟨hnode, hphase⟩ := device_gates_on hfound gate hmem
    have hactive := List.mem_map_of_mem (f := (·.id)) (mem_sortedBy.mp hdevice)
    exact .inl ⟨hnode ▸ List.mem_append_left _ hactive, hphase⟩
  · obtain ⟨fusion, hfusion, found, hfound, hmem⟩ := mem_of_collect hfusions hgate
    obtain ⟨hnode, hphase⟩ := fusion_gates_on hfound gate hmem
    have hactive := List.mem_map_of_mem (f := (·.id)) (mem_sortedBy.mp hfusion)
    exact .inl ⟨hnode ▸ List.mem_append_right _ hactive, hphase⟩

end GatePlan

end orchestrator.gates
