import SdaOrchestrator.Renderer.Blocks

open python ipaddress orchestrator.store

namespace orchestrator.renderer

open orchestrator.intent

section Underlay

variable (platform : Platform) (intent : FabricIntent)

/-! ## The IS-IS underlay -/

/-- `multicast.get("enabled", True)` of the multicast section of the fabric. -/
def underlay_multicast (fabric : Fabric) : Bool := (fabric.multicast.map (·.enabled)).getD true

/-- The RP device ids: those of the intent, else those of its fabric. -/
def underlay_rp_devices : List String :=
  (((intent.multicast.bind (·.rp_device_ids)).getD
    ((intent.fabric.multicast.bind (·.rp_device_ids)).getD [])).dedup)

/-- `is_rp_device`: without RP device ids, every border is one before schema version 1.2. -/
def is_rp_device (device : Device) : Bool :=
  if underlay_rp_devices intent ≠ [] then device.id ∈ underlay_rp_devices intent
  else intent.schema_version ≠ .v1_2 && Role.border ∈ device.roles

def rp_loopback_id : Int := ((intent.fabric.multicast.bind (·.rp_loopback_id))).getD 60000

def isis_process : Py String :=
  safe (intent.fabric.isis_process.getD "SDA-ISIS") "IS-IS process"

def isis_area : Py String := safe (intent.fabric.isis_area.getD "49.0001") "IS-IS area"

def system_block : Py Block := do
  let fabric := intent.fabric
  let mtu := fabric.mtu
  let multicast : List String :=
    if underlay_multicast fabric then
      ["ip multicast-routing", "ip pim register-source Loopback0"] ++
        (if (fabric.multicast.bind (·.ssm_default)).getD true then ["ip pim ssm default"] else []) ++
        (((fabric.multicast.bind (·.rp_address)).map fun address =>
          "ip pim rp-address " ++ address.str).toList)
    else []
  return plain_block platform "system" ([s!"system mtu {mtu}", "ip routing"] ++ multicast)

def loopback0_block (area_tag : String) (device : Device) : Py Block := do
  let hostname ← safe_spaced device.hostname "hostname"
  return plain_block platform "loopback0" (
    ["interface Loopback0", " description Fabric RLOC " ++ hostname,
      " ip address " ++ device.loopback0_ip.str ++ " 255.255.255.255"] ++
    (if underlay_multicast intent.fabric then [" ip pim sparse-mode"] else []) ++
    [" ip router isis " ++ area_tag, " no shutdown"])

def router_isis_block (area_tag area : String) (device : Device) : Py Block := do
  let net ← _isis_net device.loopback0_ip area
  return plain_block platform "router_isis" [
    "router isis " ++ area_tag, " net " ++ net, " is-type level-2-only", " metric-style wide",
    " log-adjacency-changes", " bfd all-interfaces", " nsf ietf", " passive-interface Loopback0"]

/-- The addresses of the other RP devices. -/
def msdp_peers (device : Device) : List String :=
  sortedTexts (((underlay_rp_devices intent).filter (· ≠ device.id)).filterMap fun peer_id =>
    (assoc.lookup peer_id (devices_by_id intent.devices)).map (·.loopback0_ip.str))

/-- The RP loopback of an RP device, and its MSDP peers in Anycast mode. -/
def rp_blocks (area_tag : String) (device : Device) : List Block :=
  match intent.fabric.multicast.bind (·.rp_address) with
  | none => []
  | some rp_address =>
    if underlay_multicast intent.fabric && is_rp_device intent device then
      let loopback := toString (rp_loopback_id intent)
      let peers := msdp_peers intent device
      plain_block platform "multicast_rp_loopback" [
          "interface Loopback" ++ loopback, " description Fabric multicast RP",
          " ip address " ++ rp_address.str ++ " 255.255.255.255", " ip pim sparse-mode",
          " ip router isis " ++ area_tag, " no shutdown"] ::
        if intent.multicast.map (·.rp_mode) = some .anycast && !peers.isEmpty then
          [plain_block platform "multicast_msdp" (
            peers.map (fun peer => s!"ip msdp peer {peer} connect-source Loopback0") ++
            ["ip msdp cache-sa-state", "ip msdp originator-id Loopback0"])]
        else []
    else []

/-- The BFD section of a link, by default enabled. -/
def link_bfd (link : Link) : Bfd :=
  link.bfd.getD { enabled := true, interval_ms := some 100, min_rx_ms := some 100, multiplier := some 3 }

def link_block (area_tag : String) (device : Device) (link : Link) : Py (List Block) := do
  match link.endpoints.find? (·.device_id = device.id) with
  | none => return []
  | some endpoint =>
    let peer ← require (link.endpoints.find? (·.device_id ≠ device.id)) StopIteration
    let network ← network_of link.subnet
    let interface ← safe endpoint.interface "interface"
    let peer_id ← safe_spaced peer.device_id "peer device"
    let mtu := intent.fabric.mtu
    let ip_mtu := mtu - intent.fabric.mtu_headroom.getD 50
    let bfd := link_bfd link
    let bfd_commands ←
      if bfd.enabled then do
        let interval ← require bfd.interval_ms (KeyError "interval_ms")
        let min_rx ← require bfd.min_rx_ms (KeyError "min_rx_ms")
        let multiplier ← require bfd.multiplier (KeyError "multiplier")
        pure [s!" bfd interval {interval} min_rx {min_rx} multiplier {multiplier}"]
      else pure []
    let link_id ← safe link.id "link id"
    return [plain_block platform ("link_" ++ link_id) (
      ["interface " ++ interface, " description Fabric link to " ++ peer_id, " no switchport",
        s!" mtu {mtu}", " ip address " ++ endpoint.ip.str ++ " " ++ network.netmask.str,
        s!" ip mtu {ip_mtu}"] ++
      (if link.pim_sparse_mode.getD true then [" ip pim sparse-mode"] else []) ++
      [" ip router isis " ++ area_tag, " isis network point-to-point"] ++ bfd_commands ++
      [" no shutdown"])]

def _underlay_blocks (device : Device) : Py (List Block) := do
  let area_tag ← isis_process intent
  let area ← isis_area intent
  let system ← system_block platform intent
  let loopback0 ← loopback0_block platform intent area_tag device
  let router ← router_isis_block platform area_tag area device
  let links ← collect (sortedBy (·.id) intent.links) (link_block platform intent area_tag device)
  return [system, loopback0, router] ++ rp_blocks platform intent area_tag device ++ links

/-! ## The LISP control plane -/

def locator_name : Py String := safe (intent.lisp.locator_set.getD "rloc_fabric") "locator set"

def _locator_block : Py Block := do
  let name ← locator_name intent
  return plain_block platform "lisp_locator" [
    "router lisp", " locator-set " ++ name, "  IPv4-interface Loopback0 priority 10 weight 10",
    "  exit-locator-set", " exit-router-lisp"]

/-- `{item["name"]: item for item in intent["virtual_networks"]}`. -/
def networks_by_name : List (String × VirtualNetwork) :=
  dict_of (intent.virtual_networks.map fun vn => (vn.name, vn))

/-- `virtual_networks[pool["virtual_network"]]`. -/
def network_of_pool (pool : EndpointPool) : Py VirtualNetwork :=
  require (assoc.lookup pool.virtual_network (networks_by_name intent))
    (KeyError pool.virtual_network)

def eid_records (pool : EndpointPool) : Py (List String) := do
  let vn ← network_of_pool intent pool
  let pfx ← safe pool.pfx "endpoint prefix"
  let l3_instance_id := vn.l3_instance_id
  let l2_instance_id := pool.l2_instance_id
  return [s!"  eid-record instance-id {l3_instance_id} {pfx} accept-more-specifics",
    s!"  eid-record instance-id {l2_instance_id} any-mac"]

def _control_plane_blocks (device : Device) : Py (List Block) := do
  let site_name ← safe intent.lisp.site_name "LISP site"
  let auth_ref := intent.lisp.auth_key_ref
  let records ← collect (sortedBy (·.id) intent.endpoint_pools) (eid_records intent)
  let loopback := device.loopback0_ip.str
  let locator ← _locator_block platform intent
  return [
    locator,
    _block platform "lisp_site" (
      ["router lisp", " site " ++ site_name, s!"  authentication-key <secret:{auth_ref}>",
        "  description Managed SDA-style fabric site"] ++ records ++
      ["  exit-site", " exit-router-lisp"]) [auth_ref],
    plain_block platform "lisp_control_plane" [
      "router lisp", " service ipv4", "  encapsulation vxlan", "  map-server", "  map-resolver",
      "  proxy-etr", "  proxy-itr " ++ loopback, "  no map-cache away-eids send-map-request",
      "  exit-service-ipv4", " service ethernet", "  map-server", "  map-resolver",
      "  exit-service-ethernet", " exit-router-lisp"]]

def _edge_lisp_blocks : Py (List Block) := do
  let auth_ref := intent.lisp.auth_key_ref
  let servers := (_device_roles intent .control_plane).flatMap fun server =>
    let address := server.loopback0_ip.str
    ["  itr map-resolver " ++ address, s!"  etr map-server {address} key <secret:{auth_ref}>",
      "  use-petr " ++ address]
  let locator ← _locator_block platform intent
  return [locator, _block platform "lisp_edge" (
    ["router lisp", " service ipv4", "  encapsulation vxlan"] ++ servers ++
    ["  etr", "  exit-service-ipv4", " exit-router-lisp"]) [auth_ref]]

/-! ## Pub/Sub -/

/-- The multihoming group of a device. -/
def multihoming_group (device : Device) : Option MultihomingGroup :=
  (intent.lisp.multihoming_groups.getD []).find? (device.id ∈ ·.border_device_ids)

/-- The devices that publish, in the order of their ids. -/
def publishers : Py (List Device) :=
  (sortedTexts (intent.lisp.publishers.getD [])).mapM fun publisher_id =>
    require (assoc.lookup publisher_id (devices_by_id intent.devices)) (KeyError publisher_id)

/-- `(intent.get("policy_plane") or {}).get("mode") not in {None, "none"}`. -/
def policy_enabled : Bool := intent.policy_plane.any (·.mode ≠ .none)

def _pubsub_subscriber_blocks (device : Device) : Py (List Block) := do
  let lisp := intent.lisp
  if lisp.control_plane_mode ≠ some .lisp_pubsub ∨ device.id ∉ lisp.subscribers.getD [] then
    return []
  else
    let domain_id ← require lisp.domain_id (KeyError "domain_id")
    let multihoming := ((multihoming_group intent device).map fun group =>
      " multihoming-id " ++ toString group.multihoming_id).toList
    let found ← publishers intent
    let auth_ref := lisp.auth_key_ref
    let loopback := device.loopback0_ip.str
    let colocated := Role.control_plane ∈ device.roles
    let imports := found.flatMap fun publisher =>
      let address := publisher.loopback0_ip.str
      ["  import publication publisher " ++ address, "  itr map-resolver " ++ address,
        s!"  etr map-server {address} key <secret:{auth_ref}>",
        s!"  etr map-server {address} proxy-reply"]
    return [
      plain_block platform "lisp_pubsub_identity" (
        ["router lisp", s!" domain-id {domain_id}"] ++ multihoming ++ [" exit-router-lisp"]),
      _block platform "lisp_pubsub_subscriber" (
        ["router lisp", " service ipv4"] ++
        (if colocated then [] else ["  encapsulation vxlan"]) ++
        ["  map-cache publications"] ++ imports ++ ["  etr"] ++
        (if policy_enabled intent then ["  sgt"] else []) ++
        ["  route-export publications", "  distance publications 250"] ++
        (if colocated then [] else [
          "  no map-cache away-eids send-map-request", "  proxy-etr", "  proxy-itr " ++ loopback]) ++
        ["  exit-service-ipv4", " exit-router-lisp"]) [auth_ref]]

end Underlay

end orchestrator.renderer
