import SdaOrchestrator.Lib.Python

open python

/-! The plain text in which the review step of the guided workflow shows a derived design. -/

namespace orchestrator.api

/-- `document[key]` where it is a mapping, else an empty one. -/
def mapping_of (document : Value) (key : String) : Py Value := do
  match ← document.get key with
  | some (.dict entries) => return .dict entries
  | _ => return .dict []

/-- `str(document.get(key, default))`. -/
def shown (document : Value) (key : String) (default : Value) : Py String := do
  return (← document.getD key default).toStr

/-- `", ".join(str(item) for item in document.get(key, []))`. -/
def joined (document : Value) (key : String) : Py String := do
  return join ", " ((← (← document.getD key (.list [])).elements).map Value.toStr)

/-- The line of a virtual network; an entry that is no mapping has none. -/
def virtual_network_line (vn : Value) : Py (List String) := do
  if !vn.isMapping then return []
  let virtual_network ← shown vn "virtual_network" (.str "")
  let vrf ← shown vn "vrf" (.str "")
  let endpoint_prefix ← shown vn "endpoint_prefix" (.str "")
  let vlan_id ← shown vn "vlan_id" (.str "")
  let l2_vni ← shown vn "l2_vni" (.str "")
  let l3_vni ← shown vn "l3_vni" (.str "")
  let dhcp_lease_minutes ← shown vn "dhcp_lease_minutes" (.str "")
  let dns_servers ← joined vn "dns_servers"
  return ["  - " ++ virtual_network ++ " (VRF " ++ vrf ++ "): " ++ endpoint_prefix ++ " | VLAN " ++ vlan_id ++
    " | VNIs L2 " ++ l2_vni ++ "/L3 " ++ l3_vni ++ " | DHCP " ++ dhcp_lease_minutes ++ " min | DNS " ++ dns_servers]

/-- How many commands the phases of a device have. -/
def phase_commands (dev : Value) : Py Int := do
  match ← dev.get "phases" with
  | some (.list phases) =>
    let counts ← (phases.filter Value.isMapping).mapM fun phase => do
      (← phase.getD "command_count" (.int 0)).toInt
    return counts.sum
  | _ => return 0

/-- The line of a device, with its commands. -/
def device_line (dev : Value) : Py (List (String × Int)) := do
  if !dev.isMapping then return []
  let cmds ← phase_commands dev
  let device_id ← shown dev "device_id" (.str "")
  let platform ← shown dev "platform" (.str "")
  let loopback_ip ← shown dev "loopback_ip" (.str "")
  return [(s!"  - {device_id} ({platform}, loopback {loopback_ip}): {cmds} commands", cmds)]

def _sjc23_poc_review_summary (upper : String → String) (preview : Value) : Py String := do
  let underlay ← mapping_of preview "underlay"
  let lisp ← mapping_of preview "lisp"
  let change_reference ← shown preview "change_reference" (.str "")
  let protocol ← shown underlay "protocol" (.str "")
  let mtu ← shown underlay "mtu" (.str "")
  let subnet ← shown underlay "subnet" (.str "")
  let site_name ← shown lisp "site_name" (.str "")
  let map_servers ← joined lisp "map_servers"
  let virtual_networks ← (← (← preview.getD "virtual_networks" (.list [])).elements).mapM virtual_network_line
  let devices ← (← (← preview.getD "devices" (.list [])).elements).mapM device_line
  let deployment_authorized ← shown preview "deployment_authorized" (.bool false)
  let total_commands := (devices.flatten.map Prod.snd).sum
  return join "\n" ([
    "SJC23 POC - derived SD-Access design (review before you confirm)",
    "Change reference: " ++ change_reference,
    "Underlay: " ++ upper protocol ++ " MTU " ++ mtu ++ " on " ++ subnet,
    "LISP site: " ++ site_name ++ " (map-server: " ++ map_servers ++ ")",
    "Virtual networks:"] ++ virtual_networks.flatten ++ ["Devices:"] ++ devices.flatten.map Prod.fst ++ [
    s!"Total commands to apply: {total_commands}",
    "Deployment authorized: " ++ deployment_authorized ++ " (POC hardware-acceptance pending)"])

end orchestrator.api
