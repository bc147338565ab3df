import SdaOrchestrator.Reconciliation.Delta
import SdaOrchestrator.Renderer.Handoff
import SdaOrchestrator.Renderer.PolicyPlane

open python ipaddress orchestrator.store

namespace orchestrator.renderer

open orchestrator.intent orchestrator.reconciliation

/-! ## The artifact -/

/-- A phase of a device with its blocks. -/
structure PhaseBlocks where
  phase_id : String
  blocks : List Block

/-- The artifact of a device; a retired target carries its descriptor. -/
structure DeviceArtifact where
  hostname : String
  platform : String
  software_version : String
  roles : List String
  retired : Option (List (String × Value))
  phases : List PhaseBlocks

structure Blocker where
  code : String
  message : String

structure Artifact where
  intent_schema_version : String
  plan_id : String
  plan_hash : String
  intent_hash : String
  fabric_id : String
  devices : List (String × DeviceArtifact)
  owned_state : OwnedState
  reconciliation : Reconciliation
  ise : Option Value
  blocking_requirements : List Blocker

def PhaseBlocks.document (phase : PhaseBlocks) : Value :=
  .dict [("phase_id", .str phase.phase_id), ("blocks", sections Block.document phase.blocks)]

def DeviceArtifact.document (device : DeviceArtifact) : Value :=
  .dict (field "hostname" (.str device.hostname) ++ field "platform" (.str device.platform) ++
    field "software_version" (.str device.software_version) ++ field "roles" (texts device.roles) ++
    device.retired.elim [] (fun descriptor =>
      [("retired_target", .bool true), ("device_descriptor", .dict descriptor)]) ++
    field "phases" (sections PhaseBlocks.document device.phases))

def Blocker.document (blocker : Blocker) : Value :=
  .dict [("code", .str blocker.code), ("message", .str blocker.message)]

def Artifact.body (platform : Platform) (artifact : Artifact) : List (String × Value) := [
  ("artifact_schema_version", .str "1.0"),
  ("intent_schema_version", .str artifact.intent_schema_version),
  ("plan_id", .str artifact.plan_id), ("plan_hash", .str artifact.plan_hash),
  ("intent_hash", .str artifact.intent_hash), ("fabric_id", .str artifact.fabric_id),
  ("devices", .dict (artifact.devices.map fun (device_id, device) => (device_id, device.document))),
  ("owned_state", artifact.owned_state.document platform),
  ("reconciliation", artifact.reconciliation.document platform),
  ("external_systems", .dict (optional "ise" artifact.ise id)),
  ("blocking_requirements", sections Blocker.document artifact.blocking_requirements),
  ("contains_secret_values", .bool false), ("review_required", .bool true),
  ("executable", .bool false)]

def Artifact.document (platform : Platform) (artifact : Artifact) : Value :=
  .dict (artifact.body platform ++
    [("artifact_hash", .str (platform.sha256_json (.dict (artifact.body platform))))])

section Configuration

variable (platform : Platform) (intent : FabricIntent)

/-! ## Blocking requirements -/

def blocker_if (condition : Bool) (code message : String) : List Blocker :=
  if condition then [⟨code, message⟩] else []

/-- `multicast.get("enabled")`. -/
def multicast_enabled : Bool := intent.multicast.any (·.enabled)

/-- A pool with local DHCP, or an endpoint attachment. -/
def poc_features : Bool :=
  intent.endpoint_pools.any (·.dhcp.isSome) || !(intent.endpoint_attachments.getD []).isEmpty

def handoff_missing : Bool :=
  match intent.border_handoff with
  | none => true
  | some handoff => !handoff.enabled && handoff.mode ≠ some .isolated

def blocking_requirements (reconciliation : Reconciliation) : List Blocker :=
  blocker_if (handoff_missing intent) "border_handoff.missing"
    "BGP/fusion handoff is not defined; apply remains disabled" ++
  blocker_if (intent.fabric.control_plane_mode = some .lisp_pubsub)
    "lisp_pubsub.hardware_acceptance_pending"
    "LISP Pub/Sub subscriber CLI and operational gates are rendered and rollback-tested but await compatible IOS XE hardware acceptance" ++
  blocker_if intent.shared_services.isSome "shared_services.hardware_acceptance_pending"
    "Shared-service route leaking is rendered and rollback-tested but awaits compatible IOS XE fusion hardware acceptance" ++
  blocker_if
    (intent.schema_version = .v1_2 && intent.multicast.isSome && reconciliation.status ≠ "ready")
    "multicast.reconciliation_baseline_missing"
    "Multicast apply remains disabled until a last-successful-apply or independently approved discovery baseline is bound to the plan" ++
  blocker_if (reconciliation.stale_resource_count ≠ 0)
    "multicast.reconciliation_hardware_acceptance_pending"
    "Owned-state pruning is deterministic and rollback-bound but its removal commands and absence gates await compatible IOS XE hardware acceptance" ++
  (if native_multicast intent then
    blocker_if true "multicast.hardware_acceptance_pending"
      "Native overlay ASM/SSM fabric and fusion CLI plus operational gates are rendered but await compatible IOS XE hardware acceptance and traffic-flow proof"
  else
    blocker_if (multicast_enabled intent) "multicast.head_end_replication_renderer_pending"
      "Head-end replication remains disabled until its release-specific renderer and acceptance suite are complete") ++
  blocker_if (policy_enabled intent) "policy_plane.hardware_api_acceptance_pending"
    "ISE reconciliation, SXP transport, SGACL policy, and edge enforcement are rendered but await ISE API and IOS XE hardware acceptance" ++
  blocker_if (poc_features intent) "poc.local_dhcp_and_attachment_hardware_acceptance_pending"
    "C9500 local DHCP relay and fabric-edge endpoint-port rendering are plan-derived but require controlled IOS XE DHCP, relay, endpoint DHCP, and rollback acceptance before Apply can be enabled"

/-! ## Phases -/

/-- The removals of a node. -/
def reconciliation_phase (reconciliation : Reconciliation) (device_id : String) : List PhaseBlocks :=
  match assoc.lookup device_id reconciliation.devices with
  | some device => [⟨"multicast_reconciliation", device.blocks⟩]
  | none => []

/-- A phase that is there when a node has blocks in it. -/
def phase_if_any (phase_id : String) (blocks : List Block) : List PhaseBlocks :=
  if blocks.isEmpty then [] else [⟨phase_id, blocks⟩]

def underlay_phase (device : Device) : Py (List PhaseBlocks) := do
  return [⟨"underlay", ← _underlay_blocks platform intent device⟩]

def control_plane_phase (device : Device) : Py (List PhaseBlocks) := do
  if Role.control_plane ∈ device.roles then
    return [⟨"lisp_control_plane", ← _control_plane_blocks platform intent device⟩]
  else return []

/-- The LISP and overlay phases of an edge, else the overlay phase of a border. -/
def overlay_phases (device : Device) : Py (List PhaseBlocks) := do
  if Role.fabric_edge ∈ device.roles then
    let lisp ← _edge_lisp_blocks platform intent
    let edge ← _edge_overlay_blocks platform intent
    let attachments ← _edge_endpoint_attachment_blocks platform intent device
    let pubsub ←
      if Role.border ∈ device.roles then _pubsub_subscriber_blocks platform intent device
      else pure []
    return [⟨"lisp_edges", lisp⟩, ⟨"overlay", edge ++ attachments ++ pubsub⟩]
  else if Role.border ∈ device.roles then
    let vrfs ← _vrf_blocks platform intent
    let pubsub ← _pubsub_subscriber_blocks platform intent device
    let dhcp ← _border_local_dhcp_blocks platform intent device
    return [⟨"overlay", vrfs ++ pubsub ++ dhcp⟩]
  else return []

def multicast_phase (device : Device) : Py (List PhaseBlocks) := do
  return phase_if_any "multicast" (← _multicast_overlay_blocks platform intent device)

def policy_plane_phase (device : Device) : Py (List PhaseBlocks) := do
  return phase_if_any "policy_plane" (← _policy_plane_blocks platform intent device)

def border_handoff_phase (device : Device) : Py (List PhaseBlocks) := do
  if Role.border ∈ device.roles then
    return [⟨"border_handoff", ← _border_handoff_blocks platform intent device⟩]
  else return []

def device_artifact (reconciliation : Reconciliation) (device : Device) :
    Py (String × DeviceArtifact) := do
  let underlay ← underlay_phase platform intent device
  let control_plane ← control_plane_phase platform intent device
  let overlay ← overlay_phases platform intent device
  let multicast ← multicast_phase platform intent device
  let policy_plane ← policy_plane_phase platform intent device
  let border_handoff ← border_handoff_phase platform intent device
  return (device.id, {
    hostname := device.hostname
    platform := device.platform
    software_version := device.software_version
    roles := sortedSet (device.roles.map Role.text)
    retired := none
    phases := reconciliation_phase reconciliation device.id ++ underlay ++ control_plane ++
      overlay ++ multicast ++ policy_plane ++ border_handoff })

def fusion_artifact (reconciliation : Reconciliation) (fusion : FusionNode) :
    Py (String × DeviceArtifact) := do
  let multicast ← _fusion_multicast_blocks platform intent fusion
  let border_handoff ← _fusion_handoff_blocks platform intent fusion
  let shared_services ← _fusion_shared_service_blocks platform intent fusion
  return (fusion.id, {
    hostname := fusion.hostname
    platform := fusion.platform
    software_version := fusion.software_version
    roles := ["fusion"]
    retired := none
    phases := reconciliation_phase reconciliation fusion.id ++
      [⟨"border_handoff", border_handoff⟩, ⟨"shared_services", shared_services⟩] ++
      phase_if_any "multicast" multicast })

/-- A target of the reconciliation that the intent no longer has. -/
def retired_artifact (device_id : String) (reconciled : ReconciledDevice) :
    Py (String × DeviceArtifact) := do
  let descriptor := Value.dict reconciled.device
  let roles ← (← descriptor.getD "roles" (.list [])).elements
  return (device_id, {
    hostname := (← descriptor.item "hostname").toStr
    platform := (← descriptor.item "platform").toStr
    software_version := (← descriptor.item "software_version").toStr
    roles := sortedSet (roles.map Value.toStr)
    retired := some reconciled.device
    phases := [⟨"multicast_reconciliation", reconciled.blocks⟩] })

/-- The artifacts of the nodes of the intent. -/
def active_artifacts (reconciliation : Reconciliation) : Py (List (String × DeviceArtifact)) := do
  let devices ← (sortedBy (·.id) intent.devices).mapM (device_artifact platform intent reconciliation)
  let fusions ← (sortedBy (·.id) (intent.fusion_nodes.getD [])).mapM
    (fusion_artifact platform intent reconciliation)
  return dict_of (devices ++ fusions)

def retired_artifacts (reconciliation : Reconciliation) (active : List (String × DeviceArtifact)) :
    Py (List (String × DeviceArtifact)) :=
  ((sortedBy Prod.fst reconciliation.devices).filter fun entry => entry.1 ∉ active.map Prod.fst).mapM
    fun (device_id, reconciled) => retired_artifact device_id reconciled

/-! ## render_configuration -/

/-- `planned.get(name) == hash`, where both may be `None`. -/
def same_hash : Option Value → Value → Bool
  | some (.str planned), .str hash => planned = hash
  | some .null, .null | none, .null => true
  | _, _ => false

/-- `plan.get("reconciliation_baseline")`. -/
def planned_baseline (plan : Value) : Py (Option Value) := do
  return (← plan.get "reconciliation_baseline").filter fun baseline => !baseline.isNull

/-- The reconciliation that the plan was made with. -/
def check_reconciliation (plan : Value) (reconciliation : Reconciliation) : Py Unit := do
  let planned := match ← plan.get "reconciliation" with
    | some planned => if planned.truthy then planned else .dict []
    | none => .dict []
  raise_if (Value.optStr (← planned.get "status") ≠ reconciliation.status)
    (RenderError "Plan reconciliation status does not match the supplied baseline")
  raise_if (!same_hash (← planned.get "baseline_hash") reconciliation.baseline_hash)
    (RenderError "Plan reconciliation baseline hash does not match")
  raise_if
    (!same_hash (← planned.get "reconciliation_hash") (reconciliation.reconciliation_hash platform))
    (RenderError "Plan reconciliation delta hash does not match")

def render_configuration (plan : Value) : Py Artifact := do
  let intent_hash := (← plan.item "intent_hash").toStr
  raise_if (intent_hash ≠ platform.sha256_json intent.document)
    (RenderError "Plan intent hash does not match the supplied intent")
  let owned_state ← build_multicast_owned_state intent platform
  let reconciliation ← build_multicast_reconciliation platform (← planned_baseline plan)
    (owned_state.document platform)
  check_reconciliation platform plan reconciliation
  let active ← active_artifacts platform intent reconciliation
  let retired ← retired_artifacts reconciliation active
  let plan_id := (← plan.item "plan_id").toStr
  let plan_hash := (← plan.item "plan_hash").toStr
  let ise ← _ise_policy_manifest platform intent
  return {
    intent_schema_version := intent.schema_version.text
    plan_id, plan_hash, intent_hash
    fabric_id := intent.fabric.id
    devices := active ++ retired
    owned_state, reconciliation, ise
    blocking_requirements := blocking_requirements intent reconciliation }

/-! ## What is rendered -/

variable {platform intent}

/-- What `render_configuration` returns, part by part. -/
structure Rendered (platform : Platform) (intent : FabricIntent) (plan : Value)
    (artifact : Artifact) : Prop where
  owned_state : build_multicast_owned_state intent platform = .ok artifact.owned_state
  reconciliation : ∃ baseline, planned_baseline plan = .ok baseline ∧
    build_multicast_reconciliation platform baseline (artifact.owned_state.document platform) =
      .ok artifact.reconciliation
  checked : check_reconciliation platform plan artifact.reconciliation = .ok ()
  devices : ∃ active retired,
    active_artifacts platform intent artifact.reconciliation = .ok active ∧
      retired_artifacts artifact.reconciliation active = .ok retired ∧
      artifact.devices = active ++ retired
  ise : _ise_policy_manifest platform intent = .ok artifact.ise
  blockers : artifact.blocking_requirements = blocking_requirements intent artifact.reconciliation

theorem rendered_of_eq_ok {plan : Value} {artifact : Artifact}
    (hrender : render_configuration platform intent plan = .ok artifact) :
    Rendered platform intent plan artifact := by
  simp only [render_configuration, bind_eq_ok_iff, raise_if_eq_ok, pure_eq_ok_iff] at hrender
  obtain ⟨_, -, _, -, owned_state, howned, baseline, hbaseline, reconciliation, hreconciliation,
    _, hchecked, active, hactive, retired, hretired, _, -, _, -, ise, hise, rfl⟩ := hrender
  exact ⟨howned, ⟨baseline, hbaseline, hreconciliation⟩, hchecked,
    ⟨active, retired, hactive, hretired, rfl⟩, hise, rfl⟩

/-- Where the artifact of a device comes from. -/
inductive Source (platform : Platform) (intent : FabricIntent) (reconciliation : Reconciliation)
    (entry : String × DeviceArtifact) : Prop where
  | device (device : Device) (hdevice : device ∈ intent.devices)
      (hentry : device_artifact platform intent reconciliation device = .ok entry)
  | fusion (fusion : FusionNode) (hfusion : fusion ∈ intent.fusion_nodes.getD [])
      (hentry : fusion_artifact platform intent reconciliation fusion = .ok entry)
  | retired (reconciled : ReconciledDevice)
      (hreconciled : (entry.1, reconciled) ∈ reconciliation.devices)
      (hentry : retired_artifact entry.1 reconciled = .ok entry)

theorem source_of_active {reconciliation : Reconciliation} {active : List (String × DeviceArtifact)}
    (hactive : active_artifacts platform intent reconciliation = .ok active)
    {entry : String × DeviceArtifact} (hentry : entry ∈ active) :
    Source platform intent reconciliation entry := by
  simp only [active_artifacts, bind_eq_ok_iff, pure_eq_ok_iff] at hactive
  obtain ⟨devices, hdevices, fusions, hfusions, rfl⟩ := hactive
  obtain hmem | hmem := List.mem_append.mp (mem_of_mem_dict_of hentry)
  · obtain ⟨device, hdevice, hok⟩ := mem_of_mapM hdevices hmem
    exact .device device (mem_sortedBy.mp hdevice) hok
  · obtain ⟨fusion, hfusion, hok⟩ := mem_of_mapM hfusions hmem
    exact .fusion fusion (mem_sortedBy.mp hfusion) hok

theorem fst_of_device_artifact {reconciliation : Reconciliation} {device : Device}
    {entry : String × DeviceArtifact}
    (hok : device_artifact platform intent reconciliation device = .ok entry) :
    entry.1 = device.id := by
  simp only [device_artifact, bind_eq_ok_iff, pure_eq_ok_iff] at hok
  obtain ⟨_, -, _, -, _, -, _, -, _, -, _, -, rfl⟩ := hok
  rfl

theorem fst_of_fusion_artifact {reconciliation : Reconciliation} {fusion : FusionNode}
    {entry : String × DeviceArtifact}
    (hok : fusion_artifact platform intent reconciliation fusion = .ok entry) :
    entry.1 = fusion.id := by
  simp only [fusion_artifact, bind_eq_ok_iff, pure_eq_ok_iff] at hok
  obtain ⟨_, -, _, -, _, -, rfl⟩ := hok
  rfl

theorem fst_of_retired_artifact {device_id : String} {reconciled : ReconciledDevice}
    {entry : String × DeviceArtifact} (hok : retired_artifact device_id reconciled = .ok entry) :
    entry.1 = device_id := by
  simp only [retired_artifact, bind_eq_ok_iff, pure_eq_ok_iff] at hok
  obtain ⟨_, -, _, -, _, -, _, -, _, -, rfl⟩ := hok
  rfl

theorem source_of_mem {plan : Value} {artifact : Artifact}
    (hrendered : Rendered platform intent plan artifact) {entry : String × DeviceArtifact}
    (hentry : entry ∈ artifact.devices) :
    Source platform intent artifact.reconciliation entry := by
  obtain ⟨active, retired, hactive, hretired, heq⟩ := hrendered.devices
  obtain hmem | hmem := List.mem_append.mp (heq ▸ hentry)
  · exact source_of_active hactive hmem
  · obtain ⟨⟨device_id, reconciled⟩, hreconciled, hok⟩ := mem_of_mapM hretired hmem
    obtain rfl : entry.1 = device_id := fst_of_retired_artifact hok
    exact .retired reconciled (mem_sortedBy.mp (List.mem_filter.mp hreconciled).1) hok

/-- The phases of a node that remove what it no longer owns. -/
theorem mem_reconciliation_phase {reconciliation : Reconciliation} {device_id : String}
    {phase : PhaseBlocks} (hphase : phase ∈ reconciliation_phase reconciliation device_id) :
    ∃ reconciled, (device_id, reconciled) ∈ reconciliation.devices ∧
      phase = ⟨"multicast_reconciliation", reconciled.blocks⟩ := by
  rw [reconciliation_phase] at hphase
  split at hphase
  · rename_i reconciled hlookup
    exact ⟨reconciled, assoc.lookup_mem hlookup, List.mem_singleton.mp hphase⟩
  · cases hphase

theorem mem_phase_if_any {phase_id : String} {blocks : List Block} {phase : PhaseBlocks}
    (hphase : phase ∈ phase_if_any phase_id blocks) : blocks ≠ [] ∧ phase = ⟨phase_id, blocks⟩ := by
  rw [phase_if_any] at hphase
  split at hphase
  · cases hphase
  · rename_i hblocks
    exact ⟨fun hnil => hblocks (by rw [hnil]; rfl), List.mem_singleton.mp hphase⟩

/-- A phase of a device, by the roles and the sections that render it. -/
inductive DevicePhase (platform : Platform) (intent : FabricIntent) (reconciliation : Reconciliation)
    (device : Device) (phase : PhaseBlocks) : Prop where
  | multicast_reconciliation (reconciled : ReconciledDevice)
      (hreconciled : (device.id, reconciled) ∈ reconciliation.devices)
      (hphase : phase = ⟨"multicast_reconciliation", reconciled.blocks⟩)
  | underlay (blocks : List Block) (hblocks : _underlay_blocks platform intent device = .ok blocks)
      (hphase : phase = ⟨"underlay", blocks⟩)
  | lisp_control_plane (hrole : Role.control_plane ∈ device.roles) (blocks : List Block)
      (hblocks : _control_plane_blocks platform intent device = .ok blocks)
      (hphase : phase = ⟨"lisp_control_plane", blocks⟩)
  | lisp_edges (hrole : Role.fabric_edge ∈ device.roles) (blocks : List Block)
      (hblocks : _edge_lisp_blocks platform intent = .ok blocks)
      (hphase : phase = ⟨"lisp_edges", blocks⟩)
  | edge_overlay (hrole : Role.fabric_edge ∈ device.roles) (edge attachments pubsub : List Block)
      (hedge : _edge_overlay_blocks platform intent = .ok edge)
      (hattachments : _edge_endpoint_attachment_blocks platform intent device = .ok attachments)
      (hpubsub : Role.border ∈ device.roles ∧
          _pubsub_subscriber_blocks platform intent device = .ok pubsub ∨ pubsub = [])
      (hphase : phase = ⟨"overlay", edge ++ attachments ++ pubsub⟩)
  | border_overlay (hrole : Role.border ∈ device.roles) (vrfs pubsub dhcp : List Block)
      (hvrfs : _vrf_blocks platform intent = .ok vrfs)
      (hpubsub : _pubsub_subscriber_blocks platform intent device = .ok pubsub)
      (hdhcp : _border_local_dhcp_blocks platform intent device = .ok dhcp)
      (hphase : phase = ⟨"overlay", vrfs ++ pubsub ++ dhcp⟩)
  | multicast (blocks : List Block) (hnonempty : blocks ≠ [])
      (hblocks : _multicast_overlay_blocks platform intent device = .ok blocks)
      (hphase : phase = ⟨"multicast", blocks⟩)
  | policy_plane (blocks : List Block) (hnonempty : blocks ≠ [])
      (hblocks : _policy_plane_blocks platform intent device = .ok blocks)
      (hphase : phase = ⟨"policy_plane", blocks⟩)
  | border_handoff (hrole : Role.border ∈ device.roles) (blocks : List Block)
      (hblocks : _border_handoff_blocks platform intent device = .ok blocks)
      (hphase : phase = ⟨"border_handoff", blocks⟩)

/-- The LISP and overlay phases of a device. -/
theorem device_phase_of_overlay {reconciliation : Reconciliation} {device : Device}
    {phases : List PhaseBlocks} (hok : overlay_phases platform intent device = .ok phases)
    {phase : PhaseBlocks} (hphase : phase ∈ phases) :
    DevicePhase platform intent reconciliation device phase := by
  rw [overlay_phases] at hok
  split at hok
  · rename_i hedge_role
    simp only [bind_eq_ok_iff] at hok
    obtain ⟨lisp, hlisp, edge, hedge, attachments, hattachments, hok⟩ := hok
    have hpubsub : ∃ pubsub, (Role.border ∈ device.roles ∧
        _pubsub_subscriber_blocks platform intent device = .ok pubsub ∨ pubsub = []) ∧
        [⟨"lisp_edges", lisp⟩, ⟨"overlay", edge ++ attachments ++ pubsub⟩] = phases := by
      split at hok
      · simp only [bind_eq_ok_iff, pure_eq_ok_iff] at hok
        obtain ⟨pubsub, hpubsub, hphases⟩ := hok
        exact ⟨pubsub, .inl ⟨‹_›, hpubsub⟩, hphases⟩
      · exact ⟨[], .inr rfl, by simpa [bind_eq_ok_iff] using hok⟩
    obtain ⟨pubsub, hpubsub, rfl⟩ := hpubsub
    obtain rfl | hoverlay := List.mem_cons.mp hphase
    · exact .lisp_edges hedge_role lisp hlisp rfl
    · exact .edge_overlay hedge_role edge attachments pubsub hedge hattachments hpubsub
        (List.mem_singleton.mp hoverlay)
  · split at hok
    · rename_i hborder_role
      simp only [bind_eq_ok_iff, pure_eq_ok_iff] at hok
      obtain ⟨vrfs, hvrfs, pubsub, hpubsub, dhcp, hdhcp, rfl⟩ := hok
      exact .border_overlay hborder_role vrfs pubsub dhcp hvrfs hpubsub hdhcp
        (List.mem_singleton.mp hphase)
    · obtain rfl := pure_eq_ok_iff.mp hok
      cases hphase

theorem device_phase_of_mem {reconciliation : Reconciliation} {device : Device}
    {entry : String × DeviceArtifact}
    (hentry : device_artifact platform intent reconciliation device = .ok entry)
    {phase : PhaseBlocks} (hphase : phase ∈ entry.2.phases) :
    DevicePhase platform intent reconciliation device phase := by
  simp only [device_artifact, underlay_phase, multicast_phase, policy_plane_phase, bind_eq_ok_iff,
    pure_eq_ok_iff] at hentry
  obtain ⟨_, ⟨underlay, hunderlay, rfl⟩, control_plane, hcontrol, overlay, hoverlay, _,
    ⟨multicast, hmulticast, rfl⟩, _, ⟨policy, hpolicy, rfl⟩, handoff, hhandoff, rfl⟩ := hentry
  simp only [List.mem_append] at hphase
  obtain (((((hphase | hphase) | hphase) | hphase) | hphase) | hphase) | hphase := hphase
  · obtain ⟨reconciled, hreconciled, hphase⟩ := mem_reconciliation_phase hphase
    exact .multicast_reconciliation reconciled hreconciled hphase
  · exact .underlay underlay hunderlay (List.mem_singleton.mp hphase)
  · rw [control_plane_phase] at hcontrol
    split at hcontrol
    · simp only [bind_eq_ok_iff, pure_eq_ok_iff] at hcontrol
      obtain ⟨blocks, hblocks, rfl⟩ := hcontrol
      exact .lisp_control_plane ‹_› blocks hblocks (List.mem_singleton.mp hphase)
    · obtain rfl := pure_eq_ok_iff.mp hcontrol
      cases hphase
  · exact device_phase_of_overlay hoverlay hphase
  · obtain ⟨hnonempty, hphase⟩ := mem_phase_if_any hphase
    exact .multicast multicast hnonempty hmulticast hphase
  · obtain ⟨hnonempty, hphase⟩ := mem_phase_if_any hphase
    exact .policy_plane policy hnonempty hpolicy hphase
  · rw [border_handoff_phase] at hhandoff
    split at hhandoff
    · simp only [bind_eq_ok_iff, pure_eq_ok_iff] at hhandoff
      obtain ⟨blocks, hblocks, rfl⟩ := hhandoff
      exact .border_handoff ‹_› blocks hblocks (List.mem_singleton.mp hphase)
    · obtain rfl := pure_eq_ok_iff.mp hhandoff
      cases hphase

/-- A phase of a fusion node. -/
inductive FusionPhase (platform : Platform) (intent : FabricIntent) (reconciliation : Reconciliation)
    (fusion : FusionNode) (phase : PhaseBlocks) : Prop where
  | multicast_reconciliation (reconciled : ReconciledDevice)
      (hreconciled : (fusion.id, reconciled) ∈ reconciliation.devices)
      (hphase : phase = ⟨"multicast_reconciliation", reconciled.blocks⟩)
  | border_handoff (blocks : List Block)
      (hblocks : _fusion_handoff_blocks platform intent fusion = .ok blocks)
      (hphase : phase = ⟨"border_handoff", blocks⟩)
  | shared_services (blocks : List Block)
      (hblocks : _fusion_shared_service_blocks platform intent fusion = .ok blocks)
      (hphase : phase = ⟨"shared_services", blocks⟩)
  | multicast (blocks : List Block) (hnonempty : blocks ≠ [])
      (hblocks : _fusion_multicast_blocks platform intent fusion = .ok blocks)
      (hphase : phase = ⟨"multicast", blocks⟩)

theorem fusion_phase_of_mem {reconciliation : Reconciliation} {fusion : FusionNode}
    {entry : String × DeviceArtifact}
    (hentry : fusion_artifact platform intent reconciliation fusion = .ok entry)
    {phase : PhaseBlocks} (hphase : phase ∈ entry.2.phases) :
    FusionPhase platform intent reconciliation fusion phase := by
  simp only [fusion_artifact, bind_eq_ok_iff, pure_eq_ok_iff] at hentry
  obtain ⟨multicast, hmulticast, handoff, hhandoff, shared, hshared, rfl⟩ := hentry
  simp only [List.mem_append, List.mem_cons, List.not_mem_nil, or_false] at hphase
  obtain (hphase | hphase | hphase) | hphase := hphase
  · obtain ⟨reconciled, hreconciled, hphase⟩ := mem_reconciliation_phase hphase
    exact .multicast_reconciliation reconciled hreconciled hphase
  · exact .border_handoff handoff hhandoff hphase
  · exact .shared_services shared hshared hphase
  · obtain ⟨hnonempty, hphase⟩ := mem_phase_if_any hphase
    exact .multicast multicast hnonempty hmulticast hphase

theorem phase_of_retired {device_id : String} {reconciled : ReconciledDevice}
    {entry : String × DeviceArtifact} (hentry : retired_artifact device_id reconciled = .ok entry)
    {phase : PhaseBlocks} (hphase : phase ∈ entry.2.phases) :
    phase = ⟨"multicast_reconciliation", reconciled.blocks⟩ := by
  simp only [retired_artifact, bind_eq_ok_iff, pure_eq_ok_iff] at hentry
  obtain ⟨_, -, _, -, _, -, _, -, _, -, rfl⟩ := hentry
  exact List.mem_singleton.mp hphase

end Configuration

end orchestrator.renderer
