import SdaOrchestrator.Intent.Validate
import SdaOrchestrator.Lib.Dependency
import SdaOrchestrator.Renderer.Configuration

open python orchestrator.store

namespace orchestrator.planner

open orchestrator.intent orchestrator.reconciliation orchestrator.renderer

/-! ## The plan -/

structure Phase where
  id : String
  name : String
  depends_on : List String
  targets : List String
  gate : String
  objects : Option (List (String × Value))

structure Plan where
  intent_hash : String
  fabric_id : String
  environment : Environment
  targets : List String
  phases : List Phase
  reconciliation : Reconciliation
  reconciliation_baseline : Option (List (String × Value))
  generated_at : String
  validation : ValidationResult

def Phase.document (phase : Phase) : Value :=
  .dict (field "id" (.str phase.id) ++ field "name" (.str phase.name) ++
    field "depends_on" (texts phase.depends_on) ++ field "targets" (texts phase.targets) ++
    field "gate" (.str phase.gate) ++ optional "objects" phase.objects .dict)

def issue_document (issue : ValidationIssue) : Value :=
  .dict [("code", .str issue.code), ("path", .str issue.path), ("message", .str issue.message),
    ("severity", .str (match issue.severity with
      | .error => "error"
      | .warning => "warning"))]

/-- `validation.as_dict()`. -/
def validation_document (validation : ValidationResult) : Value :=
  .dict [("valid", .bool validation.is_valid), ("error_count", .int validation.errors.length),
    ("warning_count", .int validation.warnings.length),
    ("issues", sections issue_document validation.issues)]

def Plan.body (platform : Platform) (plan : Plan) : List (String × Value) := [
  ("schema_version", .str "1.0"), ("intent_hash", .str plan.intent_hash),
  ("fabric_id", .str plan.fabric_id), ("environment", .str plan.environment.text),
  ("targets", texts plan.targets), ("phases", sections Phase.document plan.phases),
  ("reconciliation", .dict [
    ("status", .str plan.reconciliation.status),
    ("baseline_hash", plan.reconciliation.baseline_hash),
    ("reconciliation_hash", plan.reconciliation.reconciliation_hash platform),
    ("stale_resource_count", .int plan.reconciliation.stale_resource_count)]),
  ("safety", .dict [("executable", .bool false), ("requires_approval", .bool true),
    ("requires_maintenance_window", .bool true), ("requires_fabric_lock", .bool true),
    ("requires_verified_rollback", .bool true)])] ++
  optional "reconciliation_baseline" plan.reconciliation_baseline .dict

def Plan.plan_hash (platform : Platform) (plan : Plan) : String :=
  platform.sha256_json (.dict (plan.body platform))

def Plan.document (platform : Platform) (plan : Plan) : Value :=
  .dict (plan.body platform ++ [
    ("plan_id", .str ("plan_" ++ take 16 (plan.plan_hash platform))),
    ("plan_hash", .str (plan.plan_hash platform)), ("generated_at", .str plan.generated_at),
    ("validation", validation_document plan.validation)])

/-! ## Targets -/

section Phases

variable (intent : FabricIntent)

/-- `_targets_by_role(devices, role)`. -/
def _targets_by_role (role : Role) : List String :=
  sortedTexts ((intent.devices.filter (role ∈ ·.roles)).map (·.id))

def all_devices : List String := sortedTexts (intent.devices.map (·.id))

def fusion_targets : List String := sortedTexts ((intent.fusion_nodes.getD []).map (·.id))

def reconciliation_targets (reconciliation : Reconciliation) : List String :=
  sortedTexts (reconciliation.devices.map Prod.fst)

def all_targets (reconciliation : Reconciliation) : List String :=
  sortedSet (sortedSet (all_devices intent ++ fusion_targets intent) ++
    reconciliation_targets reconciliation)

/-- `multicast.get("overlay_policies", [])`. -/
def overlay_policies (multicast : Multicast) : List OverlayPolicy :=
  multicast.overlay_policies.getD []

/-- The fusion nodes that the handoff peers in a multicast VRF name. -/
def fusion_multicast_targets (multicast : Multicast) : List String :=
  (handoff_peers_of intent).filterMap fun peer =>
    (peer.fusion_node_id.filter (· ≠ "")).filter
      fun _ => peer.vrf ∈ (overlay_policies multicast).map (·.vrf)

def multicast_targets (multicast : Multicast) : List String :=
  sortedSet ((overlay_policies multicast).flatMap (fun policy =>
    policy.segment_loopbacks.map (·.device_id)) ++ fusion_multicast_targets intent multicast)

/-- `(policy_plane.get("sxp") or {}).get("connections", [])`. -/
def sxp_connections (policy : PolicyPlane) : List SxpConnection :=
  (policy.sxp.map (·.connections)).getD []

def policy_targets (policy : PolicyPlane) : List String :=
  sortedSet (policy.enforcement_device_ids.getD [] ++ (sxp_connections policy).map (·.speaker_id))

/-! ## Phases -/

def preparation_phases (targets : List String) : List Phase := [
  { id := "precheck", name := "Read-only discovery and prechecks", depends_on := [], targets
    gate := "inventory_topology_addressing_services_and_checkpoint_ready", objects := none },
  { id := "checkpoint", name := "Create and verify device checkpoints", depends_on := ["precheck"]
    targets, gate := "checkpoint_exists_and_is_restorable", objects := none }]

/-- There is something to remove. -/
def reconciles (reconciliation : Reconciliation) : Bool :=
  reconciliation.status = "ready" && reconciliation_targets reconciliation ≠ []

def reconciliation_phases (reconciliation : Reconciliation) : List Phase :=
  if reconciles reconciliation then [{
    id := "multicast_reconciliation", name := "Remove stale workflow-owned multicast state"
    depends_on := ["checkpoint"], targets := reconciliation_targets reconciliation
    gate := "every_stale_owned_configuration_line_is_absent"
    objects := some [("stale_resources", .int reconciliation.stale_resource_count)] }]
  else []

def fabric_phases (underlay_dependency : String) : List Phase :=
  let borders := _targets_by_role intent .border
  let edges := _targets_by_role intent .fabric_edge
  [{ id := "underlay", name := "Deploy and verify IS-IS underlay"
     depends_on := [underlay_dependency], targets := all_devices intent
     gate := "expected_isis_bfd_and_mtu_pass", objects := none },
   { id := "lisp_control_plane", name := "Deploy LISP control-plane publisher/map-server roles"
     depends_on := ["underlay"], targets := _targets_by_role intent .control_plane
     gate := "map_server_and_resolver_operational", objects := none },
   { id := "lisp_edges", name := "Deploy LISP ITR/ETR fabric-edge roles"
     depends_on := ["lisp_control_plane"], targets := edges
     gate := "lisp_sessions_established_and_registrations_present", objects := none },
   { id := "overlay", name := "Deploy VRFs, L2/L3 instances, gateways, and endpoint pools"
     depends_on := ["lisp_edges"], targets := sortedSet (edges ++ borders)
     gate := "vxlan_peers_vnis_remote_eids_and_gateways_operational"
     objects := some [("virtual_networks", .int intent.virtual_networks.length),
       ("endpoint_pools", .int intent.endpoint_pools.length)] },
   { id := "border_handoff", name := "Deploy and verify border/BGP handoff"
     depends_on := ["overlay"], targets := sortedSet (borders ++ fusion_targets intent)
     gate := "expected_bgp_neighbors_and_routes_established", objects := none }]

def shared_service_phases : List Phase :=
  match intent.shared_services with
  | some shared => [{
      id := "shared_services"
      name := "Deploy and verify deny-by-default shared-service route leaking"
      depends_on := ["border_handoff"], targets := fusion_targets intent
      gate := "only_approved_service_and_consumer_prefixes_are_reachable"
      objects := some [("services", .int shared.services.length),
        ("route_leaks", .int shared.route_leaks.length)] }]
  | none => []

def multicast_phases (assurance_dependency : String) : List Phase :=
  match intent.multicast.filter (·.enabled) with
  | some multicast => [{
      id := "multicast", name := "Deploy and verify fabric multicast and rendezvous points"
      depends_on := [assurance_dependency], targets := multicast_targets intent multicast
      gate := "pim_interfaces_rp_routes_and_multicast_policy_pass"
      objects := some [("asm_virtual_networks", .int multicast.asm_virtual_networks.length),
        ("ssm_virtual_networks", .int multicast.ssm_virtual_networks.length)] }]
  | none => []

def policy_plane_phases (assurance_dependency : String) : List Phase :=
  match intent.policy_plane.filter (·.mode ≠ .none) with
  | some policy => [{
      id := "policy_plane", name := "Publish and verify ISE/SGT/SXP policy-plane intent"
      depends_on := [assurance_dependency], targets := policy_targets policy
      gate := "ise_sgt_contracts_and_sxp_sessions_match_approved_intent"
      objects := some [("security_groups", .int policy.security_groups.length),
        ("contracts", .int policy.contracts.length),
        ("sxp_connections", .int (sxp_connections policy).length),
        ("ise_write_node", .ofOption (policy.ise.bind (·.write_node_id)))] }]
  | none => []

def assurance_phases (assurance_dependency : String) : List Phase := [
  { id := "endpoint_assurance"
    name := "Run DHCP, reachability, mobility, multicast, and policy assurance"
    depends_on := [assurance_dependency], targets := all_devices intent
    gate := "synthetic_endpoint_transactions_pass", objects := none }]

def plan_phases (reconciliation : Reconciliation) : List Phase :=
  let underlay_dependency :=
    if reconciles reconciliation then "multicast_reconciliation" else "checkpoint"
  let shared_dependency := if intent.shared_services.isSome then "shared_services" else "border_handoff"
  let multicast_dependency := if multicast_enabled intent then "multicast" else shared_dependency
  let policy_dependency := if policy_enabled intent then "policy_plane" else multicast_dependency
  preparation_phases (all_targets intent reconciliation) ++ reconciliation_phases reconciliation ++
    fabric_phases intent underlay_dependency ++ shared_service_phases intent ++
    multicast_phases intent shared_dependency ++ policy_plane_phases intent multicast_dependency ++
    assurance_phases intent policy_dependency

/-! ## The order of the phases -/

/-- The ids of the phases with their dependencies, by the phases that are optional. -/
def phase_order (reconciled shared multicast policy : Bool) : List (String × List String) :=
  let after (present : Bool) (phase_id dependency : String) : String :=
    if present then phase_id else dependency
  let optional_phase (present : Bool) (phase_id dependency : String) : List (String × List String) :=
    if present then [(phase_id, [dependency])] else []
  let underlay_dependency := after reconciled "multicast_reconciliation" "checkpoint"
  let shared_dependency := after shared "shared_services" "border_handoff"
  let multicast_dependency := after multicast "multicast" shared_dependency
  let policy_dependency := after policy "policy_plane" multicast_dependency
  [("precheck", []), ("checkpoint", ["precheck"])] ++
    optional_phase reconciled "multicast_reconciliation" "checkpoint" ++
    [("underlay", [underlay_dependency]), ("lisp_control_plane", ["underlay"]),
      ("lisp_edges", ["lisp_control_plane"]), ("overlay", ["lisp_edges"]),
      ("border_handoff", ["overlay"])] ++
    optional_phase shared "shared_services" "border_handoff" ++
    optional_phase multicast "multicast" shared_dependency ++
    optional_phase policy "policy_plane" multicast_dependency ++
    [("endpoint_assurance", [policy_dependency])]

theorem phase_order_in_order : ∀ reconciled shared multicast policy,
    dependency.InOrder Prod.fst Prod.snd [] (phase_order reconciled shared multicast policy) := by
  decide +kernel

theorem plan_phases_order (reconciliation : Reconciliation) :
    (plan_phases intent reconciliation).map (fun phase => (phase.id, phase.depends_on)) =
      phase_order (reconciles reconciliation) intent.shared_services.isSome (multicast_enabled intent)
        (policy_enabled intent) := by
  have hreconciled : (reconciliation_phases reconciliation).map
      (fun phase => (phase.id, phase.depends_on)) =
        if reconciles reconciliation then [("multicast_reconciliation", ["checkpoint"])] else [] := by
    unfold reconciliation_phases
    split <;> rfl
  have hshared : (shared_service_phases intent).map (fun phase => (phase.id, phase.depends_on)) =
      if intent.shared_services.isSome then [("shared_services", ["border_handoff"])] else [] := by
    unfold shared_service_phases
    cases intent.shared_services <;> rfl
  have hmulticast (dependency : String) : (multicast_phases intent dependency).map
      (fun phase => (phase.id, phase.depends_on)) =
        if multicast_enabled intent then [("multicast", [dependency])] else [] := by
    unfold multicast_phases multicast_enabled
    cases intent.multicast with
    | none => rfl
    | some multicast => cases henabled : multicast.enabled <;> simp [Option.filter, henabled]
  have hpolicy (dependency : String) : (policy_plane_phases intent dependency).map
      (fun phase => (phase.id, phase.depends_on)) =
        if policy_enabled intent then [("policy_plane", [dependency])] else [] := by
    unfold policy_plane_phases policy_enabled
    cases intent.policy_plane with
    | none => rfl
    | some policy => by_cases hmode : policy.mode = .none <;> simp [Option.filter, hmode]
  simp only [plan_phases, List.map_append, hreconciled, hshared, hmulticast, hpolicy]
  rfl

/-- Every phase comes once and after the phases that it depends on. -/
theorem plan_phases_in_order (reconciliation : Reconciliation) :
    dependency.InOrder Phase.id Phase.depends_on [] (plan_phases intent reconciliation) := by
  have horder := phase_order_in_order (reconciles reconciliation) intent.shared_services.isSome
    (multicast_enabled intent) (policy_enabled intent)
  rw [← plan_phases_order, dependency.in_order_map] at horder
  exact horder

/-! ## create_plan -/

def PlanValidationError : Raised :=
  ⟨"PlanValidationError", "Fabric intent did not pass validation"⟩

/-- `create_plan(intent, reconciliation_baseline)`, at the time that the clock reads. -/
def create_plan (platform : Platform) (texts : Texts)
    (reconciliation_baseline : Option (List (String × Value))) (generated_at : String) : Py Plan := do
  let validation := validate_intent texts intent
  raise_if (!validation.is_valid) PlanValidationError
  let current_owned_state ← build_multicast_owned_state intent platform
  let reconciliation ← build_multicast_reconciliation platform
    (reconciliation_baseline.map .dict) (current_owned_state.document platform)
  return {
    intent_hash := platform.sha256_json intent.document
    fabric_id := intent.fabric.id
    environment := intent.metadata.environment
    targets := all_targets intent reconciliation
    phases := plan_phases intent reconciliation
    reconciliation, reconciliation_baseline, generated_at, validation }

end Phases

end orchestrator.planner
