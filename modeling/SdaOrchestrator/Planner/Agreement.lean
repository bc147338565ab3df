import SdaOrchestrator.Gates.GatePlan
import SdaOrchestrator.Planner.Plan
import SdaOrchestrator.Worker.Acceptance

open python python.Value orchestrator.store

namespace orchestrator.planner

open orchestrator.intent orchestrator.reconciliation orchestrator.renderer orchestrator.gates
  orchestrator.worker

/-! ## The plan and the artifact of one intent -/

/-- The phase stands once in the plan, after the phases that it depends on. -/
def Plan.ListsOnce (plan : Plan) (phase_id : String) : Prop :=
  ∃ before phase after, plan.phases = before ++ phase :: after ∧ phase.id = phase_id ∧
    (∀ other ∈ before ++ after, other.id ≠ phase_id) ∧
    ∀ dependency ∈ phase.depends_on, dependency ∈ before.map (·.id)

/-- The device is a target of the phase. -/
def Plan.Approves (plan : Plan) (phase_id device_id : String) : Prop :=
  ∃ phase ∈ plan.phases, phase.id = phase_id ∧ device_id ∈ phase.targets

/-- The phases of the plan that the worker executes. -/
def Plan.executed_phases (plan : Plan) : List String :=
  (plan.phases.map (·.id)).filter fun phase_id =>
    phase_id ∉ ["precheck", "checkpoint", "endpoint_assurance"]

/-- `artifact["devices"]`. -/
def artifact_devices (artifact : Artifact) : Value :=
  .dict (artifact.devices.map fun (device_id, device) => (device_id, device.document))

/-- A node has blocks in a phase. -/
def HasBlocks (artifact : Artifact) (device_id : String) (phase : PhaseBlocks) : Prop :=
  phase.blocks ≠ [] ∧ ∃ device, (device_id, device) ∈ artifact.devices ∧ phase ∈ device.phases

/-- The VRFs with a multicast policy. -/
def multicast_vrfs (intent : FabricIntent) : List String := (policies_of intent).map (·.vrf)

/-- No multicast handoff without a fusion node is taken for one of a node called `None`:
if there is such a node, another multicast handoff names it. -/
def NamedFusions (intent : FabricIntent) : Prop :=
  native_multicast intent → "None" ∈ (intent.fusion_nodes.getD []).map (·.id) →
    (∃ peer ∈ handoff_peers_of intent,
      peer.fusion_node_id = none ∧ peer.vrf ∈ multicast_vrfs intent) →
    ∃ peer ∈ handoff_peers_of intent,
      peer.fusion_node_id = some "None" ∧ peer.vrf ∈ multicast_vrfs intent

/-- Plan, artifact and gates agree, for the reader and for the worker. -/
structure Agrees (platform : Platform) (intent : FabricIntent) (plan : Plan) (artifact : Artifact) :
    Prop where
  listed : ∀ device_id phase, HasBlocks artifact device_id phase → plan.ListsOnce phase.phase_id
  approved : ∀ device_id phase, HasBlocks artifact device_id phase →
    plan.Approves phase.phase_id device_id
  ordered : ordered_phases (plan.document platform) = .ok plan.executed_phases
  executed : ∀ device_id phase, HasBlocks artifact device_id phase →
    phase.phase_id ∈ plan.executed_phases ∧
      device_blocks (artifact_devices artifact) phase.phase_id device_id =
        .ok (phase.blocks.map Block.document)
  touched : ∀ phase_id ∈ plan.executed_phases, ∀ device_id blocks,
    device_blocks (artifact_devices artifact) phase_id device_id = .ok blocks → blocks ≠ [] →
      plan.Approves phase_id device_id
  gates : ∀ gates, build_gate_plan intent (some artifact) = .ok gates → ∀ gate ∈ gates,
    gate.phase_id ∈ "precheck" :: plan.executed_phases ∧
      ∀ devices, device_map intent.document (artifact.document platform) = .ok devices →
        gate.device_id ∈ devices.map Prod.fst

section Agreement

variable {platform : Platform} {texts : Texts} {intent : FabricIntent} {plan : Plan}
  {artifact : Artifact} {baseline : Option (List (String × Value))} {generated_at : String}

/-- What `create_plan` returns, part by part. -/
structure Planned (platform : Platform) (texts : Texts) (intent : FabricIntent)
    (baseline : Option (List (String × Value))) (plan : Plan) : Prop where
  valid : (validate_intent texts intent).is_valid
  planned_baseline : plan.reconciliation_baseline = baseline
  reconciliation : ∃ owned, build_multicast_owned_state intent platform = .ok owned ∧
    build_multicast_reconciliation platform (baseline.map .dict) (owned.document platform) =
      .ok plan.reconciliation
  phases : plan.phases = plan_phases intent plan.reconciliation

theorem planned_of_eq_ok
    (hplan : create_plan intent platform texts baseline generated_at = .ok plan) :
    Planned platform texts intent baseline plan := by
  simp only [create_plan, bind_eq_ok_iff, raise_if_eq_ok, Bool.not_eq_false', pure_eq_ok_iff] at hplan
  obtain ⟨_, hvalid, owned, howned, reconciliation, hreconciliation, rfl⟩ := hplan
  exact ⟨hvalid, rfl, ⟨owned, howned, hreconciliation⟩, rfl⟩

/-- The renderer reads the baseline that the plan was made with. -/
theorem planned_baseline_document (platform : Platform) (plan : Plan) :
    planned_baseline (plan.document platform) = .ok (plan.reconciliation_baseline.map .dict) := by
  have hget : (plan.document platform).get "reconciliation_baseline" =
      .ok (plan.reconciliation_baseline.map .dict) := by
    simp [Plan.document, Plan.body, Value.get, assoc.lookup_append, lookup_optional, assoc.lookup]
  rw [planned_baseline, hget]
  cases plan.reconciliation_baseline <;> rfl

/-- Plan and artifact hold the same reconciliation. -/
theorem reconciliation_eq (hplanned : Planned platform texts intent baseline plan)
    (hrendered : Rendered platform intent (plan.document platform) artifact) :
    artifact.reconciliation = plan.reconciliation := by
  obtain ⟨owned, howned, hplan⟩ := hplanned.reconciliation
  obtain ⟨found, hfound, hartifact⟩ := hrendered.reconciliation
  obtain rfl := Except.ok.inj (howned.symm.trans hrendered.owned_state)
  rw [planned_baseline_document, hplanned.planned_baseline] at hfound
  obtain rfl := Except.ok.inj hfound
  exact Except.ok.inj (hartifact.symm.trans hplan)

/-! ## The phases of the plan -/

theorem Plan.Approves.lists_once (hplanned : Planned platform texts intent baseline plan)
    {phase_id device_id : String} (happroves : plan.Approves phase_id device_id) :
    plan.ListsOnce phase_id := by
  obtain ⟨phase, hphase, rfl, -⟩ := happroves
  have horder := plan_phases_in_order intent plan.reconciliation
  rw [← hplanned.phases] at horder
  obtain ⟨before, after, hsplit, hother, hdepends⟩ := horder.split hphase
  exact ⟨before, phase, after, hsplit, rfl, hother, hdepends⟩

theorem target_of_role {role : Role} {device : Device} (hdevice : device ∈ intent.devices)
    (hrole : role ∈ device.roles) : device.id ∈ _targets_by_role intent role := by
  refine mem_sortedTexts.mpr (List.mem_map_of_mem ?_)
  exact List.mem_filter.mpr ⟨hdevice, decide_eq_true hrole⟩

theorem exists_multicast_of_native (hnative : native_multicast intent) :
    ∃ multicast, intent.multicast = some multicast ∧ multicast.enabled ∧
      ∀ policy, policy ∈ policies_of intent ↔ policy ∈ overlay_policies multicast := by
  unfold native_multicast at hnative
  cases hmulticast : intent.multicast with
  | none =>
    rw [hmulticast] at hnative
    cases hnative
  | some multicast =>
    rw [hmulticast, Option.any_some, Bool.and_eq_true] at hnative
    refine ⟨multicast, rfl, hnative.1, fun policy => ?_⟩
    rw [policies_of, mem_sortedBy, hmulticast]
    rfl

/-- Multicast blocks are rendered for a device with a segment loopback. -/
theorem policy_of_multicast_blocks {device : Device} {blocks : List Block}
    (hok : _multicast_overlay_blocks platform intent device = .ok blocks) (hblocks : blocks ≠ []) :
    native_multicast intent ∧ ∃ policy ∈ policies_of intent,
      device.id ∈ policy.segment_loopbacks.map (·.device_id) := by
  rw [_multicast_overlay_blocks] at hok
  split at hok
  · rename_i hnative
    obtain ⟨locator, -, hok⟩ := bind_eq_ok_iff.mp hok
    obtain ⟨block, hblock⟩ := List.exists_mem_of_ne_nil blocks hblocks
    obtain ⟨policy, hpolicy, found, hfound, hmem⟩ := mem_of_collect hok hblock
    refine ⟨hnative, policy, hpolicy, ?_⟩
    rw [overlay_policy_blocks] at hfound
    split at hfound
    · obtain rfl := pure_eq_ok_iff.mp hfound
      cases hmem
    · rename_i loopback hloopback
      have hdevice := List.find?_some hloopback
      exact List.mem_map.mpr ⟨loopback, List.mem_of_find?_eq_some hloopback, of_decide_eq_true hdevice⟩
  · exact absurd (pure_eq_ok_iff.mp hok).symm hblocks

/-- Policy-plane blocks are rendered where a policy is enforced or spoken. -/
theorem target_of_policy_blocks {device : Device} {blocks : List Block}
    (hok : _policy_plane_blocks platform intent device = .ok blocks) (hblocks : blocks ≠ []) :
    ∃ policy, intent.policy_plane.filter (·.mode ≠ .none) = some policy ∧
      device.id ∈ policy_targets policy := by
  rw [_policy_plane_blocks] at hok
  split at hok
  · exact absurd (pure_eq_ok_iff.mp hok).symm hblocks
  rename_i policy hpolicy
  simp only [bind_eq_ok_iff, pure_eq_ok_iff] at hok
  obtain ⟨enforcement, henforcement, sxp, hsxp, rfl⟩ := hok
  refine ⟨policy, hpolicy, ?_⟩
  rw [policy_targets, mem_sortedSet, List.mem_append]
  by_cases henforced : device.id ∈ policy.enforcement_device_ids.getD []
  · exact .inl henforced
  · rw [enforcement_blocks, if_neg henforced] at henforcement
    obtain rfl := pure_eq_ok_iff.mp henforcement
    rw [sxp_blocks] at hsxp
    split at hsxp
    · obtain rfl := pure_eq_ok_iff.mp hsxp
      exact absurd rfl hblocks
    · rename_i hconnections
      rw [List.isEmpty_iff] at hconnections
      obtain ⟨connection, hconnection⟩ := List.exists_mem_of_ne_nil _ hconnections
      obtain ⟨hlisted, hspeaker⟩ := List.mem_filter.mp (mem_sortedBy.mp hconnection)
      exact .inr (List.mem_map.mpr ⟨connection, hlisted, of_decide_eq_true hspeaker⟩)

theorem shared_of_blocks {fusion : FusionNode} {blocks : List Block}
    (hok : _fusion_shared_service_blocks platform intent fusion = .ok blocks) (hblocks : blocks ≠ []) :
    intent.shared_services.isSome := by
  rw [_fusion_shared_service_blocks] at hok
  split at hok
  · exact absurd (pure_eq_ok_iff.mp hok).symm hblocks
  · rename_i shared hshared
    rw [hshared]
    rfl

/-- Multicast blocks are rendered for a fusion node with a handoff in a multicast VRF,
where a handoff without a node counts as one of the node `None`. -/
theorem fusion_multicast_blocks_iff {fusion : FusionNode} {blocks : List Block}
    (hok : _fusion_multicast_blocks platform intent fusion = .ok blocks) :
    blocks ≠ [] ↔ native_multicast intent ∧ ∃ peer ∈ handoff_peers_of intent,
      peer.fusion_node_id.getD "None" = fusion.id ∧ peer.vrf ∈ multicast_vrfs intent := by
  rw [_fusion_multicast_blocks] at hok
  split at hok
  · rename_i hnative
    constructor
    · intro hblocks
      obtain ⟨block, hblock⟩ := List.exists_mem_of_ne_nil blocks hblocks
      obtain ⟨policy, hpolicy, found, hfound, hmem⟩ := mem_of_collect hok hblock
      simp only [fusion_policy_blocks, bind_eq_ok_iff] at hfound
      obtain ⟨_, -, hfound⟩ := hfound
      split at hfound
      · obtain rfl := pure_eq_ok_iff.mp hfound
        cases hmem
      · rename_i hpeers
        obtain ⟨peer, hpeer⟩ := List.exists_mem_of_ne_nil _ hpeers
        obtain ⟨hlisted, hboth⟩ := List.mem_filter.mp (mem_sortedBy.mp hpeer)
        rw [Bool.and_eq_true, decide_eq_true_eq, decide_eq_true_eq] at hboth
        exact ⟨hnative, peer, hlisted, hboth.1, hboth.2 ▸ List.mem_map_of_mem hpolicy⟩
    · rintro ⟨-, peer, hpeer, hfusion, hvrf⟩
      obtain ⟨policy, hpolicy, hpolicy_vrf⟩ := List.mem_map.mp hvrf
      obtain ⟨found, hfound, hsub⟩ := exists_of_collect hok hpolicy
      simp only [fusion_policy_blocks, bind_eq_ok_iff] at hfound
      obtain ⟨_, -, hfound⟩ := hfound
      have hmem : peer ∈ fusion_peers intent fusion policy.vrf := by
        refine mem_sortedBy.mpr (List.mem_filter.mpr ⟨hpeer, ?_⟩)
        simp [hfusion, hpolicy_vrf]
      rw [if_neg (List.ne_nil_of_mem hmem)] at hfound
      simp only [bind_eq_ok_iff, pure_eq_ok_iff] at hfound
      obtain ⟨commands, -, rfl⟩ := hfound
      exact List.ne_nil_of_mem (hsub _ List.mem_cons_self)
  · rename_i hnative
    obtain rfl := pure_eq_ok_iff.mp hok
    simp [hnative]

section Parts

variable {phase_id device_id : String} {phase : PhaseBlocks}
  (hplanned : Planned platform texts intent baseline plan)
include hplanned

/-- A phase in a part of the plan is in the plan. -/
theorem approves_of_part {part : List Phase}
    (hsub : ∀ phase ∈ part, phase ∈ plan_phases intent plan.reconciliation)
    (hpart : ∃ phase ∈ part, phase.id = phase_id ∧ device_id ∈ phase.targets) :
    plan.Approves phase_id device_id := by
  obtain ⟨phase, hphase, hid, htarget⟩ := hpart
  exact ⟨phase, hplanned.phases ▸ hsub phase hphase, hid, htarget⟩

/-- The same for a part that depends on some phase. -/
theorem approves_of_dependent {part : String → List Phase}
    (hsub : ∃ dependency, ∀ phase ∈ part dependency,
      phase ∈ plan_phases intent plan.reconciliation)
    (hpart : ∀ dependency, ∃ phase ∈ part dependency, phase.id = phase_id ∧
      device_id ∈ phase.targets) : plan.Approves phase_id device_id := by
  obtain ⟨dependency, hsub⟩ := hsub
  exact approves_of_part hplanned hsub (hpart dependency)

theorem approves_fabric (hpart : ∀ dependency, ∃ phase ∈ fabric_phases intent dependency,
    phase.id = phase_id ∧ device_id ∈ phase.targets) : plan.Approves phase_id device_id := by
  let underlay_dependency :=
    if reconciles plan.reconciliation then "multicast_reconciliation" else "checkpoint"
  refine approves_of_dependent hplanned ⟨underlay_dependency, fun phase hphase => ?_⟩ hpart
  simp only [plan_phases, List.mem_append]
  exact .inl (.inl (.inl (.inl (.inr hphase))))

/-- What is to be removed is removed from the targets of its phase. -/
theorem approves_reconciliation
    (hdevice : device_id ∈ plan.reconciliation.devices.map Prod.fst) :
    plan.Approves "multicast_reconciliation" device_id := by
  have htarget : device_id ∈ reconciliation_targets plan.reconciliation :=
    mem_sortedBy.mpr hdevice
  have hreconciles : reconciles plan.reconciliation := by
    cases hreconciliation : plan.reconciliation with
    | baseline_missing =>
      rw [hreconciliation] at hdevice
      cases hdevice
    | ready delta =>
      rw [hreconciliation] at htarget
      simpa [reconciles, Reconciliation.status] using List.ne_nil_of_mem htarget
  have hsub : ∀ phase ∈ reconciliation_phases plan.reconciliation,
      phase ∈ plan_phases intent plan.reconciliation := by
    intro phase hphase
    simp only [plan_phases, List.mem_append]
    exact .inl (.inl (.inl (.inl (.inl (.inr hphase)))))
  apply approves_of_part hplanned hsub
  rw [reconciliation_phases, if_pos hreconciles]
  exact ⟨_, List.mem_singleton_self _, rfl, htarget⟩

theorem approves_shared (hshared : intent.shared_services.isSome)
    (htarget : device_id ∈ fusion_targets intent) : plan.Approves "shared_services" device_id := by
  obtain ⟨shared, hshared⟩ := Option.isSome_iff_exists.mp hshared
  have hsub : ∀ phase ∈ shared_service_phases intent,
      phase ∈ plan_phases intent plan.reconciliation := by
    intro phase hphase
    simp only [plan_phases, List.mem_append]
    exact .inl (.inl (.inl (.inr hphase)))
  apply approves_of_part hplanned hsub
  rw [shared_service_phases, hshared]
  exact ⟨_, List.mem_singleton_self _, rfl, htarget⟩

theorem approves_multicast {multicast : Multicast} (hmulticast : intent.multicast = some multicast)
    (henabled : multicast.enabled) (htarget : device_id ∈ multicast_targets intent multicast) :
    plan.Approves "multicast" device_id := by
  have hfilter : intent.multicast.filter (·.enabled) = some multicast := by
    rw [hmulticast, Option.filter_some, if_pos henabled]
  have hpart (dependency : String) : ∃ phase ∈ multicast_phases intent dependency,
      phase.id = "multicast" ∧ device_id ∈ phase.targets := by
    rw [multicast_phases, hfilter]
    exact ⟨_, List.mem_singleton_self _, rfl, htarget⟩
  let shared_dependency :=
    if intent.shared_services.isSome then "shared_services" else "border_handoff"
  refine approves_of_dependent hplanned ⟨shared_dependency, fun phase hphase => ?_⟩ hpart
  simp only [plan_phases, List.mem_append]
  exact .inl (.inl (.inr hphase))

theorem approves_policy_plane {policy : PolicyPlane}
    (hpolicy : intent.policy_plane.filter (·.mode ≠ .none) = some policy)
    (htarget : device_id ∈ policy_targets policy) : plan.Approves "policy_plane" device_id := by
  have hpart (dependency : String) : ∃ phase ∈ policy_plane_phases intent dependency,
      phase.id = "policy_plane" ∧ device_id ∈ phase.targets := by
    rw [policy_plane_phases, hpolicy]
    exact ⟨_, List.mem_singleton_self _, rfl, htarget⟩
  let shared_dependency :=
    if intent.shared_services.isSome then "shared_services" else "border_handoff"
  let multicast_dependency := if multicast_enabled intent then "multicast" else shared_dependency
  refine approves_of_dependent hplanned ⟨multicast_dependency, fun phase hphase => ?_⟩ hpart
  simp only [plan_phases, List.mem_append]
  exact .inl (.inr hphase)

/-- A device that has blocks in a phase is a target of the phase. -/
theorem approves_device {device : Device} (hdevice : device ∈ intent.devices) {phase : PhaseBlocks}
    (hphase : DevicePhase platform intent plan.reconciliation device phase)
    (hblocks : phase.blocks ≠ []) : plan.Approves phase.phase_id device.id := by
  cases hphase with
  | multicast_reconciliation reconciled hreconciled heq =>
    subst heq
    exact approves_reconciliation hplanned (List.mem_map_of_mem hreconciled)
  | underlay blocks hrendered heq =>
    subst heq
    have htarget : device.id ∈ all_devices intent :=
      mem_sortedTexts.mpr (List.mem_map_of_mem hdevice)
    exact approves_fabric hplanned fun dependency => by simp [fabric_phases, htarget]
  | lisp_control_plane hrole blocks hrendered heq =>
    subst heq
    have htarget := target_of_role hdevice hrole
    exact approves_fabric hplanned fun dependency => by simp [fabric_phases, htarget]
  | lisp_edges hrole blocks hrendered heq =>
    subst heq
    have htarget := target_of_role hdevice hrole
    exact approves_fabric hplanned fun dependency => by simp [fabric_phases, htarget]
  | edge_overlay hrole edge attachments pubsub hedge hattachments hpubsub heq =>
    subst heq
    have htarget := target_of_role hdevice hrole
    exact approves_fabric hplanned fun dependency => by simp [fabric_phases, htarget]
  | border_overlay hrole vrfs pubsub dhcp hvrfs hpubsub hdhcp heq =>
    subst heq
    have htarget := target_of_role hdevice hrole
    exact approves_fabric hplanned fun dependency => by simp [fabric_phases, htarget]
  | multicast blocks hnonempty hrendered heq =>
    subst heq
    obtain ⟨hnative, policy, hpolicy, hloopback⟩ := policy_of_multicast_blocks hrendered hnonempty
    obtain ⟨multicast, hmulticast, henabled, hpolicies⟩ := exists_multicast_of_native hnative
    apply approves_multicast hplanned hmulticast henabled
    rw [multicast_targets, mem_sortedSet, List.mem_append]
    exact .inl (List.mem_flatMap.mpr ⟨policy, (hpolicies policy).mp hpolicy, hloopback⟩)
  | policy_plane blocks hnonempty hrendered heq =>
    subst heq
    obtain ⟨policy, hpolicy, htarget⟩ := target_of_policy_blocks hrendered hnonempty
    exact approves_policy_plane hplanned hpolicy htarget
  | border_handoff hrole blocks hrendered heq =>
    subst heq
    have htarget := target_of_role hdevice hrole
    exact approves_fabric hplanned fun dependency => by simp [fabric_phases, htarget]

/-- A fusion node that has blocks in a phase is a target of the phase. -/
theorem approves_fusion (hnamed : NamedFusions intent) {fusion : FusionNode}
    (hfusion : fusion ∈ intent.fusion_nodes.getD []) (hid : fusion.id ≠ "") {phase : PhaseBlocks}
    (hphase : FusionPhase platform intent plan.reconciliation fusion phase)
    (hblocks : phase.blocks ≠ []) : plan.Approves phase.phase_id fusion.id := by
  have htarget : fusion.id ∈ fusion_targets intent :=
    mem_sortedTexts.mpr (List.mem_map_of_mem hfusion)
  cases hphase with
  | multicast_reconciliation reconciled hreconciled heq =>
    subst heq
    exact approves_reconciliation hplanned (List.mem_map_of_mem hreconciled)
  | border_handoff blocks hrendered heq =>
    subst heq
    exact approves_fabric hplanned fun dependency => by simp [fabric_phases, htarget]
  | shared_services blocks hrendered heq =>
    subst heq
    exact approves_shared hplanned (shared_of_blocks hrendered hblocks) htarget
  | multicast blocks hnonempty hrendered heq =>
    subst heq
    obtain ⟨hnative, peer, hpeer, hnode, hvrf⟩ := (fusion_multicast_blocks_iff hrendered).mp hnonempty
    obtain ⟨multicast, hmulticast, henabled, hpolicies⟩ := exists_multicast_of_native hnative
    -- the handoff names the node, or the node is called `None` and another handoff names it
    have hnames : ∃ peer ∈ handoff_peers_of intent,
        peer.fusion_node_id = some fusion.id ∧ peer.vrf ∈ multicast_vrfs intent := by
      cases hsome : peer.fusion_node_id with
      | some named =>
        rw [hsome] at hnode
        exact ⟨peer, hpeer, hsome.trans (congrArg some hnode), hvrf⟩
      | none =>
        rw [hsome] at hnode
        have hnone : fusion.id = "None" := hnode.symm
        rw [hnone]
        exact hnamed hnative (hnone ▸ List.mem_map_of_mem hfusion) ⟨peer, hpeer, hsome, hvrf⟩
    obtain ⟨named, hmem, hfusion_node, hnamed_vrf⟩ := hnames
    obtain ⟨policy, hpolicy, hpolicy_vrf⟩ := List.mem_map.mp hnamed_vrf
    have hlisted : policy.vrf ∈ (overlay_policies multicast).map (·.vrf) :=
      List.mem_map_of_mem ((hpolicies policy).mp hpolicy)
    rw [hpolicy_vrf] at hlisted
    apply approves_multicast hplanned hmulticast henabled
    rw [multicast_targets, mem_sortedSet, List.mem_append]
    refine .inr (List.mem_filterMap.mpr ⟨named, hmem, ?_⟩)
    simp [hfusion_node, hid, hlisted]

/-- Every node that has blocks in a phase is a target of the phase. -/
theorem approves_of_blocks (hnamed : NamedFusions intent)
    (hrendered : Rendered platform intent (plan.document platform) artifact)
    (hblocks : HasBlocks artifact device_id phase) : plan.Approves phase.phase_id device_id := by
  obtain ⟨hnonempty, device, hentry, hphase⟩ := hblocks
  have haccepted := accepted_of_is_valid hplanned.valid
  have hsource := source_of_mem hrendered hentry
  rw [reconciliation_eq hplanned hrendered] at hsource
  cases hsource with
  | device found hdevice hok =>
    obtain rfl : device_id = found.id := fst_of_device_artifact hok
    exact approves_device hplanned hdevice (device_phase_of_mem hok hphase) hnonempty
  | fusion fusion hfusion hok =>
    obtain rfl : device_id = fusion.id := fst_of_fusion_artifact hok
    have hid := haccepted.fusion_id_ne_empty hfusion
    exact approves_fusion hplanned hnamed hfusion hid (fusion_phase_of_mem hok hphase) hnonempty
  | retired reconciled hreconciled hok =>
    obtain rfl := phase_of_retired hok hphase
    exact approves_reconciliation hplanned (List.mem_map_of_mem hreconciled)

end Parts

end Agreement

end orchestrator.planner
