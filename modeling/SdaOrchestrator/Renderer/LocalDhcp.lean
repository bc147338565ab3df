import SdaOrchestrator.Intent.Validate
import SdaOrchestrator.Renderer.Configuration
import SdaOrchestrator.Store.Cpython

open python ipaddress orchestrator.store orchestrator.reconciliation

namespace orchestrator.renderer

open orchestrator.intent

/-! ## The definitions of DHCP pools -/

/-- The block is named as one that defines a DHCP pool. -/
def is_local_dhcp (block : Block) : Bool := startswith block.block_id "local_dhcp_"

/-- The blocks of a device that define the DHCP pool of an endpoint pool. -/
def DeviceArtifact.dhcp_blocks (device : DeviceArtifact) (pool_id : String) : List Block :=
  (device.phases.flatMap PhaseBlocks.blocks).filter (·.block_id = "local_dhcp_" ++ pool_id)

/-- The definitions of the DHCP pool of an endpoint pool, with the devices that they are on. -/
def Artifact.dhcp_definitions (artifact : Artifact) (pool_id : String) : List (String × Block) :=
  artifact.devices.flatMap fun entry => (entry.2.dhcp_blocks pool_id).map (entry.1, ·)

/-- The pool is defined once, and on its server. -/
def Served (platform : Platform) (artifact : Artifact) (pool : EndpointPool) (server : String) : Prop :=
  ∃ block, artifact.dhcp_definitions pool.id = [(server, block)] ∧
    "ip dhcp pool SDA-DHCP-" ++ short_digest platform pool.id ∈ block.commands

/-! ## Blocks that define no DHCP pool -/

def NoDhcp (blocks : List Block) : Prop := ∀ block ∈ blocks, is_local_dhcp block = false

@[simp] theorem noDhcp_nil : NoDhcp [] := nofun

@[simp] theorem noDhcp_cons {block : Block} {rest : List Block} :
    NoDhcp (block :: rest) ↔ is_local_dhcp block = false ∧ NoDhcp rest := List.forall_mem_cons

@[simp] theorem noDhcp_append {first second : List Block} :
    NoDhcp (first ++ second) ↔ NoDhcp first ∧ NoDhcp second := List.forall_mem_append

@[simp] theorem is_local_dhcp_block {platform : Platform} {block_id : String} {commands secret_refs : List String} :
    is_local_dhcp (_block platform block_id commands secret_refs) =
      "local_dhcp_".toList.isPrefixOf block_id.toList := by
  rw [is_local_dhcp, startswith, chars_eq_toList, chars_eq_toList]
  rfl

@[simp] theorem is_local_dhcp_plain {platform : Platform} {block_id : String} {commands : List String} :
    is_local_dhcp (plain_block platform block_id commands) = "local_dhcp_".toList.isPrefixOf block_id.toList :=
  is_local_dhcp_block

theorem noDhcp_map {α : Type*} {items : List α} {f : α → Block} (hbody : ∀ item, is_local_dhcp (f item) = false) :
    NoDhcp (items.map f) := by
  intro block hblock
  obtain ⟨item, -, rfl⟩ := List.mem_map.mp hblock
  exact hbody item

theorem noDhcp_collect {α : Type} {items : List α} {body : α → Py (List Block)} {blocks : List Block}
    (hok : collect items body = .ok blocks) (hbody : ∀ item found, body item = .ok found → NoDhcp found) :
    NoDhcp blocks := by
  intro block hblock
  obtain ⟨item, -, found, hfound, hmem⟩ := mem_of_collect hok hblock
  exact hbody item found hfound block hmem

theorem noDhcp_mapM {α : Type} {items : List α} {body : α → Py Block} {blocks : List Block}
    (hok : items.mapM body = .ok blocks) (hbody : ∀ item block, body item = .ok block → is_local_dhcp block = false) :
    NoDhcp blocks := by
  intro block hblock
  obtain ⟨item, -, hitem⟩ := mem_of_mapM hok hblock
  exact hbody item block hitem

section Functions

variable {platform : Platform} {intent : FabricIntent} {device : Device} {blocks : List Block}

theorem noDhcp_underlay (hok : _underlay_blocks platform intent device = .ok blocks) : NoDhcp blocks := by
  simp only [_underlay_blocks, system_block, loopback0_block, router_isis_block, bind_eq_ok_iff, pure_eq_ok_iff] at hok
  obtain ⟨area_tag, -, area, -, _, ⟨⟩, _, ⟨_, -, rfl⟩, _, ⟨_, -, rfl⟩, links, hlinks, rfl⟩ := hok
  have hrp : NoDhcp (rp_blocks platform intent area_tag device) := by
    unfold rp_blocks
    split
    · exact noDhcp_nil
    · split
      · dsimp only
        split
        all_goals simp [List.isPrefixOf]
      · exact noDhcp_nil
  have hlink : NoDhcp links := by
    refine noDhcp_collect hlinks fun link found hfound => ?_
    unfold link_block at hfound
    split at hfound
    · obtain rfl := pure_eq_ok_iff.mp hfound
      exact noDhcp_nil
    · simp only [bind_eq_ok_iff] at hfound
      obtain ⟨_, -, _, -, _, -, _, -, hfound⟩ := hfound
      split at hfound
      all_goals
        simp only [bind_eq_ok_iff, pure_eq_ok_iff] at hfound
      · obtain ⟨_, -, _, -, _, -, _, -, _, -, rfl⟩ := hfound
        simp [List.isPrefixOf]
      · obtain ⟨_, -, _, -, rfl⟩ := hfound
        simp [List.isPrefixOf]
  simp [hrp, hlink, List.isPrefixOf]

theorem noDhcp_locator {block : Block} (hok : _locator_block platform intent = .ok block) :
    is_local_dhcp block = false := by
  simp only [_locator_block, bind_eq_ok_iff, pure_eq_ok_iff] at hok
  obtain ⟨_, -, rfl⟩ := hok
  simp [List.isPrefixOf]

theorem noDhcp_control_plane (hok : _control_plane_blocks platform intent device = .ok blocks) : NoDhcp blocks := by
  simp only [_control_plane_blocks, bind_eq_ok_iff, pure_eq_ok_iff] at hok
  obtain ⟨_, -, _, -, locator, hlocator, rfl⟩ := hok
  simp [noDhcp_locator hlocator, List.isPrefixOf]

theorem noDhcp_edge_lisp (hok : _edge_lisp_blocks platform intent = .ok blocks) : NoDhcp blocks := by
  simp only [_edge_lisp_blocks, bind_eq_ok_iff, pure_eq_ok_iff] at hok
  obtain ⟨locator, hlocator, rfl⟩ := hok
  simp [noDhcp_locator hlocator, List.isPrefixOf]

theorem noDhcp_vrf (hok : _vrf_blocks platform intent = .ok blocks) : NoDhcp blocks := by
  refine noDhcp_collect hok fun vn found hfound => ?_
  simp only [vrf_block, bind_eq_ok_iff, pure_eq_ok_iff] at hfound
  obtain ⟨_, -, _, -, _, -, rfl⟩ := hfound
  simp [List.isPrefixOf, toString]

theorem noDhcp_edge_overlay (hok : _edge_overlay_blocks platform intent = .ok blocks) : NoDhcp blocks := by
  simp only [_edge_overlay_blocks, bind_eq_ok_iff, pure_eq_ok_iff] at hok
  obtain ⟨vrfs, hvrfs, locator, -, pools, hpools, rfl⟩ := hok
  refine noDhcp_append.mpr ⟨noDhcp_vrf hvrfs, noDhcp_collect hpools fun pool found hfound => ?_⟩
  simp only [pool_blocks, bind_eq_ok_iff, pure_eq_ok_iff] at hfound
  obtain ⟨_, -, _, -, _, -, _, -, _, -, rfl⟩ := hfound
  simp [List.isPrefixOf, toString]

theorem noDhcp_attachment (hok : _edge_endpoint_attachment_blocks platform intent device = .ok blocks) :
    NoDhcp blocks := by
  refine noDhcp_mapM hok fun attachment block hblock => ?_
  simp only [attachment_block, bind_eq_ok_iff, pure_eq_ok_iff] at hblock
  obtain ⟨_, -, _, -, _, -, rfl⟩ := hblock
  simp [List.isPrefixOf]

theorem noDhcp_pubsub (hok : _pubsub_subscriber_blocks platform intent device = .ok blocks) : NoDhcp blocks := by
  rw [_pubsub_subscriber_blocks] at hok
  split at hok
  · obtain rfl := pure_eq_ok_iff.mp hok
    exact noDhcp_nil
  · simp only [bind_eq_ok_iff, pure_eq_ok_iff] at hok
    obtain ⟨_, -, _, -, rfl⟩ := hok
    simp [List.isPrefixOf]

theorem noDhcp_multicast (hok : _multicast_overlay_blocks platform intent device = .ok blocks) : NoDhcp blocks := by
  rw [_multicast_overlay_blocks] at hok
  split at hok
  · obtain ⟨locator, -, hok⟩ := bind_eq_ok_iff.mp hok
    refine noDhcp_collect hok fun policy found hfound => ?_
    have hborder {vrf : String} {borders : List Block}
        (hborders : (device_peers intent device vrf).mapM (border_pim_block platform) = .ok borders) :
        NoDhcp borders := by
      refine noDhcp_mapM hborders fun peer block hblock => ?_
      simp only [border_pim_block, bind_eq_ok_iff, pure_eq_ok_iff] at hblock
      obtain ⟨_, -, rfl⟩ := hblock
      simp [List.isPrefixOf, toString]
    have hedge : NoDhcp (if Role.fabric_edge ∈ device.roles then
        (pools_of intent policy.virtual_network).map (edge_svi_block platform) else []) := by
      split
      · refine noDhcp_map fun pool => ?_
        simp [edge_svi_block, List.isPrefixOf, toString]
      · exact noDhcp_nil
    unfold overlay_policy_blocks at hfound
    split at hfound
    · obtain rfl := pure_eq_ok_iff.mp hfound
      exact noDhcp_nil
    · simp only [bind_eq_ok_iff] at hfound
      obtain ⟨_, -, _, -, _, -, _, -, hfound⟩ := hfound
      split at hfound
      all_goals
        simp only [bind_eq_ok_iff, pure_eq_ok_iff] at hfound
      · obtain ⟨borders, hborders, rfl⟩ := hfound
        simp [hborder hborders, hedge, List.isPrefixOf, toString]
      · obtain ⟨borders, rfl, rfl⟩ := hfound
        simp [hedge, List.isPrefixOf, toString]
  · obtain rfl := pure_eq_ok_iff.mp hok
    exact noDhcp_nil

theorem sxp_block_id {policy : PolicyPlane} (hok : sxp_blocks platform policy device = .ok blocks) {block : Block}
    (hblock : block ∈ blocks) : block.block_id = "sxp_speaker" := by
  unfold sxp_blocks at hok
  dsimp only at hok
  split at hok
  · cases hok
    cases hblock
  · simp only [bind_eq_ok_iff] at hok
    obtain ⟨source_ips, -, transport_vrfs, -, hok⟩ := hok
    split at hok
    · split at hok
      all_goals
        simp only [bind_eq_ok_iff, pure_eq_ok_iff] at hok
      · obtain ⟨_, -, rfl⟩ := hok
        rw [List.mem_singleton.mp hblock]
        rfl
      · obtain ⟨_, -, _, -, rfl⟩ := hok
        rw [List.mem_singleton.mp hblock]
        rfl
    · cases hok
    · cases hok
    · cases hok

theorem noDhcp_policy_plane (hok : _policy_plane_blocks platform intent device = .ok blocks) : NoDhcp blocks := by
  rw [_policy_plane_blocks] at hok
  split at hok
  · obtain rfl := pure_eq_ok_iff.mp hok
    exact noDhcp_nil
  · rename_i policy _
    simp only [bind_eq_ok_iff, pure_eq_ok_iff] at hok
    obtain ⟨enforcement, henforcement, sxp, hsxp, rfl⟩ := hok
    refine noDhcp_append.mpr ⟨?_, ?_⟩
    · have hcontracts {contracts : List Contract} {found : List Block}
          (hfound : contracts.mapM (contract_block platform) = .ok found) : NoDhcp found := by
        refine noDhcp_mapM hfound fun contract block hblock => ?_
        simp only [contract_block, bind_eq_ok_iff, pure_eq_ok_iff] at hblock
        obtain ⟨_, -, _, -, _, -, _, -, _, -, _, -, rfl⟩ := hblock
        simp [List.isPrefixOf]
      unfold enforcement_blocks at henforcement
      split at henforcement
      · split at henforcement
        all_goals
          simp only [bind_eq_ok_iff, pure_eq_ok_iff] at henforcement
        · obtain ⟨contracts, -, found, hfound, rfl⟩ := henforcement
          simp [default_deny_block, hcontracts hfound, List.isPrefixOf]
        · obtain ⟨_, rfl, rfl⟩ := henforcement
          simp [default_deny_block, List.isPrefixOf]
      · obtain rfl := pure_eq_ok_iff.mp henforcement
        exact noDhcp_nil
    · intro block hblock
      rw [is_local_dhcp, sxp_block_id hsxp hblock]
      decide +kernel

theorem noDhcp_trunks {name description : String} {trunks : List TrunkVlan}
    (hname : ∀ rest, "local_dhcp_".toList.isPrefixOf (name.toList ++ rest) = false) :
    NoDhcp (trunk_blocks platform name description trunks) := by
  refine noDhcp_map fun interface => ?_
  rw [trunk_block, is_local_dhcp_plain, String.toList_append]
  exact hname _

theorem noDhcp_parts {α : Type} {items : List α} {body : α → Py PeerPart} {parts : List PeerPart}
    (hok : items.mapM body = .ok parts) (hbody : ∀ item part, body item = .ok part → NoDhcp part.blocks) :
    NoDhcp (parts.flatMap PeerPart.blocks) := by
  intro block hblock
  obtain ⟨part, hpart, hmem⟩ := List.mem_flatMap.mp hblock
  obtain ⟨item, -, hitem⟩ := mem_of_mapM hok hpart
  exact hbody item part hitem block hmem

theorem noDhcp_border_handoff (hok : _border_handoff_blocks platform intent device = .ok blocks) :
    NoDhcp blocks := by
  unfold _border_handoff_blocks at hok
  split at hok
  · obtain rfl := pure_eq_ok_iff.mp hok
    exact noDhcp_nil
  · simp only [bind_eq_ok_iff, pure_eq_ok_iff] at hok
    obtain ⟨local_as, -, parts, hparts, rfl⟩ := hok
    refine noDhcp_append.mpr ⟨noDhcp_trunks (by simp [List.isPrefixOf]), noDhcp_parts hparts fun peer part hpart => ?_⟩
    simp only [border_peer, bind_eq_ok_iff] at hpart
    obtain ⟨_, -, _, -, _, -, hpart⟩ := hpart
    split at hpart
    all_goals
      simp only [bind_eq_ok_iff, pure_eq_ok_iff] at hpart
    · obtain ⟨_, -, rfl⟩ := hpart
      simp [List.isPrefixOf, toString]
    · obtain ⟨_, -, _, -, rfl⟩ := hpart
      simp [List.isPrefixOf, toString]

theorem noDhcp_fusion_handoff {fusion : FusionNode} (hok : _fusion_handoff_blocks platform intent fusion = .ok blocks) :
    NoDhcp blocks := by
  unfold _fusion_handoff_blocks at hok
  split at hok
  · obtain rfl := pure_eq_ok_iff.mp hok
    exact noDhcp_nil
  · simp only [bind_eq_ok_iff, pure_eq_ok_iff] at hok
    obtain ⟨local_as, -, parts, hparts, rfl⟩ := hok
    refine noDhcp_append.mpr ⟨noDhcp_trunks (by simp [List.isPrefixOf]), noDhcp_parts hparts fun peer part hpart => ?_⟩
    simp only [fusion_peer, bind_eq_ok_iff, pure_eq_ok_iff] at hpart
    obtain ⟨_, -, _, -, definition, hdefinition, _, -, _, -, _, -, rfl⟩ := hpart
    have hvrf : NoDhcp definition := by
      unfold fusion_vrf_block at hdefinition
      split at hdefinition
      · obtain rfl := pure_eq_ok_iff.mp hdefinition
        exact noDhcp_nil
      · simp only [bind_eq_ok_iff, pure_eq_ok_iff] at hdefinition
        obtain ⟨_, -, rfl⟩ := hdefinition
        simp [List.isPrefixOf]
    simp [hvrf, List.isPrefixOf, toString]

theorem noDhcp_policy_blocks {label : String} {prefixes : List String}
    (hok : policy_blocks platform label prefixes = .ok blocks) : NoDhcp blocks := by
  simp only [policy_blocks, bind_eq_ok_iff, pure_eq_ok_iff] at hok
  obtain ⟨_, -, rfl⟩ := hok
  simp [List.isPrefixOf]

theorem noDhcp_shared_services {fusion : FusionNode}
    (hok : _fusion_shared_service_blocks platform intent fusion = .ok blocks) : NoDhcp blocks := by
  unfold _fusion_shared_service_blocks at hok
  split at hok
  · obtain rfl := pure_eq_ok_iff.mp hok
    exact noDhcp_nil
  · simp only [bind_eq_ok_iff, pure_eq_ok_iff] at hok
    obtain ⟨attachment, -, vrf, -, _, -, rt, -, _, -, exports, hexports, imports, himports, leaks, hleaks, attached,
      hattached, rfl⟩ := hok
    have hleak : NoDhcp (leaks.flatMap (·.blocks)) := by
      intro block hblock
      obtain ⟨part, hpart, hmem⟩ := List.mem_flatMap.mp hblock
      obtain ⟨leak, -, hleak⟩ := mem_of_mapM hleaks hpart
      simp only [leak_part, bind_eq_ok_iff, pure_eq_ok_iff] at hleak
      obtain ⟨_, -, _, -, _, -, first, hfirst, second, hsecond, rfl⟩ := hleak
      refine (?_ : NoDhcp _) block hmem
      simp [noDhcp_policy_blocks hfirst, noDhcp_policy_blocks hsecond, List.isPrefixOf]
    have hattachment : NoDhcp attached := by
      simp only [service_attachment_blocks, bind_eq_ok_iff, pure_eq_ok_iff] at hattached
      obtain ⟨_, -, _, -, _, -, rfl⟩ := hattached
      simp [List.isPrefixOf]
    simp [noDhcp_policy_blocks hexports, noDhcp_policy_blocks himports, hleak, hattachment, List.isPrefixOf]

theorem noDhcp_fusion_multicast {fusion : FusionNode}
    (hok : _fusion_multicast_blocks platform intent fusion = .ok blocks) : NoDhcp blocks := by
  rw [_fusion_multicast_blocks] at hok
  split at hok
  · refine noDhcp_collect hok fun policy found hfound => ?_
    simp only [fusion_policy_blocks, bind_eq_ok_iff] at hfound
    obtain ⟨_, -, hfound⟩ := hfound
    split at hfound
    · obtain rfl := pure_eq_ok_iff.mp hfound
      exact noDhcp_nil
    · simp only [bind_eq_ok_iff, pure_eq_ok_iff] at hfound
      obtain ⟨_, -, rfl⟩ := hfound
      refine noDhcp_cons.mpr ⟨by simp [List.isPrefixOf, toString], noDhcp_map fun peer => ?_⟩
      simp [fusion_pim_block, List.isPrefixOf, toString]
  · obtain rfl := pure_eq_ok_iff.mp hok
    exact noDhcp_nil

theorem noDhcp_reconciled {baseline : Option Value} {manifest : Value} {reconciliation : Reconciliation}
    (hbuild : build_multicast_reconciliation platform baseline manifest = .ok reconciliation)
    {entry : String × ReconciledDevice} (hentry : entry ∈ reconciliation.devices) : NoDhcp entry.2.blocks := by
  intro block hblock
  cases reconciliation with
  | baseline_missing => cases hentry
  | ready delta =>
    obtain ⟨previous, stale, ordered, -, -, hdevices⟩ := ready_of_eq_ok hbuild
    obtain ⟨device_id, -, hok⟩ := mem_of_mapM hdevices hentry
    obtain ⟨⟨⟨owner, key⟩, item⟩, -, hbody⟩ := (reconciled_device_eq_ok hok).2.1 block hblock
    simp only [removal_block, bind_eq_ok_iff, pure_eq_ok_iff] at hbody
    obtain ⟨_, -, _, -, _, -, rfl⟩ := hbody
    simp [is_local_dhcp, startswith, List.isPrefixOf]

end Functions

/-! ## The phases -/

section Phases

variable {platform : Platform} {intent : FabricIntent} {reconciliation : Reconciliation} {device : Device}
variable {entry : String × DeviceArtifact} {pool_id : String}

theorem filter_eq_nil_of_noDhcp {blocks : List Block} (hnone : NoDhcp blocks) :
    blocks.filter (·.block_id = "local_dhcp_" ++ pool_id) = [] := by
  rw [List.filter_eq_nil_iff]
  intro block hblock hid
  have hdhcp := hnone block hblock
  rw [is_local_dhcp, of_decide_eq_true hid] at hdhcp
  simp [startswith, List.isPrefixOf] at hdhcp

/-- An artifact whose phases define no DHCP pool. -/
theorem dhcp_blocks_eq_nil {artifact : DeviceArtifact} (hphases : ∀ phase ∈ artifact.phases, NoDhcp phase.blocks) :
    artifact.dhcp_blocks pool_id = [] := by
  refine filter_eq_nil_of_noDhcp fun block hblock => ?_
  obtain ⟨phase, hphase, hmem⟩ := List.mem_flatMap.mp hblock
  exact hphases phase hphase block hmem

theorem noDhcp_phase_if_any {phase_id : String} {blocks : List Block} (hblocks : NoDhcp blocks) :
    ∀ phase ∈ phase_if_any phase_id blocks, NoDhcp phase.blocks := by
  intro phase hphase
  obtain ⟨-, rfl⟩ := mem_phase_if_any hphase
  exact hblocks

theorem noDhcp_control_plane_phase {phases : List PhaseBlocks}
    (hok : control_plane_phase platform intent device = .ok phases) : ∀ phase ∈ phases, NoDhcp phase.blocks := by
  rw [control_plane_phase] at hok
  split at hok
  · simp only [bind_eq_ok_iff, pure_eq_ok_iff] at hok
    obtain ⟨blocks, hblocks, rfl⟩ := hok
    exact List.forall_mem_singleton.mpr (noDhcp_control_plane hblocks)
  · obtain rfl := pure_eq_ok_iff.mp hok
    exact nofun

theorem noDhcp_border_handoff_phase {phases : List PhaseBlocks}
    (hok : border_handoff_phase platform intent device = .ok phases) : ∀ phase ∈ phases, NoDhcp phase.blocks := by
  rw [border_handoff_phase] at hok
  split at hok
  · simp only [bind_eq_ok_iff, pure_eq_ok_iff] at hok
    obtain ⟨blocks, hblocks, rfl⟩ := hok
    exact List.forall_mem_singleton.mpr (noDhcp_border_handoff hblocks)
  · obtain rfl := pure_eq_ok_iff.mp hok
    exact nofun

/-- The overlay phases of a device that is an edge, or no border. -/
theorem noDhcp_overlay_phases {phases : List PhaseBlocks} (hok : overlay_phases platform intent device = .ok phases)
    (hroles : Role.border ∈ device.roles → Role.fabric_edge ∈ device.roles) :
    ∀ phase ∈ phases, NoDhcp phase.blocks := by
  rw [overlay_phases] at hok
  split at hok
  · simp only [bind_eq_ok_iff] at hok
    obtain ⟨lisp, hlisp, edge, hedge, attachments, hattachments, hok⟩ := hok
    have hphases (pubsub : List Block) (hpubsub : NoDhcp pubsub) :
        ∀ phase ∈ [PhaseBlocks.mk "lisp_edges" lisp, ⟨"overlay", edge ++ attachments ++ pubsub⟩],
          NoDhcp phase.blocks := by
      simp only [List.forall_mem_cons, noDhcp_append]
      exact ⟨noDhcp_edge_lisp hlisp, ⟨⟨noDhcp_edge_overlay hedge, noDhcp_attachment hattachments⟩, hpubsub⟩, List.forall_mem_nil _⟩
    split at hok
    · simp only [bind_eq_ok_iff, pure_eq_ok_iff] at hok
      obtain ⟨pubsub, hpubsub, rfl⟩ := hok
      exact hphases pubsub (noDhcp_pubsub hpubsub)
    · simp only [bind_eq_ok_iff, pure_eq_ok_iff] at hok
      obtain ⟨_, rfl, rfl⟩ := hok
      exact hphases [] noDhcp_nil
  · rename_i hedge
    rw [if_neg fun hborder => hedge (hroles hborder)] at hok
    obtain rfl := pure_eq_ok_iff.mp hok
    exact List.forall_mem_nil _

/-- The overlay phase of a border that is no edge. -/
theorem overlay_phases_of_border {phases : List PhaseBlocks} (hok : overlay_phases platform intent device = .ok phases)
    (hborder : Role.border ∈ device.roles) (hedge : Role.fabric_edge ∉ device.roles) :
    ∃ others dhcp, NoDhcp others ∧ _border_local_dhcp_blocks platform intent device = .ok dhcp ∧
      phases = [⟨"overlay", others ++ dhcp⟩] := by
  rw [overlay_phases, if_neg hedge, if_pos hborder] at hok
  simp only [bind_eq_ok_iff, pure_eq_ok_iff] at hok
  obtain ⟨vrfs, hvrfs, pubsub, hpubsub, dhcp, hdhcp, rfl⟩ := hok
  exact ⟨vrfs ++ pubsub, dhcp, noDhcp_append.mpr ⟨noDhcp_vrf hvrfs, noDhcp_pubsub hpubsub⟩, hdhcp, rfl⟩

variable (hreconciled : ∀ entry ∈ reconciliation.devices, NoDhcp entry.2.blocks)

include hreconciled

theorem noDhcp_reconciliation_phase {device_id : String} :
    ∀ phase ∈ reconciliation_phase reconciliation device_id, NoDhcp phase.blocks := by
  intro phase hphase
  obtain ⟨reconciled, hmem, rfl⟩ := mem_reconciliation_phase hphase
  exact hreconciled _ hmem

/-- The phases of a device around those of its overlay. -/
theorem phases_of_device (hok : device_artifact platform intent reconciliation device = .ok entry) :
    ∃ before overlay after, overlay_phases platform intent device = .ok overlay ∧
      entry.2.phases = before ++ overlay ++ after ∧
      (∀ phase ∈ before, NoDhcp phase.blocks) ∧ ∀ phase ∈ after, NoDhcp phase.blocks := by
  simp only [device_artifact, underlay_phase, multicast_phase, policy_plane_phase, bind_eq_ok_iff,
    pure_eq_ok_iff] at hok
  obtain ⟨_, ⟨underlay, hunderlay, rfl⟩, control_plane, hcontrol, overlay, hoverlay, _,
    ⟨multicast, hmulticast, rfl⟩, _, ⟨policy, hpolicy, rfl⟩, handoff, hhandoff, rfl⟩ := hok
  refine ⟨reconciliation_phase reconciliation device.id ++ [⟨"underlay", underlay⟩] ++ control_plane, overlay,
    phase_if_any "multicast" multicast ++ phase_if_any "policy_plane" policy ++ handoff,
    hoverlay, by simp only [List.append_assoc], ?_, ?_⟩
  · simp only [List.forall_mem_append]
    exact ⟨⟨noDhcp_reconciliation_phase hreconciled, List.forall_mem_singleton.mpr (noDhcp_underlay hunderlay)⟩,
      noDhcp_control_plane_phase hcontrol⟩
  · simp only [List.forall_mem_append]
    exact ⟨⟨noDhcp_phase_if_any (noDhcp_multicast hmulticast), noDhcp_phase_if_any (noDhcp_policy_plane hpolicy)⟩,
      noDhcp_border_handoff_phase hhandoff⟩

/-- Only a border that is no edge defines DHCP pools. -/
theorem dhcp_blocks_of_device (hok : device_artifact platform intent reconciliation device = .ok entry)
    (hroles : Role.border ∈ device.roles → Role.fabric_edge ∈ device.roles) : entry.2.dhcp_blocks pool_id = [] := by
  obtain ⟨before, overlay, after, hoverlay, hphases, hbefore, hafter⟩ := phases_of_device hreconciled hok
  refine dhcp_blocks_eq_nil ?_
  rw [hphases]
  simp only [List.forall_mem_append]
  exact ⟨⟨hbefore, noDhcp_overlay_phases hoverlay hroles⟩, hafter⟩

theorem dhcp_blocks_of_border (hok : device_artifact platform intent reconciliation device = .ok entry)
    (hborder : Role.border ∈ device.roles) (hedge : Role.fabric_edge ∉ device.roles) :
    ∃ dhcp, _border_local_dhcp_blocks platform intent device = .ok dhcp ∧
      entry.2.dhcp_blocks pool_id = dhcp.filter (·.block_id = "local_dhcp_" ++ pool_id) := by
  obtain ⟨before, overlay, after, hoverlay, hphases, hbefore, hafter⟩ := phases_of_device hreconciled hok
  obtain ⟨others, dhcp, hothers, hdhcp, rfl⟩ := overlay_phases_of_border hoverlay hborder hedge
  have hnone {phases : List PhaseBlocks} (hphases : ∀ phase ∈ phases, NoDhcp phase.blocks) :
      NoDhcp (phases.flatMap PhaseBlocks.blocks) := by
    intro block hblock
    obtain ⟨phase, hphase, hmem⟩ := List.mem_flatMap.mp hblock
    exact hphases phase hphase block hmem
  refine ⟨dhcp, hdhcp, ?_⟩
  rw [DeviceArtifact.dhcp_blocks, hphases, List.flatMap_append, List.flatMap_append, List.filter_append,
    List.filter_append, filter_eq_nil_of_noDhcp (hnone hbefore), filter_eq_nil_of_noDhcp (hnone hafter),
    List.flatMap_singleton, List.filter_append, filter_eq_nil_of_noDhcp hothers, List.append_nil]
  rfl

theorem dhcp_blocks_of_fusion {fusion : FusionNode}
    (hok : fusion_artifact platform intent reconciliation fusion = .ok entry) : entry.2.dhcp_blocks pool_id = [] := by
  refine dhcp_blocks_eq_nil fun phase hphase => ?_
  cases fusion_phase_of_mem hok hphase with
  | multicast_reconciliation reconciled hmem hphase =>
    subst hphase
    exact hreconciled _ hmem
  | border_handoff blocks hblocks hphase =>
    subst hphase
    exact noDhcp_fusion_handoff hblocks
  | shared_services blocks hblocks hphase =>
    subst hphase
    exact noDhcp_shared_services hblocks
  | multicast blocks _ hblocks hphase =>
    subst hphase
    exact noDhcp_fusion_multicast hblocks

end Phases

/-! ## The pools of a server -/

/-- A loop that finds something for one item only. -/
theorem flatMap_eq_of_others {α β κ : Type} {items : List α} {f : α → List β} {key : α → κ} {item : α}
    (hnodup : (items.map key).Nodup) (hitem : item ∈ items)
    (hothers : ∀ other ∈ items, key other ≠ key item → f other = []) : items.flatMap f = f item := by
  obtain ⟨before, after, rfl⟩ := List.append_of_mem hitem
  rw [List.map_append, List.map_cons, List.nodup_append, List.nodup_cons] at hnodup
  obtain ⟨-, ⟨hafter, -⟩, hbefore⟩ := hnodup
  have hnone {others : List α} (hmem : ∀ other ∈ others, f other = []) : others.flatMap f = [] :=
    List.flatMap_eq_nil_iff.mpr hmem
  have hfirst : before.flatMap f = [] := hnone fun other hother =>
    hothers other (by simp [hother]) (hbefore _ (List.mem_map_of_mem hother) _ List.mem_cons_self)
  have hlast : after.flatMap f = [] := hnone fun other hother =>
    hothers other (by simp [hother]) fun heq => hafter (heq ▸ List.mem_map_of_mem hother)
  rw [List.flatMap_append, List.flatMap_cons, hfirst, hlast, List.append_nil, List.nil_append]

section Pools

variable {platform : Platform} {intent : FabricIntent} {device : Device} {pool : EndpointPool}

/-- A device defines the pools that it serves, each in one block. -/
theorem dhcp_block_eq_ok {found : List Block} (hok : dhcp_block platform device pool = .ok found) :
    (∃ dhcp block, pool.dhcp = some dhcp ∧ dhcp.server_device_id = device.id ∧ found = [block] ∧
      block.block_id = "local_dhcp_" ++ pool.id ∧
        "ip dhcp pool SDA-DHCP-" ++ short_digest platform pool.id ∈ block.commands) ∨
    found = [] ∧ ∀ dhcp, pool.dhcp = some dhcp → dhcp.server_device_id ≠ device.id := by
  unfold dhcp_block at hok
  split at hok
  · rename_i hnone
    obtain rfl := pure_eq_ok_iff.mp hok
    exact .inr ⟨rfl, by rw [hnone]; exact nofun⟩
  · rename_i dhcp hdhcp
    split at hok
    · rename_i hserver
      obtain rfl := pure_eq_ok_iff.mp hok
      refine .inr ⟨rfl, fun other hother => ?_⟩
      rw [hdhcp, Option.some.injEq] at hother
      rwa [← hother]
    · rename_i hserver
      simp only [bind_eq_ok_iff, pure_eq_ok_iff, safe_token_eq_ok_iff] at hok
      obtain ⟨network, -, _, ⟨-, rfl⟩, rfl⟩ := hok
      refine .inl ⟨dhcp, _, hdhcp, not_not.mp hserver, rfl, rfl, List.mem_filter.mpr ⟨by simp, ?_⟩⟩
      rw [decide_eq_true_eq, ← String.toList_inj.ne]
      simp

/-- The definition of a pool among those of its server. -/
theorem filter_dhcp_of_server (hids : (intent.endpoint_pools.map (·.id)).Nodup) (hpool : pool ∈ intent.endpoint_pools)
    {dhcp : LocalDhcp} (hdhcp : pool.dhcp = some dhcp) {blocks : List Block}
    (hok : _border_local_dhcp_blocks platform intent device = .ok blocks) :
    (dhcp.server_device_id = device.id ∧ ∃ block, blocks.filter (·.block_id = "local_dhcp_" ++ pool.id) = [block] ∧
      "ip dhcp pool SDA-DHCP-" ++ short_digest platform pool.id ∈ block.commands) ∨
    dhcp.server_device_id ≠ device.id ∧ blocks.filter (·.block_id = "local_dhcp_" ++ pool.id) = [] := by
  have hbody : ∀ item found, dhcp_block platform device item = .ok found →
      found = ((dhcp_block platform device item).toOption).getD [] := by
    intro item found hfound
    rw [hfound]
    rfl
  have hsorted : ((sortedBy (·.id) intent.endpoint_pools).map (·.id)).Nodup :=
    ((List.perm_insertionSort _ intent.endpoint_pools).map _).nodup_iff.mpr hids
  have hflat := collect_eq_flatMap hok hbody
  obtain ⟨found, hfound, -⟩ := exists_of_collect hok (mem_sortedBy.mpr hpool)
  have hfilter : blocks.filter (·.block_id = "local_dhcp_" ++ pool.id) =
      found.filter (·.block_id = "local_dhcp_" ++ pool.id) := by
    have hone := flatMap_eq_of_others (f := fun item => (((dhcp_block platform device item).toOption).getD []).filter
      (·.block_id = "local_dhcp_" ++ pool.id)) hsorted (mem_sortedBy.mpr hpool) ?_
    · rw [hflat, List.filter_flatMap, hone, hfound]
      rfl
    · intro other hother hne
      cases hresult : dhcp_block platform device other with
      | error exception => rfl
      | ok others =>
        obtain ⟨_, block, -, -, rfl, hid, -⟩ | ⟨rfl, -⟩ := dhcp_block_eq_ok hresult
        · refine List.filter_eq_nil_iff.mpr fun found hfound heq => hne ?_
          rw [List.mem_singleton.mp hfound, hid] at heq
          have hchars := congrArg String.toList (of_decide_eq_true heq)
          rw [String.toList_append, String.toList_append] at hchars
          exact String.toList_injective (List.append_cancel_left hchars)
        · rfl
  rw [hfilter]
  obtain ⟨other, block, hother, hserver, rfl, hid, hcommand⟩ | ⟨rfl, hserver⟩ := dhcp_block_eq_ok hfound
  · rw [hdhcp, Option.some.injEq] at hother
    subst hother
    refine .inl ⟨hserver, block, ?_, hcommand⟩
    rw [List.filter_singleton, hid]
    simp
  · exact .inr ⟨hserver dhcp hdhcp, rfl⟩

end Pools

/-! ## The ids of an accepted intent -/

section Accepted

variable {texts : Texts} {intent : FabricIntent} (haccepted : Accepted texts intent)

/-- Items whose ids are checked against those before them have distinct ids. -/
theorem ids_nodup_of_clean {α : Type} {items : List α} {body : List α → α → List ValidationIssue} {id : α → String}
    (path : Nat → String) (hclean : Clean (each items body))
    (hbody : ∀ earlier item, Clean (body earlier item) → (required_string (some (id item))).isSome ∧
      ∀ key, required_string (some (id item)) = some key →
        key ∉ (declared path (fun item => required_string (some (id item))) earlier).map Prod.fst) :
    (items.map fun item => required_string (some (id item))).Nodup := by
  refine List.pairwise_map.mpr (pairwise_of_clean_each hclean ?_)
  intro earlier item rest _ hitem first hfirst heq
  obtain ⟨hread, hnew⟩ := hbody earlier item hitem
  obtain ⟨key, hkey⟩ := Option.isSome_iff_exists.mp hread
  refine hnew key hkey ?_
  rw [keys_declared, List.mem_filterMap]
  exact ⟨first, hfirst, by rw [heq, hkey]⟩

theorem nodup_of_read {α : Type} {items : List α} {id : α → String}
    (hread : (items.map fun item => required_string (some (id item))).Nodup) : (items.map id).Nodup := by
  have hmap : (items.map fun item => required_string (some (id item))) =
      (items.map id).map fun text => required_string (some text) := by
    rw [List.map_map]
    rfl
  rw [hmap] at hread
  exact hread.of_map

include haccepted

theorem pool_ids_nodup : (intent.endpoint_pools.map (·.id)).Nodup := by
  have hoverlay := haccepted.overlay
  simp only [overlay_issues, clean_append] at hoverlay
  refine nodup_of_read (ids_nodup_of_clean (fun index => s!"$.endpoint_pools[{index}].id") hoverlay.1.2 ?_)
  intro earlier pool hclean
  simp only [pool_issues, clean_append, clean_required_string, clean_check_duplicate] at hclean
  obtain ⟨⟨⟨⟨⟨⟨⟨⟨⟨⟨⟨⟨⟨⟨hid, -⟩, -⟩, -⟩, hnew⟩, -⟩, -⟩, -⟩, -⟩, -⟩, -⟩, -⟩, -⟩, -⟩, -⟩ := hclean
  exact ⟨hid, hnew⟩

theorem device_ids_nodup : (intent.devices.map Device.device_id).Nodup := by
  have htopology := haccepted.topology
  simp only [topology_issues, clean_append] at htopology
  refine ids_nodup_of_clean (fun index => s!"$.devices[{index}].id") htopology.1.1.1.2 ?_
  intro earlier device hclean
  simp only [device_issues, clean_append, clean_required_string, clean_check_duplicate] at hclean
  obtain ⟨⟨⟨⟨⟨⟨⟨⟨⟨⟨⟨⟨hid, -⟩, -⟩, -⟩, -⟩, -⟩, hnew⟩, -⟩, -⟩, -⟩, -⟩, -⟩, -⟩ := hclean
  exact ⟨hid, hnew⟩

theorem read_device_id {device : Device} (hdevice : device ∈ intent.devices) : device.device_id.isSome := by
  have htopology := haccepted.topology
  simp only [topology_issues, clean_append] at htopology
  obtain ⟨earlier, rest, -, hclean⟩ := clean_each_mem htopology.1.1.1.2 hdevice
  simp only [device_issues, clean_append, clean_required_string] at hclean
  exact hclean.1.1.1.1.1.1.1.1.1.1.1.1

theorem fusion_id_ne {fusion : FusionNode} (hfusion : fusion ∈ intent.fusion_nodes.getD []) {device : Device}
    (hdevice : device ∈ intent.devices) : fusion.id ≠ device.id := by
  intro heq
  obtain ⟨earlier, hclean⟩ := haccepted.fusion_clean hfusion
  simp only [fusion_issues, clean_append, clean_add_if] at hclean
  have hfree := hclean.1.1.1.1.1.2
  obtain ⟨key, hkey⟩ := Option.isSome_iff_exists.mp (read_device_id haccepted hdevice)
  have hread : fusion.fusion_id = some key := by rw [FusionNode.fusion_id, heq, ← hkey, Device.device_id]
  rw [hread, Option.any_some, decide_eq_false_iff_not, device_ids, keys_declared] at hfree
  exact hfree (List.mem_filterMap.mpr ⟨device, hdevice, hkey⟩)

/-- The server of a pool is a border. -/
theorem server_role {pool : EndpointPool} (hpool : pool ∈ intent.endpoint_pools) {dhcp : LocalDhcp}
    (hdhcp : pool.dhcp = some dhcp) {device : Device} (hdevice : device ∈ intent.devices)
    (hserver : device.id = dhcp.server_device_id) : Role.border ∈ device.roles := by
  have hoverlay := haccepted.overlay
  simp only [overlay_issues, clean_append] at hoverlay
  obtain ⟨earlier, rest, -, hclean⟩ := clean_each_mem hoverlay.1.2 hpool
  simp only [pool_issues, hdhcp, LocalDhcp.issues, clean_append, clean_add_if] at hclean
  have hrole := hclean.2.1.1.2
  obtain ⟨key, hkey⟩ := Option.isSome_iff_exists.mp (read_device_id haccepted hdevice)
  rw [Device.device_id, hserver] at hkey
  rw [hkey, Option.any_some, Bool.not_eq_false'] at hrole
  obtain ⟨roles, hlookup, hmem⟩ := (Option.any_eq_true _ _).mp hrole
  rw [device_roles, lookup_dict_of] at hlookup
  obtain ⟨other, hother, hentry⟩ := List.mem_filterMap.mp (List.mem_reverse.mp (assoc.lookup_mem hlookup))
  obtain ⟨_, hid, heq⟩ := Option.map_eq_some_iff.mp hentry
  cases heq
  have hsame : other.device_id = device.device_id := by
    rw [hid, Device.device_id, hserver, hkey]
  rw [← List.inj_on_of_nodup_map (device_ids_nodup haccepted) hother hdevice hsame]
  exact of_decide_eq_true hmem

end Accepted

/-! ## The pools that are served -/

section Served

variable {platform : Platform} {texts : Texts} {intent : FabricIntent} {plan : Value} {artifact : Artifact}

/-- The server of a pool, when it renders its DHCP pools. -/
def Serves (intent : FabricIntent) (dhcp : LocalDhcp) (device_id : String) : Prop :=
  ∃ device ∈ intent.devices, device.id = device_id ∧ dhcp.server_device_id = device_id ∧
    Role.fabric_edge ∉ device.roles

variable (haccepted : Accepted texts intent) (hrendered : Rendered platform intent plan artifact)

include haccepted hrendered

/-- What the artifact of a device or of a fusion node defines. -/
theorem dhcp_blocks_of_active {pool : EndpointPool} (hpool : pool ∈ intent.endpoint_pools) {dhcp : LocalDhcp}
    (hdhcp : pool.dhcp = some dhcp) {entry : String × DeviceArtifact}
    (hentry : Source platform intent artifact.reconciliation entry) :
    entry.2.dhcp_blocks pool.id = [] ∨ Serves intent dhcp entry.1 ∧ ∃ block,
      entry.2.dhcp_blocks pool.id = [block] ∧
        "ip dhcp pool SDA-DHCP-" ++ short_digest platform pool.id ∈ block.commands := by
  obtain ⟨baseline, -, hbuild⟩ := hrendered.reconciliation
  have hreconciled : ∀ entry ∈ artifact.reconciliation.devices, NoDhcp entry.2.blocks :=
    fun entry => noDhcp_reconciled hbuild
  cases hentry with
  | device device hdevice hok =>
    by_cases hroles : Role.border ∈ device.roles ∧ Role.fabric_edge ∉ device.roles
    · obtain ⟨blocks, hblocks, hfilter⟩ := dhcp_blocks_of_border hreconciled hok hroles.1 hroles.2
      rw [hfilter]
      obtain ⟨hserver, block, hone, hcommand⟩ | ⟨-, hnone⟩ :=
        filter_dhcp_of_server (pool_ids_nodup haccepted) hpool hdhcp hblocks
      · have hid := fst_of_device_artifact hok
        exact .inr ⟨⟨device, hdevice, hid.symm, hserver.trans hid.symm, hroles.2⟩, block, hone, hcommand⟩
      · exact .inl hnone
    · exact .inl (dhcp_blocks_of_device hreconciled hok fun hborder => by_contra fun hedge => hroles ⟨hborder, hedge⟩)
  | fusion fusion _ hok => exact .inl (dhcp_blocks_of_fusion hreconciled hok)
  | retired reconciled hmem hok =>
    refine .inl (dhcp_blocks_eq_nil fun phase hphase => ?_)
    rw [phase_of_retired hok hphase]
    exact hreconciled _ hmem

/-- The server that renders its DHCP pools has an artifact that defines the pool. -/
theorem entry_of_server {pool : EndpointPool} (hpool : pool ∈ intent.endpoint_pools) {dhcp : LocalDhcp}
    (hdhcp : pool.dhcp = some dhcp) (hserves : Serves intent dhcp dhcp.server_device_id)
    {active : List (String × DeviceArtifact)}
    (hactive : active_artifacts platform intent artifact.reconciliation = .ok active) :
    ∃ entry ∈ active, entry.1 = dhcp.server_device_id ∧ ∃ block, entry.2.dhcp_blocks pool.id = [block] ∧
      "ip dhcp pool SDA-DHCP-" ++ short_digest platform pool.id ∈ block.commands := by
  obtain ⟨device, hdevice, hid, -, hedge⟩ := hserves
  obtain ⟨baseline, -, hbuild⟩ := hrendered.reconciliation
  have hborder := server_role haccepted hpool hdhcp hdevice hid
  simp only [active_artifacts, bind_eq_ok_iff, pure_eq_ok_iff] at hactive
  obtain ⟨devices, hdevices, fusions, hfusions, rfl⟩ := hactive
  obtain ⟨entry, hentry, hok⟩ := exists_of_mapM hdevices (mem_sortedBy.mpr hdevice)
  have hkey := fst_of_device_artifact hok
  have hlookup : assoc.lookup entry.1 (dict_of (devices ++ fusions)) = some entry.2 := by
    have hnone : assoc.lookup entry.1 fusions.reverse = none := by
      rw [assoc.lookup_eq_none_iff, List.map_reverse, List.mem_reverse]
      intro hmem
      obtain ⟨other, hother, heq⟩ := List.mem_map.mp hmem
      obtain ⟨fusion, hfusion, hfusion_ok⟩ := mem_of_mapM hfusions hother
      rw [fst_of_fusion_artifact hfusion_ok, hkey] at heq
      exact fusion_id_ne haccepted (mem_sortedBy.mp hfusion) hdevice heq
    have hkeys : (devices.reverse.map Prod.fst).Nodup := by
      have hmap : devices.map Prod.fst = (sortedBy (·.id) intent.devices).map (·.id) :=
        map_of_mapM hdevices fun _ _ => fst_of_device_artifact
      rw [List.map_reverse, List.nodup_reverse, hmap]
      exact ((List.perm_insertionSort _ intent.devices).map _).nodup_iff.mpr
        (nodup_of_read (device_ids_nodup haccepted))
    rw [lookup_dict_of, List.reverse_append, assoc.lookup_append, hnone, Option.none_or]
    exact assoc.lookup_of_mem hkeys (List.mem_reverse.mpr hentry)
  obtain ⟨blocks, hblocks, hfilter⟩ : ∃ blocks, _ = _ ∧ entry.2.dhcp_blocks pool.id = _ :=
    dhcp_blocks_of_border (fun entry => noDhcp_reconciled hbuild) hok hborder hedge
  obtain ⟨-, block, hone, hcommand⟩ | ⟨hother, -⟩ :=
    filter_dhcp_of_server (pool_ids_nodup haccepted) hpool hdhcp hblocks
  · exact ⟨entry, assoc.lookup_mem hlookup, hkey.trans hid, block, hfilter.trans hone, hcommand⟩
  · exact absurd hid.symm hother

/-- A pool is served exactly when its server is named as it stands and is no edge. -/
theorem served_of_rendered_iff {pool : EndpointPool} (hpool : pool ∈ intent.endpoint_pools) {dhcp : LocalDhcp}
    (hdhcp : pool.dhcp = some dhcp) :
    Served platform artifact pool dhcp.server_device_id ↔ Serves intent dhcp dhcp.server_device_id := by
  constructor
  · rintro ⟨block, hdefinitions, -⟩
    have hmem : (dhcp.server_device_id, block) ∈ artifact.dhcp_definitions pool.id := by
      rw [hdefinitions]
      exact List.mem_singleton_self _
    obtain ⟨entry, hentry, hblock⟩ := List.mem_flatMap.mp hmem
    obtain ⟨found, hfound, heq⟩ := List.mem_map.mp hblock
    obtain ⟨hid, -⟩ := Prod.mk.inj heq
    obtain hnone | ⟨hserves, -⟩ :=
      dhcp_blocks_of_active haccepted hrendered hpool hdhcp (source_of_mem hrendered hentry)
    · rw [hnone] at hfound
      cases hfound
    · rwa [← hid]
  · intro hserves
    obtain ⟨active, retired, hactive, hretired, hdevices⟩ := hrendered.devices
    obtain ⟨entry, hentry, hid, block, hblock, hcommand⟩ :=
      entry_of_server haccepted hrendered hpool hdhcp hserves hactive
    have hothers : ∀ other ∈ artifact.devices, other.1 ≠ entry.1 → other.2.dhcp_blocks pool.id = [] := by
      intro other hother hne
      obtain hnone | ⟨⟨_, -, -, hserver, -⟩, -⟩ :=
        dhcp_blocks_of_active haccepted hrendered hpool hdhcp (source_of_mem hrendered hother)
      · exact hnone
      · exact absurd (hserver.symm.trans hid.symm) hne
    have hkeys : (active.map Prod.fst).Nodup := by
      simp only [active_artifacts, bind_eq_ok_iff, pure_eq_ok_iff] at hactive
      obtain ⟨_, -, _, -, rfl⟩ := hactive
      exact keys_dict_of_nodup _
    have hretired_none : ∀ other ∈ retired, other.2.dhcp_blocks pool.id = [] := by
      intro other hother
      refine hothers other (by rw [hdevices]; exact List.mem_append_right _ hother) fun heq => ?_
      obtain ⟨⟨device_id, reconciled⟩, hreconciled, hok⟩ := mem_of_mapM hretired hother
      have hnew := of_decide_eq_true (List.mem_filter.mp hreconciled).2
      rw [← fst_of_retired_artifact hok, heq] at hnew
      exact hnew (List.mem_map_of_mem hentry)
    refine ⟨block, ?_, hcommand⟩
    have hactive_one := flatMap_eq_of_others (f := fun entry : String × DeviceArtifact =>
      (entry.2.dhcp_blocks pool.id).map (entry.1, ·)) hkeys hentry fun other hother hne => by
        rw [hothers other (by rw [hdevices]; exact List.mem_append_left _ hother) hne]
        rfl
    have hretired_nil : (retired.flatMap fun entry => (entry.2.dhcp_blocks pool.id).map (entry.1, ·)) = [] :=
      List.flatMap_eq_nil_iff.mpr fun other hother => by rw [hretired_none other hother]; rfl
    rw [Artifact.dhcp_definitions, hdevices, List.flatMap_append, hactive_one, hretired_nil, hblock, hid,
      List.append_nil]
    rfl

end Served

/-- In the artifact of a valid intent a pool with local DHCP is defined once, on its server, exactly when the
server is the id of a device as it stands, and that device is no edge. -/
theorem served_iff {platform : Platform} {texts : Texts} {intent : FabricIntent} {plan : Value}
    {artifact : Artifact} (hvalid : (validate_intent texts intent).is_valid)
    (hrender : render_configuration platform intent plan = .ok artifact) {pool : EndpointPool}
    (hpool : pool ∈ intent.endpoint_pools) {dhcp : LocalDhcp} (hdhcp : pool.dhcp = some dhcp) :
    Served platform artifact pool dhcp.server_device_id ↔
      ∃ device ∈ intent.devices, device.id = dhcp.server_device_id ∧ Role.fabric_edge ∉ device.roles := by
  rw [served_of_rendered_iff (accepted_of_is_valid hvalid) (rendered_of_eq_ok hrender) hpool hdhcp, Serves]
  simp only [true_and]

/-! ## The lab fabric with a DHCP service on its border -/

def lab_local_dhcp : LocalDhcp where
  server_device_id := "border-cp-01"
  helper_address := .ofOctets 10 255 1 1
  lease_minutes := 1440
  dns_servers := [.ofOctets 10 20 0 53]

/-- The first pool of the lab fabric, with a local DHCP service. -/
def lab_dhcp_pool : EndpointPool :=
  { lab_intent.endpoint_pools.head (by decide) with
    dhcp_helpers := [.ofOctets 10 255 1 1], dhcp := some lab_local_dhcp }

/-- The lab fabric with one network, whose pool the border of these roles serves. -/
def lab_dhcp_intent (roles : List Role) : FabricIntent :=
  { lab_intent with
    devices := lab_intent.devices.map fun device => if device.id = "border-cp-01" then { device with roles } else device
    virtual_networks := lab_intent.virtual_networks.take 1
    endpoint_pools := [lab_dhcp_pool] }

/-- A platform with one digest for all texts: no definition of a pool of the lab depends on it. -/
def lab_digest : Platform :=
  { cpython with sha256 := fun _ => "0123456789abcdef0123456789abcdef0123456789abcdef0123456789abcdef" }

def lab_dhcp_plan (roles : List Role) : Value := .dict [
  ("intent_hash", .str (lab_digest.sha256_json (lab_dhcp_intent roles).document)),
  ("plan_id", .str "plan_lab"),
  ("plan_hash", .str "sha256:plan"),
  ("reconciliation", .dict [("status", .str "baseline_missing")])]

/-- The devices that the pool of the lab is defined on. -/
def lab_definitions (roles : List Role) : Py (List String) := do
  let artifact ← render_configuration lab_digest (lab_dhcp_intent roles) (lab_dhcp_plan roles)
  return (artifact.dhcp_definitions lab_dhcp_pool.id).map Prod.fst

theorem lab_definitions_of_pool {roles : List Role} {devices : List String}
    (hdefinitions : (lab_definitions roles).toOption = some devices) :
    ∃ artifact, render_configuration lab_digest (lab_dhcp_intent roles) (lab_dhcp_plan roles) = .ok artifact ∧
      (artifact.dhcp_definitions lab_dhcp_pool.id).map Prod.fst = devices := by
  unfold lab_definitions at hdefinitions
  cases hrender : render_configuration lab_digest (lab_dhcp_intent roles) (lab_dhcp_plan roles) with
  | error exception =>
    rw [hrender] at hdefinitions
    cases hdefinitions
  | ok artifact =>
    rw [hrender] at hdefinitions
    exact ⟨artifact, rfl, Option.some.inj hdefinitions⟩

theorem served_lab : ∃ artifact,
    render_configuration lab_digest (lab_dhcp_intent [.border, .control_plane]) (lab_dhcp_plan [.border, .control_plane]) =
      .ok artifact ∧ Served lab_digest artifact lab_dhcp_pool "border-cp-01" := by
  have hdefinitions : (lab_definitions [.border, .control_plane]).toOption = some ["border-cp-01"] := by decide +kernel
  obtain ⟨artifact, hrender, -⟩ := lab_definitions_of_pool hdefinitions
  have hvalid : (validate_intent plain_texts (lab_dhcp_intent [.border, .control_plane])).is_valid := by decide +kernel
  have hserved : Served lab_digest artifact lab_dhcp_pool "border-cp-01" ↔ _ :=
    served_iff hvalid hrender List.mem_cons_self rfl
  exact ⟨artifact, hrender, hserved.mpr ⟨_, List.mem_cons_self, rfl, by decide⟩⟩

/-- A border that is also an edge renders no DHCP pool, though the intent that makes it a server is valid. -/
theorem edge_server_not_served :
    (validate_intent plain_texts (lab_dhcp_intent [.border, .control_plane, .fabric_edge])).is_valid ∧
      lab_dhcp_pool ∈ (lab_dhcp_intent [.border, .control_plane, .fabric_edge]).endpoint_pools ∧
      ∃ artifact, render_configuration lab_digest (lab_dhcp_intent [.border, .control_plane, .fabric_edge])
          (lab_dhcp_plan [.border, .control_plane, .fabric_edge]) = .ok artifact ∧
        artifact.dhcp_definitions lab_dhcp_pool.id = [] ∧ ¬ Served lab_digest artifact lab_dhcp_pool "border-cp-01" := by
  have hdefinitions : (lab_definitions [.border, .control_plane, .fabric_edge]).toOption = some [] := by decide +kernel
  obtain ⟨artifact, hrender, hnone⟩ := lab_definitions_of_pool hdefinitions
  have hnil := List.map_eq_nil_iff.mp hnone
  refine ⟨by decide +kernel, List.mem_cons_self, artifact, hrender, hnil, ?_⟩
  rintro ⟨block, hone, -⟩
  rw [hnil] at hone
  cases hone

end orchestrator.renderer
