import SdaOrchestrator.Intent.Validate
import SdaOrchestrator.Renderer.Configuration

open python ipaddress orchestrator.store

namespace orchestrator.renderer

open orchestrator.intent orchestrator.reconciliation

/-- A feature whose acceptance on hardware is pending. -/
inductive Feature where
  | lisp_pubsub | shared_services | multicast | multicast_reconciliation | policy_plane
  | local_dhcp | endpoint_attachment | ise
  deriving DecidableEq

/-- The code that blocks an artifact with the feature. -/
def Feature.blocker : Feature → String
  | .lisp_pubsub => "lisp_pubsub.hardware_acceptance_pending"
  | .shared_services => "shared_services.hardware_acceptance_pending"
  | .multicast => "multicast.hardware_acceptance_pending"
  | .multicast_reconciliation => "multicast.reconciliation_hardware_acceptance_pending"
  | .policy_plane | .ise => "policy_plane.hardware_api_acceptance_pending"
  | .local_dhcp | .endpoint_attachment =>
    "poc.local_dhcp_and_attachment_hardware_acceptance_pending"

/-- The feature of a block: that of its phase, and in the overlay that of its id. -/
def feature_of (phase_id block_id : String) : Option Feature :=
  if phase_id = "multicast_reconciliation" then some .multicast_reconciliation
  else if phase_id = "multicast" then some .multicast
  else if phase_id = "policy_plane" then some .policy_plane
  else if phase_id = "shared_services" then some .shared_services
  else if phase_id = "overlay" then
    if startswith block_id "lisp_pubsub_" then some .lisp_pubsub
    else if startswith block_id "local_dhcp_" then some .local_dhcp
    else if startswith block_id "endpoint_attachment_" then some .endpoint_attachment
    else none
  else none

/-- The artifact has a block of the feature, or an ISE manifest. -/
def Artifact.Contains (artifact : Artifact) (feature : Feature) : Prop :=
  (∃ entry ∈ artifact.devices, ∃ phase ∈ entry.2.phases, ∃ block ∈ phase.blocks,
    feature_of phase.phase_id block.block_id = some feature) ∨
  feature = .ise ∧ artifact.ise.isSome

/-- The codes of the blocking requirements. -/
def Artifact.blocker_codes (artifact : Artifact) : List String :=
  artifact.blocking_requirements.map Blocker.code

theorem mem_codes_blocker_if {condition : Bool} {code message found : String} :
    found ∈ (blocker_if condition code message).map Blocker.code ↔ condition ∧ found = code := by
  cases condition <;> simp [blocker_if]

section Codes

variable {platform : Platform} {intent : FabricIntent} {reconciliation : Reconciliation}

/-- Each feature blocks under its own condition on the intent. -/
theorem blocker_of_condition {feature : Feature}
    (hcondition : match feature with
      | .lisp_pubsub => intent.fabric.control_plane_mode = some .lisp_pubsub
      | .shared_services => intent.shared_services.isSome
      | .multicast => native_multicast intent
      | .multicast_reconciliation => reconciliation.stale_resource_count ≠ 0
      | .policy_plane | .ise => policy_enabled intent
      | .local_dhcp | .endpoint_attachment => poc_features intent) :
    feature.blocker ∈ (blocking_requirements intent reconciliation).map Blocker.code := by
  simp only [blocking_requirements, List.map_append, List.mem_append, mem_codes_blocker_if]
  cases feature <;> simp only at hcondition <;> simp [Feature.blocker, hcondition, blocker_if]

/-! ## The blocks of the overlay -/

theorem feature_of_vrf_block {vn : VirtualNetwork} {blocks : List Block}
    (hok : vrf_block platform vn = .ok blocks) {block : Block} (hblock : block ∈ blocks) :
    feature_of "overlay" block.block_id = none := by
  simp only [vrf_block, bind_eq_ok_iff, pure_eq_ok_iff] at hok
  obtain ⟨vrf, -, rd, -, route_targets, -, rfl⟩ := hok
  simp only [List.mem_cons, List.not_mem_nil, or_false] at hblock
  obtain rfl | rfl := hblock
  · simp [feature_of, plain_block, _block, startswith, List.isPrefixOf]
  · simp [feature_of, plain_block, _block, startswith, List.isPrefixOf, toString]

theorem feature_of_vrf_blocks {blocks : List Block} (hok : _vrf_blocks platform intent = .ok blocks)
    {block : Block} (hblock : block ∈ blocks) : feature_of "overlay" block.block_id = none := by
  obtain ⟨vn, -, found, hfound, hmem⟩ := mem_of_collect hok hblock
  exact feature_of_vrf_block hfound hmem

theorem feature_of_pool_block {locator : String} {pool : EndpointPool} {blocks : List Block}
    (hok : pool_blocks platform intent locator pool = .ok blocks) {block : Block}
    (hblock : block ∈ blocks) : feature_of "overlay" block.block_id = none := by
  simp only [pool_blocks, bind_eq_ok_iff, pure_eq_ok_iff] at hok
  obtain ⟨vn, -, vrf, -, network, -, pool_name, -, pool_token, -, rfl⟩ := hok
  simp only [List.mem_cons, List.not_mem_nil, or_false] at hblock
  obtain rfl | rfl | rfl := hblock
  · simp [feature_of, plain_block, _block, startswith, List.isPrefixOf, toString]
  · simp [feature_of, plain_block, _block, startswith, List.isPrefixOf, toString]
  · simp [feature_of, plain_block, _block, startswith, List.isPrefixOf]

theorem feature_of_edge_overlay {blocks : List Block}
    (hok : _edge_overlay_blocks platform intent = .ok blocks) {block : Block}
    (hblock : block ∈ blocks) : feature_of "overlay" block.block_id = none := by
  simp only [_edge_overlay_blocks, bind_eq_ok_iff, pure_eq_ok_iff] at hok
  obtain ⟨vrfs, hvrfs, locator, -, pools, hpools, rfl⟩ := hok
  obtain hvrf | hpool := List.mem_append.mp hblock
  · exact feature_of_vrf_blocks hvrfs hvrf
  · obtain ⟨pool, -, found, hfound, hmem⟩ := mem_of_collect hpools hpool
    exact feature_of_pool_block hfound hmem

/-- An attachment block is rendered for an attachment of the intent. -/
theorem feature_of_attachment {device : Device} {blocks : List Block}
    (hok : _edge_endpoint_attachment_blocks platform intent device = .ok blocks) {block : Block}
    (hblock : block ∈ blocks) :
    feature_of "overlay" block.block_id = some .endpoint_attachment ∧ poc_features intent := by
  obtain ⟨attachment, hattachment, hbody⟩ := mem_of_mapM hok hblock
  simp only [attachment_block, bind_eq_ok_iff, pure_eq_ok_iff] at hbody
  obtain ⟨attachment_id, -, interface, -, description, -, rfl⟩ := hbody
  constructor
  · simp [feature_of, plain_block, _block, startswith, List.isPrefixOf]
  · have hmem := (List.mem_filter.mp (mem_sortedBy.mp hattachment)).1
    have hnonempty : intent.endpoint_attachments.getD [] ≠ [] := List.ne_nil_of_mem hmem
    simp [poc_features, hnonempty]

/-- A local DHCP block is rendered for a pool with local DHCP. -/
theorem feature_of_dhcp {device : Device} {blocks : List Block}
    (hok : _border_local_dhcp_blocks platform intent device = .ok blocks) {block : Block}
    (hblock : block ∈ blocks) :
    feature_of "overlay" block.block_id = some .local_dhcp ∧ poc_features intent := by
  obtain ⟨pool, hpool, found, hfound, hmem⟩ := mem_of_collect hok hblock
  rw [dhcp_block] at hfound
  split at hfound
  · obtain rfl := pure_eq_ok_iff.mp hfound
    cases hmem
  · rename_i dhcp hdhcp
    split at hfound
    · obtain rfl := pure_eq_ok_iff.mp hfound
      cases hmem
    · simp only [bind_eq_ok_iff, pure_eq_ok_iff] at hfound
      obtain ⟨network, -, pool_id, -, rfl⟩ := hfound
      obtain rfl := List.mem_singleton.mp hmem
      constructor
      · simp [feature_of, plain_block, _block, startswith, List.isPrefixOf]
      · have hlocal : intent.endpoint_pools.any (·.dhcp.isSome) :=
          List.any_eq_true.mpr ⟨pool, mem_sortedBy.mp hpool, by rw [hdhcp]; rfl⟩
        simp [poc_features, hlocal]

/-- A Pub/Sub block is rendered in the Pub/Sub mode of the LISP section. -/
theorem feature_of_pubsub {device : Device} {blocks : List Block}
    (hok : _pubsub_subscriber_blocks platform intent device = .ok blocks) {block : Block}
    (hblock : block ∈ blocks) :
    feature_of "overlay" block.block_id = some .lisp_pubsub ∧
      intent.lisp.control_plane_mode = some .lisp_pubsub ∧ intent.lisp.domain_id.isSome := by
  rw [_pubsub_subscriber_blocks] at hok
  split at hok
  · obtain rfl := pure_eq_ok_iff.mp hok
    cases hblock
  · rename_i hmode
    simp only [bind_eq_ok_iff, require_eq_ok, pure_eq_ok_iff] at hok
    obtain ⟨domain_id, hdomain, found, -, rfl⟩ := hok
    refine ⟨?_, by simpa using (not_or.mp hmode).1, by rw [hdomain]; rfl⟩
    simp only [List.mem_cons, List.not_mem_nil, or_false] at hblock
    obtain rfl | rfl := hblock
    · show feature_of "overlay" "lisp_pubsub_identity" = some .lisp_pubsub
      decide +kernel
    · show feature_of "overlay" "lisp_pubsub_subscriber" = some .lisp_pubsub
      decide +kernel

/-- In an accepted intent the Pub/Sub mode of the LISP section is that of the fabric:
before schema version 1.2 the section may have no domain id. -/
theorem fabric_pubsub_of_lisp {texts : Texts} (haccepted : Accepted texts intent)
    (hmode : intent.lisp.control_plane_mode = some .lisp_pubsub)
    (hdomain : intent.lisp.domain_id.isSome) :
    intent.fabric.control_plane_mode = some .lisp_pubsub := by
  have hlisp := haccepted.lisp
  simp only [lisp_issues, clean_append, clean_add_if] at hlisp
  obtain ⟨⟨⟨-, hmismatch⟩, -⟩, hidentity⟩ := hlisp
  by_cases hversion : intent.schema_version = .v1_2
  · have hsame : some .lisp_pubsub = intent.fabric.control_plane_mode := by
      simpa [hversion, hmode] using hmismatch
    exact hsame.symm
  · simp [FabricIntent.pubsub, hversion, hdomain] at hidentity

/-! ## Every feature is blocked -/

theorem blocker_of_device_phase {texts : Texts} (haccepted : Accepted texts intent)
    (hstale : ∀ entry ∈ reconciliation.devices, entry.2.blocks ≠ [] →
      reconciliation.stale_resource_count ≠ 0)
    {device : Device} {phase : PhaseBlocks}
    (hphase : DevicePhase platform intent reconciliation device phase) {block : Block}
    (hblock : block ∈ phase.blocks) {feature : Feature}
    (hfeature : feature_of phase.phase_id block.block_id = some feature) :
    feature.blocker ∈ (blocking_requirements intent reconciliation).map Blocker.code := by
  cases hphase with
  | multicast_reconciliation reconciled hreconciled hphase =>
    subst hphase
    obtain rfl : feature = .multicast_reconciliation := by simpa [feature_of] using hfeature.symm
    exact blocker_of_condition (hstale _ hreconciled (List.ne_nil_of_mem hblock))
  | underlay blocks _ hphase | lisp_control_plane _ blocks _ hphase | lisp_edges _ blocks _ hphase
  | border_handoff _ blocks _ hphase =>
    subst hphase
    simp [feature_of] at hfeature
  | edge_overlay _ edge attachments pubsub hedge hattachments hpubsub hphase =>
    subst hphase
    simp only [List.mem_append] at hblock
    obtain (hblock | hblock) | hblock := hblock
    · rw [feature_of_edge_overlay hedge hblock] at hfeature
      cases hfeature
    · obtain ⟨hattachment, hpoc⟩ := feature_of_attachment hattachments hblock
      obtain rfl := Option.some.inj (hattachment.symm.trans hfeature)
      exact blocker_of_condition hpoc
    · obtain ⟨-, hpubsub⟩ | rfl := hpubsub
      · obtain ⟨hsubscriber, hmode, hdomain⟩ := feature_of_pubsub hpubsub hblock
        obtain rfl := Option.some.inj (hsubscriber.symm.trans hfeature)
        exact blocker_of_condition (fabric_pubsub_of_lisp haccepted hmode hdomain)
      · cases hblock
  | border_overlay _ vrfs pubsub dhcp hvrfs hpubsub hdhcp hphase =>
    subst hphase
    simp only [List.mem_append] at hblock
    obtain (hblock | hblock) | hblock := hblock
    · rw [feature_of_vrf_blocks hvrfs hblock] at hfeature
      cases hfeature
    · obtain ⟨hsubscriber, hmode, hdomain⟩ := feature_of_pubsub hpubsub hblock
      obtain rfl := Option.some.inj (hsubscriber.symm.trans hfeature)
      exact blocker_of_condition (fabric_pubsub_of_lisp haccepted hmode hdomain)
    · obtain ⟨hlocal, hpoc⟩ := feature_of_dhcp hdhcp hblock
      obtain rfl := Option.some.inj (hlocal.symm.trans hfeature)
      exact blocker_of_condition hpoc
  | multicast blocks hnonempty hblocks hphase =>
    subst hphase
    obtain rfl : feature = .multicast := by simpa [feature_of] using hfeature.symm
    rw [_multicast_overlay_blocks] at hblocks
    split at hblocks
    · exact blocker_of_condition ‹_›
    · exact absurd (pure_eq_ok_iff.mp hblocks).symm hnonempty
  | policy_plane blocks hnonempty hblocks hphase =>
    subst hphase
    obtain rfl : feature = .policy_plane := by simpa [feature_of] using hfeature.symm
    rw [_policy_plane_blocks] at hblocks
    split at hblocks
    · exact absurd (pure_eq_ok_iff.mp hblocks).symm hnonempty
    · rename_i policy hpolicy
      obtain ⟨hsection, hmode⟩ := Option.filter_eq_some_iff.mp hpolicy
      exact blocker_of_condition (by simpa [policy_enabled, hsection] using hmode)

theorem blocker_of_fusion_phase
    (hstale : ∀ entry ∈ reconciliation.devices, entry.2.blocks ≠ [] →
      reconciliation.stale_resource_count ≠ 0)
    {fusion : FusionNode} {phase : PhaseBlocks}
    (hphase : FusionPhase platform intent reconciliation fusion phase) {block : Block}
    (hblock : block ∈ phase.blocks) {feature : Feature}
    (hfeature : feature_of phase.phase_id block.block_id = some feature) :
    feature.blocker ∈ (blocking_requirements intent reconciliation).map Blocker.code := by
  cases hphase with
  | multicast_reconciliation reconciled hreconciled hphase =>
    subst hphase
    obtain rfl : feature = .multicast_reconciliation := by simpa [feature_of] using hfeature.symm
    exact blocker_of_condition (hstale _ hreconciled (List.ne_nil_of_mem hblock))
  | border_handoff blocks _ hphase =>
    subst hphase
    simp [feature_of] at hfeature
  | shared_services blocks hblocks hphase =>
    subst hphase
    obtain rfl : feature = .shared_services := by simpa [feature_of] using hfeature.symm
    rw [_fusion_shared_service_blocks] at hblocks
    split at hblocks
    · obtain rfl := pure_eq_ok_iff.mp hblocks
      cases hblock
    · rename_i shared hshared
      exact blocker_of_condition (by rw [hshared]; rfl)
  | multicast blocks hnonempty hblocks hphase =>
    subst hphase
    obtain rfl : feature = .multicast := by simpa [feature_of] using hfeature.symm
    rw [_fusion_multicast_blocks] at hblocks
    split at hblocks
    · exact blocker_of_condition ‹_›
    · exact absurd (pure_eq_ok_iff.mp hblocks).symm hnonempty

/-- An ISE manifest is rendered in a policy-plane mode. -/
theorem policy_enabled_of_ise {manifest : Value}
    (hise : _ise_policy_manifest platform intent = .ok (some manifest)) : policy_enabled intent := by
  rw [_ise_policy_manifest] at hise
  split at hise
  · cases pure_eq_ok_iff.mp hise
  · rename_i policy hpolicy
    obtain ⟨hsection, hmode⟩ := Option.filter_eq_some_iff.mp hpolicy
    rw [Bool.or_eq_true, decide_eq_true_iff, decide_eq_true_iff] at hmode
    obtain hmode | hmode := hmode <;> simp [policy_enabled, hsection, hmode]

/-- In the artifact of an accepted intent every feature has its blocker. -/
theorem blocker_of_contains {texts : Texts} (haccepted : Accepted texts intent) {plan : Value}
    {artifact : Artifact} (hrendered : Rendered platform intent plan artifact) {feature : Feature}
    (hcontains : artifact.Contains feature) : feature.blocker ∈ artifact.blocker_codes := by
  rw [Artifact.blocker_codes, hrendered.blockers]
  obtain ⟨baseline, -, hbuild⟩ := hrendered.reconciliation
  have hstale : ∀ entry ∈ artifact.reconciliation.devices, entry.2.blocks ≠ [] →
      artifact.reconciliation.stale_resource_count ≠ 0 := by
    intro entry hentry hblocks
    obtain ⟨block, hblock⟩ := List.exists_mem_of_ne_nil _ hblocks
    exact stale_of_reconciled hbuild hentry hblock
  obtain ⟨entry, hentry, phase, hphase, block, hblock, hfeature⟩ | ⟨rfl, hise⟩ := hcontains
  · cases source_of_mem hrendered hentry with
    | device device hdevice hok =>
      exact blocker_of_device_phase haccepted hstale (device_phase_of_mem hok hphase) hblock hfeature
    | fusion fusion hfusion hok =>
      exact blocker_of_fusion_phase hstale (fusion_phase_of_mem hok hphase) hblock hfeature
    | retired reconciled hreconciled hok =>
      obtain rfl := phase_of_retired hok hphase
      obtain rfl : feature = .multicast_reconciliation := by
        simpa [feature_of] using hfeature.symm
      exact blocker_of_condition (hstale _ hreconciled (List.ne_nil_of_mem hblock))
  · obtain ⟨manifest, hmanifest⟩ := Option.isSome_iff_exists.mp hise
    exact blocker_of_condition (policy_enabled_of_ise (hmanifest ▸ hrendered.ise))

end Codes

end orchestrator.renderer
