import Mathlib.Data.Prod.Lex
import SdaOrchestrator.Reconciliation.Baseline
import SdaOrchestrator.Reconciliation.Resources

open python orchestrator.store

namespace orchestrator.reconciliation

open orchestrator.intent orchestrator.renderer

/-- An operational gate. -/
structure Gate where
  gate_id : String
  phase_id : String
  device_id : String
  command : String
  evaluator : String
  expected : List (String × Value)
  blocking : Bool
  owned_resource_key : Option String

def Gate.document (gate : Gate) : Value :=
  .dict (field "gate_id" (.str gate.gate_id) ++ field "phase_id" (.str gate.phase_id) ++
    field "device_id" (.str gate.device_id) ++ field "command" (.str gate.command) ++
    field "evaluator" (.str gate.evaluator) ++ field "expected" (.dict gate.expected) ++
    field "blocking" (.bool gate.blocking) ++
    optional "owned_resource_key" gate.owned_resource_key .str)

/-- What is removed from a device that owned it under the baseline. -/
structure ReconciledDevice where
  device : List (String × Value)
  blocks : List Block
  gates : List Gate

/-- The difference to a baseline. -/
structure Delta where
  baseline_hash : String
  previous_manifest_hash : String
  current_manifest_hash : String
  stale_resource_count : Nat
  devices : List (String × ReconciledDevice)

/-- What `build_multicast_reconciliation` returns. -/
inductive Reconciliation where
  | baseline_missing
  | ready (delta : Delta)

/-! ## Its document -/

def ReconciledDevice.document (device : ReconciledDevice) : Value :=
  .dict [("device", .dict device.device), ("blocks", sections Block.document device.blocks),
    ("gates", sections Gate.document device.gates)]

def Delta.body (delta : Delta) : List (String × Value) := [
  ("status", .str "ready"), ("baseline_hash", .str delta.baseline_hash),
  ("previous_manifest_hash", .str delta.previous_manifest_hash),
  ("current_manifest_hash", .str delta.current_manifest_hash),
  ("stale_resource_count", .int delta.stale_resource_count),
  ("devices", .dict (delta.devices.map fun (device_id, device) => (device_id, device.document)))]

namespace Reconciliation

def status : Reconciliation → String
  | .baseline_missing => "baseline_missing"
  | .ready _ => "ready"

def baseline_hash : Reconciliation → Value
  | .baseline_missing => .null
  | .ready delta => .str delta.baseline_hash

/-- `reconciliation.get("reconciliation_hash")`. -/
def reconciliation_hash (platform : Platform) : Reconciliation → Value
  | .baseline_missing => .null
  | .ready delta => .str (platform.sha256_json (.dict delta.body))

def stale_resource_count : Reconciliation → Nat
  | .baseline_missing => 0
  | .ready delta => delta.stale_resource_count

def devices : Reconciliation → List (String × ReconciledDevice)
  | .baseline_missing => []
  | .ready delta => delta.devices

def document (platform : Platform) : Reconciliation → Value
  | .baseline_missing => .dict [("status", .str "baseline_missing"), ("baseline_hash", .null),
      ("stale_resource_count", .int 0), ("devices", .dict [])]
  | .ready delta => .dict (delta.body ++
      [("reconciliation_hash", .str (platform.sha256_json (.dict delta.body)))])

end Reconciliation

/-! ## The stale resources -/

/-- A resource of a manifest, under its device and its key. -/
abbrev Keyed := (String × String) × Value

def device_resources (entry : String × Value) : Py (List Keyed) := do
  let items ← (← entry.2.getD "resources" (.list [])).elements
  items.mapM fun item => do return ((entry.1, (← item.item "key").toStr), item)

/-- The resources of a manifest. -/
def resources_of (manifest : Value) : Py (List Keyed) := do
  let devices ← (← manifest.getD "devices" (.dict [])).pairs
  return dict_of (← collect devices device_resources)

/-- A resource that is gone or has another state. -/
def is_stale (current : List Keyed) (entry : Keyed) : Py Bool := do
  match assoc.lookup entry.1 current with
  | none => return true
  | some item => return (← item.item "state_hash").toStr ≠ (← entry.2.item "state_hash").toStr

def stale_resources (previous current : List Keyed) : Py (List Keyed) :=
  collect previous fun entry => do return if ← is_stale current entry then [entry] else []

/-- Within a device the resources are removed from the highest order down. -/
def sorted_stale (stale : List Keyed) : Py (List Keyed) := do
  let ranked ← stale.mapM fun entry => do
    return (← (← entry.2.getD "remove_order" (.int 0)).toInt, entry)
  return (sortedBy (fun (order, (device_id, key), _) => toLex (device_id, toLex (-order, key)))
    ranked).map Prod.snd

section Delta

variable (platform : Platform)

/-- The removal block; the commands of a valid manifest are texts. -/
def removal_block (entry : Keyed) : Py Block := do
  let ((device_id, key), item) := entry
  let commands ← (← item.item "remove_commands").elements
  return {
    block_id := "reconcile_" ++ take 16 (platform.sha256_json (texts [device_id, key]))
    owned_resource_key := some key
    commands := commands.map Value.toStr
    command_hash := (← item.item "remove_command_hash").toStr
    secret_refs := [] }

def absence_gate (entry : Keyed) : Py Gate := do
  let ((device_id, key), item) := entry
  let digest := take 12 (platform.sha256_json (.str key))
  let forbidden_lines ← (← item.item "forbidden_lines").elements
  return {
    gate_id := s!"reconcile.absent.{device_id}.{digest}"
    phase_id := "multicast_reconciliation"
    device_id
    command := (← item.item "gate_command").toStr
    evaluator := "config_lines_absent"
    expected := [("lines", .list forbidden_lines)]
    blocking := true
    owned_resource_key := some key }

def reconciled_device (previous : Value) (stale : List Keyed) (device_id : String) :
    Py (String × ReconciledDevice) := do
  let previous_device ← (← previous.item "devices").item device_id
  let descriptor ← (← previous_device.item "device").pairs
  let own := stale.filter (·.1.1 = device_id)
  return (device_id, ⟨descriptor, ← own.mapM (removal_block platform), ← own.mapM (absence_gate platform)⟩)

def build_multicast_reconciliation (baseline : Option Value) (current_manifest : Value) :
    Py Reconciliation := do
  validate_owned_state platform current_manifest none
  match baseline with
  | none => return .baseline_missing
  | some baseline =>
    validate_baseline platform baseline (← current_manifest.item "fabric_id").toStr
    let previous ← baseline.item "manifest"
    let previous_resources ← resources_of previous
    let current_resources ← resources_of current_manifest
    let stale ← stale_resources previous_resources current_resources
    let ordered ← sorted_stale stale
    let devices ← (sortedSet (ordered.map (·.1.1))).mapM (reconciled_device platform previous ordered)
    return .ready {
      baseline_hash := (← baseline.item "baseline_hash").toStr
      previous_manifest_hash := (← previous.item "manifest_hash").toStr
      current_manifest_hash := (← current_manifest.item "manifest_hash").toStr
      stale_resource_count := stale.length
      devices }

variable {platform}

/-- What `build_multicast_reconciliation` returns with a baseline. -/
theorem ready_of_eq_ok {baseline : Option Value} {manifest : Value} {delta : Delta}
    (hbuild : build_multicast_reconciliation platform baseline manifest = .ok (.ready delta)) :
    ∃ previous stale ordered, sorted_stale stale = .ok ordered ∧
      delta.stale_resource_count = stale.length ∧
      (sortedSet (ordered.map (·.1.1))).mapM (reconciled_device platform previous ordered) =
        .ok delta.devices := by
  simp only [build_multicast_reconciliation, bind_eq_ok_iff] at hbuild
  obtain ⟨_, -, hbuild⟩ := hbuild
  cases baseline with
  | none => cases pure_eq_ok_iff.mp hbuild
  | some baseline =>
    simp only [bind_eq_ok_iff, pure_eq_ok_iff, Reconciliation.ready.injEq] at hbuild
    obtain ⟨_, -, _, -, previous, -, _, -, _, -, stale, -, ordered, hordered, devices, hdevices,
      _, -, _, -, _, -, rfl⟩ := hbuild
    exact ⟨previous, stale, ordered, hordered, rfl, hdevices⟩

theorem length_of_sorted_stale {stale ordered : List Keyed} (hordered : sorted_stale stale = .ok ordered) :
    ordered.length = stale.length := by
  simp only [sorted_stale, bind_eq_ok_iff, pure_eq_ok_iff] at hordered
  obtain ⟨ranked, hranked, rfl⟩ := hordered
  rw [List.length_map, sortedBy, List.length_insertionSort]
  exact (mapM_eq_ok_iff.mp hranked).length_eq.symm

/-- The removals and the gates of a device are those of its stale resources. -/
theorem reconciled_device_eq_ok {previous : Value} {stale : List Keyed} {device_id : String}
    {entry : String × ReconciledDevice}
    (hok : reconciled_device platform previous stale device_id = .ok entry) :
    entry.1 = device_id ∧
      (∀ block ∈ entry.2.blocks, ∃ resource ∈ stale, removal_block platform resource = .ok block) ∧
      ∀ gate ∈ entry.2.gates, ∃ resource ∈ stale, resource.1.1 = device_id ∧
        absence_gate platform resource = .ok gate := by
  simp only [reconciled_device, bind_eq_ok_iff, pure_eq_ok_iff] at hok
  obtain ⟨_, -, _, -, _, -, _, -, blocks, hblocks, gates, hgates, rfl⟩ := hok
  refine ⟨rfl, fun block hblock => ?_, fun gate hgate => ?_⟩
  · obtain ⟨resource, hresource, hbody⟩ := mem_of_mapM hblocks hblock
    exact ⟨resource, (List.mem_filter.mp hresource).1, hbody⟩
  · obtain ⟨resource, hresource, hbody⟩ := mem_of_mapM hgates hgate
    obtain ⟨hstale, hdevice⟩ := List.mem_filter.mp hresource
    exact ⟨resource, hstale, of_decide_eq_true hdevice, hbody⟩

/-- A device with a removal comes from a stale resource. -/
theorem stale_of_reconciled {baseline : Option Value} {manifest : Value}
    {reconciliation : Reconciliation}
    (hbuild : build_multicast_reconciliation platform baseline manifest = .ok reconciliation)
    {entry : String × ReconciledDevice} (hentry : entry ∈ reconciliation.devices)
    {block : Block} (hblock : block ∈ entry.2.blocks) : reconciliation.stale_resource_count ≠ 0 := by
  cases reconciliation with
  | baseline_missing => cases hentry
  | ready delta =>
    obtain ⟨previous, stale, ordered, hordered, hcount, hdevices⟩ := ready_of_eq_ok hbuild
    obtain ⟨device_id, -, hok⟩ := mem_of_mapM hdevices hentry
    obtain ⟨resource, hresource, -⟩ := (reconciled_device_eq_ok hok).2.1 block hblock
    have hlength := List.length_pos_of_mem hresource
    rw [length_of_sorted_stale hordered] at hlength
    show delta.stale_resource_count ≠ 0
    omega

/-- A gate of a reconciled device is in the phase of the removals, on that device. -/
theorem gate_of_reconciled {baseline : Option Value} {manifest : Value}
    {reconciliation : Reconciliation}
    (hbuild : build_multicast_reconciliation platform baseline manifest = .ok reconciliation)
    {entry : String × ReconciledDevice} (hentry : entry ∈ reconciliation.devices)
    {gate : Gate} (hgate : gate ∈ entry.2.gates) :
    gate.phase_id = "multicast_reconciliation" ∧ gate.device_id = entry.1 := by
  cases reconciliation with
  | baseline_missing => cases hentry
  | ready delta =>
    obtain ⟨previous, stale, ordered, -, -, hdevices⟩ := ready_of_eq_ok hbuild
    obtain ⟨device_id, -, hok⟩ := mem_of_mapM hdevices hentry
    obtain ⟨hid, -, hgates⟩ := reconciled_device_eq_ok hok
    obtain ⟨⟨⟨owner, key⟩, item⟩, -, howner, hbody⟩ := hgates gate hgate
    simp only [absence_gate, bind_eq_ok_iff, pure_eq_ok_iff] at hbody
    obtain ⟨_, -, _, -, _, -, rfl⟩ := hbody
    exact ⟨rfl, howner.trans hid.symm⟩

end Delta

end orchestrator.reconciliation
