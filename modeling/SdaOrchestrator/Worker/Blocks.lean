import SdaOrchestrator.Worker.Standing

open python effects effects.Program orchestrator.store

namespace orchestrator.worker

/-- Some block was sent to the device. -/
def Sent (trace : List Event) (device_id : String) : Prop :=
  ∃ event ∈ trace, ∃ phase_id block, event.sent_block = some (phase_id, device_id, block)

def GatesPassed (gates : List Value) (trace : List Event) : Prop :=
  ∀ gate ∈ gates, .gate gate true ∈ trace

/-- Every gate of the phase passed. -/
def PhasePassed (gate_plan : List Value) (trace : List Event) (phase_id : String) : Prop :=
  ∃ gates, gates_of gate_plan phase_id = .ok gates ∧ GatesPassed gates trace

/-- The device returned a verified checkpoint of this name. -/
def Checkpointed (run_id device_id text : String) (trace : List Event) : Prop :=
  ∃ checkpoint value verified,
    .called (.create_checkpoint device_id run_id) (.ok checkpoint) ∈ trace ∧
      checkpoint.get "verified" = .ok verified ∧ Value.optTruthy verified ∧
      checkpoint.item "checkpoint" = .ok value ∧ value.toStr = text

/-- Every precheck gate passed and every device has a verified checkpoint. -/
structure Ready (gate_plan : List Value) (devices : List String) (run_id : String)
    (trace : List Event) : Prop where
  gates : PhasePassed gate_plan trace "precheck"
  checkpoints : ∀ device_id ∈ devices, ∃ text, Checkpointed run_id device_id text trace

/-- Whenever a block is sent, the trace before it meets the condition. -/
def Orderly (ready : List Event → Prop) (trace : List Event) : Prop :=
  ∀ before event after, trace = before ++ event :: after → event.sent_block ≠ none → ready before

/-- The blocks of a device in a phase, where the artifact has them. -/
def blocks_of (artifact_devices : Value) (phase_id device_id : String) : List Value :=
  match device_blocks artifact_devices phase_id device_id with
  | .ok blocks => blocks
  | .error _ => []

/-- The blocks of one phase, device by device. -/
def phase_blocks (artifact_devices : Value) (device_ids : List String) (phase_id : String) :
    List (String × String × Value) :=
  device_ids.flatMap fun device_id =>
    (blocks_of artifact_devices phase_id device_id).map fun block => (phase_id, device_id, block)

/-- What has been applied and which gates have passed once the phases are done. -/
structure PhasesDone (gate_plan : List Value) (artifact_devices : Value) (device_ids : List String)
    (phases : List String) (trace : List Event) : Prop where
  found : ∀ phase_id ∈ phases, ∀ device_id ∈ device_ids,
    ∃ blocks, device_blocks artifact_devices phase_id device_id = .ok blocks
  applied : applied_blocks trace = phases.flatMap (phase_blocks artifact_devices device_ids)
  gates : ∀ phase_id ∈ "precheck" :: phases, PhasePassed gate_plan trace phase_id

/-! ## What a longer trace keeps -/

theorem GatesPassed.append {gates : List Value} {trace : List Event}
    (hpassed : GatesPassed gates trace) (events : List Event) :
    GatesPassed gates (trace ++ events) :=
  fun gate hgate => List.mem_append_left _ (hpassed gate hgate)

theorem PhasePassed.append {gate_plan : List Value} {trace : List Event} {phase_id : String}
    (hpassed : PhasePassed gate_plan trace phase_id) (events : List Event) :
    PhasePassed gate_plan (trace ++ events) phase_id := by
  obtain ⟨gates, hgates, hall⟩ := hpassed
  exact ⟨gates, hgates, hall.append events⟩

theorem Checkpointed.append {run_id device_id text : String} {trace : List Event}
    (hcheckpoint : Checkpointed run_id device_id text trace) (events : List Event) :
    Checkpointed run_id device_id text (trace ++ events) := by
  obtain ⟨checkpoint, value, verified, hmem, hrest⟩ := hcheckpoint
  exact ⟨checkpoint, value, verified, List.mem_append_left _ hmem, hrest⟩

theorem Ready.append {gate_plan : List Value} {devices : List String} {run_id : String}
    {trace : List Event} (hready : Ready gate_plan devices run_id trace) (events : List Event) :
    Ready gate_plan devices run_id (trace ++ events) where
  gates := hready.gates.append events
  checkpoints device_id hdevice := by
    obtain ⟨text, hcheckpoint⟩ := hready.checkpoints device_id hdevice
    exact ⟨text, hcheckpoint.append events⟩

theorem orderly_of_unsent {ready : List Event → Prop} {trace : List Event}
    (hunsent : ∀ event ∈ trace, event.sent_block = none) : Orderly ready trace := by
  intro before event after htrace hsent
  exact absurd (hunsent event (by simp [htrace])) hsent

/-- A trace stays orderly when a block is sent only once the condition is met. -/
theorem Orderly.concat {ready : List Event → Prop} {trace : List Event} {event : Event}
    (horderly : Orderly ready trace) (hevent : event.sent_block ≠ none → ready trace) :
    Orderly ready (trace ++ [event]) := by
  intro before found after htrace hsent
  obtain rfl | ⟨init, last, rfl⟩ := List.eq_nil_or_concat after
  · obtain ⟨rfl, hfound⟩ := List.append_inj' htrace rfl
    obtain rfl : event = found := by simpa using hfound
    exact hevent hsent
  · rw [List.concat_eq_append, ← List.cons_append, ← List.append_assoc] at htrace
    obtain ⟨hinit, -⟩ := List.append_inj' htrace rfl
    exact horderly before found init hinit hsent

theorem Orderly.append {ready : List Event → Prop} {trace events : List Event}
    (horderly : Orderly ready trace) (hevents : ∀ event ∈ events, event.sent_block = none) :
    Orderly ready (trace ++ events) := by
  induction events generalizing trace with
  | nil => simpa using horderly
  | cons event rest ih =>
    rw [List.append_cons]
    apply ih
    · exact horderly.concat fun hsent => absurd (hevents event (by simp)) hsent
    · exact fun e he => hevents e (List.mem_cons_of_mem _ he)

theorem sent_append {trace events : List Event} {device_id : String}
    (hevents : ∀ event ∈ events, event.sent_block = none) :
    Sent (trace ++ events) device_id ↔ Sent trace device_id := by
  constructor
  · rintro ⟨event, hevent, phase_id, block, hsent⟩
    obtain hold | hnew := List.mem_append.mp hevent
    · exact ⟨event, hold, phase_id, block, hsent⟩
    · rw [hevents event hnew] at hsent
      cases hsent
  · rintro ⟨event, hevent, hsent⟩
    exact ⟨event, List.mem_append_left _ hevent, hsent⟩

theorem applied_blocks_append {trace events : List Event}
    (hevents : ∀ event ∈ events, event.sent_block = none) :
    applied_blocks (trace ++ events) = applied_blocks trace := by
  have hnone : events.filterMap Event.applied_block = [] :=
    List.filterMap_eq_nil_iff.mpr fun event hevent => applied_block_of_sent_none (hevents event hevent)
  rw [applied_blocks, List.filterMap_append, hnone, List.append_nil, applied_blocks]

theorem PhasesDone.append {gate_plan : List Value} {artifact_devices : Value}
    {device_ids phases : List String} {trace events : List Event}
    (hdone : PhasesDone gate_plan artifact_devices device_ids phases trace)
    (hevents : ∀ event ∈ events, event.sent_block = none) :
    PhasesDone gate_plan artifact_devices device_ids phases (trace ++ events) where
  found := hdone.found
  applied := by rw [applied_blocks_append hevents, hdone.applied]
  gates phase_id hphase := (hdone.gates phase_id hphase).append events

/-! ## The states of the transaction -/

section States

variable {platform : Platform} {derive_fabric_intent : Derive} {start : Store}
  {gate_plan : List Value} {devices : List String} {run_id : String}

/-- The checkpoint a device would be rolled back to is a verified one. -/
def Restorable (run_id device_id : String) (s : State platform derive_fabric_intent start) : Prop :=
  ∃ text, Checkpointed run_id device_id text s.trace ∧ assoc.lookup device_id s.checkpoints = some text

/-- No block was sent yet. -/
def Unsent (s : State platform derive_fabric_intent start) : Prop :=
  ∀ event ∈ s.trace, event.sent_block = none

/-- Blocks were sent in order only, and a device that was sent one can be rolled back. -/
structure Recoverable (gate_plan : List Value) (devices : List String) (run_id : String)
    (s : State platform derive_fabric_intent start) : Prop where
  orderly : Orderly (Ready gate_plan devices run_id) s.trace
  sent : ∀ device_id, Sent s.trace device_id →
    device_id ∈ s.changed_devices ∧ device_id ∈ s.adapters ∧ Restorable run_id device_id s

/-- The transaction is past its checkpoints. -/
structure Applying (gate_plan : List Value) (devices : List String) (run_id : String)
    (s : State platform derive_fabric_intent start) : Prop
    extends Recoverable gate_plan devices run_id s where
  ready : Ready gate_plan devices run_id s.trace
  restorable : ∀ device_id ∈ s.adapters, Restorable run_id device_id s

theorem Unsent.recoverable {s : State platform derive_fabric_intent start} (hunsent : Unsent s) :
    Recoverable gate_plan devices run_id s where
  orderly := orderly_of_unsent hunsent
  sent device_id hsent := by
    obtain ⟨event, hevent, phase_id, block, hblock⟩ := hsent
    rw [hunsent event hevent] at hblock
    cases hblock

theorem lasting_unsent :
    Lasting (Unsent : State platform derive_fabric_intent start → Prop) := by
  intro before after hsilent hunsent event hevent
  obtain ⟨events, htrace, hnone⟩ := hsilent.trace
  rw [htrace, List.mem_append] at hevent
  exact hevent.elim (hunsent event) (hnone event)

theorem lasting_restorable {device_id : String} :
    Lasting (Restorable run_id device_id : State platform derive_fabric_intent start → Prop) := by
  rintro before after hsilent ⟨text, hcheckpoint, hlookup⟩
  obtain ⟨events, htrace, -⟩ := hsilent.trace
  refine ⟨text, ?_, by rw [hsilent.checkpoints, hlookup]⟩
  rw [htrace]
  exact hcheckpoint.append events

theorem lasting_recoverable : Lasting
    (Recoverable gate_plan devices run_id : State platform derive_fabric_intent start → Prop) := by
  intro before after hsilent hrecoverable
  obtain ⟨events, htrace, hnone⟩ := hsilent.trace
  constructor
  · rw [htrace]
    exact hrecoverable.orderly.append hnone
  · intro device_id hsent
    rw [htrace, sent_append hnone] at hsent
    obtain ⟨hchanged, hadapter, hrestorable⟩ := hrecoverable.sent device_id hsent
    rw [hsilent.changed_devices, hsilent.adapters]
    exact ⟨hchanged, hadapter, lasting_restorable before after hsilent hrestorable⟩

theorem lasting_applying : Lasting
    (Applying gate_plan devices run_id : State platform derive_fabric_intent start → Prop) := by
  intro before after hsilent happlying
  obtain ⟨events, htrace, -⟩ := hsilent.trace
  refine { lasting_recoverable before after hsilent happlying.toRecoverable with
    ready := ?_, restorable := ?_ }
  · rw [htrace]
    exact happlying.ready.append events
  · intro device_id hadapter
    rw [hsilent.adapters] at hadapter
    exact lasting_restorable before after hsilent (happlying.restorable device_id hadapter)

theorem lasting_applied_blocks (blocks : List (String × String × Value)) :
    Lasting fun s : State platform derive_fabric_intent start => applied_blocks s.trace = blocks := by
  intro before after hsilent hblocks
  obtain ⟨events, htrace, hnone⟩ := hsilent.trace
  rw [htrace, applied_blocks_append hnone, hblocks]

theorem lasting_gates_passed (gates : List Value) :
    Lasting fun s : State platform derive_fabric_intent start => GatesPassed gates s.trace := by
  intro before after hsilent hpassed
  obtain ⟨events, htrace, -⟩ := hsilent.trace
  rw [htrace]
  exact hpassed.append events

theorem lasting_phases_done {artifact_devices : Value} {device_ids phases : List String} :
    Lasting fun s : State platform derive_fabric_intent start =>
      PhasesDone gate_plan artifact_devices device_ids phases s.trace := by
  intro before after hsilent hdone
  obtain ⟨events, htrace, hnone⟩ := hsilent.trace
  rw [htrace]
  exact hdone.append hnone

end States

end orchestrator.worker
