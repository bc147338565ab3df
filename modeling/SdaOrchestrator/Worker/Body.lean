import SdaOrchestrator.Worker.Blocks

open python effects effects.Program orchestrator.store

namespace orchestrator.worker

section Body

variable {platform : Platform} {derive_fabric_intent : Derive} {start : Store}
  {worker : TransactionWorker} {outside : Outside} {base : CoreTables} {run_id : String}
  {gate_plan : List Value} {devices : List String}

/-- The run is running and everything else in the core tables is as in `base`. -/
def Running (base : CoreTables) (run_id : String)
    (s : State platform derive_fabric_intent start) : Prop :=
  base.Standing run_id .apply_running s.store.core

theorem stable_running :
    Stable (Running base run_id : State platform derive_fabric_intent start → Prop) :=
  stable_standing

theorem lasting_adapters (property : List String → Prop) :
    Lasting fun s : State platform derive_fabric_intent start => property s.adapters := by
  intro before after hsilent hproperty
  rw [hsilent.adapters]
  exact hproperty

/-- A property that longer traces keep lasts. -/
theorem lasting_trace {property : List Event → Prop}
    (hproperty : ∀ trace events, property trace → property (trace ++ events)) :
    Lasting fun s : State platform derive_fabric_intent start => property s.trace := by
  intro before after hsilent hbefore
  obtain ⟨events, htrace, -⟩ := hsilent.trace
  rw [htrace]
  exact hproperty before.trace events hbefore

/-! ## Before the checkpoints -/

theorem connect_devices_triple (device_map : List (String × Value)) :
    Triple (fun s : State platform derive_fabric_intent start =>
        (Unsent s ∧ Running base run_id s) ∧ s.adapters = [])
      (connect_devices outside device_map)
      (fun _ s => (Unsent s ∧ Running base run_id s) ∧
        s.adapters = sortedTexts (device_map.map Prod.fst))
      (fun _ s => Unsent s ∧ Running base run_id s) := by
  apply Triple.each fun done s => (Unsent s ∧ Running base run_id s) ∧ s.adapters = done
  intro done device_id rest _
  have hstable : Stable fun s : State platform derive_fabric_intent start =>
      (Unsent s ∧ Running base run_id s) ∧ s.adapters = done :=
    (lasting_unsent.stable.and stable_running).and (lasting_adapters (· = done)).stable
  apply (call_keeps hstable (by trivial)).then fun _ _ hs => hs.1
  intro _
  apply (call_keeps hstable (by trivial)).then fun _ _ hs => hs.1
  intro _
  apply Triple.modify
  rintro s ⟨⟨hunsent, hrunning⟩, hadapters⟩
  exact ⟨⟨hunsent, hrunning⟩, by rw [hadapters]⟩

/-- Either every precheck gate passed, or the run is over and has failed. -/
theorem run_prechecks_triple {P : State platform derive_fabric_intent start → Prop}
    (hP : Lasting P) (gates : List Value) :
    Triple (fun s => P s ∧ Running base run_id s) (run_prechecks worker outside run_id gates)
      (fun result s => match result with
        | none => (P s ∧ Running base run_id s) ∧ GatesPassed gates s.trace
        | some _ => P s ∧ base.Standing run_id .apply_failed s.store.core)
      (fun _ s => P s ∧ Running base run_id s) := by
  induction gates generalizing P with
  | nil => exact Triple.pure fun s hs => ⟨hs, by simp [GatesPassed]⟩
  | cons gate rest ih =>
    have hstable : Stable fun s => P s ∧ Running base run_id s := hP.stable.and stable_running
    apply Triple.bind _ (_record_gate_triple hstable.framed)
    intro passed
    apply Triple.ite
    · rintro rfl
      have hrest := ih (hP.and (lasting_mem_trace (.gate gate true)))
      refine hrest.weaken ?_ ?_ ?_
      · exact fun s hs => ⟨⟨hs.1.1, hs.2⟩, hs.1.2⟩
      · intro result s hs
        cases result with
        | none =>
          obtain ⟨⟨⟨hp, hgate⟩, hrunning⟩, hpassed⟩ := hs
          exact ⟨⟨hp, hrunning⟩, List.forall_mem_cons.mpr ⟨hgate, hpassed⟩⟩
        | some updated => exact ⟨hs.1.1, hs.2⟩
      · exact fun _ s hs => ⟨hs.1.1, hs.2⟩
    · intro _
      apply Triple.lift_bind fun _ _ hs => hs.1
      intro gate_id _
      have hfailed : RunStatus.apply_failed ∈ transition_run.allowed .apply_running := by decide
      apply Triple.bind _ ((transition_run_triple hP hfailed).weaken (fun _ hs => hs.1)
        (fun _ _ hs => hs) fun _ _ hs => hs.elim)
      exact fun updated => Triple.pure fun s hs => hs

theorem lasting_restorable_all (done : List String) :
    Lasting fun s : State platform derive_fabric_intent start =>
      ∀ device_id ∈ done, Restorable run_id device_id s :=
  fun before after hsilent hall device_id hdevice =>
    lasting_restorable before after hsilent (hall device_id hdevice)

/-- Recording a verified checkpoint makes its device restorable and no other less so. -/
theorem restorable_set {s : State platform derive_fabric_intent start}
    {device_id other text : String} (hcheckpoint : Checkpointed run_id device_id text s.trace)
    (hother : other = device_id ∨ Restorable run_id other s) :
    Restorable run_id other { s with checkpoints := assoc.set device_id text s.checkpoints } := by
  by_cases hsame : other = device_id
  · subst hsame
    exact ⟨text, hcheckpoint, by rw [assoc.lookup_set, if_pos rfl]⟩
  · obtain ⟨found, hfound, hlookup⟩ := hother.resolve_left hsame
    exact ⟨found, hfound, by rw [assoc.lookup_set, if_neg (Ne.symm hsame), hlookup]⟩

/-- Every connected device has a verified checkpoint afterwards. -/
theorem create_checkpoints_triple {P : State platform derive_fabric_intent start → Prop}
    (hP : Lasting P)
    (hcheckpoint : ∀ s checkpoints, P s → P { s with checkpoints }) :
    Triple (fun s => P s ∧ Running base run_id s) (create_checkpoints worker outside run_id)
      (fun _ s => (P s ∧ Running base run_id s) ∧
        ∀ device_id ∈ s.adapters, Restorable run_id device_id s)
      (fun _ s => P s ∧ Running base run_id s) := by
  apply Triple.read_bind
  intro connected
  let inv (done : List String) (s : State platform derive_fabric_intent start) :=
    ((P s ∧ Running base run_id s) ∧ sortedTexts s.adapters = connected) ∧
      ∀ device_id ∈ done, Restorable run_id device_id s
  refine (Triple.each inv ?_).weaken (fun s hs => ⟨hs, by simp⟩) ?_ fun _ _ hs => hs
  · intro done device_id rest _
    have hadapters : Lasting fun s : State platform derive_fabric_intent start =>
        sortedTexts s.adapters = connected := lasting_adapters fun ids => sortedTexts ids = connected
    have hinv : Stable (inv done) :=
      ((hP.stable.and stable_running).and hadapters.stable).and (lasting_restorable_all done).stable
    apply Triple.bind _ ((call_triple hinv (by trivial)).weaken (fun _ hs => hs) (fun _ _ hs => hs)
      fun _ _ hs => hs.1.1.1)
    intro checkpoint
    apply Triple.lift_bind fun _ _ hs => hs.1.1.1
    intro verified hverified
    apply Triple.ite
    · intro htrue
      apply Triple.lift_bind fun _ _ hs => hs.1.1.1
      intro value hvalue
      have hnext : Stable (inv (done ++ [device_id])) :=
        ((hP.stable.and stable_running).and hadapters.stable).and
          (lasting_restorable_all (done ++ [device_id])).stable
      apply Triple.bind fun _ => inv (done ++ [device_id])
      · apply Triple.modify
        rintro s ⟨⟨⟨⟨hp, hrunning⟩, hconnected⟩, hdone⟩, hcalled⟩
        have hself : Checkpointed run_id device_id value.toStr s.trace :=
          ⟨checkpoint, value, verified, hcalled, hverified, htrue, hvalue, rfl⟩
        refine ⟨⟨⟨hcheckpoint s _ hp, hrunning⟩, hconnected⟩, ?_⟩
        intro other hother
        apply restorable_set hself
        obtain hold | hnew := List.mem_append.mp hother
        · exact .inr (hdone other hold)
        · exact .inl (List.mem_singleton.mp hnew)
      · intro _
        exact (add_evidence_keeps hnext).weaken (fun _ hs => hs) (fun _ _ hs => hs)
          fun _ _ hs => hs.1.1
    · exact fun _ => Triple.raise fun s hs => hs.1.1.1
  · rintro _ s ⟨⟨hs, hconnected⟩, hall⟩
    refine ⟨hs, fun device_id hdevice => hall device_id ?_⟩
    rw [← hconnected, sortedTexts]
    exact mem_sortedBy.mpr hdevice

/-! ## The blocks -/

/-- Sending a block to a connected device that counts as changed. -/
theorem Applying.send {s : State platform derive_fabric_intent start} {event : Event}
    {phase_id device_id : String} {block : Value}
    (happlying : Applying gate_plan devices run_id s)
    (hsent : event.sent_block = some (phase_id, device_id, block))
    (hchanged : device_id ∈ s.changed_devices) (hadapter : device_id ∈ s.adapters) :
    Applying gate_plan devices run_id (s.record event) where
  orderly := happlying.orderly.concat fun _ => happlying.ready
  sent := by
    rintro other ⟨found, hfound, hother⟩
    obtain hold | hnew := List.mem_append.mp hfound
    · obtain ⟨hchanged, hadapter, text, hcheckpoint, hlookup⟩ :=
        happlying.sent other ⟨found, hold, hother⟩
      exact ⟨hchanged, hadapter, text, hcheckpoint.append _, hlookup⟩
    · obtain ⟨_, _, hblock⟩ := hother
      rw [List.mem_singleton.mp hnew, hsent] at hblock
      obtain ⟨-, rfl, -⟩ := by simpa using hblock
      obtain ⟨text, hcheckpoint, hlookup⟩ := happlying.restorable device_id hadapter
      exact ⟨hchanged, hadapter, text, hcheckpoint.append _, hlookup⟩
  ready := happlying.ready.append _
  restorable other hother := by
    obtain ⟨text, hcheckpoint, hlookup⟩ := happlying.restorable other hother
    exact ⟨text, hcheckpoint.append _, hlookup⟩

/-- Counting a device as changed. -/
theorem Applying.mark {s : State platform derive_fabric_intent start}
    {changed_devices : List String} (happlying : Applying gate_plan devices run_id s)
    (hmore : ∀ device_id ∈ s.changed_devices, device_id ∈ changed_devices) :
    Applying gate_plan devices run_id { s with changed_devices } where
  orderly := happlying.orderly
  sent device_id hsent := by
    obtain ⟨hchanged, hrest⟩ := happlying.sent device_id hsent
    exact ⟨hmore device_id hchanged, hrest⟩
  ready := happlying.ready
  restorable := happlying.restorable

/-- One block: it is applied, or what was sent stays recoverable. -/
theorem apply_block_triple {phase_id device_id : String} {block : Value}
    {blocks : List (String × String × Value)} {Q : List Event → Prop}
    (hQ : ∀ trace events, Q trace → Q (trace ++ events)) :
    Triple (fun s : State platform derive_fabric_intent start =>
        ((Applying gate_plan devices run_id s ∧ Running base run_id s) ∧ Q s.trace) ∧
          applied_blocks s.trace = blocks)
      (apply_block worker outside run_id phase_id device_id block)
      (fun _ s => ((Applying gate_plan devices run_id s ∧ Running base run_id s) ∧ Q s.trace) ∧
        applied_blocks s.trace = blocks ++ [(phase_id, device_id, block)])
      (fun _ s => Recoverable gate_plan devices run_id s ∧ Running base run_id s) := by
  let inv (blocks : List (String × String × Value))
      (s : State platform derive_fabric_intent start) :=
    ((Applying gate_plan devices run_id s ∧ Running base run_id s) ∧ Q s.trace) ∧
      applied_blocks s.trace = blocks
  have hstable (blocks) : Stable (inv blocks) :=
    ((lasting_applying.stable.and stable_running).and (lasting_trace hQ).stable).and
      (lasting_applied_blocks blocks).stable
  have hraised (blocks) (s) (hs : inv blocks s) :
      Recoverable gate_plan devices run_id s ∧ Running base run_id s :=
    ⟨hs.1.1.1.toRecoverable, hs.1.1.2⟩
  apply Triple.lift_bind fun _ s hs => hraised blocks s hs
  intro commands _
  apply (_resolve_commands_keeps (hstable blocks).framed).then fun _ s hs => hraised blocks s hs
  intro resolved
  apply Triple.bind fun _ s => inv blocks s ∧ device_id ∈ s.changed_devices
  · apply Triple.modify
    rintro s ⟨⟨⟨happlying, hrunning⟩, hq⟩, hblocks⟩
    split
    · exact ⟨⟨⟨⟨happlying, hrunning⟩, hq⟩, hblocks⟩, ‹_›⟩
    · refine ⟨⟨⟨⟨happlying.mark ?_, hrunning⟩, hq⟩, hblocks⟩, by simp⟩
      exact fun _ => List.mem_append_left _
  intro _
  apply Triple.bind fun _ s => (inv blocks s ∧ device_id ∈ s.changed_devices) ∧ device_id ∈ s.adapters
  · exact adapter_triple.weaken (fun _ hs => hs) (fun _ _ hs => hs) fun _ s hs => hraised blocks s hs.1
  intro _
  apply Triple.bind fun _ => inv (blocks ++ [(phase_id, device_id, block)])
  · rintro s ⟨⟨⟨⟨⟨happlying, hrunning⟩, hq⟩, hblocks⟩, hchanged⟩, hadapter⟩
    have hsend (outcome : Py Value) : Applying gate_plan devices run_id
        (s.record (.called (.apply_block device_id phase_id block resolved) outcome)) :=
      happlying.send rfl hchanged hadapter
    simp only [call]
    cases outside.respond s.trace (.apply_block device_id phase_id block resolved) with
    | error exception => exact ⟨(hsend _).toRecoverable, hrunning⟩
    | ok value =>
      refine ⟨⟨⟨hsend _, hrunning⟩, hQ _ _ hq⟩, ?_⟩
      rw [← hblocks]
      simp [State.record, applied_blocks, Event.applied_block]
  intro evidence
  apply Triple.lift_bind fun _ s hs => hraised _ s hs
  intro payload _
  exact (add_evidence_keeps (hstable _)).weaken (fun _ hs => hs) (fun _ _ hs => hs)
    fun _ s hs => hraised _ s hs

/-- The blocks of one device in a phase, in order. -/
theorem apply_device_triple {artifact_devices : Value} {phase_id device_id : String}
    {blocks : List (String × String × Value)} {Q : List Event → Prop}
    (hQ : ∀ trace events, Q trace → Q (trace ++ events)) :
    Triple (fun s : State platform derive_fabric_intent start =>
        ((Applying gate_plan devices run_id s ∧ Running base run_id s) ∧ Q s.trace) ∧
          applied_blocks s.trace = blocks)
      (do
        let found ← Program.lift (device_blocks artifact_devices phase_id device_id)
        Program.each found (apply_block worker outside run_id phase_id device_id))
      (fun _ s => (((Applying gate_plan devices run_id s ∧ Running base run_id s) ∧ Q s.trace) ∧
          applied_blocks s.trace = blocks ++ (blocks_of artifact_devices phase_id device_id).map
            fun block => (phase_id, device_id, block)) ∧
        ∃ found, device_blocks artifact_devices phase_id device_id = .ok found)
      (fun _ s => Recoverable gate_plan devices run_id s ∧ Running base run_id s) := by
  apply Triple.lift_bind fun _ s hs => ⟨hs.1.1.1.toRecoverable, hs.1.1.2⟩
  intro found hfound
  rw [blocks_of, hfound]
  let inv (done : List Value) (s : State platform derive_fabric_intent start) :=
    ((Applying gate_plan devices run_id s ∧ Running base run_id s) ∧ Q s.trace) ∧
      applied_blocks s.trace = blocks ++ done.map fun block => (phase_id, device_id, block)
  refine (Triple.each inv ?_).weaken (fun s hs => ⟨hs.1, by simp [hs.2]⟩)
    (fun _ _ hs => ⟨hs, found, rfl⟩) fun _ _ hs => hs
  intro done block rest _
  refine (apply_block_triple hQ).weaken (fun _ hs => hs) ?_ fun _ _ hs => hs
  intro _ s hs
  refine ⟨hs.1, ?_⟩
  rw [hs.2, List.append_assoc, List.map_append]
  rfl

/-- One phase: all its blocks, then all its gates. -/
theorem apply_phase_triple {ise_manifest : Option Value} {artifact_devices : Value}
    {device_ids done : List String} {phase_id : String} :
    Triple (fun s : State platform derive_fabric_intent start =>
        (Applying gate_plan devices run_id s ∧ Running base run_id s) ∧
          PhasesDone gate_plan artifact_devices device_ids done s.trace)
      (apply_phase worker outside run_id gate_plan ise_manifest artifact_devices device_ids phase_id)
      (fun _ s => (Applying gate_plan devices run_id s ∧ Running base run_id s) ∧
        PhasesDone gate_plan artifact_devices device_ids (done ++ [phase_id]) s.trace)
      (fun _ s => Recoverable gate_plan devices run_id s ∧ Running base run_id s) := by
  let found (phase_id : String) (devices_done : List String) := ∀ device_id ∈ devices_done,
    ∃ blocks, device_blocks artifact_devices phase_id device_id = .ok blocks
  let Q (trace : List Event) := (∀ phase_id ∈ done, found phase_id device_ids) ∧
    ∀ phase_id ∈ "precheck" :: done, PhasePassed gate_plan trace phase_id
  have hQ (trace events : List Event) (hq : Q trace) : Q (trace ++ events) :=
    ⟨hq.1, fun phase_id hphase => (hq.2 phase_id hphase).append events⟩
  let before := done.flatMap (phase_blocks artifact_devices device_ids)
  let inv (blocks : List (String × String × Value))
      (s : State platform derive_fabric_intent start) :=
    ((Applying gate_plan devices run_id s ∧ Running base run_id s) ∧ Q s.trace) ∧
      applied_blocks s.trace = before ++ blocks
  have hstable (blocks) : Stable (inv blocks) :=
    ((lasting_applying.stable.and stable_running).and (lasting_trace hQ).stable).and
      (lasting_applied_blocks _).stable
  have hraised (blocks) (s) (hs : inv blocks s) :
      Recoverable gate_plan devices run_id s ∧ Running base run_id s :=
    ⟨hs.1.1.1.toRecoverable, hs.1.1.2⟩
  apply Triple.bind fun _ => inv []
  · refine (apply_ise_keeps (hstable [])).weaken ?_ (fun _ _ hs => hs) fun _ s hs => hraised [] s hs
    exact fun s hs => ⟨⟨hs.1, hs.2.found, hs.2.gates⟩, by rw [List.append_nil]; exact hs.2.applied⟩
  intro _
  apply Triple.bind fun _ s => inv (phase_blocks artifact_devices device_ids phase_id) s ∧
    found phase_id device_ids
  · refine (Triple.each (fun devices_done s => inv (phase_blocks artifact_devices devices_done
      phase_id) s ∧ found phase_id devices_done) ?_).weaken (fun s hs => ⟨hs, by simp [found]⟩)
      (fun _ _ hs => hs) fun _ _ hs => hs
    intro devices_done device_id rest _ s hs
    refine (apply_device_triple hQ).weaken (fun _ hs => hs) ?_ (fun _ _ hs => hs) s hs.1
    intro _ t ht
    refine ⟨⟨ht.1.1, ?_⟩, List.forall_mem_append.mpr ⟨hs.2, by simpa using ht.2⟩⟩
    rw [ht.1.2, List.append_assoc, phase_blocks, phase_blocks, List.flatMap_append,
      List.flatMap_singleton]
  intro _
  apply Triple.lift_bind fun _ s hs => hraised _ s hs.1
  intro phase_gates hphase_gates
  let blocks := phase_blocks artifact_devices device_ids phase_id
  let passed (gates_done : List Value) (s : State platform derive_fabric_intent start) :=
    (inv blocks s ∧ found phase_id device_ids) ∧ GatesPassed gates_done s.trace
  refine (Triple.each passed ?_).weaken (fun s hs => ⟨hs, by simp [GatesPassed]⟩) ?_
    fun _ _ hs => hs
  · intro gates_done gate rest _
    have hpassed : Stable (passed gates_done) :=
      ((hstable blocks).and (stable_const _)).and (lasting_gates_passed gates_done).stable
    apply Triple.bind _ ((_record_gate_triple hpassed.framed).weaken (fun _ hs => hs) (fun _ _ hs => hs)
      fun _ s hs => hraised blocks s hs.1.1)
    intro gate_passed
    apply Triple.ite
    · rintro rfl
      apply Triple.pure
      rintro s ⟨⟨hinv, hgates⟩, hgate⟩
      exact ⟨hinv, List.forall_mem_append.mpr ⟨hgates, by simpa using hgate⟩⟩
    · exact fun _ => Triple.raise fun s hs => hraised blocks s hs.1.1.1
  · rintro _ s ⟨⟨⟨⟨happlying, hfound, hq⟩, hblocks⟩, hfound_here⟩, hgates⟩
    refine ⟨happlying, List.forall_mem_append.mpr ⟨hfound, by simpa using hfound_here⟩, ?_, ?_⟩
    · rw [hblocks, List.flatMap_append, List.flatMap_singleton]
    · intro phase hphase
      rw [← List.cons_append, List.mem_append, List.mem_singleton] at hphase
      obtain hold | rfl := hphase
      · exact hq phase hold
      · exact ⟨phase_gates, hphase_gates, hgates⟩

/-! ## The whole transaction -/

/-- Every executed phase is done: its gates passed and its blocks are applied. -/
def Complete (gate_plan : List Value) (plan artifact : Value) (trace : List Event) : Prop :=
  ∃ artifact_devices phases entries,
    artifact.item "devices" = .ok artifact_devices ∧ ordered_phases plan = .ok phases ∧
      artifact_devices.pairs = .ok entries ∧
      PhasesDone gate_plan artifact_devices (sortedTexts (entries.map Prod.fst)) phases trace

theorem lasting_complete {plan artifact : Value} :
    Lasting fun s : State platform derive_fabric_intent start =>
      Complete gate_plan plan artifact s.trace := by
  rintro before after hsilent ⟨artifact_devices, phases, entries, hdevices, hphases, hentries, hdone⟩
  exact ⟨artifact_devices, phases, entries, hdevices, hphases, hentries,
    lasting_phases_done before after hsilent hdone⟩

/-- The run has succeeded, and with reason. -/
structure Succeeded (gate_plan : List Value) (devices : List String) (plan artifact : Value)
    (run_id : String) (s : State platform derive_fabric_intent start) : Prop where
  orderly : Orderly (Ready gate_plan devices run_id) s.trace
  complete : Complete gate_plan plan artifact s.trace
  status : s.store.core.run_status run_id = some .apply_succeeded

/-- The run succeeds, or nothing is committed; after the commit it stays a success. -/
theorem commit_apply_triple (base : CoreTables) {P : State platform derive_fabric_intent start → Prop}
    (hP : Lasting P) {run : RunRow} {artifact : Value} :
    Triple (fun s => P s ∧ Running base run_id s)
      (commit_apply worker outside run_id run artifact)
      (fun _ s => P s ∧ s.store.core.run_status run_id = some .apply_succeeded)
      (fun _ s => P s ∧ (Running base run_id s ∨
        s.store.core.run_status run_id = some .apply_succeeded)) := by
  apply Triple.lift_bind fun _ s hs => ⟨hs.1, .inl hs.2⟩
  intro artifact_hash _
  apply Triple.lift_bind fun _ s hs => ⟨hs.1, .inl hs.2⟩
  intro owned_state _
  apply Triple.read_bind
  intro detail
  let succeeded (s : State platform derive_fabric_intent start) :=
    P s ∧ s.store.core.run_status run_id = some .apply_succeeded
  apply Triple.bind fun _ => succeeded
  · refine (complete_apply_triple hP).weaken (fun s hs => hs.1) ?_ ?_
    · exact fun _ s hs => ⟨hs.1, hs.2.status⟩
    · exact fun _ s hs => ⟨hs.1, .inl hs.2⟩
  intro updated
  apply Triple.bind fun _ => succeeded
  · exact get_plan_triple.weaken (fun _ hs => hs) (fun _ _ hs => hs.1)
      fun _ s hs => ⟨hs.1.1, .inr hs.1.2⟩
  intro plan_record
  cases given plan_record.reservation_id with
  | none => exact Triple.pure fun s hs => hs
  | some reservation_id =>
    apply Triple.bind fun _ => succeeded
    · exact (transition_design_reservation_keeps hP).weaken (fun _ hs => hs) (fun _ _ hs => hs)
        fun _ s hs => ⟨hs.1, .inr hs.2⟩
    · exact fun _ => Triple.pure fun s hs => hs

/-- The body of the `try` statement either fails a precheck before it sends anything,
or succeeds, or raises in a state that can be recovered. -/
theorem apply_transaction_triple {run : RunRow} {plan artifact : Value}
    {device_map : List (String × Value)} {ise_manifest : Option Value} :
    Triple (fun s : State platform derive_fabric_intent start =>
        (Unsent s ∧ Running base run_id s) ∧ s.adapters = [])
      (apply_transaction worker outside run_id run plan artifact device_map gate_plan ise_manifest)
      (fun _ s => (Unsent s ∧ base.Standing run_id .apply_failed s.store.core) ∨
        Succeeded gate_plan (device_map.map Prod.fst) plan artifact run_id s)
      (fun _ s => (Recoverable gate_plan (device_map.map Prod.fst) run_id s ∧
          Running base run_id s) ∨
        Succeeded gate_plan (device_map.map Prod.fst) plan artifact run_id s) := by
  let ids := sortedTexts (device_map.map Prod.fst)
  have hearly (s : State platform derive_fabric_intent start)
      (hs : Unsent s ∧ Running base run_id s) :
      (Recoverable gate_plan (device_map.map Prod.fst) run_id s ∧ Running base run_id s) ∨
        Succeeded gate_plan (device_map.map Prod.fst) plan artifact run_id s :=
    .inl ⟨hs.1.recoverable, hs.2⟩
  have hconnected : Lasting fun s : State platform derive_fabric_intent start =>
      Unsent s ∧ s.adapters = ids := lasting_unsent.and (lasting_adapters (· = ids))
  apply Triple.bind fun _ s => (Unsent s ∧ s.adapters = ids) ∧ Running base run_id s
  · refine (connect_devices_triple device_map).weaken (fun _ hs => hs) ?_ fun _ s hs => hearly s hs
    exact fun _ s hs => ⟨⟨hs.1.1, hs.2⟩, hs.1.2⟩
  intro _
  apply (prepare_ise_keeps (hconnected.stable.and stable_running)).then
    fun _ s hs => hearly s ⟨hs.1.1, hs.2⟩
  intro _
  apply Triple.lift_bind fun _ s hs => hearly s ⟨hs.1.1, hs.2⟩
  intro prechecks hprechecks
  apply Triple.bind _ ((run_prechecks_triple hconnected prechecks).weaken (fun _ hs => hs)
    (fun _ _ hs => hs) fun _ s hs => hearly s ⟨hs.1.1, hs.2⟩)
  intro result
  cases result with
  | some updated => exact Triple.pure fun s hs => .inl ⟨hs.1.1, hs.2⟩
  | none =>
    let P (s : State platform derive_fabric_intent start) :=
      (Unsent s ∧ s.adapters = ids) ∧ GatesPassed prechecks s.trace
    have hP : Lasting P := hconnected.and (lasting_gates_passed prechecks)
    apply Triple.bind fun _ s => (P s ∧ Running base run_id s) ∧
      ∀ device_id ∈ s.adapters, Restorable run_id device_id s
    · refine (create_checkpoints_triple hP fun _ _ hs => hs).weaken ?_ (fun _ _ hs => hs) ?_
      · exact fun s hs => ⟨⟨hs.1.1, hs.2⟩, hs.1.2⟩
      · exact fun _ s hs => hearly s ⟨hs.1.1.1, hs.2⟩
    intro _
    apply Triple.lift_bind fun _ s hs => hearly s ⟨hs.1.1.1.1, hs.1.2⟩
    intro artifact_devices hartifact_devices
    apply Triple.lift_bind fun _ s hs => hearly s ⟨hs.1.1.1.1, hs.1.2⟩
    intro phases hphases
    apply Triple.lift_bind fun _ s hs => hearly s ⟨hs.1.1.1.1, hs.1.2⟩
    intro device_ids hdevice_ids
    obtain ⟨entries, hentries, hsorted⟩ := bind_eq_ok_iff.mp hdevice_ids
    obtain rfl := Except.ok.inj hsorted
    let applying (s : State platform derive_fabric_intent start) :=
      Applying gate_plan (device_map.map Prod.fst) run_id s
    apply Triple.bind fun _ s => (applying s ∧ Running base run_id s) ∧
      PhasesDone gate_plan artifact_devices (sortedTexts (entries.map Prod.fst)) phases s.trace
    · refine (Triple.each (fun done s => (applying s ∧ Running base run_id s) ∧
        PhasesDone gate_plan artifact_devices (sortedTexts (entries.map Prod.fst)) done s.trace)
        fun done phase_id rest _ => apply_phase_triple).weaken ?_ (fun _ _ hs => hs)
        fun _ s hs => .inl hs
      rintro s ⟨⟨⟨⟨hunsent, hadapters⟩, hpassed⟩, hrunning⟩, hrestorable⟩
      have hgates : PhasePassed gate_plan s.trace "precheck" := ⟨prechecks, hprechecks, hpassed⟩
      have hcheckpoints (device_id : String) (hdevice : device_id ∈ device_map.map Prod.fst) :
          ∃ text, Checkpointed run_id device_id text s.trace := by
        have hadapter : device_id ∈ s.adapters := hadapters ▸ mem_sortedBy.mpr hdevice
        obtain ⟨text, hcheckpoint, -⟩ := hrestorable device_id hadapter
        exact ⟨text, hcheckpoint⟩
      refine ⟨⟨{ hunsent.recoverable with ready := ⟨hgates, hcheckpoints⟩, restorable := hrestorable },
        hrunning⟩, by simp, ?_, ?_⟩
      · exact List.filterMap_eq_nil_iff.mpr fun event hevent =>
          applied_block_of_sent_none (hunsent event hevent)
      · intro phase_id hphase
        rw [List.mem_singleton.mp hphase]
        exact hgates
    intro _
    apply Triple.read_bind
    intro unbound
    apply Triple.ite
    · exact fun _ => Triple.raise fun s hs => .inl ⟨hs.1.1.1.toRecoverable, hs.1.1.2⟩
    · intro _
      let finished (s : State platform derive_fabric_intent start) :=
        Recoverable gate_plan (device_map.map Prod.fst) run_id s ∧
          Complete gate_plan plan artifact s.trace
      have hfinished : Lasting finished := lasting_recoverable.and lasting_complete
      apply Triple.bind fun _ s => finished s ∧
        s.store.core.run_status run_id = some .apply_succeeded
      · refine (commit_apply_triple base hfinished).weaken ?_ (fun _ _ hs => hs) ?_
        · rintro s ⟨⟨⟨happlying, hrunning⟩, hdone⟩, -⟩
          exact ⟨⟨happlying.toRecoverable, artifact_devices, phases, entries, hartifact_devices,
            hphases, hentries, hdone⟩, hrunning⟩
        · rintro _ s ⟨⟨hrecoverable, hcomplete⟩, hrunning | hstatus⟩
          · exact .inl ⟨hrecoverable, hrunning⟩
          · exact .inr ⟨hrecoverable.orderly, hcomplete, hstatus⟩
      · exact fun _ => Triple.pure fun s hs => .inr ⟨hs.1.1.orderly, hs.1.2, hs.2⟩

end Body

end orchestrator.worker
