import SdaOrchestrator.Worker.Operations
import SdaOrchestrator.Worker.Rollback

open python effects effects.Program orchestrator.store

namespace orchestrator.worker

section Safety

variable {platform : Platform} {derive_fabric_intent : Derive} {start : Store}
  {worker : TransactionWorker} {outside : Outside} {base : CoreTables} {run_id : String}
  {gate_plan : List Value}

/-- How a transaction that was started has ended. -/
def Settled (gate_plan : List Value) (devices : List String) (base : CoreTables)
    (run_id plan_id : String) (plan artifact : Value)
    (s : State platform derive_fabric_intent start) : Prop :=
  Succeeded gate_plan devices plan artifact run_id s ∨ Ended gate_plan devices base run_id plan_id s

theorem stable_succeeded {devices : List String} {plan artifact : Value} :
    Stable (Succeeded gate_plan devices plan artifact run_id :
      State platform derive_fabric_intent start → Prop) := by
  intro before after hquiet hsucceeded
  obtain ⟨events, htrace, hnone⟩ := hquiet.trace
  refine ⟨?_, lasting_complete before after hquiet.toSilent hsucceeded.complete, ?_⟩
  · rw [htrace]
    exact hsucceeded.orderly.append hnone
  · rw [hquiet.core]
    exact hsucceeded.status

theorem stable_settled {devices : List String} {plan_id : String} {plan artifact : Value} :
    Stable (Settled gate_plan devices base run_id plan_id plan artifact :
      State platform derive_fabric_intent start → Prop) := by
  intro before after hquiet hsettled
  cases hsettled with
  | inl hsucceeded => exact .inl (stable_succeeded before after hquiet hsucceeded)
  | inr hended => exact .inr (stable_ended before after hquiet hended)

/-- Whatever raises in the transaction or in its handler, the run ends settled. -/
theorem guarded_transaction_triple {run : RunRow} {plan artifact : Value}
    {devices : List (String × Value)} {ise_manifest : Option Value} :
    Triple (fun s : State platform derive_fabric_intent start =>
        (Unsent s ∧ Running base run_id s) ∧ s.adapters = [])
      (guarded_transaction worker outside run_id run plan artifact devices gate_plan ise_manifest)
      (fun _ s => Settled gate_plan (devices.map Prod.fst) base run_id run.plan_id plan artifact s)
      (fun _ s => Settled gate_plan (devices.map Prod.fst) base run_id run.plan_id plan artifact s) := by
  let settled (s : State platform derive_fabric_intent start) :=
    Settled gate_plan (devices.map Prod.fst) base run_id run.plan_id plan artifact s
  apply Triple.bind fun _ => settled
  · apply Triple.attempt
    apply Triple.attempt_bind _ _ apply_transaction_triple
    · intro result
      apply Triple.pure
      rintro s (⟨hunsent, hstanding⟩ | hsucceeded)
      · exact .inr (ended_of_status hunsent.unwound hstanding.status (by decide))
      · exact .inl hsucceeded
    · rintro exception s (hrecoverable | hsucceeded)
      · refine handle_failure_triple.weaken (fun _ hs => hs) ?_ ?_ s hrecoverable
        · exact fun _ _ hs => .inr hs
        · exact fun _ _ hs => .inr hs
      · refine handle_failure_refused.weaken (fun _ hs => hs) ?_ ?_ s hsucceeded
        · exact fun _ _ hs => hs.elim
        · exact fun _ _ hs => .inl hs
  intro outcome
  apply (close_adapters_keeps stable_settled).then fun _ _ hs => hs
  intro _
  exact Triple.lift (fun _ _ _ hs => hs) fun _ _ _ hs => hs

/-- How a whole `process_apply` call has ended. -/
inductive Closed (worker : TransactionWorker) (intent plan artifact : Value) (run_id : String)
    (s : State platform derive_fabric_intent start) : Prop where
  | unsent (hunsent : Unsent s)
      (hstatus : s.store.core.run_status run_id = some .apply_queued ∨
        s.store.core.run_status run_id = some .apply_failed)
  | settled {run : RunRow} {gate_plan : List Value} {devices : List (String × Value)}
      (hrun : start.find_run run_id = some run)
      (hgates : worker.build_gate_plan intent artifact = .ok gate_plan)
      (hdevices : device_map intent artifact = .ok devices)
      (hsettled : Settled gate_plan (devices.map Prod.fst) start.core run_id run.plan_id plan
        artifact s)

/-- A call that is refused at once changes nothing. -/
theorem process_apply_triple {intent plan artifact : Value}
    {allowed_blocker_codes : Option (List String)} :
    Triple (fun s : State platform derive_fabric_intent start => s = .initial)
      (process_apply worker outside run_id intent plan artifact allowed_blocker_codes)
      (fun _ s => s = .initial ∨ Closed worker intent plan artifact run_id s)
      (fun _ s => s = .initial ∨ Closed worker intent plan artifact run_id s) := by
  let queued (s : State platform derive_fabric_intent start) :=
    (Unsent s ∧ s.adapters = []) ∧ start.core.Standing run_id .apply_queued s.store.core
  have hlasting : Lasting fun s : State platform derive_fabric_intent start =>
      Unsent s ∧ s.adapters = [] := lasting_unsent.and (lasting_adapters (· = []))
  have hqueued : Stable queued := hlasting.stable.and stable_standing
  have hclosed (s) (hs : queued s) : s = .initial ∨ Closed worker intent plan artifact run_id s :=
    .inr (.unsent hs.1.1 (.inl hs.2.status))
  apply Triple.bind fun run s => s = .initial ∧ s.store.find_run run_id = some run
  · exact get_run_triple.weaken (fun _ hs => hs) (fun _ _ hs => hs) fun _ _ hs => .inl hs
  intro run
  apply Triple.ite
  · exact fun _ => Triple.raise fun s hs => .inl hs.1
  intro hallowed
  obtain ⟨-, hstatus⟩ := not_or.mp hallowed
  rw [not_not] at hstatus
  rintro s ⟨rfl, hrun⟩
  have hstart : queued .initial := by
    refine ⟨⟨by simp [Unsent, State.initial], rfl⟩, ?_, rfl, rfl⟩
    have hfound : table.lookup RunRow.run_id run_id start.runs = some run := hrun
    show (table.lookup RunRow.run_id run_id start.runs).map RunRow.status = some .apply_queued
    rw [hfound, ← hstatus]
    rfl
  refine (?_ : Triple queued _ _ _) .initial hstart
  apply Triple.lift_bind fun _ s hs => hclosed s hs
  intro _ _
  apply Triple.lift_bind fun _ s hs => hclosed s hs
  intro unresolved_blocker_codes _
  apply Triple.ite
  · intro _
    have hfailed : RunStatus.apply_failed ∈ transition_run.allowed .apply_queued := by decide
    apply Triple.bind _ ((transition_run_triple hlasting hfailed).weaken (fun _ hs => hs)
      (fun _ _ hs => hs) fun _ _ hs => hs.elim)
    exact fun _ => Triple.pure fun s hs => .inr (.unsent hs.1.1 (.inr hs.2.status))
  intro _
  apply Triple.lift_bind fun _ s hs => hclosed s hs
  intro devices hdevices
  apply Triple.lift_bind fun _ s hs => hclosed s hs
  intro gate_plan hgates
  apply Triple.lift_bind fun _ s hs => hclosed s hs
  intro ise_manifest _
  apply (_preflight_secret_sweep_keeps hqueued.framed).then fun _ s hs => hclosed s hs
  intro _
  have hrunning : RunStatus.apply_running ∈ transition_run.allowed .apply_queued := by decide
  apply Triple.bind _ ((transition_run_triple hlasting hrunning).weaken (fun _ hs => hs)
    (fun _ _ hs => hs) fun _ _ hs => hs.elim)
  intro _
  refine guarded_transaction_triple.weaken (fun s hs => ⟨⟨hs.1.1, hs.2⟩, hs.1.2⟩) ?_ ?_
  · exact fun _ s hs => .inr (.settled hrun hgates hdevices hs)
  · exact fun _ s hs => .inr (.settled hrun hgates hdevices hs)

end Safety

/-! ## Every block exactly once -/

/-- The blocks of a device that were applied in a phase, in order. -/
def blocks_applied (phase_id device_id : String) (trace : List Event) : List Value :=
  (applied_blocks trace).filterMap fun entry =>
    if entry.1 = phase_id ∧ entry.2.1 = device_id then some entry.2.2 else none

/-- `item["phase_id"] == phase_id`. -/
def phase_named (phase_id : String) (phase : Value) : Bool :=
  match phase.item "phase_id" with
  | .ok id => is_text id phase_id
  | .error _ => false

/-- The artifact lists no phase id twice for one device. -/
def ListedOnce (artifact : Value) : Prop :=
  ∀ artifact_devices device_id listed, artifact.item "devices" = .ok artifact_devices →
    listed_phases artifact_devices device_id = .ok listed →
      listed.Pairwise fun first second => ∀ phase_id,
        phase_named phase_id first → ¬phase_named phase_id second

/-- When only one element of a list without repetitions contributes, it is all there is. -/
theorem flatMap_eq_of_nodup {α β : Type} {items : List α} {f : α → List β} {x : α}
    (hnodup : items.Nodup) (hx : x ∈ items) (hother : ∀ y ∈ items, y ≠ x → f y = []) :
    items.flatMap f = f x := by
  induction items with
  | nil => cases hx
  | cons y rest ih =>
    obtain ⟨hfresh, hrest⟩ := List.nodup_cons.mp hnodup
    rw [List.flatMap_cons]
    by_cases hself : y = x
    · subst hself
      have hnone : rest.flatMap f = [] := by
        refine List.flatMap_eq_nil_iff.mpr fun z hz => ?_
        exact hother z (List.mem_cons_of_mem _ hz) fun h => hfresh (h ▸ hz)
      rw [hnone, List.append_nil]
    · rw [hother y (by simp) hself, List.nil_append]
      refine ih hrest ?_ fun z hz => hother z (List.mem_cons_of_mem _ hz)
      exact (List.mem_cons.mp hx).resolve_left (Ne.symm hself)

theorem blocks_applied_eq {gate_plan : List Value} {artifact_devices : Value}
    {device_ids phases : List String} {trace : List Event} {phase_id device_id : String}
    (hdone : PhasesDone gate_plan artifact_devices device_ids phases trace)
    (hphases : phases.Nodup) (hdevices : device_ids.Nodup) (hphase : phase_id ∈ phases)
    (hdevice : device_id ∈ device_ids) :
    blocks_applied phase_id device_id trace = blocks_of artifact_devices phase_id device_id := by
  let here (entry : String × String × Value) :=
    if entry.1 = phase_id ∧ entry.2.1 = device_id then some entry.2.2 else none
  have hblocks (phase device : String) (blocks : List Value) :
      (blocks.map fun block => (phase, device, block)).filterMap here =
        if phase = phase_id ∧ device = device_id then blocks else [] := by
    rw [List.filterMap_map]
    by_cases hhere : phase = phase_id ∧ device = device_id
    · simp [here, hhere]
    · simp [here, hhere]
  have hphase_blocks (phase : String) :
      (phase_blocks artifact_devices device_ids phase).filterMap here =
        if phase = phase_id then blocks_of artifact_devices phase device_id else [] := by
    rw [phase_blocks, List.filterMap_flatMap, flatMap_eq_of_nodup hdevices hdevice, hblocks]
    · simp
    · intro other _ hother
      rw [hblocks, if_neg fun h => hother h.2]
  rw [blocks_applied, hdone.applied, List.filterMap_flatMap, flatMap_eq_of_nodup hphases hphase]
  · exact (hphase_blocks phase_id).trans (if_pos rfl)
  · intro other _ hother
    exact (hphase_blocks other).trans (if_neg hother)

/-- The first phase of a name is the only one, when no name is listed twice. -/
theorem first_phase_eq {phase_id : String} {listed : List Value} {found : Option Value}
    {phase : Value} (hfirst : first_phase phase_id listed = .ok found) (hphase : phase ∈ listed)
    (hnamed : phase_named phase_id phase)
    (honce : listed.Pairwise fun first second => ∀ phase_id,
      phase_named phase_id first → ¬phase_named phase_id second) : found = some phase := by
  induction listed with
  | nil => cases hphase
  | cons first rest ih =>
    obtain ⟨hfirst_once, hrest_once⟩ := List.pairwise_cons.mp honce
    simp only [first_phase, bind_eq_ok_iff] at hfirst
    obtain ⟨id, hid, hfirst⟩ := hfirst
    have hfirst_named : phase_named phase_id first = is_text id phase_id := by
      simp only [phase_named, hid]
    split at hfirst
    · rename_i htext
      obtain rfl := Except.ok.inj hfirst
      obtain rfl | hrest := List.mem_cons.mp hphase
      · rfl
      · exact absurd hnamed (hfirst_once phase hrest phase_id (hfirst_named.trans htext))
    · rename_i htext
      obtain rfl | hrest := List.mem_cons.mp hphase
      · exact absurd (hfirst_named.symm.trans hnamed) htext
      · exact ih hfirst hrest hrest_once

/-- Every executed phase ran in full: its gates passed, and the applied blocks are those
of the artifact, phase by phase and device by device, each exactly once. -/
structure Executed (gate_plan : List Value) (plan artifact : Value) (trace : List Event) : Prop where
  complete : Complete gate_plan plan artifact trace
  once : ∀ artifact_devices phases device_id listed,
    artifact.item "devices" = .ok artifact_devices → ordered_phases plan = .ok phases →
      listed_phases artifact_devices device_id = .ok listed →
        ∀ phase ∈ listed, ∀ phase_id ∈ phases, phase_named phase_id phase →
          ∃ blocks, (phase.item "blocks" >>= Value.elements) = .ok blocks ∧
            blocks_applied phase_id device_id trace = blocks

theorem Complete.executed {gate_plan : List Value} {plan artifact : Value} {trace : List Event}
    (hcomplete : Complete gate_plan plan artifact trace)
    (hplan : ∀ ids, phase_ids plan = .ok ids → ids.Nodup) (honce : ListedOnce artifact) :
    Executed gate_plan plan artifact trace := by
  refine ⟨hcomplete, ?_⟩
  intro artifact_devices phases device_id listed hdevices hphases hlisted phase hphase phase_id
    hphase_id hnamed
  obtain ⟨artifact_devices', phases', entries, hdevices', hphases', hentries, hdone⟩ := hcomplete
  obtain rfl := Except.ok.inj (hdevices'.symm.trans hdevices)
  obtain rfl := Except.ok.inj (hphases'.symm.trans hphases)
  have hnodup : phases'.Nodup := by
    obtain ⟨ids, hids, hfilter⟩ := bind_eq_ok_iff.mp hphases'
    obtain rfl := Except.ok.inj hfilter
    exact (hplan ids hids).filter _
  have hentry : device_id ∈ entries.map Prod.fst := by
    obtain ⟨device, hdevice, -⟩ := bind_eq_ok_iff.mp hlisted
    exact List.mem_map.mpr ⟨(device_id, device), Value.mem_pairs_of_item hentries hdevice, rfl⟩
  have hdevice : device_id ∈ sortedTexts (entries.map Prod.fst) := mem_sortedBy.mpr hentry
  have hids : (sortedTexts (entries.map Prod.fst)).Nodup :=
    sortedTexts_nodup (Value.keys_pairs_nodup hentries)
  obtain ⟨blocks, hblocks⟩ := hdone.found phase_id hphase_id device_id hdevice
  rw [blocks_applied_eq hdone hnodup hids hphase_id hdevice, blocks_of, hblocks]
  simp only [device_blocks, hlisted, bind_eq_ok_iff] at hblocks
  obtain ⟨listed', hlisted', found, hfound, hblocks⟩ := hblocks
  obtain rfl := Except.ok.inj hlisted'
  have hself := first_phase_eq hfound hphase hnamed
    (honce artifact_devices' device_id listed hdevices hlisted)
  rw [hself] at hblocks
  exact ⟨blocks, hblocks, rfl⟩

/-! ## The safety of a transaction -/

/-- What a call that reached `apply_running` guarantees, whatever went wrong in it. -/
structure Safe {platform : Platform} {derive_fabric_intent : Derive} {start : Store}
    (worker : TransactionWorker) (intent plan artifact : Value) (run_id : String)
    (final : State platform derive_fabric_intent start) : Prop where
  ordered : ∀ gate_plan devices, worker.build_gate_plan intent artifact = .ok gate_plan →
    device_map intent artifact = .ok devices →
      Orderly (Ready gate_plan (devices.map Prod.fst) run_id) final.trace
  executed : final.store.core.run_status run_id = some .apply_succeeded →
    ∃ gate_plan, worker.build_gate_plan intent artifact = .ok gate_plan ∧
      Executed gate_plan plan artifact final.trace
  restored : final.store.core.run_status run_id ≠ some .apply_succeeded →
    ∀ device_id, Sent final.trace device_id → RolledBack run_id device_id final.trace

/-- Transaction safety: for every behaviour of the adapters, the ISE executor, the
secret resolver and the evidence store, a call that reached `apply_running` sends
blocks only after every precheck and checkpoint, succeeds only with every block
applied exactly once in plan order, and otherwise attempts the rollback of every
device it sent a block to. -/
theorem process_apply_safe (platform : Platform) (derive_fabric_intent : Derive) (start : Store)
    (worker : TransactionWorker) (outside : Outside) (run_id : String)
    (intent plan artifact : Value) (allowed_blocker_codes : Option (List String))
    (hplan : ∀ ids, phase_ids plan = .ok ids → ids.Nodup) (hartifact : ListedOnce artifact)
    (hreached : (after_apply platform derive_fabric_intent start worker outside run_id intent plan
      artifact allowed_blocker_codes).trace.any (Event.starts_apply run_id)) :
    Safe worker intent plan artifact run_id (after_apply platform derive_fabric_intent start worker
      outside run_id intent plan artifact allowed_blocker_codes) := by
  revert hreached
  generalize hfinal : after_apply platform derive_fabric_intent start worker outside run_id intent
    plan artifact allowed_blocker_codes = final
  intro hreached
  have hcall : final = .initial ∨ Closed worker intent plan artifact run_id final :=
    hfinal ▸ process_apply_triple.final rfl
  obtain rfl | hclosed := hcall
  · cases hreached
  cases hclosed with
  | unsent hunsent hstatus =>
    refine ⟨fun _ _ _ _ => orderly_of_unsent hunsent, fun hsucceeded => ?_, fun _ => ?_⟩
    · rw [hsucceeded] at hstatus
      simp at hstatus
    · exact hunsent.restored
  | @settled run gate_plan devices hrun hgates hdevices hsettled =>
    have hplanned (gate_plan' : List Value) (devices' : List (String × Value))
        (hgates' : worker.build_gate_plan intent artifact = .ok gate_plan')
        (hdevices' : device_map intent artifact = .ok devices') :
        gate_plan = gate_plan' ∧ devices = devices' :=
      ⟨Except.ok.inj (hgates.symm.trans hgates'), Except.ok.inj (hdevices.symm.trans hdevices')⟩
    cases hsettled with
    | inl hsucceeded =>
      refine ⟨?_, fun _ => ?_, fun hother => absurd hsucceeded.status hother⟩
      · intro gate_plan' devices' hgates' hdevices'
        obtain ⟨rfl, rfl⟩ := hplanned gate_plan' devices' hgates' hdevices'
        exact hsucceeded.orderly
      · exact ⟨gate_plan, hgates, hsucceeded.complete.executed hplan hartifact⟩
    | inr hended =>
      refine ⟨?_, fun hsucceeded => ?_, fun _ => hended.unwound.restored⟩
      · intro gate_plan' devices' hgates' hdevices'
        obtain ⟨rfl, rfl⟩ := hplanned gate_plan' devices' hgates' hdevices'
        exact hended.unwound.orderly
      · obtain ⟨status, hfailed, hstatus⟩ := hended.status
        obtain rfl := Option.some.inj (hstatus.symm.trans hsucceeded)
        simp at hfailed

theorem lab_artifact_listed_once : ListedOnce lab_artifact := by
  intro artifact_devices device_id listed hdevices hlisted
  obtain rfl := Except.ok.inj hdevices
  by_cases hdevice : "node-1" = device_id
  · subst hdevice
    obtain rfl := Except.ok.inj hlisted
    exact List.pairwise_singleton _ _
  · simp [listed_phases, Value.item, assoc.lookup, hdevice, bind_eq_ok_iff] at hlisted

theorem process_apply_safe_lab :
    Safe lab_worker lab_intent lab_plan lab_artifact "run_500" lab_first := by
  refine process_apply_safe cpython lab_derive lab_start lab_worker (lab_outside 6 false) "run_500"
    lab_intent lab_plan lab_artifact none ?_ lab_artifact_listed_once lab_outcome.1
  intro ids hids
  obtain rfl := Except.ok.inj hids
  decide

end orchestrator.worker
