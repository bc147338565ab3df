import SdaOrchestrator.Store.Requested
import SdaOrchestrator.Worker.Runtime

open python effects effects.Program orchestrator.store

namespace orchestrator.worker

/-- A call that changes a device or ISE on behalf of a run. -/
def Call.writes : Call → Bool
  | .apply_block _ _ _ _ => true
  | .ise_apply => true
  | .ise_rollback => true
  | _ => false

def Event.writes : Event → Bool
  | .called call _ => call.writes
  | _ => false

end orchestrator.worker

namespace orchestrator.worker_runtime

open orchestrator.worker

/-- A worker process that is started on a run. -/
structure WorkerStart where
  runtime : Runtime
  outside : Outside
  run_id : String

/-- The clock reading at which `process_run` starts. -/
def WorkerStart.now (started : WorkerStart) : Datetime := (started.outside.ambient []).utc_now 0

/-- An entry of a schedule: a store transaction, by whatever part of the system, or a
worker that is started. -/
inductive Scheduled where
  | call (transaction : Transaction) (ambient : Ambient)
  | start (started : WorkerStart)

section Schedule

variable (platform : Platform) (derive_fabric_intent : Derive)

/-- The state in which a `process_run` call ends. -/
def after_start (current : Store) (started : WorkerStart) :
    State platform derive_fabric_intent current :=
  (process_run started.runtime started.outside started.run_id .initial).2

/-- The transactions that an entry of a schedule commits or tries. -/
def Scheduled.calls (current : Store) : Scheduled → List (Transaction × Ambient)
  | .call transaction ambient => [(transaction, ambient)]
  | .start started =>
    (after_start platform derive_fabric_intent current started).session.transactions.map Prod.fst

/-- A property holds of every worker that a schedule starts, and the calls made before. -/
def EveryStart (property : List (Transaction × Ambient) → WorkerStart → Prop) :
    List (Transaction × Ambient) → List Scheduled → Prop
  | _, [] => True
  | before, .call transaction ambient :: rest =>
    EveryStart property (before ++ [(transaction, ambient)]) rest
  | before, .start started :: rest =>
    property before started ∧
      EveryStart property
        (before ++ (Scheduled.start started).calls platform derive_fabric_intent
          (after_calls platform derive_fabric_intent before)) rest

/-- A run of the store is what the calls that it commits lead to. -/
theorem after_calls_run {before : List (Transaction × Ambient)}
    {transactions : List ((Transaction × Ambient) × Store)} {current : Store}
    (hcurrent : after_calls platform derive_fabric_intent before = current)
    (hrun : transition.Run (Step platform derive_fabric_intent) current transactions) :
    after_calls platform derive_fabric_intent (before ++ transactions.map Prod.fst) =
      transition.last current transactions := by
  induction hrun generalizing before with
  | nil current =>
    rw [List.map_nil, List.append_nil]
    exact hcurrent
  | @cons current next label rest hstep _ ih =>
    have hcalled : after_calls platform derive_fabric_intent (before ++ [label]) = next := by
      rw [after_calls_concat, hcurrent, called, hstep]
    have hrest := ih hcalled
    rw [List.append_assoc] at hrest
    exact hrest

/-- The calls of a worker leave the store in which its `process_run` call ends. -/
theorem after_calls_start (before : List (Transaction × Ambient)) (started : WorkerStart) :
    after_calls platform derive_fabric_intent
        (before ++ (Scheduled.start started).calls platform derive_fabric_intent
          (after_calls platform derive_fabric_intent before)) =
      (after_start platform derive_fabric_intent (after_calls platform derive_fabric_intent before)
        started).session.store :=
  after_calls_run platform derive_fabric_intent rfl (State.session _).history

/-- The clock has advanced at every call, up to the start of the worker. -/
structure Clocked (before : List (Transaction × Ambient)) (started : WorkerStart) : Prop where
  increasing : Increasing before
  started : ∀ call ∈ before, ∀ reading < clock_readings, call.2.utc_now reading < started.now

/-- What the approval policy asks of a run at the moment its worker starts. -/
structure ApplyRequired (current : Store) (now : Datetime) (run : RunRow) : Prop where
  window : run.window_open now
  approved : ∃ approval, current.last_decision run.plan_id = some approval ∧
    approval.decision = .approved ∧
    ∃ expiry, platform.parse_timestamp approval.expires_at = .ok expiry ∧ now < expiry
  dry_run : ∃ run_id other, current.find_run run_id = some other ∧ other.mode = .dry_run ∧
    other.plan_hash = run.plan_hash ∧ other.artifact_hash = run.artifact_hash ∧
    other.status = .dry_run_succeeded

/-- A worker that writes to a device or to ISE was started on a run that meets the
approval policy. -/
def AuthorizedAtStart (before : List (Transaction × Ambient)) (started : WorkerStart) : Prop :=
  (∃ event ∈ (after_start platform derive_fabric_intent
      (after_calls platform derive_fabric_intent before) started).trace, event.writes) →
    ∃ run, (after_calls platform derive_fabric_intent before).find_run started.run_id = some run ∧
      ApplyRequired platform (after_calls platform derive_fabric_intent before) started.now run

/-- A queued run is started before its window ends and its approval expires, no
rejection is the last decision since it was created, and a dry run of the same
hashes was completed before. -/
structure InTime (before : List (Transaction × Ambient)) (started : WorkerStart) (run : RunRow) :
    Prop where
  window : ∀ stop, run.maintenance_end = some (isoformat stop) → started.now ≤ stop
  decided : ∀ earlier call since created, before = earlier ++ call :: since →
    created.requested = run.requested →
    Requests platform (after_calls platform derive_fabric_intent earlier) call created →
    ∀ row, decided_since (after_calls platform derive_fabric_intent earlier)
        (after_calls platform derive_fabric_intent before) run.plan_id = some row →
      row.decision = .approved
  unexpired : ∀ row, (after_calls platform derive_fabric_intent before).last_decision run.plan_id =
      some row → ∃ expiry, platform.parse_timestamp row.expires_at = .ok expiry ∧ started.now < expiry
  dry_run : Happens platform derive_fabric_intent
    (DryRunSucceeds platform derive_fabric_intent run.plan_hash run.artifact_hash) [] before

/-- A worker is started in time on every queued run that it is started on. -/
def Timely (before : List (Transaction × Ambient)) (started : WorkerStart) : Prop :=
  ∀ run, (after_calls platform derive_fabric_intent before).find_run started.run_id = some run →
    run.mode = .apply → run.status = .apply_queued →
    InTime platform derive_fabric_intent before started run

end Schedule

section Authorized

variable {platform : Platform} {derive_fabric_intent : Derive}

/-- A worker does nothing before its run is admitted. -/
theorem queued_of_trace {current : Store} {started : WorkerStart} {event : Event}
    (hevent : event ∈ (after_start platform derive_fabric_intent current started).trace) :
    ∃ run, current.find_run started.run_id = some run ∧ run.mode = .apply ∧
      run.status = .apply_queued := by
  have hinitial : (State.initial : State platform derive_fabric_intent current).trace = [] := rfl
  unfold after_start process_run at hevent
  cases henabled : enabled started.runtime with
  | error exception =>
    rw [henabled] at hevent
    cases hevent
  | ok _ =>
    cases hadmitted : admitted platform started.runtime started.run_id started.now current with
    | error exception =>
      have hread : admitted platform started.runtime started.run_id
          ((started.outside.ambient []).utc_now 0) current = .error exception := hadmitted
      simp only [henabled, Bind.bind, Program.lift, Program.read, hinitial] at hevent
      rw [show (State.initial : State platform derive_fabric_intent current).session.store = current
        from rfl, hread] at hevent
      cases hevent
    | ok execution =>
      simp only [admitted, store.get_run, bind_eq_ok_iff, raise_if_eq_ok, require_eq_ok,
        Bool.or_eq_false_iff, decide_eq_false_iff_not, not_not] at hadmitted
      obtain ⟨run, hrun, _, hqueued, -⟩ := hadmitted
      exact ⟨run, hrun, hqueued⟩

theorem le_of_le_of_lt {first second third : Datetime} (hle : first ≤ second)
    (hlt : second < third) : first ≤ third := by
  have hfields : first.fields ≤ third.fields := by
    have hsecond : second.fields < third.fields := hlt
    exact le_trans hle hsecond.le
  exact hfields

/-- A worker that is started in time is authorized by what `create_run` has checked. -/
theorem authorized_of_timely {before : List (Transaction × Ambient)} {started : WorkerStart}
    (hclock : Clocked before started) (htimely : Timely platform derive_fabric_intent before started) :
    AuthorizedAtStart platform derive_fabric_intent before started := by
  rintro ⟨event, hevent, -⟩
  obtain ⟨run, hrun, hmode, hqueued⟩ := queued_of_trace hevent
  have hintime := htimely run hrun hmode hqueued
  refine ⟨run, hrun, ?_⟩
  obtain ⟨earlier, call, since, created, hbefore, hrequests, hrequested⟩ := find_run_requested hrun
  have hcolumns := hrequested
  simp only [RunRow.requested, RunRow.binding, Prod.mk.injEq] at hcolumns
  obtain ⟨⟨-, hplan, -⟩, hsame_mode, hstart, hstop⟩ := hcolumns
  refine ⟨?_, ?_, ?_⟩
  · obtain ⟨start, stop, hstart_text, hstop_text, hopened, -⟩ :=
      hrequests.window (hsame_mode.trans hmode)
    have hcall : call ∈ before := by
      rw [hbefore]
      simp
    have hlater := hclock.started call hcall 0 (by decide)
    exact ⟨start, stop, hstart ▸ hstart_text, hstop ▸ hstop_text, le_of_le_of_lt hopened hlater,
      hintime.window stop (hstop ▸ hstop_text)⟩
  · have hincreasing : Increasing earlier := by
      have hall := hclock.increasing
      rw [hbefore] at hall
      exact hall.of_append
    have hrecorded : Recorded earlier (after_calls platform derive_fabric_intent earlier) :=
      recorded_after_calls hincreasing
    obtain ⟨granted, hgrants⟩ := hrequests.grants
    have hgranted : (after_calls platform derive_fabric_intent earlier).last_decision run.plan_id =
        some granted := by
      rw [← latest_approval_eq_last hrecorded.sorted, ← hplan]
      exact hgrants.latest
    have hgrows : (after_calls platform derive_fabric_intent earlier).approvals <+:
        (after_calls platform derive_fabric_intent before).approvals := by
      have hcalls := approvals_of_calls platform derive_fabric_intent
        (after_calls platform derive_fabric_intent earlier) (call :: since)
      rw [after_calls, ← List.foldl_append, ← hbefore] at hcalls
      exact hcalls
    have hlast := last_decision_since hgrows run.plan_id
    rw [hgranted] at hlast
    cases hsince : decided_since (after_calls platform derive_fabric_intent earlier)
        (after_calls platform derive_fabric_intent before) run.plan_id with
    | none =>
      rw [hsince] at hlast
      exact ⟨granted, hlast, hgrants.approved, hintime.unexpired granted hlast⟩
    | some row =>
      rw [hsince] at hlast
      exact ⟨row, hlast, hintime.decided earlier call since created hbefore hrequested hrequests row
        hsince, hintime.unexpired row hlast⟩
  · exact dry_run_of_happens hintime.dry_run

/-- What every start satisfies follows, start by start, along a schedule. -/
theorem EveryStart.imp {first second third : List (Transaction × Ambient) → WorkerStart → Prop}
    (himp : ∀ before started, first before started → second before started → third before started)
    {before : List (Transaction × Ambient)} {schedule : List Scheduled}
    (hfirst : EveryStart platform derive_fabric_intent first before schedule)
    (hsecond : EveryStart platform derive_fabric_intent second before schedule) :
    EveryStart platform derive_fabric_intent third before schedule := by
  induction schedule generalizing before with
  | nil => trivial
  | cons entry rest ih =>
    cases entry with
    | call transaction ambient => exact ih hfirst hsecond
    | start started =>
      obtain ⟨hhere, hlater⟩ := hfirst
      obtain ⟨hhere', hlater'⟩ := hsecond
      exact ⟨himp before started hhere hhere', ih hlater hlater'⟩

/-- Over every schedule of store transactions and worker starts on an advancing clock:
when every worker is started in time, a worker that writes to a device or to ISE does
so for a run whose window is open, whose plan was last decided by an unexpired
approval, and whose hashes have passed a dry run, at the moment of its start. -/
theorem authorized_at_execution (platform : Platform) (derive_fabric_intent : Derive)
    (schedule : List Scheduled)
    (hclock : EveryStart platform derive_fabric_intent Clocked [] schedule)
    (htimely : EveryStart platform derive_fabric_intent
      (Timely platform derive_fabric_intent) [] schedule) :
    EveryStart platform derive_fabric_intent
      (AuthorizedAtStart platform derive_fabric_intent) [] schedule :=
  EveryStart.imp (fun _ _ => authorized_of_timely) hclock htimely

end Authorized

/-! ## A worker in the lab -/

def lab_environment : String → Option String
  | "ORCHESTRATOR_EXECUTION_ENABLED" => some "true"
  | "ORCHESTRATOR_WORKER_ENABLED" => some "true"
  | "ORCHESTRATOR_DATABASE_PATH" => some "/var/lib/sda/state.db"
  | _ => none

def lab_runtime : Runtime where
  environment := lab_environment
  regular_file _ := none
  build_secret_provider := .ok ()
  render_configuration _ _ := .ok lab_artifact
  build_gate_plan := lab_worker.build_gate_plan
  evaluate_gate := lab_worker.evaluate_gate

/-- A worker that is started in a minute of its own. -/
def lab_started (minute : Nat) (run_id : String) : WorkerStart where
  runtime := lab_runtime
  outside := { lab_outside 0 false with ambient := fun trace => lab_minute (minute + trace.length) }
  run_id := run_id

def scheduled (calls : List (Transaction × Ambient)) (started : WorkerStart) : List Scheduled :=
  calls.map (fun call => .call call.1 call.2) ++ [.start started]

/-- A schedule of calls and one worker start has the property of that start. -/
theorem every_start_scheduled {platform : Platform} {derive_fabric_intent : Derive}
    {property : List (Transaction × Ambient) → WorkerStart → Prop}
    (before calls : List (Transaction × Ambient)) (started : WorkerStart) :
    EveryStart platform derive_fabric_intent property before (scheduled calls started) ↔
      property (before ++ calls) started := by
  induction calls generalizing before with
  | nil => simp [scheduled, EveryStart]
  | cons call rest ih =>
    have hrest := ih (before ++ [call])
    rw [List.append_assoc] at hrest
    exact hrest

/-- The plan is rejected after its run was queued. -/
def lab_rejected_calls : List (Transaction × Ambient) :=
  lab_calls ++ [(.record_approval "plan_lab" "rejected" "approver" "CHG-2"
    "2025-02-01T00:00:00+00:00", lab_minute 6)]

theorem lab_rejected_clocked : Clocked lab_rejected_calls (lab_started 7 "run_500") where
  increasing := ⟨by decide, by decide⟩
  started := by decide

theorem lab_rejected :
    ((after_calls cpython lab_derive lab_rejected_calls).find_run "run_500").map RunRow.plan_id =
        some "plan_lab" ∧
      ((after_calls cpython lab_derive lab_rejected_calls).last_decision "plan_lab").map
        ApprovalRow.decision = some .rejected ∧
      (after_start cpython lab_derive (after_calls cpython lab_derive lab_rejected_calls)
        (lab_started 7 "run_500")).trace.any Event.writes = true := by
  decide +kernel

theorem not_authorized_at_execution :
    ¬∀ schedule : List Scheduled, EveryStart cpython lab_derive Clocked [] schedule →
      EveryStart cpython lab_derive (AuthorizedAtStart cpython lab_derive) [] schedule := by
  intro hclaim
  obtain ⟨hplan, hrejected, hwrites⟩ := lab_rejected
  have hstart := hclaim (scheduled lab_rejected_calls (lab_started 7 "run_500"))
    ((every_start_scheduled [] _ _).mpr lab_rejected_clocked)
  obtain ⟨run, hrun, hrequired⟩ :=
    (every_start_scheduled [] _ _).mp hstart (List.any_eq_true.mp hwrites)
  obtain ⟨approval, hlast, happroved, -⟩ := hrequired.approved
  have hplan_id : run.plan_id = "plan_lab" := by
    obtain ⟨found, hfound, hid⟩ := Option.map_eq_some_iff.mp hplan
    obtain rfl := Option.some.inj (hrun.symm.trans hfound)
    exact hid
  rw [hplan_id] at hlast
  obtain ⟨last, hfound, hdecision⟩ := Option.map_eq_some_iff.mp hrejected
  obtain rfl := Option.some.inj (hlast.symm.trans hfound)
  rw [happroved] at hdecision
  cases hdecision

/-- A dry run of the plan succeeds, then its apply run is queued. -/
def lab_dry_run_calls : List (Transaction × Ambient) := [
  (lab_reserve_design, lab_minute 1), (lab_save_intent, lab_minute 2),
  (lab_save_plan, lab_minute 3), (lab_record_approval, lab_minute 4),
  (.create_run "plan_lab" "dry_run" "dry-run-lab-0001" "operator" false none none 1800, lab_minute 5),
  (.transition_run "run_500" .dry_run_running "operator" (.dict []), lab_minute 6)]

def lab_dry_run_success : Transaction × Ambient :=
  (.transition_run "run_500" .dry_run_succeeded "operator" (.dict []), lab_minute 7)

def lab_timely_calls : List (Transaction × Ambient) :=
  lab_dry_run_calls ++ [lab_dry_run_success, (lab_queue_run "apply-lab-0001", lab_minute 8)]

theorem lab_timely_clocked : Clocked lab_timely_calls (lab_started 9 "run_800") where
  increasing := ⟨by decide, by decide⟩
  started := by decide

theorem lab_timely_stored :
    ((after_calls cpython lab_derive lab_dry_run_calls).find_run "run_500").map (fun run =>
        (run.mode, run.plan_hash, run.artifact_hash)) =
        some (.dry_run, lab_plan_hash, lab_artifact_hash) ∧
      (perform cpython lab_derive lab_dry_run_success.2
        (after_calls cpython lab_derive lab_dry_run_calls) lab_dry_run_success.1).isOk ∧
      ((after_calls cpython lab_derive lab_timely_calls).find_run "run_800").map (fun run =>
        (run.plan_hash, run.artifact_hash, run.maintenance_end)) =
        some (lab_plan_hash, lab_artifact_hash, some "2025-01-16T00:00:00+00:00") ∧
      (after_calls cpython lab_derive lab_timely_calls).approvals.map (fun row =>
        (row.decision, row.expires_at)) = [(.approved, "2025-02-01T00:00:00+00:00")] := by
  decide +kernel

theorem lab_expiry : cpython.parse_timestamp "2025-02-01T00:00:00+00:00" = .ok ⟨2025, 2, 1, 0, 0, 0, 0⟩ := by
  decide +kernel

theorem lab_timely :
    Timely cpython lab_derive lab_timely_calls (lab_started 9 "run_800") := by
  obtain ⟨hdry_run, hsuccess, hqueued, happrovals⟩ := lab_timely_stored
  have happroved : ∀ row ∈ (after_calls cpython lab_derive lab_timely_calls).approvals,
      row.decision = .approved ∧ row.expires_at = "2025-02-01T00:00:00+00:00" := by
    intro row hrow
    have hcolumns : (row.decision, row.expires_at) ∈ (after_calls cpython lab_derive
        lab_timely_calls).approvals.map fun row => (row.decision, row.expires_at) :=
      List.mem_map_of_mem hrow
    rw [happrovals, List.mem_singleton, Prod.mk.injEq] at hcolumns
    exact hcolumns
  intro run hrun _ _
  obtain ⟨found, hfound, hcolumns⟩ := Option.map_eq_some_iff.mp hqueued
  obtain rfl := Option.some.inj (hfound.symm.trans hrun)
  simp only [Prod.mk.injEq] at hcolumns
  obtain ⟨hplan_hash, hartifact_hash, hend⟩ := hcolumns
  refine ⟨?_, ?_, ?_, ?_⟩
  · intro stop hstop
    by_contra hlate
    have htext := isoformat_lt (not_le_iff_lt.mp hlate)
    rw [← Option.some.inj (hend.symm.trans hstop)] at htext
    exact absurd htext (by decide +kernel)
  · intro earlier call since created _ _ _ row hrow
    have hmem := (List.mem_filter.mp (List.mem_of_getLast? hrow)).1
    exact (happroved row (List.mem_of_mem_drop hmem)).1
  · intro row hrow
    have hmem := (List.mem_filter.mp (List.mem_of_getLast? hrow)).1
    exact ⟨_, (happroved row hmem).2 ▸ lab_expiry, by decide⟩
  · obtain ⟨next, hnext⟩ := isOk_iff.mp hsuccess
    obtain ⟨dry_run, hstored, hcolumns⟩ := Option.map_eq_some_iff.mp hdry_run
    simp only [Prod.mk.injEq] at hcolumns
    obtain ⟨hmode, hsame_plan, hsame_artifact⟩ := hcolumns
    exact ⟨lab_dry_run_calls, lab_dry_run_success, [(lab_queue_run "apply-lab-0001", lab_minute 8)],
      rfl, "run_500", "operator", .dict [], dry_run, next, rfl, hstored, hmode,
      hsame_plan.trans hplan_hash.symm, hsame_artifact.trans hartifact_hash.symm, hnext⟩

theorem authorized_at_execution_lab :
    EveryStart cpython lab_derive (AuthorizedAtStart cpython lab_derive) []
      (scheduled lab_timely_calls (lab_started 9 "run_800")) :=
  authorized_at_execution cpython lab_derive (scheduled lab_timely_calls (lab_started 9 "run_800"))
    ((every_start_scheduled [] _ _).mpr lab_timely_clocked)
    ((every_start_scheduled [] _ _).mpr lab_timely)

end orchestrator.worker_runtime
