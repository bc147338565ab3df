import SdaOrchestrator.Api.Duties
import SdaOrchestrator.Store.Moves

open python threads orchestrator.store orchestrator.auth

namespace orchestrator.api

/-! ## How a run comes into a status -/

/-- A stored run has a status. -/
def InStatus (status : RunStatus) (run_id : String) (store : Store) : Prop := store.core.run_status run_id = some status

section Status

variable {platform : Platform} {derive_fabric_intent : Derive} {ambient : Ambient} {before after : Store}
  {transaction : Transaction} {status : RunStatus} {run_id : String}

/-- A run that has a status after a transaction had it before, was moved to it, or is new and queued. -/
theorem entered (hperform : perform platform derive_fabric_intent ambient before transaction = .ok after)
    (hafter : InStatus status run_id after) :
    InStatus status run_id before ∨ transaction.moves run_id = some status ∨ ∃ mode : Mode, status = mode.queued := by
  rw [InStatus] at hafter
  have hstep : Step platform derive_fabric_intent before (transaction, ambient) after := hperform
  cases hbefore : before.core.run_status run_id with
  | some old =>
    rw [(step_run_status hstep hbefore).1] at hafter
    cases hmoves : transaction.moves run_id with
    | none =>
      rw [hmoves, Option.getD_none] at hafter
      exact .inl (hbefore.trans hafter)
    | some moved =>
      rw [hmoves, Option.getD_some] at hafter
      exact .inr (.inl hafter)
  | none =>
    have hmissing : before.find_run run_id = none := Option.map_eq_none_iff.mp hbefore
    have hunset (id updated_at : String) (new_status : RunStatus) :
        (table.lookup RunRow.run_id run_id (set_run_status id new_status updated_at before.runs)).map RunRow.status =
          none := by
      rw [lookup_set_run_status]
      split
      · rename_i heq
        rw [heq] at hmissing
        rw [Option.map_eq_none_iff, Option.map_eq_none_iff]
        exact hmissing
      · exact hbefore
    have heffect := perform_effect hperform
    generalize after.core = tables at heffect hafter
    cases heffect with
    | run hnew =>
      obtain ⟨row, hrow, rfl⟩ := Option.map_eq_some_iff.mp hafter
      obtain hold | ⟨-, rfl⟩ := (table.lookup_append_fresh hnew.fresh).mp hrow
      · cases hmissing.symm.trans hold
      · exact .inr (.inr ⟨_, hnew.queued⟩)
    | status => cases (hunset _ _ _).symm.trans hafter
    | complete => cases (hunset _ _ _).symm.trans hafter
    | _ => cases hbefore.symm.trans hafter

end Status

/-! ## A lab service -/

theorem lab_actor_ok (role : Role) : ACTOR role.text = true := by
  cases role <;> decide +kernel

def lab_principal (role : Role) : Principal where
  actor := role.text
  roles := [role]
  actor_ok := lab_actor_ok role
  roles_ok := List.cons_ne_nil _ _

def lab_token (role : Role) : String := role.text ++ "-0123456789abcdef0123456789abcdef"

/-- A service with one principal in each role, and one design to plan. -/
def lab_app : App where
  platform := cpython
  parse_float := fun text => (0, String.ofList text)
  upper := fun text => text
  backend_name := "sqlite"
  identities := ALLOWED_ROLES.map fun role => (token_sha256 cpython (lab_token role), lab_principal role)
  execution_enabled := true
  secret_provider := "file"
  guardrails := .ok (.dict [])
  sjc23_poc_profile := .dict []
  validate_intent := fun _ => .ok ⟨true, .dict []⟩
  create_plan := fun intent _ => .ok (.dict [
    ("plan_id", .str "plan_lab"),
    ("plan_hash", .str lab_plan_hash),
    ("intent_hash", .str (cpython.sha256_json intent))])
  render_configuration := fun _ _ => .ok (.dict [
    ("artifact_hash", .str lab_artifact_hash),
    ("blocking_requirements", .list []),
    ("devices", .dict [])])
  derive_fabric_intent := lab_derive

def lab_request (role : Role) (endpoint : Endpoint) (document : List (String × Value)) : Request where
  endpoint
  authorization := "Bearer " ++ lab_token role
  is_json := true
  data := String.ofList (Value.dict document).canonical_json

/-- The steps of a request, all in its minute. -/
def lab_steps (index count : Nat) : List (Event Request Ambient (WorkerCall "worker")) :=
  (List.range count).map fun _ => .advance index (lab_minute (index + 1))

/-- A design is planned and approved. -/
def lab_planned : List (Event Request Ambient (WorkerCall "worker")) := [
  .arrive (lab_request .planner .workflow_action_plan [
    ("intent", .dict [
      ("fabric", .dict [("id", .str "lab")]),
      ("metadata", .dict [("environment", .str "lab")]),
      ("schema_version", .str "1.0")])]),
  .arrive (lab_request .approver (.approve_plan "plan_lab") [
    ("decision", .str "approved"),
    ("change_reference", .str "CHG-1"),
    ("expires_at", .str "2025-02-01T00:00:00+00:00")])] ++ lab_steps 0 3 ++ lab_steps 1 1

/-- A dry run of the plan is queued, and its processing has begun. -/
def lab_dry_run : List (Event Request Ambient (WorkerCall "worker")) :=
  lab_planned ++ [
    .arrive (lab_request .operator .create_run [
      ("plan_id", .str "plan_lab"),
      ("mode", .str "dry_run"),
      ("idempotency_key", .str "dry-run-lab-0001")]),
    .arrive (lab_request .operator (.process_run_dry_run "run_300") [])] ++ lab_steps 2 1 ++ lab_steps 3 5

theorem lab_worker_step : WorkerStep "worker" (.transition_run "run_300" .apply_running "worker" (.dict [])) :=
  ⟨"run_300", none, .transition_run List.mem_cons_self⟩

/-- The apply of the plan is confirmed, and the worker starts it. -/
def lab_apply : List (Event Request Ambient (WorkerCall "worker")) :=
  lab_planned ++ [
    .arrive (lab_request .approver .workflow_action_poc_confirm_apply [
      ("plan_id", .str "plan_lab"),
      ("confirm", .bool true)])] ++ lab_steps 2 4 ++ [.outside ⟨(_, lab_minute 4), lab_worker_step⟩]

theorem lab_dry_run_running : InStatus .dry_run_running "run_300" (lab_app.after "worker" lab_dry_run).shared := by
  unfold InStatus
  decide +kernel

theorem lab_apply_running : InStatus .apply_running "run_300" (lab_app.after "worker" lab_apply).shared := by
  unfold InStatus
  decide +kernel

/-! ## Dry runs in progress -/

/-- No run comes to be running as a dry run. -/
def Idle (_ambient : Ambient) (before after : Store) : Prop :=
  ∀ run_id, InStatus .dry_run_running run_id after → InStatus .dry_run_running run_id before

section DryRun

variable {app : App} {principal : Principal} {statuses : List RunStatus} {run_id : String} {α : Type}

theorem Permitted.moves_mem {transaction : Transaction} {status : RunStatus}
    (hpermitted : Permitted app principal statuses transaction) (hmoves : transaction.moves run_id = some status) :
    status ∈ statuses := by
  cases hpermitted with
  | transition_run hrole hstatus =>
    rw [Transaction.moves, Option.ite_none_right_eq_some] at hmoves
    exact Option.some.inj hmoves.2 ▸ hstatus
  | _ => cases hmoves

/-- A queued run is not running. -/
theorem queued_ne_running (mode : Mode) : .dry_run_running ≠ mode.queued := by
  cases mode <;> decide

theorem idle_of_granted {grants : Transaction → Prop} {ambient : Ambient} {before after : Store}
    (hgrants : ∀ transaction, grants transaction → ∀ run_id, transaction.moves run_id ≠ some .dry_run_running)
    (hgranted : Granted app.platform app.derive_fabric_intent grants ambient before after) :
    Idle ambient before after := by
  intro run_id hafter
  obtain rfl | ⟨transaction, hgrant, hperform⟩ := hgranted
  · exact hafter
  obtain hbefore | hmoves | ⟨mode, hqueued⟩ := entered hperform hafter
  · exact hbefore
  · exact absurd hmoves (hgrants transaction hgrant run_id)
  · exact absurd hqueued (queued_ne_running mode)

theorem idle_of_confined {call : Call α} (hcall : Confined app principal statuses call)
    (hstatuses : .dry_run_running ∉ statuses) : Call.Within Idle call := by
  refine Thread.Within.weaken hcall fun ambient before after => idle_of_granted fun transaction hpermitted run_id => ?_
  exact fun hmoves => hstatuses (hpermitted.moves_mem hmoves)

theorem answers_of_idle {call : Call α} {handed : α → String → Prop} (hcall : Call.Within Idle call) :
    Call.Answers (InStatus .dry_run_running) handed call :=
  answers_quiet hcall fun _ _ _ key hidle => hidle key

theorem answers_of_confined {call : Call α} {handed : α → String → Prop} (hcall : Confined app principal statuses call)
    (hstatuses : .dry_run_running ∉ statuses) : Call.Answers (InStatus .dry_run_running) handed call :=
  answers_of_idle (idle_of_confined hcall hstatuses)

/-- A running dry run can always be moved to where it ends. -/
theorem ends_running {status : RunStatus} {actor : String} {detail : Value}
    (hallowed : status ∈ transition_run.allowed .dry_run_running) :
    Call.Settles (InStatus .dry_run_running run_id) (fun _ => False) (fun _ => False)
      (transact (transition_run app.platform run_id status actor detail)) := by
  refine settles_transact fun ambient before hbefore => ?_
  obtain ⟨run, hrun, hrunning⟩ := Option.map_eq_some_iff.mp hbefore
  have hcommits : ∃ result, transition_run app.platform run_id status actor detail ambient before = .ok result := by
    refine ⟨_, bind_eq_ok_iff.mpr ⟨run, require_eq_ok.mpr hrun, bind_eq_ok_iff.mpr ⟨(), ?_, rfl⟩⟩⟩
    rw [raise_if_eq_ok, decide_eq_false_iff_not, not_not, hrunning]
    exact hallowed
  obtain ⟨result, hresult⟩ := hcommits
  have hstep : Step app.platform app.derive_fabric_intent before
      (.transition_run run_id status actor detail, ambient) result.2 := by
    rw [Step, perform, hresult]
    rfl
  have hnext := (step_run_status hstep hbefore).1
  refine ⟨result.1, result.2, hresult, fun hstill => ?_⟩
  obtain rfl : status = .dry_run_running := by
    rw [hstill, Transaction.moves, if_pos rfl] at hnext
    exact (Option.some.inj hnext).symm
  revert hallowed
  decide

/-- The part of a dry run that may fail returns only when the run is not running any more. -/
theorem simulate_settles {actor : String} {artifact : Value} :
    Call.Settles (InStatus .dry_run_running run_id) (fun _ => False) (fun _ => True)
      (simulator.simulate app.platform run_id actor artifact) := by
  refine settles_bind (settles_any _) fun devices _ => settles_bind (settles_any _) fun entries _ => ?_
  refine settles_bind (settles_any _) fun counts _ => settles_bind (settles_any _) fun blockers _ => ?_
  refine settles_bind (settles_any _) fun items _ => settles_bind (settles_any _) fun artifact_hash _ => ?_
  refine settles_bind (settles_any _) fun row _ => settles_never ?_
  refine Thread.Settles.weaken (ends_running ?_) fun result hnever => ?_
  · split <;> decide
  · cases result <;> exact hnever.elim

/-- Whenever a dry run is running, what is left of its request moves it on, or fails it when it raises. -/
theorem process_dry_run_answers {artifact : Value} (hrole : .operator ∈ principal.roles) :
    Call.Answers (InStatus .dry_run_running) (fun _ _ => False)
      (simulator.process_dry_run app.platform run_id artifact principal.actor) := by
  have hlift {result : Py Unit} : Call.Answers (InStatus .dry_run_running) (fun _ _ => False) (liftM result : Call Unit) :=
    answers_of_idle (within_lift _)
  have hread : Call.Answers (InStatus .dry_run_running) (fun _ _ => False) (query (store.get_run run_id)) :=
    answers_of_idle (Thread.Within.atomic fun _ _ _ hafter => hafter)
  refine answers_bind hread (fun _ _ => False.elim) fun run => ?_
  refine answers_bind hlift (fun _ _ => False.elim) fun _ => answers_bind hlift (fun _ _ => False.elim) fun _ => ?_
  have hstarted : Call.Answers (InStatus .dry_run_running) (fun _ key => key = run_id)
      (transact (transition_run app.platform run_id .dry_run_running principal.actor (.dict []))) := by
    refine answers_transact fun ambient before row after key hresult hbefore hafter => ?_
    have hperform : perform app.platform app.derive_fabric_intent ambient before
        (.transition_run run_id .dry_run_running principal.actor (.dict [])) = .ok after := by
      rw [perform, hresult]
      rfl
    obtain hstill | hmoves | ⟨mode, hqueued⟩ := entered hperform hafter
    · exact absurd hstill hbefore
    · rw [Transaction.moves, Option.ite_none_right_eq_some] at hmoves
      exact hmoves.1.symm
    · exact absurd hqueued (queued_ne_running mode)
  refine answers_bind hstarted ?_ fun running => ?_
  · rintro running key rfl
    refine settles_catch simulate_settles fun exception _ => ?_
    exact settles_never (ends_running (by decide))
  · have hstatuses : .dry_run_running ∉ [RunStatus.dry_run_blocked, .dry_run_succeeded, .dry_run_failed] := by decide
    refine answers_of_idle (@idle_of_confined app principal _ _ _ ?_ hstatuses)
    refine within_catch (simulate_confined hrole (by decide) (by decide)) fun exception => ?_
    exact within_bind (within_transact (.transition_run run_id .dry_run_failed principal.actor _) (fun _ _ => rfl)
      (.transition_run hrole (by decide))) fun failed => within_throw _

theorem process_run_answers (hrole : .operator ∈ principal.roles) :
    Call.Answers (InStatus .dry_run_running) (fun _ _ => False) (process_run_dry_run app principal run_id) := by
  have hread : Call.Answers (InStatus .dry_run_running) (fun _ _ => False) (query (store.get_run run_id)) :=
    answers_of_idle (Thread.Within.atomic fun _ _ _ hafter => hafter)
  have hartifact {plan_id : String} :
      Call.Answers (InStatus .dry_run_running) (fun _ _ => False) (plan_artifact app plan_id) := by
    have hconfined : Confined app principal [] (plan_artifact app plan_id) := plan_artifact_confined
    exact answers_of_confined hconfined List.not_mem_nil
  refine answers_bind hread (fun _ _ => False.elim) fun run_record => ?_
  refine answers_bind hartifact (fun _ _ => False.elim) fun artifact => ?_
  exact answers_bind (process_dry_run_answers hrole) (fun _ _ => False.elim) fun result => trivial

theorem route_answers {request : Request} (hroles : require_roles request.endpoint principal = .ok ())
    (hprocesses : .dry_run_running ∈ request.endpoint.statuses) :
    Call.Answers (InStatus .dry_run_running) (fun _ _ => False) (route app principal request) := by
  have hsingle {role : Role} (hrequired : request.endpoint.required_roles = [role]) : role ∈ principal.roles := by
    simpa [require_roles, hrequired] using hroles
  unfold route
  cases hendpoint : request.endpoint with
  | process_run_dry_run run_id => exact process_run_answers (hsingle (by rw [hendpoint]; rfl))
  | workflow_action_process_dry_run =>
    cases hbody : workflow_json_object app request with
    | error refusal =>
      simp only [workflow_action_process_dry_run, hbody]
      trivial
    | ok document =>
      simp only [workflow_action_process_dry_run, hbody]
      exact answers_bind (answers_of_idle (within_lift _)) (fun _ _ => False.elim) fun run_id =>
        process_run_answers (hsingle (by rw [hendpoint]; rfl))
  | _ =>
    rw [hendpoint] at hprocesses
    cases hprocesses

/-- Whenever a dry run is running, what is left of its request moves it on. -/
theorem handle_answers (request : Request) :
    (handle app request).Answers (InStatus .dry_run_running) fun _ _ => False := by
  by_cases hprocesses : .dry_run_running ∈ request.endpoint.statuses
  · unfold handle
    split
    · split
      · trivial
      · split
        · trivial
        · rename_i hroles
          refine Thread.Answers.bind (route_answers hroles hprocesses) (fun result key hhanded => ?_) fun result => ?_
          · cases result <;> exact hhanded.elim
          · cases result <;> trivial
    · trivial
  · refine Thread.Answers.quiet (handle_within request) fun ambient before after key hgranted => ?_
    refine idle_of_granted (fun transaction ⟨entry, _, hpermitted⟩ run_id hmoves => ?_) hgranted key
    exact hprocesses (hpermitted.moves_mem hmoves)

theorem WorkerStep.moves_mem {worker : String} {transaction : Transaction} {status : RunStatus}
    (hworker : WorkerStep worker transaction) (hmoves : transaction.moves run_id = some status) :
    status ∈ apply_statuses := by
  obtain ⟨run_id, reservation, hwrites⟩ := hworker
  cases hwrites with
  | transition_run hstatus =>
    rw [Transaction.moves, Option.ite_none_right_eq_some] at hmoves
    exact Option.some.inj hmoves.2 ▸ hstatus
  | complete_apply =>
    rw [Transaction.moves, Option.ite_none_right_eq_some] at hmoves
    obtain rfl := Option.some.inj hmoves.2
    decide
  | _ => cases hmoves

/-- Whatever requests do, a run is in a status of an apply that has begun only when the worker has moved it there. -/
theorem apply_statuses_from_worker (app : App) (worker : String)
    (schedule : List (Event Request Ambient (WorkerCall worker))) (run_id : String) (status : RunStatus)
    (happly : status ∈ apply_statuses) (hstatus : InStatus status run_id (app.after worker schedule).shared) :
    ∃ change, .outside change ∈ schedule ∧ change.1.1.moves run_id = some status := by
  by_contra hnever
  have hqueued (mode : Mode) : status ≠ mode.queued := by
    rintro rfl
    revert happly
    cases mode <;> decide
  refine App.kept (P := fun store => ¬InStatus status run_id store) (fun hcontra => by cases hcontra) ?_ ?_ hstatus
  · rintro ambient before after transaction ⟨entry, -, hpermitted⟩ hperform hbefore hafter
    obtain hsame | hmoves | ⟨mode, hnew⟩ := entered hperform hafter
    · exact hbefore hsame
    · have hdry := hpermitted.moves_mem hmoves
      revert happly hdry
      cases status <;> decide
    · exact hqueued mode hnew
  · intro change hchange before after hperform hbefore hafter
    obtain hsame | hmoves | ⟨mode, hnew⟩ := entered hperform hafter
    · exact hbefore hsame
    · exact hnever ⟨change, hchange, hmoves⟩
    · exact hqueued mode hnew

theorem apply_statuses_from_worker_lab :
    ∃ change, .outside change ∈ lab_apply ∧ change.1.1.moves "run_300" = some .apply_running :=
  apply_statuses_from_worker lab_app "worker" lab_apply "run_300" .apply_running List.mem_cons_self lab_apply_running

end DryRun

end orchestrator.api
