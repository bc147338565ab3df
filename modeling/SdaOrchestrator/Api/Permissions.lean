import SdaOrchestrator.Api.Handlers

open python threads orchestrator.store orchestrator.auth

namespace orchestrator.api

/-! ## The transactions that roles permit -/

/-- The statuses of a dry run after it is queued. -/
def dry_run_statuses : List RunStatus := [.dry_run_running, .dry_run_blocked, .dry_run_succeeded, .dry_run_failed]

/-- The statuses that a route moves runs to. -/
def Endpoint.statuses : Endpoint → List RunStatus
  | .process_run_dry_run _ | .workflow_action_process_dry_run => dry_run_statuses
  | _ => []

/-- The transactions that a principal may cause by a request that moves runs to such statuses: each asks for a role, and
is in the name of the principal. -/
inductive Permitted (app : App) (principal : Principal) (statuses : List RunStatus) : Transaction → Prop where
  | save_intent {intent : Value} (hrole : .planner ∈ principal.roles) :
      Permitted app principal statuses (.save_intent intent principal.actor)
  | reserve_design {requirements policy : Value} {idempotency_key : String} (hrole : .planner ∈ principal.roles) :
      Permitted app principal statuses (.reserve_design requirements policy idempotency_key principal.actor)
  | save_plan {intent_id artifact_hash intent_version : String} {plan : Value} {reservation_id : Option String}
      (hrole : .planner ∈ principal.roles) :
      Permitted app principal statuses
        (.save_plan intent_id plan principal.actor artifact_hash intent_version reservation_id)
  | record_approval {plan_id decision change_reference expires_at : String} (hrole : .approver ∈ principal.roles) :
      Permitted app principal statuses (.record_approval plan_id decision principal.actor change_reference expires_at)
  | adopt_manifest {fabric_id evidence_hash change_reference discovered_by : String} {manifest : Value}
      (hrole : .approver ∈ principal.roles) :
      Permitted app principal statuses
        (.adopt_manifest fabric_id manifest evidence_hash change_reference discovered_by principal.actor)
  | confirm_run {plan_id idempotency_key : String} {maintenance_start maintenance_end : Option String}
      (hrole : .approver ∈ principal.roles) :
      Permitted app principal statuses
        (.create_run plan_id "apply" idempotency_key principal.actor app.execution_enabled maintenance_start
          maintenance_end 1800)
  | create_run {plan_id mode idempotency_key : String} {maintenance_start maintenance_end : Option String}
      (hrole : .operator ∈ principal.roles) :
      Permitted app principal statuses
        (.create_run plan_id mode idempotency_key principal.actor app.execution_enabled maintenance_start
          maintenance_end 1800)
  | transition_run {run_id : String} {new_status : RunStatus} {detail : Value} (hrole : .operator ∈ principal.roles)
      (hstatus : new_status ∈ statuses) :
      Permitted app principal statuses (.transition_run run_id new_status principal.actor detail)
  | add_evidence {run_id phase_id evidence_type : String} {payload : Value} {device_id : Option String}
      (hrole : .operator ∈ principal.roles) :
      Permitted app principal statuses (.add_evidence run_id phase_id evidence_type payload principal.actor device_id)

section Within

variable {app : App} {principal : Principal} {statuses : List RunStatus} {α : Type}

/-- Every step of a call leaves the store, or commits what the principal is permitted. -/
abbrev Confined (app : App) (principal : Principal) (statuses : List RunStatus) (call : Call α) : Prop :=
  Call.Within (Granted app.platform app.derive_fabric_intent (Permitted app principal statuses)) call

theorem confined_object {body : Except Answer Value} {handler : Value → Call Answer}
    (hhandler : ∀ document, Confined app principal statuses (handler document)) :
    Confined app principal statuses (with_object body handler) := by
  cases body with
  | ok document => exact hhandler document
  | error refusal => exact within_pure refusal

theorem confined_refusing {body : Call Answer} {classes : List String} {status : Nat} {fields : List (String × Value)}
    (hbody : Confined app principal statuses body) :
    Confined app principal statuses (refusing body classes status fields) :=
  within_caught hbody fun _ => within_pure _

theorem confined_ite {condition : Prop} [Decidable condition] {first second : Call α}
    (hfirst : Confined app principal statuses first) (hsecond : Confined app principal statuses second) :
    Confined app principal statuses (if condition then first else second) := by
  split
  · exact hfirst
  · exact hsecond

/-! ## Plans -/

theorem plan_confined {intent : Value} : Confined app principal statuses (create_state_bound_plan app intent) := by
  refine within_bind (within_lift _) fun fabric => ?_
  refine within_bind (within_lift _) fun fabric_id => ?_
  exact within_bind (within_query _) fun baseline => within_lift _

theorem plan_valid_intent_confined {intent_document : Value} {validation : Validation} {reservation_id : Option String}
    (hrole : .planner ∈ principal.roles) :
    Confined app principal statuses (plan_valid_intent app principal intent_document validation reservation_id) := by
  refine within_bind (within_transact (.save_intent intent_document principal.actor) (fun _ _ => rfl)
    (.save_intent hrole)) fun saved => ?_
  refine within_bind plan_confined fun generated => ?_
  refine within_bind (within_lift _) fun artifact => ?_
  refine within_bind (within_lift _) fun artifact_hash => ?_
  refine within_bind (within_lift _) fun intent_version => ?_
  refine within_bind (within_transact (.save_plan saved.1.intent_id generated principal.actor artifact_hash.toStr
    intent_version.toStr reservation_id) (fun _ _ => rfl) (.save_plan hrole)) fun planned => ?_
  refine within_bind (within_lift _) fun blocking_requirements => ?_
  refine within_bind (within_lift _) fun devices => ?_
  exact within_bind (within_lift _) fun elements => within_pure _

theorem reserved_confined {requirements : Value} {idempotency_key : String} (hrole : .planner ∈ principal.roles) :
    Confined app principal statuses (reserved app principal requirements idempotency_key) := by
  refine within_caught ?_ fun _ => within_pure _
  refine within_bind (within_lift _) fun policy => ?_
  exact within_bind (within_transact (.reserve_design requirements policy idempotency_key principal.actor)
    (fun _ _ => rfl) (.reserve_design hrole)) fun reservation => within_pure _

theorem plan_from_requirements_confined {requirements : Value} {idempotency_key : String}
    (hrole : .planner ∈ principal.roles) :
    Confined app principal statuses (plan_from_requirements app principal requirements idempotency_key) := by
  refine within_bind (reserved_confined hrole) fun reservation => ?_
  cases reservation with
  | error refusal => exact within_pure _
  | ok reservation =>
    refine within_bind (within_lift _) fun validation => confined_ite ?_ (within_pure _)
    exact within_bind (plan_valid_intent_confined hrole) fun planned => within_pure _

theorem persist_intent_confined {request : Request} (hrole : .planner ∈ principal.roles) :
    Confined app principal statuses (persist_intent app principal request) := by
  refine confined_object fun document => within_bind (within_lift _) fun validation => confined_ite ?_ (within_pure _)
  exact within_bind (within_transact (.save_intent document principal.actor) (fun _ _ => rfl)
    (.save_intent hrole)) fun saved => within_pure _

theorem workflow_action_plan_confined {request : Request} (hrole : .planner ∈ principal.roles) :
    Confined app principal statuses (workflow_action_plan app principal request) := by
  refine confined_object fun document => within_bind (within_lift _) fun intent => ?_
  split
  · refine within_bind (within_lift _) fun validation => confined_ite ?_ (within_pure _)
    exact within_bind (plan_valid_intent_confined hrole) fun planned => within_pure _
  · refine within_bind (within_lift _) fun requirements => ?_
    cases requirements with
    | error refusal => exact within_pure _
    | ok requirements =>
      refine within_bind (within_lift _) fun idempotency_key => ?_
      refine within_bind (plan_from_requirements_confined hrole) fun planned => ?_
      cases planned <;> exact within_pure _

theorem with_preview_confined {planned : List (String × Value)} :
    Confined app principal statuses (with_preview app planned) := by
  apply confined_refusing
  refine within_bind (within_lift _) fun intent_id => within_bind (within_query _) fun intent_record => ?_
  refine within_bind (within_lift _) fun plan_id => within_bind (within_query _) fun plan_record => ?_
  refine within_bind (within_lift _) fun artifact => within_bind (within_lift _) fun policy => ?_
  refine within_bind (within_lift _) fun preview => within_bind (within_lift _) fun review_summary => ?_
  exact within_pure _

theorem guided_plan_confined {request : Request} (hrole : .planner ∈ principal.roles) :
    Confined app principal statuses (workflow_action_poc_guided_plan app principal request) := by
  refine confined_object fun document => within_bind (within_lift _) fun form_values => ?_
  refine within_bind (within_lift _) fun idempotency_key => confined_ite (within_pure _) ?_
  split
  · refine confined_ite (within_pure _) (within_bind ?_ fun requirements => ?_)
    · refine within_caught (within_bind (within_lift _) fun policy => ?_) fun _ => within_pure _
      exact within_bind (within_lift _) fun requirements => within_pure _
    · cases requirements with
      | error refusal => exact within_pure _
      | ok requirements =>
        refine within_bind (plan_from_requirements_confined hrole) fun planned => ?_
        cases planned with
        | error refusal => exact within_pure _
        | ok planned => exact with_preview_confined
  · exact within_pure _

theorem persist_plan_confined {intent_id : String} (hrole : .planner ∈ principal.roles) :
    Confined app principal statuses (persist_plan app principal intent_id) := by
  refine within_bind (within_query _) fun intent_record => within_bind plan_confined fun generated => ?_
  refine within_bind (within_lift _) fun artifact => within_bind (within_lift _) fun artifact_hash => ?_
  refine within_bind (within_lift _) fun intent_version => ?_
  exact within_bind (within_transact (.save_plan intent_id generated principal.actor artifact_hash.toStr
    intent_version.toStr none) (fun _ _ => rfl) (.save_plan hrole)) fun saved => within_pure _

/-! ## Approvals and baselines -/

theorem approved_plan_confined {plan_id : String} {document : Value} {success : ApprovalRow → Answer}
    (hrole : .approver ∈ principal.roles) :
    Confined app principal statuses (approved_plan app principal plan_id document success) := by
  apply confined_refusing
  refine within_bind (within_lift _) fun decision => within_bind (within_lift _) fun change_reference => ?_
  refine within_bind (within_lift _) fun expires_at => ?_
  exact within_bind (within_transact (.record_approval plan_id decision principal.actor change_reference expires_at)
    (fun _ _ => rfl) (.record_approval hrole)) fun approval => within_pure _

theorem newest_baseline_confined {fabric_id : String} {missing : Raised} :
    Confined app principal statuses (newest_baseline app fabric_id missing) := by
  refine within_bind (within_query _) fun baseline => ?_
  cases baseline with
  | none => exact within_throw _
  | some baseline => exact within_pure _

theorem adopted_confined {fabric_id : String} {document : Value} {success : Value → Answer}
    (hrole : .approver ∈ principal.roles) :
    Confined app principal statuses (adopted app principal fabric_id document success) := by
  refine within_bind (within_lift _) fun manifest => ?_
  split
  · refine confined_refusing (within_bind ?_ fun baseline => within_pure _)
    rename_i entries
    refine within_bind (within_lift _) fun evidence_hash => within_bind (within_lift _) fun change_reference => ?_
    refine within_bind (within_lift _) fun discovered_by => ?_
    refine within_bind (within_transact (.adopt_manifest fabric_id (.dict entries) evidence_hash change_reference
      discovered_by principal.actor) ?_ (.adopt_manifest hrole)) fun _ => newest_baseline_confined
    intro ambient store
    simp only [perform]
    cases adopt_manifest app.platform fabric_id (.dict entries) evidence_hash change_reference discovered_by
      principal.actor ambient store <;> rfl
  · exact within_pure _

theorem confirmed_approval_confined {plan_id change_reference : String} {window_end : Datetime}
    (hrole : .approver ∈ principal.roles) :
    Confined app principal statuses (confirmed_approval app principal plan_id change_reference window_end) := by
  refine within_caught ?_ fun _ => within_pure _
  exact within_bind (within_transact
    (.record_approval plan_id "approved" principal.actor change_reference (isoformat window_end))
    (fun _ _ => rfl) (.record_approval hrole)) fun approval => within_pure _

theorem confirmed_run_confined {plan_id stored_plan_hash : String} {now window_end : Datetime}
    (hrole : .approver ∈ principal.roles) :
    Confined app principal statuses (confirmed_run app principal plan_id stored_plan_hash now window_end) := by
  refine within_caught (within_caught ?_ fun _ => within_pure _) fun _ => within_pure _
  exact within_bind (within_transact
    (.create_run plan_id "apply" ("poc-apply:" ++ stored_plan_hash) principal.actor app.execution_enabled
      (some (isoformat now)) (some (isoformat window_end)) 1800)
    (fun _ _ => rfl) (.confirm_run hrole)) fun saved => within_pure _

theorem confirm_apply_confined {request : Request} (hrole : .approver ∈ principal.roles) :
    Confined app principal statuses (workflow_action_poc_confirm_apply app principal request) := by
  refine confined_object fun document => within_bind (within_lift _) fun plan_id => ?_
  refine within_bind (within_lift _) fun plan_hash => within_bind (within_lift _) fun change_reference => ?_
  refine within_bind (within_lift _) fun confirm => confined_ite (within_pure _) ?_
  have hfound : Confined app principal statuses (found_plan plan_id) :=
    within_caught (within_bind (within_query _) fun plan_record => within_pure _) fun _ => within_pure _
  refine within_bind hfound fun plan_record => ?_
  cases plan_record with
  | none => exact within_pure _
  | some plan_record =>
    refine confined_ite (within_pure _) (within_bind within_clock fun now => ?_)
    refine within_bind (confirmed_approval_confined hrole) fun approval => ?_
    cases approval with
    | error refusal => exact within_pure _
    | ok _ =>
      refine within_bind (confirmed_run_confined hrole) fun run_record => ?_
      cases run_record <;> exact within_pure _

/-! ## Runs -/

theorem requested_run_confined {document : Value} {success : RunRow → Bool → Answer}
    (hrole : .operator ∈ principal.roles) :
    Confined app principal statuses (requested_run app principal document success) := by
  refine within_bind (within_lift _) fun given_window => confined_ite (within_pure _) (confined_refusing ?_)
  refine within_bind (within_lift _) fun plan_id => within_bind (within_lift _) fun mode => ?_
  refine within_bind (within_lift _) fun idempotency_key => within_bind (within_lift _) fun start => ?_
  refine within_bind (within_lift _) fun stop => ?_
  exact within_bind (within_transact (.create_run plan_id mode idempotency_key principal.actor app.execution_enabled
    (window_text start) (window_text stop) 1800) (fun _ _ => rfl) (.create_run hrole)) fun saved => within_pure _

theorem foldlM_confined {β : Type} {step : β → α → Call β}
    (hstep : ∀ state item, Confined app principal statuses (step state item))
    (items : List α) (state : β) : Confined app principal statuses (items.foldlM step state) := by
  induction items generalizing state with
  | nil => exact within_pure _
  | cons item rest ih => exact within_bind (hstep state item) fun next => ih next

theorem simulate_confined {run_id : String} {artifact : Value} (hrole : .operator ∈ principal.roles)
    (hblocked : .dry_run_blocked ∈ statuses) (hsucceeded : .dry_run_succeeded ∈ statuses) :
    Confined app principal statuses (simulator.simulate app.platform run_id principal.actor artifact) := by
  have hevidence (phase_id evidence_type : String) (payload : Value) (device_id : Option String) :
      Confined app principal statuses
        (transact (add_evidence app.platform run_id phase_id evidence_type payload principal.actor device_id)) :=
    within_transact (.add_evidence run_id phase_id evidence_type payload principal.actor device_id) (fun _ _ => rfl)
      (.add_evidence hrole)
  refine within_bind (within_lift _) fun devices => within_bind (within_lift _) fun entries => ?_
  refine within_bind (foldlM_confined (fun counts device => ?_) _ _) fun counts => ?_
  · refine within_bind (within_lift _) fun phases => within_bind (within_lift _) fun items => ?_
    refine foldlM_confined (fun counts phase => ?_) _ _
    refine within_bind (within_lift _) fun blocks => within_bind (within_lift _) fun items => ?_
    refine within_bind (within_lift _) fun count => within_bind (within_lift _) fun phase_id => ?_
    refine within_bind (within_lift _) fun artifact_hash => within_bind (within_lift _) fun block_hashes => ?_
    exact within_bind (hevidence _ _ _ _) fun _ => within_pure _
  refine within_bind (within_lift _) fun blockers => within_bind (within_lift _) fun items => ?_
  refine within_bind (within_lift _) fun artifact_hash => within_bind (hevidence _ _ _ _) fun _ => ?_
  refine within_bind (within_transact (.transition_run run_id _ principal.actor _) (fun _ _ => rfl)
    (.transition_run hrole ?_)) fun updated => within_bind (within_query _) fun evidence => within_pure _
  split
  · exact hblocked
  · exact hsucceeded

theorem process_dry_run_confined {run_id : String} {artifact : Value} (hrole : .operator ∈ principal.roles) :
    Confined app principal dry_run_statuses (simulator.process_dry_run app.platform run_id artifact principal.actor) := by
  refine within_bind (within_query _) fun run => within_bind (within_lift _) fun _ => ?_
  refine within_bind (within_lift _) fun _ => ?_
  refine within_bind (within_transact (.transition_run run_id .dry_run_running principal.actor _) (fun _ _ => rfl)
    (.transition_run hrole (by decide))) fun running => ?_
  refine within_catch (simulate_confined hrole (by decide) (by decide)) fun exception => ?_
  exact within_bind (within_transact (.transition_run run_id .dry_run_failed principal.actor _) (fun _ _ => rfl)
    (.transition_run hrole (by decide))) fun failed => within_throw _

theorem plan_artifact_confined {plan_id : String} : Confined app principal statuses (plan_artifact app plan_id) := by
  refine within_bind (within_query _) fun plan_record => within_bind (within_query _) fun intent_record => ?_
  exact within_lift _

theorem process_run_confined {run_id : String} (hrole : .operator ∈ principal.roles) :
    Confined app principal dry_run_statuses (process_run_dry_run app principal run_id) := by
  refine within_bind (within_query _) fun run_record => within_bind plan_artifact_confined fun artifact => ?_
  exact within_bind (process_dry_run_confined hrole) fun result => within_pure _

/-! ## The routes -/

/-- What a handler does is permitted to a principal with one of the roles of its route. -/
theorem route_confined {request : Request}
    (hroles : require_roles request.endpoint principal = .ok ()) :
    Confined app principal request.endpoint.statuses (route app principal request) := by
  have hsingle {role : Role} (hrequired : request.endpoint.required_roles = [role]) : role ∈ principal.roles := by
    simpa [require_roles, hrequired] using hroles
  unfold route
  cases hendpoint : request.endpoint with
  | health => exact within_pure _
  | ready =>
    refine within_bind (within_catch ?_ fun _ => within_pure _) fun result => within_pure _
    exact within_bind (within_lift _) fun policy => within_bind (within_query _) fun valid => within_pure _
  | observability_summary =>
    refine within_bind within_clock fun now => within_bind (within_query _) fun counts => ?_
    refine within_bind (within_query _) fun events => within_bind (within_query _) fun active => ?_
    exact within_bind (within_query _) fun expired => within_bind (within_query _) fun valid => within_pure _
  | validate =>
    exact confined_object fun document => within_bind (within_lift _) fun result => within_pure _
  | plan_compatibility =>
    refine confined_object fun document => within_caught (within_bind plan_confined fun plan => within_pure _) ?_
    exact fun _ => within_bind (within_lift _) fun result => within_pure _
  | persist_intent => exact persist_intent_confined (hsingle (by rw [hendpoint]; rfl))
  | workflow_action_plan => exact workflow_action_plan_confined (hsingle (by rw [hendpoint]; rfl))
  | workflow_action_poc_guided_plan => exact guided_plan_confined (hsingle (by rw [hendpoint]; rfl))
  | workflow_action_poc_guided_options =>
    refine confined_refusing (within_bind (within_lift _) fun policy => ?_)
    exact within_bind (within_lift _) fun options => within_pure _
  | workflow_action_poc_confirm_apply => exact confirm_apply_confined (hsingle (by rw [hendpoint]; rfl))
  | workflow_action_poc_run_status =>
    refine confined_object fun document => within_bind (within_lift _) fun run_id => ?_
    exact within_bind (within_query _) fun run => within_bind (within_query _) fun evidence => within_pure _
  | get_intent intent_id => exact within_bind (within_query _) fun record => within_pure _
  | persist_plan intent_id => exact persist_plan_confined (hsingle (by rw [hendpoint]; rfl))
  | get_plan plan_id => exact within_bind (within_query _) fun record => within_pure _
  | get_owned_state_baseline fabric_id => exact within_bind newest_baseline_confined fun baseline => within_pure _
  | adopt_owned_state_baseline fabric_id =>
    exact confined_object fun document => adopted_confined (hsingle (by rw [hendpoint]; rfl))
  | render_plan plan_id =>
    exact confined_refusing (within_bind plan_artifact_confined fun artifact => within_pure _)
  | approve_plan plan_id =>
    exact confined_object fun document => approved_plan_confined (hsingle (by rw [hendpoint]; rfl))
  | workflow_action_approve =>
    refine confined_object fun document => within_bind (within_lift _) fun plan_id => ?_
    exact approved_plan_confined (hsingle (by rw [hendpoint]; rfl))
  | workflow_action_adopt_owned_state_baseline =>
    refine confined_object fun document => within_bind (within_lift _) fun fabric_id => ?_
    exact adopted_confined (hsingle (by rw [hendpoint]; rfl))
  | workflow_action_owned_state_baseline =>
    refine confined_object fun document => within_bind (within_lift _) fun fabric_id => ?_
    exact within_bind newest_baseline_confined fun baseline => within_pure _
  | create_run => exact confined_object fun document => requested_run_confined (hsingle (by rw [hendpoint]; rfl))
  | workflow_action_run =>
    exact confined_object fun document => requested_run_confined (hsingle (by rw [hendpoint]; rfl))
  | get_run run_id => exact within_bind (within_query _) fun record => within_pure _
  | process_run_dry_run run_id => exact process_run_confined (hsingle (by rw [hendpoint]; rfl))
  | workflow_action_process_dry_run =>
    refine confined_object fun document => within_bind (within_lift _) fun run_id => ?_
    exact process_run_confined (hsingle (by rw [hendpoint]; rfl))
  | workflow_action_status =>
    refine confined_object fun document => within_bind (within_lift _) fun run_id => ?_
    exact within_bind (within_query _) fun record => within_pure _
  | workflow_action_evidence =>
    refine confined_object fun document => within_bind (within_lift _) fun run_id => ?_
    refine within_bind (within_query _) fun run => within_bind (within_query _) fun evidence => ?_
    exact within_bind (within_query _) fun audit => within_bind (within_query _) fun valid => within_pure _
  | get_run_evidence run_id =>
    exact within_bind (within_query _) fun run => within_bind (within_query _) fun evidence => within_pure _
  | get_audit aggregate_type aggregate_id =>
    exact within_bind (within_query _) fun valid => within_bind (within_query _) fun events => within_pure _

end Within

end orchestrator.api
