import SdaOrchestrator.Api.Permissions
import SdaOrchestrator.Intent.PlainTexts
import SdaOrchestrator.Store.Decisions
import SdaOrchestrator.Worker.Footprint

open python threads orchestrator.store orchestrator.auth

namespace orchestrator.api

/-! ## Requests and the worker -/

/-- A principal of the configuration acts under a name, in a role. -/
def App.acts (app : App) (role : Role) (actor : String) : Prop :=
  ∃ entry ∈ app.identities, entry.2.actor = actor ∧ role ∈ entry.2.roles

/-- The transactions of the worker process, on one run or another. -/
def WorkerStep (worker : String) (transaction : Transaction) : Prop :=
  ∃ run_id reservation, Writes worker run_id reservation transaction

/-- Whatever a worker process has committed is such a step. -/
theorem worker_steps {platform : Platform} {derive_fabric_intent : Derive} (current : Store)
    (started : worker_runtime.WorkerStart) :
    ∀ entry ∈ (worker_runtime.after_start platform derive_fabric_intent current started).session.transactions,
      WorkerStep started.runtime.worker.actor entry.1.1 :=
  fun entry hentry => ⟨_, _, worker_runtime.after_start_within current started entry hentry⟩

/-- A transaction that the worker attempts, with what it draws from outside. -/
abbrev WorkerCall (worker : String) := {label : Transaction × Ambient // WorkerStep worker label.1}

/-- The requests in progress and the store, after a schedule that starts on an empty database. -/
def App.after (app : App) (worker : String) (schedule : List (Event Request Ambient (WorkerCall worker))) :
    Pool Ambient Store Answer :=
  threads.after (handle app) (fun change => (called app.platform app.derive_fabric_intent · change.1)) {} schedule

/-- What some principal of the configuration is permitted by a request that moves runs to such statuses. -/
def App.permits (app : App) (statuses : List RunStatus) (transaction : Transaction) : Prop :=
  ∃ entry ∈ app.identities, Permitted app entry.2 statuses transaction

/-- What is permitted with some statuses is permitted with more. -/
theorem Permitted.widen {app : App} {principal : Principal} {statuses wider : List RunStatus} {transaction : Transaction}
    (hpermitted : Permitted app principal statuses transaction) (hwider : ∀ status ∈ statuses, status ∈ wider) :
    Permitted app principal wider transaction := by
  cases hpermitted with
  | save_intent hrole => exact .save_intent hrole
  | reserve_design hrole => exact .reserve_design hrole
  | save_plan hrole => exact .save_plan hrole
  | record_approval hrole => exact .record_approval hrole
  | adopt_manifest hrole => exact .adopt_manifest hrole
  | confirm_run hrole => exact .confirm_run hrole
  | create_run hrole => exact .create_run hrole
  | transition_run hrole hstatus => exact .transition_run hrole (hwider _ hstatus)
  | add_evidence hrole => exact .add_evidence hrole

theorem Endpoint.mem_statuses {endpoint : Endpoint} {status : RunStatus} (hstatus : status ∈ endpoint.statuses) :
    status ∈ dry_run_statuses := by
  cases endpoint with
  | process_run_dry_run => exact hstatus
  | workflow_action_process_dry_run => exact hstatus
  | _ => cases hstatus

section Handle

variable {app : App} {worker : String}

/-- The principal of a token is one of the configuration. -/
theorem match_hashed_principal_mem {platform : Platform} {supplied_token : String}
    {identities : List (String × Principal)} {principal : Principal}
    (hmatch : match_hashed_principal platform supplied_token identities = some principal) :
    (token_sha256 platform supplied_token, principal) ∈ identities := by
  rw [match_hashed_principal] at hmatch
  split at hmatch
  · cases hmatch
  generalize token_sha256 platform supplied_token = supplied_digest at hmatch ⊢
  induction identities using List.reverseRecOn with
  | nil => cases hmatch
  | append_singleton identities entry ih =>
    rw [List.foldl_append, List.foldl_cons, List.foldl_nil] at hmatch
    split at hmatch
    · rename_i hdigest
      obtain rfl := Option.some.inj hmatch
      exact List.mem_append_right _ (List.mem_singleton.mpr (Prod.ext hdigest rfl))
    · exact List.mem_append_left _ (ih hmatch)

/-- The principal that a request is authorized as is one of the configuration. -/
theorem authorize_mem {request : Request} {principal : Principal}
    (hauthorized : authorize_v1_requests app request = .ok principal) :
    ∃ entry ∈ app.identities, entry.2 = principal := by
  unfold authorize_v1_requests at hauthorized
  split at hauthorized
  · cases hauthorized
  split at hauthorized
  · rename_i found hfound
    obtain rfl := Except.ok.inj hauthorized
    exact ⟨_, match_hashed_principal_mem hfound, rfl⟩
  · split at hauthorized <;> cases hauthorized

/-- Every step of a request leaves the store, or commits what a principal of the configuration is permitted. -/
theorem handle_within (request : Request) :
    (handle app request).Within
      (Granted app.platform app.derive_fabric_intent (app.permits request.endpoint.statuses)) := by
  unfold handle
  split
  · split
    · trivial
    · rename_i principal hauthorized
      split
      · trivial
      · rename_i hroles
        obtain ⟨entry, hentry, rfl⟩ := authorize_mem hauthorized
        refine Thread.Within.bind ((route_confined hroles).weaken ?_) fun result => ?_
        · rintro ambient before after (hsame | ⟨transaction, hpermitted, hperform⟩)
          · exact .inl hsame
          · exact .inr ⟨transaction, ⟨entry, hentry, hpermitted⟩, hperform⟩
        · cases result <;> trivial
  · trivial

/-- What every committed step of a request and of the worker in a schedule keeps holds after it. -/
theorem App.kept {P : Store → Prop} {schedule : List (Event Request Ambient (WorkerCall worker))} (hempty : P {})
    (hrequest : ∀ ambient before after transaction, app.permits dry_run_statuses transaction →
      perform app.platform app.derive_fabric_intent ambient before transaction = .ok after → P before → P after)
    (hworker : ∀ change, .outside change ∈ schedule → ∀ before after,
      perform app.platform app.derive_fabric_intent change.1.2 before change.1.1 = .ok after → P before → P after) :
    P (app.after worker schedule).shared := by
  have hhandle (request : Request) : (handle app request).Within
      (Granted app.platform app.derive_fabric_intent (app.permits dry_run_statuses)) := by
    refine (handle_within request).weaken ?_
    rintro ambient before after (hsame | ⟨transaction, ⟨entry, hentry, hpermitted⟩, hperform⟩)
    · exact .inl hsame
    · exact .inr ⟨transaction, ⟨entry, hentry, hpermitted.widen fun _ => Endpoint.mem_statuses⟩, hperform⟩
  refine kept_after hempty hhandle ?_ ?_
  · rintro ambient before after (rfl | ⟨transaction, hpermits, hperform⟩) hbefore
    · exact hbefore
    · exact hrequest ambient before after transaction hpermits hperform hbefore
  · intro change hchange before hbefore
    obtain hperform | hsame := called_cases app.platform app.derive_fabric_intent before change.1
    · exact hworker change hchange before _ hperform hbefore
    · rw [hsame]
      exact hbefore

end Handle

/-! ## Separation of duties -/

/-- Who may be named by a row of a kind. -/
def Warranted (app : App) (worker : String) : Signed → String → Prop
  | .intent, actor => app.acts .planner actor
  | .reservation, actor => app.acts .planner actor
  | .plan, actor => app.acts .planner actor
  | .approval, actor => app.acts .approver actor
  | .run .dry_run, actor => app.acts .operator actor
  | .run .apply, actor => app.execution_enabled = true ∧ (app.acts .operator actor ∨ app.acts .approver actor)
  | .evidence, actor => app.acts .operator actor ∨ actor = worker
  | .manifest .adopted_discovery, actor => app.acts .approver actor
  | .manifest .successful_apply, actor => actor = worker
  | .audit, actor => (∃ role, app.acts role actor) ∨ actor = worker

/-- A decision is on the plan of a run, and on the texts that the run is bound to. -/
structure Covers (approval : ApprovalRow) (run : RunRow) : Prop where
  plan_id : approval.plan_id = run.plan_id
  plan_hash : approval.plan_hash = run.plan_hash
  artifact_hash : approval.artifact_hash = run.artifact_hash
  intent_version : approval.intent_version = run.intent_version

/-- Every row names somebody in the role it asks for, nobody has decided on a plan of their own, and every run was
granted by an approval of what it runs. -/
structure DutiesSeparated (app : App) (worker : String) (store : Store) : Prop where
  warranted : ∀ kind actor, actor ∈ store.signers kind → Warranted app worker kind actor
  decided : ∀ row ∈ store.approvals, ∃ plan, store.find_plan row.plan_id = some plan ∧ plan.created_by ≠ row.approver
  granted : ∀ run ∈ store.runs, ∃ approval ∈ store.approvals, approval.decision = .approved ∧ Covers approval run

section Separation

variable {app : App} {worker : String}

/-- The name of a principal has no white space. -/
theorem strip_actor (principal : Principal) : strip principal.actor = principal.actor := by
  refine intent.strip_of_no_space fun c hc => ?_
  have hactor := principal.actor_ok
  simp only [ACTOR, between, chars_eq_toList, Bool.and_eq_true] at hactor
  have hall := List.all_eq_true.mp hactor.2 c hc
  exact isSpace_of_token (token_of_alphanumeric (by decide) hall)

/-- What a principal is permitted to write names it in a role that warrants the row. -/
theorem Permitted.warranted {entry : String × Principal} {statuses : List RunStatus} {transaction : Transaction}
    {kind : Signed} (hentry : entry ∈ app.identities) (hpermitted : Permitted app entry.2 statuses transaction)
    (hadds : transaction.Adds kind) :
    Warranted app worker kind transaction.actor := by
  have hacts {role : Role} (hrole : role ∈ entry.2.roles) : app.acts role entry.2.actor := ⟨entry, hentry, rfl, hrole⟩
  cases hpermitted with
  | save_intent hrole =>
    cases hadds with
    | intent => exact hacts hrole
    | audit => exact .inl ⟨_, hacts hrole⟩
  | reserve_design hrole =>
    cases hadds with
    | reservation => exact hacts hrole
    | audit => exact .inl ⟨_, hacts hrole⟩
  | save_plan hrole =>
    cases hadds with
    | plan => exact hacts hrole
    | audit => exact .inl ⟨_, hacts hrole⟩
  | record_approval hrole =>
    cases hadds with
    | approval => exact hacts hrole
    | audit => exact .inl ⟨_, hacts hrole⟩
  | adopt_manifest hrole =>
    rw [Transaction.actor, strip_actor]
    cases hadds with
    | adopted => exact hacts hrole
    | audit => exact .inl ⟨_, hacts hrole⟩
  | confirm_run hrole =>
    cases hadds with
    | run hmode henabled =>
      obtain rfl := Except.ok.inj hmode
      exact ⟨henabled rfl, .inr (hacts hrole)⟩
    | audit => exact .inl ⟨_, hacts hrole⟩
  | create_run hrole =>
    cases hadds with
    | @run _ _ _ _ _ _ _ _ parsed hmode henabled =>
      cases parsed with
      | dry_run => exact hacts hrole
      | apply => exact ⟨henabled rfl, .inl (hacts hrole)⟩
    | audit => exact .inl ⟨_, hacts hrole⟩
  | transition_run hrole hstatus =>
    cases hadds with
    | audit => exact .inl ⟨_, hacts hrole⟩
  | add_evidence hrole =>
    cases hadds with
    | evidence => exact .inl (hacts hrole)
    | audit => exact .inl ⟨_, hacts hrole⟩

/-- What the worker writes names the worker. -/
theorem WorkerStep.warranted {transaction : Transaction} {kind : Signed} (hworker : WorkerStep worker transaction)
    (hadds : transaction.Adds kind) : Warranted app worker kind transaction.actor := by
  obtain ⟨run_id, reservation, hwrites⟩ := hworker
  cases hwrites with
  | transition_run hstatus =>
    cases hadds with
    | audit => exact .inr rfl
  | complete_apply =>
    cases hadds with
    | committed => rfl
    | audit => exact .inr rfl
  | transition_design_reservation =>
    cases hadds with
    | audit => exact .inr rfl
  | add_evidence =>
    cases hadds with
    | evidence => exact .inr rfl
    | audit => exact .inr rfl

/-- The decision that is in force is one of the recorded ones, on the plan. -/
theorem latest_approval_mem {store : Store} {plan_id : String} {approval : ApprovalRow}
    (hlatest : store.latest_approval plan_id = some approval) :
    approval ∈ store.approvals ∧ approval.plan_id = plan_id := by
  unfold Store.latest_approval at hlatest
  suffices hmem : approval ∈ store.approvals.filter fun row => row.plan_id = plan_id by
    obtain ⟨hstored, hplan⟩ := List.mem_filter.mp hmem
    exact ⟨hstored, of_decide_eq_true hplan⟩
  generalize (store.approvals.filter fun row => row.plan_id = plan_id) = rows at hlatest ⊢
  induction rows using List.reverseRecOn generalizing approval with
  | nil => cases hlatest
  | append_singleton rows row ih =>
    rw [List.foldl_append, List.foldl_cons, List.foldl_nil] at hlatest
    split at hlatest
    · rename_i best hbest
      split at hlatest
      · obtain rfl := Option.some.inj hlatest
        exact List.mem_append_right _ List.mem_cons_self
      · obtain rfl := Option.some.inj hlatest
        exact List.mem_append_left _ (ih hbest)
    · obtain rfl := Option.some.inj hlatest
      exact List.mem_append_right _ List.mem_cons_self

/-- A committed transaction keeps nobody deciding on a plan of their own. -/
theorem perform_decided {platform : Platform} {derive_fabric_intent : Derive} {ambient : Ambient} {before after : Store}
    {transaction : Transaction}
    (hperform : perform platform derive_fabric_intent ambient before transaction = .ok after)
    (hdecided : ∀ row ∈ before.approvals, ∃ plan, before.find_plan row.plan_id = some plan ∧
      plan.created_by ≠ row.approver) :
    ∀ row ∈ after.approvals, ∃ plan, after.find_plan row.plan_id = some plan ∧ plan.created_by ≠ row.approver := by
  have heffect := perform_authorization_effect hperform
  have hkeeps := authorization_effect_keeps heffect
  have hkept {row : ApprovalRow} (hrow : ∃ plan, before.find_plan row.plan_id = some plan ∧
      plan.created_by ≠ row.approver) :
      ∃ plan, after.find_plan row.plan_id = some plan ∧ plan.created_by ≠ row.approver := by
    obtain ⟨plan, hfound, hother⟩ := hrow
    obtain ⟨kept, hkept, hcreated⟩ := hkeeps.find_plan hfound
    exact ⟨kept, hkept, hcreated ▸ hother⟩
  intro row hrow
  generalize after.approvals = approvals at heffect hrow
  generalize after.plans = plans at heffect
  generalize after.runs = runs at heffect
  cases heffect with
  | decide hdecision hnew =>
    obtain hold | hrow := List.mem_append.mp hrow
    · exact hkept (hdecided row hold)
    · obtain rfl := List.mem_singleton.mp hrow
      refine hkept ⟨_, hnew.plan_id ▸ hnew.found, ?_⟩
      exact hnew.decided_by ▸ hnew.planner
  | _ => exact hkept (hdecided row hrow)

/-- A committed transaction keeps every run granted by an approval. -/
theorem perform_granted {platform : Platform} {derive_fabric_intent : Derive} {ambient : Ambient} {before after : Store}
    {transaction : Transaction}
    (hperform : perform platform derive_fabric_intent ambient before transaction = .ok after)
    (hgranted : ∀ run ∈ before.runs, ∃ approval ∈ before.approvals, approval.decision = .approved ∧
      Covers approval run) :
    ∀ run ∈ after.runs, ∃ approval ∈ after.approvals, approval.decision = .approved ∧ Covers approval run := by
  have heffect := perform_authorization_effect hperform
  intro run hrun
  generalize after.approvals = approvals at heffect ⊢
  generalize after.plans = plans at heffect
  generalize after.runs = runs at heffect hrun
  cases heffect with
  | decide hdecision hnew =>
    obtain ⟨approval, happroval, hgranted⟩ := hgranted run hrun
    exact ⟨approval, List.mem_append_left _ happroval, hgranted⟩
  | queue hnew hplan hgrants =>
    obtain hold | hrun := List.mem_append.mp hrun
    · exact hgranted run hold
    · obtain rfl := List.mem_singleton.mp hrun
      obtain ⟨happroval, hsame⟩ := latest_approval_mem hgrants.latest
      exact ⟨_, happroval, hgrants.approved, hsame, hgrants.plan_hash, hgrants.artifact_hash, hgrants.intent_version⟩
  | status =>
    obtain ⟨old, hold, rfl⟩ := table.mem_update.mp hrun
    obtain ⟨approval, happroval, hdecision, hcovers⟩ := hgranted old hold
    refine ⟨approval, happroval, hdecision, ?_⟩
    split
    · exact ⟨hcovers.plan_id, hcovers.plan_hash, hcovers.artifact_hash, hcovers.intent_version⟩
    · exact hcovers
  | _ => exact hgranted run hrun

/-- After every schedule of requests and of steps of the worker, the duties are separated. -/
theorem duties_separated (app : App) (worker : String)
    (schedule : List (Event Request Ambient (WorkerCall worker))) :
    DutiesSeparated app worker (app.after worker schedule).shared := by
  have hkept {ambient : Ambient} {before after : Store} {transaction : Transaction}
      (hadded : ∀ kind, transaction.Adds kind → Warranted app worker kind transaction.actor)
      (hperform : perform app.platform app.derive_fabric_intent ambient before transaction = .ok after)
      (hbefore : DutiesSeparated app worker before) : DutiesSeparated app worker after := by
    refine ⟨fun kind actor hactor => ?_, perform_decided hperform hbefore.decided,
      perform_granted hperform hbefore.granted⟩
    obtain hold | ⟨hadds, rfl⟩ := perform_attributed hperform kind actor hactor
    · exact hbefore.warranted kind actor hold
    · exact hadded kind hadds
  refine App.kept ?_ ?_ ?_
  · refine ⟨fun kind actor hactor => ?_, List.forall_mem_nil _, List.forall_mem_nil _⟩
    cases kind <;> cases hactor
  · rintro ambient before after transaction ⟨entry, hentry, hpermitted⟩ hperform hbefore
    exact hkept (fun kind hadds => hpermitted.warranted hentry hadds) hperform hbefore
  · intro change _ before after hperform hbefore
    exact hkept (fun kind hadds => change.2.warranted hadds) hperform hbefore

end Separation

end orchestrator.api
