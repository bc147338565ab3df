import SdaOrchestrator.Store.Valid

open python

namespace orchestrator.store

/-! ## What a transaction does to plans, approvals and runs -/

/-- The columns of a plan that a decision binds, and its planner. -/
def PlanRow.binding (row : PlanRow) : String × String × String × String × String :=
  (row.plan_id, row.plan_hash, row.artifact_hash, row.intent_version, row.created_by)

/-- The columns of a run that bind it to what was approved. -/
def RunRow.binding (row : RunRow) : String × String × String × String × String :=
  (row.run_id, row.plan_id, row.plan_hash, row.artifact_hash, row.intent_version)

/-- A decision on a plan, by somebody else than its planner. -/
structure NewApproval (store : Store) (plan_id approver : String) (ambient : Ambient)
    (plan : PlanRow) (row : ApprovalRow) : Prop where
  found : store.find_plan plan_id = some plan
  plan_id : row.plan_id = plan_id
  plan_hash : row.plan_hash = plan.plan_hash
  artifact_hash : row.artifact_hash = plan.artifact_hash
  intent_version : row.intent_version = plan.intent_version
  decided_by : row.approver = approver
  planner : plan.created_by ≠ approver
  created_at : row.created_at = isoformat (ambient.utc_now 1)

/-- The approval that a new run relies on, at a clock reading. -/
structure Grants (platform : Platform) (store : Store) (now : Datetime) (row : RunRow)
    (approval : ApprovalRow) : Prop where
  latest : store.latest_approval row.plan_id = some approval
  approved : approval.decision = .approved
  unexpired : ∃ expiry, platform.parse_timestamp approval.expires_at = .ok expiry ∧ now < expiry
  plan_hash : approval.plan_hash = row.plan_hash
  artifact_hash : approval.artifact_hash = row.artifact_hash
  intent_version : approval.intent_version = row.intent_version

/-- What one transaction can do to plans, approvals and runs. -/
inductive AuthorizationEffect (platform : Platform) (store : Store) (ambient : Ambient) :
    Transaction → List PlanRow → List ApprovalRow → List RunRow → Prop where
  | keep {transaction : Transaction} :
      AuthorizationEffect platform store ambient transaction store.plans store.approvals store.runs
  | plan {intent_id : String} {plan : Value} {actor artifact_hash intent_version : String}
      {reservation_id : Option String} {row : PlanRow} (hnew : NewPlan store plan reservation_id row)
      (hactor : row.created_by = actor) :
      AuthorizationEffect platform store ambient
        (.save_plan intent_id plan actor artifact_hash intent_version reservation_id)
        (store.plans ++ [row]) store.approvals store.runs
  | rebind {intent_id : String} {plan : Value} {actor artifact_hash intent_version : String}
      {reservation_id : Option String} {existing : PlanRow}
      (hbound : Rebound store plan existing reservation_id) :
      AuthorizationEffect platform store ambient
        (.save_plan intent_id plan actor artifact_hash intent_version reservation_id)
        (rebind_plan existing.plan_id reservation_id store.plans) store.approvals store.runs
  | decide {plan_id decision approver change_reference expires_at : String} {plan : PlanRow}
      {row : ApprovalRow} (hdecision : Decision.parse decision = .ok row.decision)
      (hnew : NewApproval store plan_id approver ambient plan row) :
      AuthorizationEffect platform store ambient
        (.record_approval plan_id decision approver change_reference expires_at) store.plans
        (store.approvals ++ [row]) store.runs
  | queue {plan_id mode idempotency_key requested_by : String} {execution_enabled : Bool}
      {maintenance_start maintenance_end : Option String} {lock_ttl_seconds : Int} {row : RunRow}
      {approval : ApprovalRow} (hnew : NewRun store row) (hplan : row.plan_id = plan_id)
      (hgrants : Grants platform store (ambient.utc_now 1) row approval) :
      AuthorizationEffect platform store ambient
        (.create_run plan_id mode idempotency_key requested_by execution_enabled maintenance_start
          maintenance_end lock_ttl_seconds)
        store.plans store.approvals (store.runs ++ [row])
  | status {transaction : Transaction} {run_id : String} {new_status : RunStatus}
      {updated_at : String} :
      AuthorizationEffect platform store ambient transaction store.plans store.approvals
        (set_run_status run_id new_status updated_at store.runs)

theorem record_approval_eq_ok {platform : Platform} {plan_id decision approver : String}
    {change_reference expires_at : String} {ambient : Ambient} {store next : Store}
    {row : ApprovalRow}
    (hresult : record_approval platform plan_id decision approver change_reference expires_at ambient
      store = .ok (row, next)) :
    ∃ plan, Decision.parse decision = .ok row.decision ∧
      NewApproval store plan_id approver ambient plan row ∧
      next.plans = store.plans ∧ next.approvals = store.approvals ++ [row] ∧
      next.runs = store.runs := by
  simp only [record_approval, bind_eq_ok_iff, raise_if_eq_ok, require_eq_ok, pure_eq_ok_iff,
    Prod.mk.injEq, decide_eq_false_iff_not] at hresult
  obtain ⟨parsed, hparsed, _, -, _, -, _, -, plan, hplan, _, hplanner, _, -, _, -, rfl, rfl⟩ :=
    hresult
  exact ⟨plan, hparsed, ⟨hplan, rfl, rfl, rfl, rfl, rfl, hplanner, rfl⟩, rfl, rfl, rfl⟩

theorem active_approval_eq_ok {platform : Platform} {plan_id : String} {now : Datetime}
    {store : Store} {approval : ApprovalRow}
    (hresult : _active_approval platform plan_id now store = .ok approval) :
    store.latest_approval plan_id = some approval ∧ approval.decision = .approved ∧
      ∃ expiry, platform.parse_timestamp approval.expires_at = .ok expiry ∧ now < expiry := by
  unfold _active_approval at hresult
  split at hresult
  · rename_i row hlatest
    simp only [bind_eq_ok_iff, raise_if_eq_ok, pure_eq_ok_iff, decide_eq_false_iff_not,
      not_not] at hresult
    obtain ⟨_, hdecision, expiry, hexpiry, _, hlate, rfl⟩ := hresult
    exact ⟨hlatest, hdecision, expiry, hexpiry, not_le_iff_lt.mp hlate⟩
  · cases hresult

/-- A new run relies on the approval that is latest by its timestamp. -/
theorem create_run_grants {platform : Platform} {plan_id mode idempotency_key requested_by : String}
    {execution_enabled : Bool} {maintenance_start maintenance_end : Option String}
    {lock_ttl_seconds : Int} {ambient : Ambient} {store next : Store} {row : RunRow} {created : Bool}
    (hresult : create_run platform plan_id mode idempotency_key requested_by execution_enabled
      maintenance_start maintenance_end lock_ttl_seconds ambient store = .ok ((row, created), next)) :
    next = store ∨ next.approvals = store.approvals ∧ row.plan_id = plan_id ∧
      ∃ approval, Grants platform store (ambient.utc_now 1) row approval := by
  simp only [create_run, bind_eq_ok_iff, raise_if_eq_ok, require_eq_ok] at hresult
  obtain ⟨parsed, -, _, -, _, -, window, -, plan, hplan, hresult⟩ := hresult
  split at hresult
  · simp only [bind_eq_ok_iff, raise_if_eq_ok, pure_eq_ok_iff, Prod.mk.injEq] at hresult
    obtain ⟨_, -, -, rfl⟩ := hresult
    exact .inl rfl
  · simp only [bind_eq_ok_iff, raise_if_eq_ok, pure_eq_ok_iff, Prod.mk.injEq,
      decide_eq_false_iff_not, not_not] at hresult
    obtain ⟨approval, happroval, _, hplan_hash, _, hartifact_hash, _, hversion, _, -, locked,
      hlocked, ⟨rfl, -⟩, rfl⟩ := hresult
    obtain ⟨hlatest, hdecision, hexpiry⟩ := active_approval_eq_ok happroval
    have happrovals : locked.approvals = store.approvals := by
      cases parsed with
      | dry_run =>
        obtain rfl := Except.ok.inj hlocked
        rfl
      | apply =>
        simp only [take_fabric_lock, raise_if_bind_eq_ok_iff, pure_eq_ok_iff] at hlocked
        obtain ⟨-, rfl⟩ := hlocked
        rfl
    exact .inr ⟨happrovals, rfl, approval, hlatest, hdecision, hexpiry, hplan_hash, hartifact_hash,
      hversion⟩

theorem save_plan_created_by {platform : Platform} {intent_id : String} {plan : Value}
    {actor artifact_hash intent_version : String} {reservation_id : Option String}
    {ambient : Ambient} {store next : Store} {row : PlanRow} {created : Bool}
    (hresult : save_plan platform intent_id plan actor artifact_hash intent_version reservation_id
      ambient store = .ok ((row, created), next))
    (hfresh : store.find_plan row.plan_id = none) : row.created_by = actor := by
  simp only [save_plan, bind_eq_ok_iff, raise_if_eq_ok, require_eq_ok] at hresult
  obtain ⟨_, -, _, -, intent, -, _, -, _, -, _, -, plan_id, -, hresult⟩ := hresult
  split at hresult
  · rename_i existing hexisting
    have hself : store.find_plan existing.plan_id = some existing := by
      rw [table.lookup_key hexisting]
      exact hexisting
    simp only [save_existing_plan, bind_eq_ok_iff, raise_if_eq_ok] at hresult
    obtain ⟨_, -, hresult⟩ := hresult
    split at hresult
    · simp only [pure_eq_ok_iff, Prod.mk.injEq] at hresult
      obtain ⟨⟨rfl, -⟩, -⟩ := hresult
      simp [hself] at hfresh
    · simp only [bind_eq_ok_iff, raise_if_eq_ok, pure_eq_ok_iff, Prod.mk.injEq] at hresult
      obtain ⟨_, -, _, -, _, -, ⟨rfl, -⟩, -⟩ := hresult
      simp [hself] at hfresh
  · simp only [insert_plan, bind_eq_ok_iff, raise_if_eq_ok, pure_eq_ok_iff, Prod.mk.injEq] at hresult
    obtain ⟨_, -, _, -, _, -, ⟨rfl, -⟩, -⟩ := hresult
    rfl

/-- The transactions that record no decision leave the approvals as they are. -/
theorem perform_approvals {platform : Platform} {derive_fabric_intent : Derive} {ambient : Ambient}
    {store next : Store} {transaction : Transaction}
    (hstep : perform platform derive_fabric_intent ambient store transaction = .ok next)
    (hother : ∀ plan_id decision approver change_reference expires_at,
      transaction ≠ .record_approval plan_id decision approver change_reference expires_at) :
    next.approvals = store.approvals := by
  cases transaction with
  | save_intent intent actor =>
    obtain ⟨value, hvalue⟩ := map_snd_eq_ok_iff.mp hstep
    simp only [save_intent, bind_eq_ok_iff] at hvalue
    obtain ⟨_, -, _, -, _, -, _, -, hvalue⟩ := hvalue
    split at hvalue
    · simp only [pure_eq_ok_iff, Prod.mk.injEq] at hvalue
      rw [← hvalue.2]
    · simp only [bind_eq_ok_iff, raise_if_eq_ok, pure_eq_ok_iff, Prod.mk.injEq] at hvalue
      obtain ⟨_, -, -, rfl⟩ := hvalue
      rfl
  | reserve_design requirements policy idempotency_key actor =>
    obtain ⟨value, hvalue⟩ := map_snd_eq_ok_iff.mp hstep
    simp only [reserve_design, bind_eq_ok_iff, raise_if_eq_ok] at hvalue
    obtain ⟨_, -, _, -, hvalue⟩ := hvalue
    split at hvalue
    · simp only [bind_eq_ok_iff, raise_if_eq_ok, pure_eq_ok_iff, Prod.mk.injEq] at hvalue
      obtain ⟨_, -, -, rfl⟩ := hvalue
      rfl
    · simp only [bind_eq_ok_iff, raise_if_eq_ok, pure_eq_ok_iff, Prod.mk.injEq] at hvalue
      obtain ⟨derived, -, _, -, _, -, -, rfl⟩ := hvalue
      rfl
  | save_plan intent_id plan actor artifact_hash intent_version reservation_id =>
    obtain ⟨value, hvalue⟩ := map_snd_eq_ok_iff.mp hstep
    simp only [save_plan, bind_eq_ok_iff, raise_if_eq_ok, require_eq_ok] at hvalue
    obtain ⟨_, -, _, -, intent, -, _, -, _, -, _, -, plan_id, -, hvalue⟩ := hvalue
    split at hvalue
    · simp only [save_existing_plan, bind_eq_ok_iff, raise_if_eq_ok] at hvalue
      obtain ⟨_, -, hvalue⟩ := hvalue
      split at hvalue
      · simp only [pure_eq_ok_iff, Prod.mk.injEq] at hvalue
        rw [← hvalue.2]
      · simp only [bind_eq_ok_iff, raise_if_eq_ok, pure_eq_ok_iff, Prod.mk.injEq] at hvalue
        obtain ⟨_, -, _, -, _, -, -, rfl⟩ := hvalue
        rfl
    · simp only [insert_plan, bind_eq_ok_iff, raise_if_eq_ok, pure_eq_ok_iff, Prod.mk.injEq] at hvalue
      obtain ⟨_, -, _, -, _, -, -, rfl⟩ := hvalue
      rfl
  | record_approval plan_id decision approver change_reference expires_at =>
    exact absurd rfl (hother plan_id decision approver change_reference expires_at)
  | create_run plan_id mode idempotency_key requested_by execution_enabled maintenance_start
      maintenance_end lock_ttl_seconds =>
    obtain ⟨⟨row, created⟩, hvalue⟩ := map_snd_eq_ok_iff.mp hstep
    obtain rfl | ⟨happrovals, -⟩ := create_run_grants hvalue
    · rfl
    · exact happrovals
  | transition_run run_id new_status actor detail =>
    obtain ⟨row, hvalue⟩ := map_snd_eq_ok_iff.mp hstep
    simp only [transition_run, bind_eq_ok_iff, raise_if_eq_ok, require_eq_ok, pure_eq_ok_iff,
      Prod.mk.injEq] at hvalue
    obtain ⟨run, -, _, -, -, rfl⟩ := hvalue
    rfl
  | complete_apply run_id artifact_hash owned_state actor detail =>
    obtain ⟨row, hvalue⟩ := map_snd_eq_ok_iff.mp hstep
    simp only [complete_apply, bind_eq_ok_iff, raise_if_eq_ok, require_eq_ok, pure_eq_ok_iff,
      Prod.mk.injEq] at hvalue
    obtain ⟨_, -, _, -, run, -, _, -, _, -, _, -, _, -, _, -, _, -, -, rfl⟩ := hvalue
    rfl
  | transition_design_reservation reservation_id new_state actor verified =>
    obtain ⟨record, hvalue⟩ := map_snd_eq_ok_iff.mp hstep
    simp only [transition_design_reservation, bind_eq_ok_iff, raise_if_eq_ok, require_eq_ok,
      pure_eq_ok_iff, Prod.mk.injEq] at hvalue
    obtain ⟨_, -, row, -, _, -, _, -, -, rfl⟩ := hvalue
    rfl
  | add_evidence run_id phase_id evidence_type payload actor device_id =>
    obtain ⟨row, hvalue⟩ := map_snd_eq_ok_iff.mp hstep
    simp only [add_evidence, bind_eq_ok_iff, raise_if_eq_ok] at hvalue
    obtain ⟨_, -, hvalue⟩ := hvalue
    split at hvalue
    · simp only [pure_eq_ok_iff, Prod.mk.injEq] at hvalue
      rw [← hvalue.2]
    · simp only [pure_eq_ok_iff, Prod.mk.injEq] at hvalue
      rw [← hvalue.2]
      rfl
  | adopt_manifest fabric_id manifest evidence_hash change_reference discovered_by approver =>
    simp only [perform, adopt_manifest, bind_eq_ok_iff, raise_if_eq_ok] at hstep
    obtain ⟨_, -, _, -, _, -, _, -, _, -, _, -, hstep⟩ := hstep
    split at hstep
    · simp only [bind_eq_ok_iff, raise_if_eq_ok, pure_eq_ok_iff] at hstep
      obtain ⟨_, -, rfl⟩ := hstep
      rfl
    · rw [pure_eq_ok_iff] at hstep
      rw [← hstep]
      rfl

/-- Every transaction that commits has one of these effects. -/
theorem perform_authorization_effect {platform : Platform} {derive_fabric_intent : Derive}
    {ambient : Ambient} {store next : Store} {transaction : Transaction}
    (hstep : perform platform derive_fabric_intent ambient store transaction = .ok next) :
    AuthorizationEffect platform store ambient transaction next.plans next.approvals next.runs := by
  have heffect := perform_effect hstep
  have happrovals := perform_approvals hstep
  have hplans : next.plans = next.core.plans := rfl
  have hruns : next.runs = next.core.runs := rfl
  cases transaction with
  | save_plan intent_id plan actor artifact_hash intent_version reservation_id =>
    rw [happrovals (by simp)]
    obtain ⟨⟨row, created⟩, hvalue⟩ := map_snd_eq_ok_iff.mp hstep
    obtain ⟨rfl, -⟩ | ⟨existing, hbound, hcore⟩ | ⟨hnew, hcore⟩ := save_plan_core hvalue
    · exact .keep
    · rw [hplans, hruns, hcore]
      exact .rebind hbound
    · rw [hplans, hruns, hcore]
      exact .plan hnew (save_plan_created_by hvalue hnew.fresh)
  | record_approval plan_id decision approver change_reference expires_at =>
    obtain ⟨row, hvalue⟩ := map_snd_eq_ok_iff.mp hstep
    obtain ⟨plan, hdecision, hnew, hplans, happrovals, hruns⟩ := record_approval_eq_ok hvalue
    rw [hplans, happrovals, hruns]
    exact .decide hdecision hnew
  | create_run plan_id mode idempotency_key requested_by execution_enabled maintenance_start
      maintenance_end lock_ttl_seconds =>
    obtain ⟨⟨row, created⟩, hvalue⟩ := map_snd_eq_ok_iff.mp hstep
    obtain rfl | ⟨happrovals, hplan, approval, hgrants⟩ := create_run_grants hvalue
    · exact .keep
    · obtain rfl | ⟨hnew, fabric_locks, hcore⟩ := create_run_core hvalue
      · exact .keep
      · rw [happrovals, hplans, hruns, hcore]
        exact .queue hnew hplan hgrants
  | _ =>
    rw [happrovals (by simp), hplans, hruns]
    generalize next.core = tables at heffect
    cases heffect <;> first | exact .keep | exact .status

end orchestrator.store
