import Mathlib.Data.List.Induction
import SdaOrchestrator.Store.Authorization
import SdaOrchestrator.Store.Lab

open python

namespace orchestrator.store

/-! ## Rows keep what binds them -/

/-- No row of the three tables disappears or changes what binds it. -/
structure KeepsBindings (store : Store) (plans : List PlanRow) (approvals : List ApprovalRow)
    (runs : List RunRow) : Prop where
  plans : store.plans.map PlanRow.binding <+: plans.map PlanRow.binding
  approvals : store.approvals <+: approvals
  runs : store.runs.map RunRow.binding <+: runs.map RunRow.binding

theorem binding_rebind_plan (plan_id : String) (reservation_id : Option String)
    (plans : List PlanRow) :
    (rebind_plan plan_id reservation_id plans).map PlanRow.binding = plans.map PlanRow.binding := by
  unfold rebind_plan table.update
  rw [List.map_map]
  refine List.map_congr_left fun row _ => ?_
  by_cases hid : row.plan_id = plan_id <;> simp [hid, PlanRow.binding]

theorem binding_set_run_status (run_id : String) (status : RunStatus) (updated_at : String)
    (runs : List RunRow) :
    (set_run_status run_id status updated_at runs).map RunRow.binding =
      runs.map RunRow.binding := by
  unfold set_run_status table.update
  rw [List.map_map]
  refine List.map_congr_left fun row _ => ?_
  by_cases hid : row.run_id = run_id <;> simp [hid, RunRow.binding]

theorem authorization_effect_keeps {platform : Platform} {store : Store} {ambient : Ambient}
    {transaction : Transaction} {plans : List PlanRow} {approvals : List ApprovalRow}
    {runs : List RunRow}
    (heffect : AuthorizationEffect platform store ambient transaction plans approvals runs) :
    KeepsBindings store plans approvals runs := by
  have hplans : store.plans.map PlanRow.binding <+: store.plans.map PlanRow.binding :=
    List.prefix_rfl
  have happrovals : store.approvals <+: store.approvals := List.prefix_rfl
  have hruns : store.runs.map RunRow.binding <+: store.runs.map RunRow.binding := List.prefix_rfl
  cases heffect with
  | keep => exact ⟨hplans, happrovals, hruns⟩
  | plan => exact ⟨by simp, happrovals, hruns⟩
  | rebind => exact ⟨(binding_rebind_plan _ _ _).symm ▸ hplans, happrovals, hruns⟩
  | decide => exact ⟨hplans, List.prefix_append _ _, hruns⟩
  | queue => exact ⟨hplans, happrovals, by simp⟩
  | status => exact ⟨hplans, happrovals, (binding_set_run_status _ _ _ _).symm ▸ hruns⟩

theorem called_keeps {platform : Platform} {derive_fabric_intent : Derive} {store next : Store}
    {call : Transaction × Ambient} (hcalled : called platform derive_fabric_intent store call = next) :
    KeepsBindings store next.plans next.approvals next.runs := by
  obtain hstep | hsame := called_cases platform derive_fabric_intent store call
  · rw [hcalled] at hstep
    exact authorization_effect_keeps (perform_authorization_effect hstep)
  · rw [hcalled] at hsame
    rw [hsame]
    exact ⟨List.prefix_rfl, List.prefix_rfl, List.prefix_rfl⟩

/-- A stored plan stays stored, with its planner. -/
theorem KeepsBindings.find_plan {store next : Store} {plan_id : String} {plan : PlanRow}
    (hkeeps : KeepsBindings store next.plans next.approvals next.runs)
    (hfound : store.find_plan plan_id = some plan) :
    ∃ kept, next.find_plan plan_id = some kept ∧ kept.created_by = plan.created_by := by
  obtain ⟨kept, hkept, hbinding⟩ :=
    table.lookup_of_grows PlanRow.binding Prod.fst (fun _ => rfl) hkeeps.plans hfound
  exact ⟨kept, hkept, by simpa [PlanRow.binding] using congrArg (fun entry => entry.2.2.2.2) hbinding⟩

/-! ## The decision recorded last -/

/-- The most clock readings that one call takes. -/
def clock_readings : Nat := 5

/-- The clock of a sequence of calls is strictly increasing. -/
structure Increasing (calls : List (Transaction × Ambient)) : Prop where
  inside : ∀ call ∈ calls, ∀ later < clock_readings, ∀ earlier < later,
    call.2.utc_now earlier < call.2.utc_now later
  across : calls.Pairwise fun first second =>
    ∀ reading < clock_readings, ∀ other < clock_readings,
      first.2.utc_now reading < second.2.utc_now other

theorem Increasing.of_append {calls rest : List (Transaction × Ambient)}
    (hclock : Increasing (calls ++ rest)) : Increasing calls where
  inside := fun call hcall => hclock.inside call (List.mem_append_left _ hcall)
  across := (List.pairwise_append.mp hclock.across).1

/-- The decision on a plan that was recorded last. -/
def Store.last_decision (store : Store) (plan_id : String) : Option ApprovalRow :=
  (store.approvals.filter fun row => row.plan_id = plan_id).getLast?

/-- When the timestamps increase, the latest one is the one recorded last. -/
theorem latest_approval_eq_last {store : Store}
    (hsorted : store.approvals.Pairwise fun first second => first.created_at < second.created_at)
    (plan_id : String) : store.latest_approval plan_id = store.last_decision plan_id := by
  unfold Store.latest_approval Store.last_decision
  have hrows : (store.approvals.filter fun row => row.plan_id = plan_id).Pairwise
      fun first second => first.created_at < second.created_at := hsorted.filter _
  generalize (store.approvals.filter fun row => row.plan_id = plan_id) = rows at hrows
  induction rows using List.reverseRecOn with
  | nil => rfl
  | append_singleton rows row ih =>
    obtain ⟨hbefore, -, hacross⟩ := List.pairwise_append.mp hrows
    rw [List.foldl_append, ih hbefore, List.getLast?_concat]
    cases hlast : rows.getLast? with
    | none => rfl
    | some found =>
      have hless := hacross found (List.mem_of_getLast? hlast) row (by simp)
      exact if_pos hless

/-- What the calls of an increasing clock leave in the approvals: the timestamps are
readings of earlier calls, in order, and nobody has decided on their own plan. -/
structure Recorded (calls : List (Transaction × Ambient)) (store : Store) : Prop where
  clocked : ∀ approval ∈ store.approvals, ∃ call ∈ calls,
    approval.created_at = isoformat (call.2.utc_now 1)
  sorted : store.approvals.Pairwise fun first second => first.created_at < second.created_at
  others : ∀ approval ∈ store.approvals, ∃ plan,
    store.find_plan approval.plan_id = some plan ∧ plan.created_by ≠ approval.approver

section Calls

variable {platform : Platform} {derive_fabric_intent : Derive} {calls : List (Transaction × Ambient)}

theorem Recorded.call {store next : Store} {call : Transaction × Ambient}
    (hclock : Increasing (calls ++ [call])) (hrecorded : Recorded calls store)
    (hcalled : called platform derive_fabric_intent store call = next) :
    Recorded (calls ++ [call]) next := by
  have hkeeps := called_keeps hcalled
  have hclocked : ∀ approval ∈ store.approvals, ∃ earlier ∈ calls ++ [call],
      approval.created_at = isoformat (earlier.2.utc_now 1) := by
    intro approval happroval
    obtain ⟨earlier, hearlier, htime⟩ := hrecorded.clocked approval happroval
    exact ⟨earlier, List.mem_append_left _ hearlier, htime⟩
  have hothers : ∀ approval ∈ store.approvals, ∃ plan,
      next.find_plan approval.plan_id = some plan ∧ plan.created_by ≠ approval.approver := by
    intro approval happroval
    obtain ⟨plan, hplan, hother⟩ := hrecorded.others approval happroval
    obtain ⟨kept, hkept, hplanner⟩ := hkeeps.find_plan hplan
    exact ⟨kept, hkept, hplanner ▸ hother⟩
  have hunchanged (hsame : next.approvals = store.approvals) : Recorded (calls ++ [call]) next := by
    refine ⟨?_, ?_, ?_⟩ <;> rw [hsame]
    · exact hclocked
    · exact hrecorded.sorted
    · exact hothers
  obtain hstep | hsame := called_cases platform derive_fabric_intent store call
  · rw [hcalled] at hstep
    have heffect := perform_authorization_effect hstep
    generalize happrovals : next.approvals = approvals at heffect
    generalize next.plans = plans at heffect
    generalize next.runs = runs at heffect
    obtain ⟨transaction, ambient⟩ := call
    cases heffect with
    | @decide plan_id decision approver _ _ plan row hdecision hnew =>
      refine ⟨?_, ?_, ?_⟩ <;> rw [happrovals]
      · intro approval happroval
        obtain hold | hadded := List.mem_append.mp happroval
        · exact hclocked approval hold
        · rw [List.mem_singleton.mp hadded]
          exact ⟨_, List.mem_append_right _ (List.mem_singleton.mpr rfl), hnew.created_at⟩
      · refine List.pairwise_append.mpr ⟨hrecorded.sorted, List.pairwise_singleton _ _, ?_⟩
        intro approval happroval added hadded
        obtain ⟨earlier, hearlier, htime⟩ := hrecorded.clocked approval happroval
        rw [List.mem_singleton.mp hadded, htime, hnew.created_at]
        apply isoformat_lt
        have hacross := (List.pairwise_append.mp hclock.across).2.2 earlier hearlier
        exact hacross _ (by simp) 1 (by decide) 1 (by decide)
      · intro approval happroval
        obtain hold | hadded := List.mem_append.mp happroval
        · exact hothers approval hold
        · obtain ⟨kept, hkept, hplanner⟩ := hkeeps.find_plan hnew.found
          rw [List.mem_singleton.mp hadded, hnew.plan_id, hnew.decided_by]
          exact ⟨kept, hkept, hplanner ▸ hnew.planner⟩
    | _ => exact hunchanged happrovals
  · exact hunchanged (by rw [← hcalled, hsame])

theorem recorded_after_calls (hclock : Increasing calls) :
    Recorded calls (after_calls platform derive_fabric_intent calls) := by
  induction calls using List.reverseRecOn with
  | nil => exact ⟨by simp [after_calls], List.Pairwise.nil, by simp [after_calls]⟩
  | append_singleton calls call ih =>
    exact (ih hclock.of_append).call hclock (after_calls_concat _ _ calls call).symm

end Calls

/-! ## Every run was authorized -/

/-- The decision that stood for the plan of a run when it was created. -/
structure Authorized (platform : Platform) (store : Store) (now : Datetime) (row : RunRow)
    (approval : ApprovalRow) (plan : PlanRow) : Prop where
  last : store.last_decision row.plan_id = some approval
  approved : approval.decision = .approved
  unexpired : ∃ expiry, platform.parse_timestamp approval.expires_at = .ok expiry ∧ now < expiry
  planned : store.find_plan row.plan_id = some plan
  other_actor : approval.approver ≠ plan.created_by
  plan_hash : approval.plan_hash = row.plan_hash
  artifact_hash : approval.artifact_hash = row.artifact_hash
  intent_version : approval.intent_version = row.intent_version

theorem Recorded.authorized {calls : List (Transaction × Ambient)} {platform : Platform}
    {store : Store} {now : Datetime} {row : RunRow} {approval : ApprovalRow}
    (hrecorded : Recorded calls store) (hgrants : Grants platform store now row approval) :
    ∃ plan, Authorized platform store now row approval plan := by
  have hlast : store.last_decision row.plan_id = some approval := by
    rw [← latest_approval_eq_last hrecorded.sorted]
    exact hgrants.latest
  have hmem := List.mem_filter.mp (List.mem_of_getLast? hlast)
  have hplan_id : approval.plan_id = row.plan_id := of_decide_eq_true hmem.2
  obtain ⟨plan, hplan, hother⟩ := hrecorded.others approval hmem.1
  exact ⟨plan, hlast, hgrants.approved, hgrants.unexpired, hplan_id ▸ hplan, hother.symm,
    hgrants.plan_hash, hgrants.artifact_hash, hgrants.intent_version⟩

/-- The call in a sequence that created a run, under an authorization. -/
def CreatedBy (platform : Platform) (derive_fabric_intent : Derive)
    (calls : List (Transaction × Ambient)) (row : RunRow) : Prop :=
  ∃ before call rest created approval plan, calls = before ++ call :: rest ∧
    (called platform derive_fabric_intent (after_calls platform derive_fabric_intent before)
      call).runs = (after_calls platform derive_fabric_intent before).runs ++ [created] ∧
    created.binding = row.binding ∧
    Authorized platform (after_calls platform derive_fabric_intent before) (call.2.utc_now 1) created
      approval plan

theorem CreatedBy.extend {platform : Platform} {derive_fabric_intent : Derive}
    {calls : List (Transaction × Ambient)} {row row' : RunRow}
    (hcreated : CreatedBy platform derive_fabric_intent calls row)
    (hbinding : row'.binding = row.binding) (call : Transaction × Ambient) :
    CreatedBy platform derive_fabric_intent (calls ++ [call]) row' := by
  obtain ⟨before, creating, rest, created, approval, plan, rfl, hruns, hsame, hauthorized⟩ := hcreated
  exact ⟨before, creating, rest ++ [call], created, approval, plan, by simp, hruns,
    hsame.trans hbinding.symm, hauthorized⟩

theorem created_after_calls {platform : Platform} {derive_fabric_intent : Derive}
    {calls : List (Transaction × Ambient)} (hclock : Increasing calls) :
    ∀ row ∈ (after_calls platform derive_fabric_intent calls).runs,
      CreatedBy platform derive_fabric_intent calls row := by
  induction calls using List.reverseRecOn with
  | nil => simp [after_calls]
  | append_singleton calls call ih =>
    have hold := ih hclock.of_append
    have hrecorded : Recorded calls (after_calls platform derive_fabric_intent calls) :=
      recorded_after_calls hclock.of_append
    intro row hrow
    rw [after_calls_concat] at hrow
    obtain hstep | hsame := called_cases platform derive_fabric_intent
      (after_calls platform derive_fabric_intent calls) call
    · have heffect := perform_authorization_effect hstep
      generalize hcalled : called platform derive_fabric_intent
        (after_calls platform derive_fabric_intent calls) call = next at heffect hrow
      generalize hruns : next.runs = runs at heffect hrow
      generalize next.plans = plans at heffect
      generalize next.approvals = approvals at heffect
      obtain ⟨transaction, ambient⟩ := call
      cases heffect with
      | @queue _ _ _ _ _ _ _ _ created approval hnew hplan hgrants =>
        obtain hearlier | hadded := List.mem_append.mp hrow
        · exact (hold row hearlier).extend rfl _
        · obtain ⟨plan, hauthorized⟩ := hrecorded.authorized hgrants
          rw [List.mem_singleton.mp hadded]
          exact ⟨calls, _, [], created, approval, plan, rfl, by rw [hcalled, hruns], rfl, hauthorized⟩
      | status =>
        obtain ⟨earlier, hearlier, rfl⟩ := table.mem_update.mp hrow
        refine (hold earlier hearlier).extend ?_ _
        split <;> rfl
      | _ => exact (hold row hrow).extend rfl _
    · rw [hsame] at hrow
      exact (hold row hrow).extend rfl _

/-- For every sequence of calls on a strictly increasing clock: every run was created
while the decision recorded last for its plan was an unexpired approval, by another
actor, of the hashes and the version that the run carries, and no call changes what
binds a plan, an approval or a run. -/
theorem runs_authorized (platform : Platform) (derive_fabric_intent : Derive)
    (calls : List (Transaction × Ambient)) (hclock : Increasing calls) :
    (∀ row ∈ (after_calls platform derive_fabric_intent calls).runs,
        CreatedBy platform derive_fabric_intent calls row) ∧
      ∀ before call rest, calls = before ++ call :: rest →
        ∀ next, called platform derive_fabric_intent
            (after_calls platform derive_fabric_intent before) call = next →
          KeepsBindings (after_calls platform derive_fabric_intent before) next.plans next.approvals
            next.runs :=
  ⟨created_after_calls hclock, fun _ _ _ _ _ hcalled => called_keeps hcalled⟩

/-- The clock and the identifiers of a call that is made in its own minute. -/
def lab_minute (call : Nat) : Ambient where
  utc_now reading := ⟨2025, 1, 15, 12, .ofNat _ call, 0, .ofNat _ reading⟩
  uuid4_hex draw := toString (100 * call + draw)

/-- A design is planned, approved and queued, minute by minute. -/
def lab_calls : List (Transaction × Ambient) := [
  (lab_reserve_design, lab_minute 1), (lab_save_intent, lab_minute 2),
  (lab_save_plan, lab_minute 3), (lab_record_approval, lab_minute 4),
  (lab_queue_run "apply-lab-0001", lab_minute 5)]

theorem lab_calls_increasing : Increasing lab_calls where
  inside := by decide
  across := by decide

theorem runs_authorized_lab :
    (∀ row ∈ (after_calls cpython lab_derive lab_calls).runs,
        CreatedBy cpython lab_derive lab_calls row) ∧
      ∀ before call rest, lab_calls = before ++ call :: rest →
        ∀ next, called cpython lab_derive (after_calls cpython lab_derive before) call = next →
          KeepsBindings (after_calls cpython lab_derive before) next.plans next.approvals
            next.runs :=
  runs_authorized cpython lab_derive lab_calls lab_calls_increasing

end orchestrator.store
