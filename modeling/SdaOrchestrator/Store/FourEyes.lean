import SdaOrchestrator.Store.Decisions

open python

namespace orchestrator.store

/-! ## Events of a sequence of calls -/

section Events

variable (platform : Platform) (derive_fabric_intent : Derive)

/-- An event happens at one of the calls that follow the ones before. -/
def Happens (event : Store → Transaction × Ambient → Prop)
    (before calls : List (Transaction × Ambient)) : Prop :=
  ∃ earlier call later, calls = earlier ++ call :: later ∧
    event (after_calls platform derive_fabric_intent (before ++ earlier)) call

/-- A call commits a submission of a plan by an actor. -/
def Submits (plan_id actor : String) (store : Store) (call : Transaction × Ambient) : Prop :=
  ∃ intent_id plan artifact_hash intent_version reservation_id document next,
    call.1 = .save_plan intent_id plan actor artifact_hash intent_version reservation_id ∧
      plan.item "plan_id" = .ok document ∧ document.toStr = plan_id ∧
      Step platform derive_fabric_intent store call next

/-- A call commits a submission of a plan that somebody else has stored. -/
def Resubmits (plan_id actor : String) (store : Store) (call : Transaction × Ambient) : Prop :=
  Submits platform derive_fabric_intent plan_id actor store call ∧
    ∃ existing, store.find_plan plan_id = some existing ∧ existing.created_by ≠ actor

/-- A call binds a stored plan to another reservation. -/
def Rebinds (plan_id : String) (store : Store) (call : Transaction × Ambient) : Prop :=
  ∃ intent_id plan actor artifact_hash intent_version reservation_id document existing next,
    call.1 = .save_plan intent_id plan actor artifact_hash intent_version reservation_id ∧
      plan.item "plan_id" = .ok document ∧ document.toStr = plan_id ∧
      store.find_plan plan_id = some existing ∧
      existing.reservation_id.getD "" ≠ reservation_id.getD "" ∧
      Step platform derive_fabric_intent store call next

/-- A call commits an approval of a plan by an actor. -/
def Approves (plan_id actor : String) (store : Store) (call : Transaction × Ambient) : Prop :=
  ∃ change_reference expires_at next,
    call.1 = .record_approval plan_id Decision.approved.text actor change_reference expires_at ∧
      Step platform derive_fabric_intent store call next

/-- A call creates a run of a plan. -/
def Starts (plan_id : String) (store : Store) (call : Transaction × Ambient) : Prop :=
  ∃ row, row.plan_id = plan_id ∧
    (called platform derive_fabric_intent store call).runs = store.runs ++ [row]

/-- The decision in force on a plan is an approval. -/
def Store.approval_in_force (store : Store) (plan_id : String) : Prop :=
  ∃ row, store.latest_approval plan_id = some row ∧ row.decision = .approved

/-- The separation of duties over a sequence of calls: nobody approves a plan that he
has submitted, and a run of a rebound plan relies on an approval given after it. -/
structure FourEyes (calls : List (Transaction × Ambient)) : Prop where
  submitter : ∀ before call later plan_id actor, calls = before ++ call :: later →
    Approves platform derive_fabric_intent plan_id actor
      (after_calls platform derive_fabric_intent before) call →
      ¬Happens platform derive_fabric_intent
        (Submits platform derive_fabric_intent plan_id actor) [] before
  rebound : ∀ before rebind between start later plan_id,
    calls = before ++ rebind :: (between ++ start :: later) →
    Rebinds platform derive_fabric_intent plan_id
      (after_calls platform derive_fabric_intent before) rebind →
    Starts platform derive_fabric_intent plan_id
      (after_calls platform derive_fabric_intent (before ++ rebind :: between)) start →
    ∃ actor, Happens platform derive_fabric_intent
      (Approves platform derive_fabric_intent plan_id actor) (before ++ [rebind]) between

/-- Nobody approves a plan that he has submitted in the place of its planner, and no
plan that is rebound while an approval is in force gets a run before another approval. -/
structure Separated (calls : List (Transaction × Ambient)) : Prop where
  resubmitter : ∀ before call later plan_id actor, calls = before ++ call :: later →
    Approves platform derive_fabric_intent plan_id actor
      (after_calls platform derive_fabric_intent before) call →
      ¬Happens platform derive_fabric_intent
        (Resubmits platform derive_fabric_intent plan_id actor) [] before
  rebound_in_force : ∀ before rebind between start later plan_id,
    calls = before ++ rebind :: (between ++ start :: later) →
    Rebinds platform derive_fabric_intent plan_id
      (after_calls platform derive_fabric_intent before) rebind →
    (after_calls platform derive_fabric_intent before).approval_in_force plan_id →
    Starts platform derive_fabric_intent plan_id
      (after_calls platform derive_fabric_intent (before ++ rebind :: between)) start →
    ∃ actor, Happens platform derive_fabric_intent
      (Approves platform derive_fabric_intent plan_id actor) (before ++ [rebind]) between

end Events

section Separation

variable {platform : Platform} {derive_fabric_intent : Derive}

theorem after_calls_append_cons (before : List (Transaction × Ambient))
    (call : Transaction × Ambient) (later : List (Transaction × Ambient)) :
    after_calls platform derive_fabric_intent (before ++ call :: later) =
      later.foldl (called platform derive_fabric_intent)
        (called platform derive_fabric_intent (after_calls platform derive_fabric_intent before)
          call) := by
  simp [after_calls]

/-- The planner of a stored plan does not change. -/
theorem created_by_of_calls (platform : Platform) (derive_fabric_intent : Derive) {store : Store} {plan_id : String} {plan : PlanRow}
    (hplan : store.find_plan plan_id = some plan) (calls : List (Transaction × Ambient)) :
    ∃ kept, (calls.foldl (called platform derive_fabric_intent) store).find_plan plan_id =
      some kept ∧ kept.created_by = plan.created_by := by
  induction calls generalizing store plan with
  | nil => exact ⟨plan, hplan, rfl⟩
  | cons call rest ih =>
    obtain ⟨kept, hkept, hplanner⟩ :=
      (called_keeps (rfl : called platform derive_fabric_intent store call = _)).find_plan hplan
    obtain ⟨last, hlast, hsame⟩ := ih hkept
    exact ⟨last, hlast, hsame.trans hplanner⟩

/-- An approval is not by the planner of the plan. -/
theorem Approves.planner {plan_id actor : String} {store : Store} {call : Transaction × Ambient}
    {plan : PlanRow} (happroves : Approves platform derive_fabric_intent plan_id actor store call)
    (hplan : store.find_plan plan_id = some plan) : plan.created_by ≠ actor := by
  obtain ⟨change_reference, expires_at, next, hcall, hstep⟩ := happroves
  rw [Step, hcall] at hstep
  obtain ⟨row, hvalue⟩ := map_snd_eq_ok_iff.mp hstep
  obtain ⟨found, -, hnew, -⟩ := record_approval_eq_ok hvalue
  obtain rfl := Option.some.inj (hplan.symm.trans hnew.found)
  exact hnew.planner

/-- A submission leaves the plan stored, under its first submitter. -/
theorem Submits.stored {plan_id actor : String} {store : Store} {call : Transaction × Ambient}
    (hsubmits : Submits platform derive_fabric_intent plan_id actor store call) :
    Resubmits platform derive_fabric_intent plan_id actor store call ∨
      ∃ plan, (called platform derive_fabric_intent store call).find_plan plan_id = some plan ∧
        plan.created_by = actor := by
  obtain ⟨intent_id, plan, artifact_hash, intent_version, reservation_id, document, next, hcall,
    hdocument, hid, hstep⟩ := id hsubmits
  have hnext : called platform derive_fabric_intent store call = next := by
    rw [called, hstep]
  cases hfound : store.find_plan plan_id with
  | some existing =>
    by_cases hsame : existing.created_by = actor
    · obtain ⟨kept, hkept, hplanner⟩ := (called_keeps hnext).find_plan hfound
      exact .inr ⟨kept, hnext ▸ hkept, hplanner.trans hsame⟩
    · exact .inl ⟨hsubmits, existing, hfound, hsame⟩
  | none =>
    rw [Step, hcall] at hstep
    obtain ⟨⟨row, created⟩, hvalue⟩ := map_snd_eq_ok_iff.mp hstep
    obtain ⟨-, hbound⟩ | ⟨existing, hbound, -⟩ | ⟨hnew, hcore⟩ := save_plan_core hvalue
    · obtain ⟨document', existing, hdocument', hexisting, -⟩ := hbound
      obtain rfl := Except.ok.inj (hdocument.symm.trans hdocument')
      rw [hid, hfound] at hexisting
      cases hexisting
    · obtain ⟨document', hdocument', hexisting⟩ := hbound.plan_id
      obtain rfl := Except.ok.inj (hdocument.symm.trans hdocument')
      have hstored := hbound.found
      rw [hexisting, hid, hfound] at hstored
      cases hstored
    · obtain ⟨document', hdocument', hrow⟩ := hnew.plan_id
      obtain rfl := Except.ok.inj (hdocument.symm.trans hdocument')
      have hplans : next.plans = store.plans ++ [row] := congrArg CoreTables.plans hcore
      refine .inr ⟨row, ?_, save_plan_created_by hvalue hnew.fresh⟩
      rw [hnext, Store.find_plan, hplans]
      exact (table.lookup_append_fresh hnew.fresh).mpr (.inr ⟨hid.symm.trans hrow.symm, rfl⟩)

theorem latest_approval_append {store next : Store} {row : ApprovalRow}
    (happrovals : next.approvals = store.approvals ++ [row]) (plan_id : String) :
    next.latest_approval plan_id = store.latest_approval plan_id ∨
      row.plan_id = plan_id ∧ next.latest_approval plan_id = some row := by
  unfold Store.latest_approval
  rw [happrovals, List.filter_append]
  by_cases hid : row.plan_id = plan_id
  · rw [List.filter_cons_of_pos (by simpa using hid), List.filter_nil, List.foldl_append,
      List.foldl_cons, List.foldl_nil]
    split
    · split
      · exact .inr ⟨hid, rfl⟩
      · rename_i found hfound _
        exact .inl hfound.symm
    · exact .inr ⟨hid, rfl⟩
  · rw [List.filter_cons_of_neg (by simpa using hid), List.filter_nil, List.append_nil]
    exact .inl rfl

/-- Only an approval puts an approval in force. -/
theorem approval_in_force_of_called {plan_id : String} {store : Store}
    {call : Transaction × Ambient}
    (hforce : (called platform derive_fabric_intent store call).approval_in_force plan_id)
    (hnone : ∀ actor, ¬Approves platform derive_fabric_intent plan_id actor store call) :
    store.approval_in_force plan_id := by
  obtain ⟨row, hlatest, hdecision⟩ := hforce
  obtain hstep | hsame := called_cases platform derive_fabric_intent store call
  · have heffect := perform_authorization_effect hstep
    generalize hnext : called platform derive_fabric_intent store call = next at heffect hlatest hstep
    have hunchanged (happrovals : next.approvals = store.approvals) :
        store.approval_in_force plan_id := by
      refine ⟨row, ?_, hdecision⟩
      rw [← hlatest]
      unfold Store.latest_approval
      rw [happrovals]
    obtain ⟨transaction, ambient⟩ := call
    generalize happrovals : next.approvals = approvals at heffect
    generalize next.plans = plans at heffect
    generalize next.runs = runs at heffect
    cases heffect with
    | @decide decided decision approver change_reference expires_at plan added hparsed hnew =>
      obtain hsame | ⟨hid, hadded⟩ := latest_approval_append happrovals plan_id
      · exact ⟨row, hsame ▸ hlatest, hdecision⟩
      · obtain rfl := Option.some.inj (hlatest.symm.trans hadded)
        have htext : decision = Decision.approved.text := by
          rw [hdecision] at hparsed
          unfold Decision.parse at hparsed
          split at hparsed <;> first | rfl | cases hparsed
        obtain rfl : decided = plan_id := hnew.plan_id.symm.trans hid
        exact absurd ⟨change_reference, expires_at, next, by rw [htext], hstep⟩ (hnone approver)
    | _ => exact hunchanged happrovals
  · rw [hsame] at hlatest
    exact ⟨row, hlatest, hdecision⟩

/-- An approval in force after some calls was in force before them or is given by one. -/
theorem approval_in_force_of_calls {plan_id : String} (before : List (Transaction × Ambient))
    {calls : List (Transaction × Ambient)}
    (hforce : (after_calls platform derive_fabric_intent (before ++ calls)).approval_in_force
      plan_id) :
    (after_calls platform derive_fabric_intent before).approval_in_force plan_id ∨
      ∃ actor, Happens platform derive_fabric_intent
        (Approves platform derive_fabric_intent plan_id actor) before calls := by
  induction calls using List.reverseRecOn with
  | nil => exact .inl (by rwa [List.append_nil] at hforce)
  | append_singleton calls call ih =>
    rw [← List.append_assoc, after_calls_concat] at hforce
    by_cases hgiven : ∃ actor, Approves platform derive_fabric_intent plan_id actor
        (after_calls platform derive_fabric_intent (before ++ calls)) call
    · obtain ⟨actor, happroves⟩ := hgiven
      exact .inr ⟨actor, calls, call, [], rfl, happroves⟩
    · have hearlier := approval_in_force_of_called hforce fun actor happroves =>
        hgiven ⟨actor, happroves⟩
      obtain hbefore | ⟨actor, earlier, given, later, rfl, happroves⟩ := ih hearlier
      · exact .inl hbefore
      · exact .inr ⟨actor, earlier, given, later ++ [call], by simp, happroves⟩

/-- A run is created only while an approval is in force. -/
theorem Starts.approval_in_force {plan_id : String} {store : Store} {call : Transaction × Ambient}
    (hstarts : Starts platform derive_fabric_intent plan_id store call) :
    store.approval_in_force plan_id := by
  obtain ⟨row, hplan, hruns⟩ := hstarts
  obtain hstep | hsame := called_cases platform derive_fabric_intent store call
  · have heffect := perform_authorization_effect hstep
    rw [hruns] at heffect
    generalize (called platform derive_fabric_intent store call).plans = plans at heffect
    generalize (called platform derive_fabric_intent store call).approvals = approvals at heffect
    generalize hadded : store.runs ++ [row] = runs at heffect
    have hlength := congrArg List.length hadded
    rw [List.length_append, List.length_singleton] at hlength
    obtain ⟨transaction, ambient⟩ := call
    cases heffect with
    | @queue _ _ _ _ _ _ _ _ created approval hnew hcreated hgrants =>
      obtain ⟨-, hrow⟩ := List.append_inj' hadded rfl
      obtain rfl := List.singleton_inj.mp hrow
      exact ⟨approval, hplan ▸ hgrants.latest, hgrants.approved⟩
    | status =>
      simp [set_run_status, table.update] at hlength
    | _ => simp at hlength
  · rw [hsame] at hruns
    simp at hruns

/-- Over every sequence of calls: the duties are separated exactly when nobody approves
a plan that he resubmitted in the place of its planner, and a plan that is rebound
while an approval is in force gets no run before another approval. -/
theorem four_eyes_iff (platform : Platform) (derive_fabric_intent : Derive)
    (calls : List (Transaction × Ambient)) :
    FourEyes platform derive_fabric_intent calls ↔
      Separated platform derive_fabric_intent calls := by
  constructor
  · intro hfour
    refine ⟨?_, ?_⟩
    · rintro before call later plan_id actor hcalls happroves ⟨earlier, submit, rest, hbefore, hre⟩
      exact hfour.submitter before call later plan_id actor hcalls happroves
        ⟨earlier, submit, rest, hbefore, hre.1⟩
    · intro before rebind between start later plan_id hcalls hrebinds _ hstarts
      exact hfour.rebound before rebind between start later plan_id hcalls hrebinds hstarts
  · intro hseparated
    refine ⟨?_, ?_⟩
    · rintro before call later plan_id actor hcalls happroves ⟨earlier, submit, rest, rfl, hsubmits⟩
      rw [List.nil_append] at hsubmits
      obtain hresubmits | ⟨plan, hplan, hplanner⟩ := hsubmits.stored
      · exact hseparated.resubmitter _ call later plan_id actor hcalls happroves
          ⟨earlier, submit, rest, rfl, hresubmits⟩
      · obtain ⟨kept, hkept, hsame⟩ := created_by_of_calls platform derive_fabric_intent hplan
          rest
        rw [← after_calls_append_cons] at hkept
        exact happroves.planner hkept (hsame.trans hplanner)
    · intro before rebind between start later plan_id hcalls hrebinds hstarts
      have hforce := hstarts.approval_in_force
      rw [List.append_cons] at hforce
      obtain hafter | hgiven := approval_in_force_of_calls (before ++ [rebind]) hforce
      · rw [after_calls_concat] at hafter
        have hnone (actor : String) : ¬Approves platform derive_fabric_intent plan_id actor
            (after_calls platform derive_fabric_intent before) rebind := by
          obtain ⟨_, _, _, _, _, _, _, _, _, hsave, -⟩ := hrebinds
          rintro ⟨_, _, _, hdecides, -⟩
          rw [hsave] at hdecides
          cases hdecides
        exact hseparated.rebound_in_force before rebind between start later plan_id hcalls hrebinds
          (approval_in_force_of_called hafter hnone) hstarts
      · exact hgiven

end Separation

/-! ## A rebound plan -/

/-- The reservation of the lab plan is released and the design reserved again. -/
def lab_reserved_again : List (Transaction × Ambient) := [
  (lab_reserve_design, lab_minute 1), (lab_save_intent, lab_minute 2),
  (lab_save_plan, lab_minute 3),
  (.transition_design_reservation "reservation_100" .released "operator" true, lab_minute 4),
  (.reserve_design (.dict []) (.dict []) "reserve-lab-2" "approver", lab_minute 5)]

/-- The approver binds the plan to the new reservation, then approves it. -/
def lab_rebind : Transaction :=
  .save_plan ("intent_" ++ take 16 lab_intent_hash) lab_plan "approver" lab_artifact_hash "1.0"
    (some "reservation_500")

theorem lab_rebind_approved :
    (perform cpython lab_derive (lab_minute 6) (after_calls cpython lab_derive lab_reserved_again)
        lab_rebind).isOk ∧
      (perform cpython lab_derive (lab_minute 7)
        (after_calls cpython lab_derive (lab_reserved_again ++ [(lab_rebind, lab_minute 6)]))
        lab_record_approval).isOk := by
  decide +kernel

theorem not_four_eyes :
    ¬∀ calls : List (Transaction × Ambient), FourEyes cpython lab_derive calls := by
  intro hclaim
  obtain ⟨hrebind, happroval⟩ := lab_rebind_approved
  obtain ⟨rebound, hrebound⟩ := isOk_iff.mp hrebind
  obtain ⟨approved, happroved⟩ := isOk_iff.mp happroval
  refine (hclaim (lab_reserved_again ++ [(lab_rebind, lab_minute 6)] ++
    [(lab_record_approval, lab_minute 7)])).submitter _ _ [] "plan_lab" "approver" rfl
      ⟨"CHG-1", "2025-02-01T00:00:00+00:00", approved, rfl, happroved⟩ ?_
  exact ⟨lab_reserved_again, (lab_rebind, lab_minute 6), [], rfl, _, _, _, _, _, .str "plan_lab",
    rebound, rfl, rfl, rfl, hrebound⟩

end orchestrator.store
