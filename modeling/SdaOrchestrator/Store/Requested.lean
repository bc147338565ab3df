import SdaOrchestrator.Store.FourEyes

open python

namespace orchestrator.store

/-! ## How a run was requested -/

/-- The columns of a run that its request fixes. -/
def RunRow.requested (row : RunRow) :
    (String × String × String × String × String) × Mode × Option String × Option String :=
  (row.binding, row.mode, row.maintenance_start, row.maintenance_end)

/-- The stored maintenance window of a run is open at a clock reading. -/
def RunRow.window_open (row : RunRow) (now : Datetime) : Prop :=
  ∃ start stop, row.maintenance_start = some (isoformat start) ∧
    row.maintenance_end = some (isoformat stop) ∧ start ≤ now ∧ now ≤ stop

/-- A call that creates a run: what `create_run` has checked. -/
structure Requests (platform : Platform) (store : Store) (call : Transaction × Ambient)
    (row : RunRow) : Prop where
  fresh : store.find_run row.run_id = none
  grants : ∃ approval, Grants platform store (call.2.utc_now 1) row approval
  window : row.mode = .apply → row.window_open (call.2.utc_now 0)

theorem maintenance_window_eq_ok {platform : Platform} {maintenance_start maintenance_end : Option String}
    {now start stop : Datetime}
    (hwindow : maintenance_window platform maintenance_start maintenance_end now = .ok (start, stop)) :
    start ≤ now ∧ now ≤ stop := by
  unfold maintenance_window at hwindow
  split at hwindow
  · simp only [bind_eq_ok_iff, raise_if_eq_ok, pure_eq_ok_iff, Prod.mk.injEq,
      decide_eq_false_iff_not, not_not] at hwindow
    obtain ⟨_, -, parsed_start, -, parsed_stop, -, _, -, _, hopen, rfl, rfl⟩ := hwindow
    exact hopen
  · cases hwindow

/-- A run that `create_run` stores has the window that the request was checked against. -/
theorem create_run_window {platform : Platform} {plan_id mode idempotency_key requested_by : String}
    {execution_enabled : Bool} {maintenance_start maintenance_end : Option String}
    {lock_ttl_seconds : Int} {ambient : Ambient} {store next : Store} {row : RunRow} {created : Bool}
    (hresult : create_run platform plan_id mode idempotency_key requested_by execution_enabled
      maintenance_start maintenance_end lock_ttl_seconds ambient store = .ok ((row, created), next)) :
    next = store ∨ (row.mode = .apply → row.window_open (ambient.utc_now 0)) := by
  simp only [create_run, bind_eq_ok_iff, raise_if_eq_ok, require_eq_ok] at hresult
  obtain ⟨parsed, -, _, -, _, -, window, hwindow, plan, hplan, hresult⟩ := hresult
  split at hresult
  · simp only [bind_eq_ok_iff, raise_if_eq_ok, pure_eq_ok_iff, Prod.mk.injEq] at hresult
    obtain ⟨_, -, -, rfl⟩ := hresult
    exact .inl rfl
  · simp only [bind_eq_ok_iff, raise_if_eq_ok, pure_eq_ok_iff, Prod.mk.injEq] at hresult
    obtain ⟨approval, -, _, -, _, -, _, -, _, -, locked, -, ⟨rfl, -⟩, -⟩ := hresult
    right
    intro hmode
    simp only at hmode
    rw [hmode] at hwindow
    unfold requested_window at hwindow
    cases hchecked : maintenance_window platform maintenance_start maintenance_end
        (ambient.utc_now 0) with
    | error exception =>
      rw [hchecked] at hwindow
      cases hwindow
    | ok bounds =>
      rw [hchecked] at hwindow
      obtain rfl := Except.ok.inj hwindow
      exact ⟨bounds.1, bounds.2, rfl, rfl, maintenance_window_eq_ok hchecked⟩

theorem lookup_set_run_status (run_id other : String) (status : RunStatus) (updated_at : String)
    (runs : List RunRow) :
    table.lookup RunRow.run_id other (set_run_status run_id status updated_at runs) =
      if other = run_id then
        (table.lookup RunRow.run_id run_id runs).map fun row => { row with status, updated_at }
      else table.lookup RunRow.run_id other runs := by
  rw [set_run_status, table.lookup_update]
  exact fun _ => rfl

section Calls

variable {platform : Platform} {derive_fabric_intent : Derive}

/-- Where a stored run comes from: it was there before the call, up to its status, or the
call has created it. -/
theorem called_find_run {store : Store} {call : Transaction × Ambient} {run_id : String}
    {row' : RunRow}
    (hfound : (called platform derive_fabric_intent store call).find_run run_id = some row') :
    (∃ row, store.find_run run_id = some row ∧ row'.requested = row.requested ∧
        (row'.status = row.status ∨ row'.status ∈ transition_run.allowed row.status)) ∨
      Requests platform store call row' := by
  have hsame (row : RunRow) (hrow : store.find_run run_id = some row) :
      ∃ old, store.find_run run_id = some old ∧ row.requested = old.requested ∧
        (row.status = old.status ∨ row.status ∈ transition_run.allowed old.status) :=
    ⟨row, hrow, rfl, .inl rfl⟩
  have hmoved (target : String) (source : RunRow) (new_status : RunStatus) (updated_at : String)
      (hsource : store.find_run target = some source)
      (hallowed : new_status ∈ transition_run.allowed source.status)
      (hrow : table.lookup RunRow.run_id run_id
        (set_run_status target new_status updated_at store.runs) = some row') :
      ∃ old, store.find_run run_id = some old ∧ row'.requested = old.requested ∧
        (row'.status = old.status ∨ row'.status ∈ transition_run.allowed old.status) := by
    rw [lookup_set_run_status] at hrow
    split at hrow
    · rename_i hid
      have hlookup : table.lookup RunRow.run_id target store.runs = some source := hsource
      rw [hlookup] at hrow
      obtain rfl := Option.some.inj hrow
      exact ⟨source, hid ▸ hsource, rfl, .inr hallowed⟩
    · exact hsame row' hrow
  obtain hstep | hunchanged := called_cases platform derive_fabric_intent store call
  · generalize called platform derive_fabric_intent store call = next at hstep hfound
    obtain ⟨transaction, ambient⟩ := call
    have heffect := perform_effect hstep
    have hlookup : table.lookup RunRow.run_id run_id next.core.runs = some row' := hfound
    cases transaction with
    | create_run plan_id mode idempotency_key requested_by execution_enabled maintenance_start
        maintenance_end lock_ttl_seconds =>
      obtain ⟨⟨created, flag⟩, hvalue⟩ := map_snd_eq_ok_iff.mp hstep
      obtain rfl | ⟨hnew, fabric_locks, hcore⟩ := create_run_core hvalue
      · exact .inl (hsame row' hfound)
      · rw [hcore] at hlookup
        obtain hold | ⟨-, rfl⟩ := (table.lookup_append_fresh hnew.fresh).mp hlookup
        · exact .inl (hsame row' hold)
        · obtain rfl | hwindow := create_run_window hvalue
          · exact .inl (hsame _ hfound)
          obtain rfl | ⟨-, -, hgrants⟩ := create_run_grants hvalue
          · exact .inl (hsame _ hfound)
          · exact .inr ⟨hnew.fresh, hgrants, hwindow⟩
    | transition_run target new_status actor detail =>
      obtain ⟨row, hvalue⟩ := map_snd_eq_ok_iff.mp hstep
      obtain ⟨source, updated_at, fabric_locks, hsource, hallowed, hcore⟩ :=
        transition_run_core hvalue
      rw [hcore] at hlookup
      exact .inl (hmoved target source new_status updated_at hsource hallowed hlookup)
    | complete_apply target artifact_hash owned_state actor detail =>
      obtain ⟨row, hvalue⟩ := map_snd_eq_ok_iff.mp hstep
      obtain ⟨source, updated_at, manifest, hsource, hrunning, hcore⟩ := complete_apply_core hvalue
      rw [hcore] at hlookup
      have hallowed : RunStatus.apply_succeeded ∈ transition_run.allowed source.status := by
        rw [hrunning]
        decide
      exact .inl (hmoved target source .apply_succeeded updated_at hsource hallowed hlookup)
    | _ =>
      generalize next.core = tables at heffect hlookup
      cases heffect <;> exact .inl (hsame row' hlookup)
  · rw [hunchanged] at hfound
    exact .inl (hsame row' hfound)

/-- A stored run stays stored, with what its request fixed; its status moves along the table. -/
theorem find_run_of_called {store : Store} {run_id : String} {row : RunRow}
    (hfound : store.find_run run_id = some row) (call : Transaction × Ambient) :
    ∃ row', (called platform derive_fabric_intent store call).find_run run_id = some row' ∧
      row'.requested = row.requested ∧
      (row'.status = row.status ∨ row'.status ∈ transition_run.allowed row.status) := by
  have hkeeps := called_keeps (rfl : called platform derive_fabric_intent store call = _)
  obtain ⟨row', hrow', -⟩ :=
    table.lookup_of_grows RunRow.binding Prod.fst (fun _ => rfl) hkeeps.runs hfound
  refine ⟨row', hrow', ?_⟩
  obtain ⟨old, hold, hsame⟩ | hrequests := called_find_run hrow'
  · obtain rfl := Option.some.inj (hfound.symm.trans hold)
    exact hsame
  · have hid : row'.run_id = run_id := table.lookup_key hrow'
    have hfresh := hrequests.fresh
    rw [hid, hfound] at hfresh
    cases hfresh

/-- A run in a terminal status keeps it, and what its request fixed, over any calls. -/
theorem find_run_of_calls (platform : Platform) (derive_fabric_intent : Derive) {store : Store}
    {run_id : String} {row : RunRow}
    (hfound : store.find_run run_id = some row) (hterminal : transition_run.allowed row.status = [])
    (calls : List (Transaction × Ambient)) :
    ∃ row', (calls.foldl (called platform derive_fabric_intent) store).find_run run_id = some row' ∧
      row'.requested = row.requested ∧ row'.status = row.status := by
  induction calls generalizing store row with
  | nil => exact ⟨row, hfound, rfl, rfl⟩
  | cons call rest ih =>
    obtain ⟨next, hnext, hrequested, hstatus⟩ := find_run_of_called hfound call
    rw [hterminal] at hstatus
    obtain hstatus := hstatus.resolve_right List.not_mem_nil
    obtain ⟨row', hrow', hrequested', hstatus'⟩ := ih hnext (hstatus ▸ hterminal)
    exact ⟨row', hrow', hrequested'.trans hrequested, hstatus'.trans hstatus⟩

/-- Every stored run was created by one of the calls. -/
theorem find_run_requested {calls : List (Transaction × Ambient)} {run_id : String} {row : RunRow}
    (hfound : (after_calls platform derive_fabric_intent calls).find_run run_id = some row) :
    ∃ before call since created, calls = before ++ call :: since ∧
      Requests platform (after_calls platform derive_fabric_intent before) call created ∧
      created.requested = row.requested := by
  induction calls using List.reverseRecOn generalizing row with
  | nil => cases hfound
  | append_singleton calls call ih =>
    rw [after_calls_concat] at hfound
    obtain ⟨old, hold, hrequested, -⟩ | hrequests := called_find_run hfound
    · obtain ⟨before, creating, since, created, rfl, hcreated, hsame⟩ := ih hold
      exact ⟨before, creating, since ++ [call], created, by simp, hcreated,
        hsame.trans hrequested.symm⟩
    · exact ⟨calls, call, [], row, rfl, hrequests, rfl⟩

/-! ## Decisions since a run was created -/

/-- The last decision on a plan among those that were added to the approvals. -/
def decided_since (before after : Store) (plan_id : String) : Option ApprovalRow :=
  ((after.approvals.drop before.approvals.length).filter fun row => row.plan_id = plan_id).getLast?

/-- The last decision is one of those added, or else the one before. -/
theorem last_decision_since {before after : Store} (hgrows : before.approvals <+: after.approvals)
    (plan_id : String) :
    after.last_decision plan_id =
      (decided_since before after plan_id).or (before.last_decision plan_id) := by
  obtain ⟨added, hadded⟩ := hgrows
  unfold decided_since Store.last_decision
  rw [← hadded, List.drop_left, List.filter_append, List.getLast?_append]

theorem approvals_of_calls (platform : Platform) (derive_fabric_intent : Derive) (store : Store)
    (calls : List (Transaction × Ambient)) :
    store.approvals <+: (calls.foldl (called platform derive_fabric_intent) store).approvals := by
  induction calls generalizing store with
  | nil => exact List.prefix_rfl
  | cons call rest ih =>
    have hkeeps := called_keeps (rfl : called platform derive_fabric_intent store call = _)
    exact hkeeps.approvals.trans (ih _)

/-! ## Dry runs -/

variable (platform derive_fabric_intent) in
/-- A call moves a dry run with given hashes to `dry_run_succeeded`. -/
def DryRunSucceeds (plan_hash artifact_hash : String) (store : Store)
    (call : Transaction × Ambient) : Prop :=
  ∃ run_id actor detail row next, call.1 = .transition_run run_id .dry_run_succeeded actor detail ∧
    store.find_run run_id = some row ∧ row.mode = .dry_run ∧ row.plan_hash = plan_hash ∧
    row.artifact_hash = artifact_hash ∧ Step platform derive_fabric_intent store call next

/-- A dry run that has succeeded stays stored with this status. -/
theorem dry_run_of_happens {plan_hash artifact_hash : String} {calls : List (Transaction × Ambient)}
    (hhappens : Happens platform derive_fabric_intent
      (DryRunSucceeds platform derive_fabric_intent plan_hash artifact_hash) [] calls) :
    ∃ run_id row, (after_calls platform derive_fabric_intent calls).find_run run_id = some row ∧
      row.mode = .dry_run ∧ row.plan_hash = plan_hash ∧ row.artifact_hash = artifact_hash ∧
      row.status = .dry_run_succeeded := by
  obtain ⟨earlier, call, later, rfl, run_id, actor, detail, row, next, hcall, hrow, hmode, hplan_hash,
    hartifact_hash, hstep⟩ := hhappens
  rw [List.nil_append] at hrow hstep
  have hnext : called platform derive_fabric_intent
      (after_calls platform derive_fabric_intent earlier) call = next := by
    rw [called, hstep]
  have hmoved : ∃ moved, next.find_run run_id = some moved ∧ moved.requested = row.requested ∧
      moved.status = .dry_run_succeeded := by
    rw [Step, hcall] at hstep
    obtain ⟨value, hvalue⟩ := map_snd_eq_ok_iff.mp hstep
    obtain ⟨source, updated_at, fabric_locks, hsource, -, hcore⟩ := transition_run_core hvalue
    obtain rfl := Option.some.inj (hrow.symm.trans hsource)
    refine ⟨{ row with status := .dry_run_succeeded, updated_at }, ?_, rfl, rfl⟩
    have hruns : next.runs = set_run_status run_id .dry_run_succeeded updated_at
        (after_calls platform derive_fabric_intent earlier).runs := congrArg CoreTables.runs hcore
    have hlookup : table.lookup RunRow.run_id run_id
        (after_calls platform derive_fabric_intent earlier).runs = some row := hrow
    rw [Store.find_run, hruns, lookup_set_run_status, if_pos rfl, hlookup]
    rfl
  obtain ⟨moved, hfound, hrequested, hstatus⟩ := hmoved
  have hterminal : transition_run.allowed moved.status = [] := by
    rw [hstatus]
    rfl
  obtain ⟨last, hlast, hkept, hstays⟩ := find_run_of_calls platform derive_fabric_intent hfound
    hterminal later
  have hcolumns := hkept.trans hrequested
  simp only [RunRow.requested, RunRow.binding, Prod.mk.injEq] at hcolumns
  obtain ⟨⟨-, -, hsame_plan, hsame_artifact, -⟩, hsame_mode, -⟩ := hcolumns
  refine ⟨run_id, last, ?_, hsame_mode.trans hmode, hsame_plan.trans hplan_hash,
    hsame_artifact.trans hartifact_hash, hstays.trans hstatus⟩
  rw [after_calls_append_cons, hnext]
  exact hlast

end Calls

end orchestrator.store
