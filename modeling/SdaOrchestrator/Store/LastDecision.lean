import SdaOrchestrator.Store.Decisions
import SdaOrchestrator.Worker.Runtime

open python

namespace orchestrator.store

/-! ## The clock -/

/-- The clock of a sequence of calls never goes back. -/
structure NonDecreasing (calls : List (Transaction × Ambient)) : Prop where
  inside : ∀ call ∈ calls, ∀ later < clock_readings, ∀ earlier ≤ later,
    call.2.utc_now earlier ≤ call.2.utc_now later
  across : calls.Pairwise fun first second =>
    ∀ reading < clock_readings, ∀ other < clock_readings,
      first.2.utc_now reading ≤ second.2.utc_now other

theorem Datetime.eq_of_fields {first second : Datetime} (hfields : first.fields = second.fields) :
    first = second := by
  cases first
  cases second
  simp only [Datetime.fields, List.cons.injEq, and_true] at hfields
  obtain ⟨hyear, hmonth, hday, hhour, hminute, hsecond, hmicrosecond⟩ := hfields
  rw [Fin.ext hyear, Fin.ext hmonth, Fin.ext hday, Fin.ext hhour, Fin.ext hminute, Fin.ext hsecond,
    Fin.ext hmicrosecond]

/-- Only equal instants are neither earlier nor later. -/
theorem isoformat_le {first second : Datetime} (hle : first ≤ second) :
    isoformat first ≤ isoformat second := by
  have hfields : first.fields ≤ second.fields := hle
  obtain hlt | heq := hfields.lt_or_eq
  · exact (isoformat_lt hlt).le
  · rw [Datetime.eq_of_fields heq]

/-! ## The decision that is read -/

/-- A scan for the timestamp of a row finds a row with it. -/
theorem exists_first {rows : List ApprovalRow} {row : ApprovalRow} (hrow : row ∈ rows) {created_at : String}
    (htime : row.created_at = created_at) :
    ∃ found ∈ rows, found.created_at = created_at ∧
      (rows.find? fun other => other.created_at = created_at) = some found := by
  have hsome : (rows.find? fun other => other.created_at = created_at).isSome :=
    List.find?_isSome.mpr ⟨row, hrow, decide_eq_true htime⟩
  obtain ⟨found, hfound⟩ := Option.isSome_iff_exists.mp hsome
  have hfound_time := List.find?_some hfound
  exact ⟨found, List.mem_of_find?_eq_some hfound, of_decide_eq_true hfound_time, hfound⟩

/-- Among rows whose timestamps do not go back, the scan of `latest_approval` stays at the
first row that bears the last timestamp. -/
theorem latest_eq_first {rows : List ApprovalRow} {last : ApprovalRow}
    (hsorted : (rows ++ [last]).Pairwise fun first second => first.created_at ≤ second.created_at) :
    (rows ++ [last]).foldl
        (fun best row =>
          match best with
          | some found => if found.created_at < row.created_at then some row else some found
          | none => some row)
        none =
      (rows ++ [last]).find? fun row => row.created_at = last.created_at := by
  induction rows using List.reverseRecOn generalizing last with
  | nil => simp
  | append_singleton rows prior ih =>
    obtain ⟨hbefore, -, hacross⟩ := List.pairwise_append.mp hsorted
    have hlast : ∀ row ∈ rows ++ [prior], row.created_at ≤ last.created_at := fun row hrow =>
      hacross row hrow last (by simp)
    have hprior : ∀ row ∈ rows ++ [prior], row.created_at ≤ prior.created_at := by
      intro row hrow
      obtain hrow | hrow := List.mem_append.mp hrow
      · exact (List.pairwise_append.mp hbefore).2.2 row hrow prior (by simp)
      · rw [List.mem_singleton.mp hrow]
    have hmem : prior ∈ rows ++ [prior] := List.mem_append_right rows (by simp)
    rw [List.foldl_append, ih hbefore, @List.find?_append _ _ (rows ++ [prior])]
    by_cases hsame : prior.created_at = last.created_at
    · -- a tie: the row found so far stays
      obtain ⟨found, -, htime, hfound⟩ := exists_first hmem rfl
      rw [hsame] at hfound htime
      have hnotless : ¬found.created_at < last.created_at := htime ▸ lt_irrefl _
      rw [hsame, hfound, Option.some_or]
      exact if_neg hnotless
    · have hless : prior.created_at < last.created_at :=
        lt_of_le_of_ne (hlast prior (by simp)) hsame
      have hnone : ((rows ++ [prior]).find? fun row => row.created_at = last.created_at) = none := by
        rw [List.find?_eq_none]
        intro row hrow heq
        exact absurd ((hprior row hrow).trans_lt hless) (by simp [of_decide_eq_true heq])
      obtain ⟨found, -, htime, hfound⟩ := exists_first hmem rfl
      rw [← htime] at hless
      rw [hfound, hnone, Option.none_or, List.find?_singleton, if_pos (decide_eq_true rfl)]
      exact if_pos hless

/-- The decisions on a plan, in the order in which they were recorded. -/
def Store.decisions (store : Store) (plan_id : String) : List ApprovalRow :=
  store.approvals.filter fun row => row.plan_id = plan_id

/-- No other decision on the plan bears the timestamp of the last one. -/
def Store.Untied (store : Store) (plan_id : String) : Prop :=
  ∀ last, store.last_decision plan_id = some last →
    ∀ row ∈ store.decisions plan_id, row.created_at = last.created_at → row = last

/-- Where the timestamps do not go back, the row that is read is the one recorded last
unless the last timestamp is borne twice. -/
theorem latest_approval_eq_last_iff {store : Store}
    (hsorted : store.approvals.Pairwise fun first second => first.created_at ≤ second.created_at)
    (hdistinct : (store.approvals.map ApprovalRow.approval_id).Nodup) (plan_id : String) :
    store.latest_approval plan_id = store.last_decision plan_id ↔ store.Untied plan_id := by
  have hrows : (store.decisions plan_id).Pairwise fun first second =>
      first.created_at ≤ second.created_at := hsorted.filter _
  have hnodup : ((store.decisions plan_id).map ApprovalRow.approval_id).Nodup :=
    hdistinct.sublist (List.Sublist.map _ List.filter_sublist)
  have hlast : store.last_decision plan_id = (store.decisions plan_id).getLast? := rfl
  cases hdecisions : store.decisions plan_id using List.reverseRecOn with
  | nil =>
    have hlatest : store.latest_approval plan_id = (store.decisions plan_id).foldl _ none := rfl
    simp [Store.Untied, hlast, hlatest, hdecisions]
  | append_singleton rows last =>
    rw [hdecisions] at hlast hrows hnodup
    rw [List.getLast?_concat] at hlast
    have hlatest : store.latest_approval plan_id =
        (rows ++ [last]).find? fun row => row.created_at = last.created_at := by
      rw [← latest_eq_first hrows, ← hdecisions]
      rfl
    rw [Store.Untied, hlatest, hlast, hdecisions]
    simp only [Option.some.injEq, forall_eq']
    constructor
    · intro hfirst row hrow htime
      -- the first row with that timestamp is the last row, so no row before it has it
      obtain hrow | hrow := List.mem_append.mp hrow
      · rw [List.find?_append] at hfirst
        obtain ⟨found, hmem, -, hfound⟩ := exists_first hrow htime
        rw [hfound, Option.some_or, Option.some.injEq] at hfirst
        rw [hfirst] at hmem
        rw [List.map_append] at hnodup
        exact absurd rfl ((List.nodup_append.mp hnodup).2.2 _ (List.mem_map_of_mem hmem)
          last.approval_id (by simp))
      · exact List.mem_singleton.mp hrow
    · intro huntied
      have hmem : last ∈ rows ++ [last] := List.mem_append_right rows (List.mem_singleton.mpr rfl)
      obtain ⟨found, hmem, htime, hfound⟩ := exists_first hmem rfl
      rw [hfound, huntied found hmem htime]

/-! ## What a call records -/

/-- The decision on a plan that a call records, when it is a `record_approval` that
returns. -/
def decided (platform : Platform) (plan_id : String) (store : Store) :
    Transaction × Ambient → Option ApprovalRow
  | (.record_approval plan decision approver change_reference expires_at, ambient) =>
    match record_approval platform plan decision approver change_reference expires_at ambient store with
    | .ok (row, _) => if plan = plan_id then some row else none
    | .error _ => none
  | _ => none

/-- The decision of the last `record_approval` on a plan that returned. -/
def last_decided (platform : Platform) (derive_fabric_intent : Derive) (plan_id : String)
    (calls : List (Transaction × Ambient)) : Option ApprovalRow :=
  (calls.foldl
    (fun (state : Store × Option ApprovalRow) call =>
      (called platform derive_fabric_intent state.1 call,
        (decided platform plan_id state.1 call).or state.2))
    ({}, none)).2

/-- A call records one decision, under a fresh id and its own clock reading, or none. -/
structure Records (platform : Platform) (store next : Store) (call : Transaction × Ambient)
    (row : ApprovalRow) : Prop where
  appended : next.approvals = store.approvals ++ [row]
  fresh : row.approval_id ∉ store.approvals.map ApprovalRow.approval_id
  created_at : row.created_at = isoformat (call.2.utc_now 1)
  decided : ∀ plan_id, decided platform plan_id store call =
    if row.plan_id = plan_id then some row else none

theorem record_approval_fresh {platform : Platform} {plan_id decision approver : String}
    {change_reference expires_at : String} {ambient : Ambient} {store next : Store}
    {row : ApprovalRow}
    (hresult : record_approval platform plan_id decision approver change_reference expires_at ambient
      store = .ok (row, next)) :
    row.approval_id ∉ store.approvals.map ApprovalRow.approval_id := by
  simp only [record_approval, bind_eq_ok_iff, raise_if_eq_ok, require_eq_ok, pure_eq_ok_iff,
    Prod.mk.injEq] at hresult
  obtain ⟨_, -, _, -, _, -, _, -, _, -, _, -, _, -, _, hfresh, rfl, -⟩ := hresult
  intro hmem
  obtain ⟨other, hother, hid⟩ := List.mem_map.mp hmem
  rw [List.any_eq_false] at hfresh
  exact hfresh other hother (decide_eq_true hid)

section Calls

variable {platform : Platform} {derive_fabric_intent : Derive}

theorem called_records (store : Store) (call : Transaction × Ambient) :
    (called platform derive_fabric_intent store call).approvals = store.approvals ∧
        (∀ plan_id, decided platform plan_id store call = none) ∨
      ∃ row, Records platform store (called platform derive_fabric_intent store call) call row := by
  obtain ⟨transaction, ambient⟩ := call
  by_cases hkind : ∃ plan decision approver change_reference expires_at,
      transaction = .record_approval plan decision approver change_reference expires_at
  · obtain ⟨plan, decision, approver, change_reference, expires_at, rfl⟩ := hkind
    cases hresult : record_approval platform plan decision approver change_reference expires_at ambient
      store with
    | error exception =>
      have hcalled : called platform derive_fabric_intent store
          (.record_approval plan decision approver change_reference expires_at, ambient) = store := by
        simp [called, perform, hresult, Except.map]
      exact .inl ⟨by rw [hcalled], fun _ => by simp [decided, hresult]⟩
    | ok result =>
      obtain ⟨row, next⟩ := result
      have hcalled : called platform derive_fabric_intent store
          (.record_approval plan decision approver change_reference expires_at, ambient) = next := by
        simp [called, perform, hresult, Except.map]
      obtain ⟨_, -, hnew, -, happrovals, -⟩ := record_approval_eq_ok hresult
      rw [hcalled]
      refine .inr ⟨row, happrovals, record_approval_fresh hresult, hnew.created_at, fun plan_id => ?_⟩
      simp [decided, hresult, hnew.plan_id]
  · have hnone (plan_id : String) : decided platform plan_id store (transaction, ambient) = none := by
      unfold decided
      split
      · exact absurd ⟨_, _, _, _, _, (Prod.mk.inj ‹_›).1⟩ hkind
      · rfl
    refine .inl ⟨?_, hnone⟩
    obtain hstep | hsame := called_cases platform derive_fabric_intent store (transaction, ambient)
    · have heffect := perform_authorization_effect hstep
      generalize (called platform derive_fabric_intent store (transaction, ambient)).approvals = approvals
        at heffect ⊢
      generalize (called platform derive_fabric_intent store (transaction, ambient)).plans = plans
        at heffect
      generalize (called platform derive_fabric_intent store (transaction, ambient)).runs = runs
        at heffect
      cases heffect with
      | decide => exact absurd ⟨_, _, _, _, _, rfl⟩ hkind
      | _ => rfl
    · rw [hsame]

/-- The decision recorded last is that of the last `record_approval` that returned. -/
theorem last_decision_after_calls (plan_id : String) (calls : List (Transaction × Ambient)) :
    (after_calls platform derive_fabric_intent calls).last_decision plan_id =
      last_decided platform derive_fabric_intent plan_id calls := by
  suffices hfold : calls.foldl
      (fun (state : Store × Option ApprovalRow) call =>
        (called platform derive_fabric_intent state.1 call,
          (decided platform plan_id state.1 call).or state.2)) ({}, none) =
      (after_calls platform derive_fabric_intent calls,
        (after_calls platform derive_fabric_intent calls).last_decision plan_id) from
    (congrArg Prod.snd hfold).symm
  induction calls using List.reverseRecOn with
  | nil => rfl
  | append_singleton calls call ih =>
    rw [List.foldl_append, ih, after_calls_concat, List.foldl_cons, List.foldl_nil, Prod.mk.injEq]
    generalize after_calls platform derive_fabric_intent calls = store
    refine ⟨rfl, ?_⟩
    obtain ⟨hsame, hnone⟩ | ⟨row, hrecords⟩ := @called_records platform derive_fabric_intent store call
    · rw [hnone, Option.none_or, Store.last_decision, Store.last_decision, hsame]
    · rw [hrecords.decided, Store.last_decision, Store.last_decision, hrecords.appended, List.filter_append]
      by_cases hplan : row.plan_id = plan_id <;> simp [hplan]

/-- The timestamps of the decisions are clock readings of the calls, in their order. -/
theorem created_at_sublist (calls : List (Transaction × Ambient)) :
    ((after_calls platform derive_fabric_intent calls).approvals.map ApprovalRow.created_at).Sublist
      (calls.map fun call => isoformat (call.2.utc_now 1)) := by
  induction calls using List.reverseRecOn with
  | nil => exact List.Sublist.slnil
  | append_singleton calls call ih =>
    rw [after_calls_concat, List.map_append]
    obtain ⟨hsame, -⟩ | ⟨row, hrecords⟩ := @called_records platform derive_fabric_intent
      (after_calls platform derive_fabric_intent calls) call
    · rw [hsame]
      exact ih.trans (List.sublist_append_left _ _)
    · rw [hrecords.appended, List.map_append, List.map_singleton, hrecords.created_at]
      exact ih.append (List.Sublist.refl _)

theorem approval_ids_nodup (calls : List (Transaction × Ambient)) :
    ((after_calls platform derive_fabric_intent calls).approvals.map ApprovalRow.approval_id).Nodup := by
  induction calls using List.reverseRecOn with
  | nil => exact List.nodup_nil
  | append_singleton calls call ih =>
    rw [after_calls_concat]
    obtain ⟨hsame, -⟩ | ⟨row, hrecords⟩ := @called_records platform derive_fabric_intent
      (after_calls platform derive_fabric_intent calls) call
    · rw [hsame]
      exact ih
    · rw [hrecords.appended, List.map_append, List.map_singleton, List.nodup_append]
      refine ⟨ih, List.nodup_singleton _, fun id hid other hother => ?_⟩
      rw [List.mem_singleton.mp hother]
      exact fun heq => hrecords.fresh (heq ▸ hid)

theorem NonDecreasing.sorted {calls : List (Transaction × Ambient)} (hclock : NonDecreasing calls) :
    (after_calls platform derive_fabric_intent calls).approvals.Pairwise
      fun first second => first.created_at ≤ second.created_at := by
  have hreadings : (calls.map fun call => isoformat (call.2.utc_now 1)).Pairwise (· ≤ ·) :=
    List.pairwise_map.mpr (hclock.across.imp fun hacross =>
      isoformat_le (hacross 1 (by decide) 1 (by decide)))
  exact List.pairwise_map.mp (hreadings.sublist (created_at_sublist calls))

end Calls

/-! ## The decision that is acted on -/

/-- The approval has not expired at a clock reading. -/
def ApprovalRow.unexpired (platform : Platform) (row : ApprovalRow) (now : Datetime) : Prop :=
  ∃ expiry, platform.parse_timestamp row.expires_at = .ok expiry ∧ now < expiry

/-- `create_run` and `active_approval` act on a decision: both read this row, and grant
exactly what it grants. -/
structure ActsOn (platform : Platform) (store : Store) (plan_id : String) (decision : Option ApprovalRow) :
    Prop where
  read : store.latest_approval plan_id = decision
  create_run : ∀ mode idempotency_key requested_by execution_enabled maintenance_start maintenance_end
    lock_ttl_seconds ambient row next,
    create_run platform plan_id mode idempotency_key requested_by execution_enabled maintenance_start
      maintenance_end lock_ttl_seconds ambient store = .ok ((row, true), next) →
    ∃ approval, decision = some approval ∧ approval.decision = .approved ∧
      approval.unexpired platform (ambient.utc_now 1)
  required_approval : ∀ now approval, _active_approval platform plan_id now store = .ok approval ↔
    decision = some approval ∧ approval.decision = .approved ∧ approval.unexpired platform now
  active_approval : ∀ now approval, active_approval platform plan_id now store = .ok (some approval) ↔
    decision = some approval ∧ approval.decision = .approved ∧ approval.unexpired platform now


theorem required_approval_iff {platform : Platform} {store : Store} {plan_id : String} {now : Datetime}
    {approval : ApprovalRow} :
    _active_approval platform plan_id now store = .ok approval ↔
      store.latest_approval plan_id = some approval ∧ approval.decision = .approved ∧
        approval.unexpired platform now := by
  refine ⟨active_approval_eq_ok, fun ⟨hlatest, happroved, expiry, hexpiry, hlate⟩ => ?_⟩
  unfold _active_approval
  rw [hlatest]
  simp only [bind_eq_ok_iff, raise_if_eq_ok, pure_eq_ok_iff, decide_eq_false_iff_not, not_not]
  exact ⟨(), happroved, expiry, hexpiry, (), not_le_iff_lt.mpr hlate, trivial⟩

theorem active_approval_iff {platform : Platform} {store : Store} {plan_id : String} {now : Datetime}
    {approval : ApprovalRow} :
    active_approval platform plan_id now store = .ok (some approval) ↔
      store.latest_approval plan_id = some approval ∧ approval.decision = .approved ∧
        approval.unexpired platform now := by
  unfold active_approval ApprovalRow.unexpired
  cases store.latest_approval plan_id with
  | none => simp
  | some row =>
    rw [Option.some.injEq]
    by_cases happroved : row.decision = .approved
    · simp only [happroved, ne_eq, not_true_eq_false, if_false, bind_eq_ok_iff]
      constructor
      · rintro ⟨expiry, hexpiry, hgranted⟩
        split at hgranted
        · cases hgranted
        · obtain rfl : row = approval := Option.some.inj (pure_eq_ok_iff.mp hgranted)
          exact ⟨rfl, happroved, expiry, hexpiry, not_le_iff_lt.mp ‹_›⟩
      · rintro ⟨rfl, -, expiry, hexpiry, hlate⟩
        exact ⟨expiry, hexpiry, if_neg (not_le_iff_lt.mpr hlate)⟩
    · simp only [happroved, ne_eq, not_false_eq_true, if_true]
      constructor
      · intro hnone
        cases hnone
      · rintro ⟨rfl, happroved', -⟩
        exact absurd happroved' happroved

/-- Whatever a store holds, the latest approval is the one acted on. -/
theorem acts_on_latest (platform : Platform) (store : Store) (plan_id : String) :
    ActsOn platform store plan_id (store.latest_approval plan_id) where
  read := rfl
  create_run := by
    intro mode idempotency_key requested_by execution_enabled maintenance_start maintenance_end
      lock_ttl_seconds ambient row next hresult
    simp only [create_run, bind_eq_ok_iff, raise_if_eq_ok, require_eq_ok] at hresult
    obtain ⟨parsed, -, _, -, _, -, window, -, plan, -, hresult⟩ := hresult
    split at hresult
    · simp only [bind_eq_ok_iff, raise_if_eq_ok, pure_eq_ok_iff, Prod.mk.injEq, Bool.false_eq_true,
        and_false, false_and, exists_false] at hresult
    · obtain ⟨approval, happroval, -⟩ := bind_eq_ok_iff.mp hresult
      exact ⟨approval, required_approval_iff.mp happroval⟩
  required_approval _ _ := required_approval_iff
  active_approval _ _ := active_approval_iff

/-- For every sequence of calls on a clock that never goes back: the decision of the last
`record_approval` on a plan is the one acted on exactly when no other decision on the plan
bears its timestamp. -/
theorem last_decision_wins (platform : Platform) (derive_fabric_intent : Derive)
    {calls : List (Transaction × Ambient)} (hclock : NonDecreasing calls) (plan_id : String) :
    ActsOn platform (after_calls platform derive_fabric_intent calls) plan_id
        (last_decided platform derive_fabric_intent plan_id calls) ↔
      (after_calls platform derive_fabric_intent calls).Untied plan_id := by
  rw [← latest_approval_eq_last_iff hclock.sorted (approval_ids_nodup calls), last_decision_after_calls]
  refine ⟨ActsOn.read, fun hread => ?_⟩
  rw [← hread]
  exact acts_on_latest _ _ _

theorem last_decision_wins_lab :
    ActsOn cpython (after_calls cpython lab_derive lab_calls) "plan_lab"
        (last_decided cpython lab_derive "plan_lab" lab_calls) ↔
      (after_calls cpython lab_derive lab_calls).Untied "plan_lab" :=
  last_decision_wins cpython lab_derive ⟨by decide, by decide⟩ "plan_lab"

/-! ## A rejection in the microsecond of the approval -/

/-- The clock of a call that stands still at a minute, and the identifiers of its own. -/
def lab_instant (call : Nat) : Ambient where
  utc_now _ := ⟨2025, 1, 15, 12, 4, 0, 0⟩
  uuid4_hex draw := toString (100 * call + draw)

/-- The lab plan is approved and at once rejected. -/
def lab_overridden : List (Transaction × Ambient) := [
  (lab_reserve_design, lab_minute 1), (lab_save_intent, lab_minute 2), (lab_save_plan, lab_minute 3),
  (lab_record_approval, lab_instant 4),
  (.record_approval "plan_lab" "rejected" "approver" "CHG-2" "2025-02-01T00:00:00+00:00", lab_instant 5)]

theorem lab_overridden_clock : NonDecreasing lab_overridden := ⟨by decide, by decide⟩

theorem lab_overridden_acts :
    (last_decided cpython lab_derive "plan_lab" lab_overridden).map ApprovalRow.decision = some .rejected ∧
      ((after_calls cpython lab_derive lab_overridden).latest_approval "plan_lab").map ApprovalRow.decision =
        some .approved ∧
      (create_run cpython "plan_lab" "apply" "apply-lab-0001" "operator" true
        (some "2025-01-15T00:00:00+00:00") (some "2025-01-16T00:00:00+00:00") 1800 (lab_minute 6)
        (after_calls cpython lab_derive lab_overridden)).isOk := by
  decide +kernel

theorem last_decision_overridden :
    ¬∀ calls, NonDecreasing calls → ∀ plan_id,
      ActsOn cpython (after_calls cpython lab_derive calls) plan_id
        (last_decided cpython lab_derive plan_id calls) := by
  intro hclaim
  obtain ⟨hrejected, happroved, -⟩ := lab_overridden_acts
  rw [(hclaim lab_overridden lab_overridden_clock "plan_lab").read, hrejected] at happroved
  cases happroved

end orchestrator.store
