import SdaOrchestrator.Lib.Binary64
import SdaOrchestrator.Lib.Loops
import SdaOrchestrator.Store.Cpython
import SdaOrchestrator.Store.Moves
import SdaOrchestrator.Worker.Operations

open python orchestrator.store orchestrator.worker

namespace orchestrator.runtime_recovery

def RuntimeRecoveryInspectionError (message : String) : Raised := ⟨"RuntimeRecoveryInspectionError", message⟩

def ACTIVE_LOCK_STATUSES : List String := ["apply_queued", "apply_running", "rollback_running"]

def MAX_REPORTED_LOCKS : Nat := 100

/-! ## The report -/

/-- What a row holds as a time. -/
inductive Timestamp where
  | aware (instant : Datetime)
  | naive
  | other

def _utc : Timestamp → Py Datetime
  | .aware instant => .ok instant
  | .naive => .error (RuntimeRecoveryInspectionError "Recovery timestamp must be timezone-aware")
  | .other => .error (RuntimeRecoveryInspectionError "Recovery timestamp is invalid")

/-- A fabric lock next to its run. -/
structure LockRow where
  fabric_id : String
  run_id : String
  acquired_at : Timestamp
  expires_at : Timestamp
  status : String
  updated_at : Timestamp

/-- How many runs of a mode have a status. -/
structure StatusRow where
  mode : String
  status : String
  count : Value

/-- An issue, which is always blocking. -/
structure RecoveryIssue where
  code : String
  run_id_hash : Option String

/-- A lock in a report. -/
structure ReportedLock where
  fabric_id_hash : String
  run_id_hash : String
  status : String
  expired : Bool
  lease_age_seconds : Int
  run_update_age_seconds : Int

structure RecoveryReport where
  inspected_at : Datetime
  active_lock_count : Nat
  run_status_counts : List (String × Int)
  locks : List ReportedLock
  issues : List RecoveryIssue

def RecoveryReport.expired_lock_count (report : RecoveryReport) : Nat := report.locks.countP (·.expired)

def RecoveryReport.safe (report : RecoveryReport) : Bool := report.issues.isEmpty

def RecoveryIssue.document (issue : RecoveryIssue) : Value :=
  .dict ([("code", .str issue.code), ("severity", .str "blocking")] ++
    (issue.run_id_hash.map fun run_id_hash => ("run_id_hash", Value.str run_id_hash)).toList)

def ReportedLock.document (lock : ReportedLock) : Value :=
  .dict [
    ("fabric_id_hash", .str lock.fabric_id_hash),
    ("run_id_hash", .str lock.run_id_hash),
    ("status", .str lock.status),
    ("expired", .bool lock.expired),
    ("lease_age_seconds", .int lock.lease_age_seconds),
    ("run_update_age_seconds", .int lock.run_update_age_seconds)]

def RecoveryReport.document (report : RecoveryReport) : Value :=
  .dict [
    ("schema_version", .str "1.0"),
    ("inspection_mode", .str "read_only"),
    ("inspected_at", .str (take (len (isoformat report.inspected_at) - 6) (isoformat report.inspected_at) ++ "Z")),
    ("active_lock_count", .int report.active_lock_count),
    ("expired_lock_count", .int report.expired_lock_count),
    ("reported_lock_count", .int report.locks.length),
    ("run_status_counts", .dict (report.run_status_counts.map fun entry => (entry.1, .int entry.2))),
    ("locks", .list (report.locks.map ReportedLock.document)),
    ("issues", .list (report.issues.map RecoveryIssue.document)),
    ("safe", .bool report.safe),
    ("unattended_takeover_allowed", .bool false),
    ("automatic_lock_release_allowed", .bool false),
    ("contains_raw_identifiers", .bool false),
    ("contains_secret_values", .bool false)]

/-- `max(0, int((now - start).total_seconds()))`, from a float of the microseconds. -/
def age_seconds (now start : Datetime) : Int :=
  let microseconds : Int := (now.seconds - start.seconds) * 1000000 + (now.microsecond.val - start.microsecond.val)
  let total_seconds := binary64.div microseconds 1000000
  max 0 (total_seconds.num.tdiv total_seconds.den)

section Report

variable (platform : Platform)

def _identity_hash (value : String) : String := platform.sha256 (chars value)

/-- An issue about the run of a lock, if there is cause for it. -/
def issue_if (cause : Bool) (code run_id : String) : List RecoveryIssue :=
  if cause then [⟨code, some (_identity_hash platform run_id)⟩] else []

/-- The issues of a lock with its lease. -/
def lock_issues (now : Datetime) (row : LockRow) (acquired_at expires_at : Datetime) : List RecoveryIssue :=
  issue_if platform (strip row.status ∉ ACTIVE_LOCK_STATUSES) "fabric_lock.invalid_run_status" row.run_id ++
  issue_if platform (expires_at ≤ now) "fabric_lock.expired_manual_recovery_required" row.run_id ++
  issue_if platform (expires_at ≤ acquired_at) "fabric_lock.invalid_lease_window" row.run_id

/-- The entry of a lock with its times. -/
def lock_entry (now : Datetime) (row : LockRow) (acquired_at expires_at updated_at : Datetime) : ReportedLock where
  fabric_id_hash := _identity_hash platform row.fabric_id
  run_id_hash := _identity_hash platform row.run_id
  status := strip row.status
  expired := expires_at ≤ now
  lease_age_seconds := age_seconds now acquired_at
  run_update_age_seconds := age_seconds now updated_at

/-- The issues and the entry of a lock. -/
def reported_lock (now : Datetime) (row : LockRow) : Py (List RecoveryIssue × ReportedLock) := do
  let acquired_at ← _utc row.acquired_at
  let expires_at ← _utc row.expires_at
  let updated_at ← _utc row.updated_at
  return (lock_issues platform now row acquired_at expires_at,
    lock_entry platform now row acquired_at expires_at updated_at)

/-- The counts with those of a row. -/
def counted (status_counts : List (String × Int)) (row : StatusRow) : Py (List (String × Int)) := do
  let mode := strip row.mode
  let status := strip row.status
  raise_if (mode ∉ ["dry_run", "apply"] || status = "")
    (RuntimeRecoveryInspectionError "Run status summary is invalid")
  match row.count with
  | .int count =>
    raise_if (count < 0) (RuntimeRecoveryInspectionError "Run status count is invalid")
    return assoc.set (mode ++ ":" ++ status) count status_counts
  | _ => .error (RuntimeRecoveryInspectionError "Run status count is invalid")

/-- The report of so many locks, with what is reported about the first of them. -/
def report_of (now : Datetime) (lock_count : Nat) (status_counts : List (String × Int))
    (reported : List (List RecoveryIssue × ReportedLock)) : RecoveryReport where
  inspected_at := now
  active_lock_count := lock_count
  run_status_counts := sortedBy Prod.fst status_counts
  locks := reported.map Prod.snd
  issues :=
    (if lock_count > MAX_REPORTED_LOCKS then [⟨"fabric_lock.report_limit_exceeded", none⟩] else []) ++
      reported.flatMap Prod.fst

def build_recovery_report (lock_rows : List LockRow) (status_rows : List StatusRow) (inspected_at : Timestamp) :
    Py RecoveryReport := do
  let now ← _utc inspected_at
  let reported ← (lock_rows.take MAX_REPORTED_LOCKS).mapM (reported_lock platform now)
  let status_counts ← status_rows.foldlM counted []
  return report_of now lock_rows.length status_counts reported

/-! ## The inspection -/

/-- A column of instants, from the text that was stored in it. -/
def timestamptz (text : String) : Timestamp :=
  match platform.fromisoformat text with
  | .ok (some instant) => .aware instant
  | _ => .other

def Timestamp.fields : Timestamp → List Nat
  | .aware instant => instant.fields
  | _ => []

/-- A lock next to its run. -/
def lock_row (lock : FabricLockRow) (run : RunRow) : LockRow where
  fabric_id := lock.fabric_id
  run_id := lock.run_id
  acquired_at := timestamptz platform lock.acquired_at
  expires_at := timestamptz platform lock.expires_at
  status := run.status.text
  updated_at := timestamptz platform run.updated_at

/-- The locks joined with their runs, in the order of their leases. -/
def lock_rows (store : Store) : List LockRow :=
  let joined := store.fabric_locks.filterMap fun lock => (store.find_run lock.run_id).map (lock_row platform lock)
  sortedBy (fun row => toLex (row.acquired_at.fields, row.fabric_id)) joined

/-- How many runs have a mode and a status. -/
def group_count (store : Store) (group : Mode × RunStatus) : Nat :=
  store.runs.countP fun run => (run.mode, run.status) = group

/-- The row of a mode and a status. -/
def status_row (count : Mode × RunStatus → Nat) (group : Mode × RunStatus) : StatusRow where
  mode := group.1.text
  status := group.2.text
  count := .int (count group)

/-- The modes and statuses of the runs, each pair once, with how many runs have them. -/
def status_rows (store : Store) : List StatusRow :=
  let groups := (store.runs.map fun run => (run.mode, run.status)).dedup
  (sortedBy (fun group => toLex (group.1.text, group.2.text)) groups).map (status_row (group_count store))

/-- The database that may be inspected. -/
def expected_database_url : String := "postgresql:///sda_orchestrator?host=/var/run/postgresql"

def inspect_postgresql (database_url : String) (inspected_at : Datetime) (store : Store) : Py RecoveryReport := do
  raise_if (database_url ≠ expected_database_url)
    (RuntimeRecoveryInspectionError "Unsupported recovery database URL")
  build_recovery_report platform (lock_rows platform store) (status_rows store) (.aware inspected_at)

end Report

/-! ## What a report accounts for -/

/-- The key of a mode and a status in the counts. -/
def group_key (group : Mode × RunStatus) : String := group.1.text ++ ":" ++ group.2.text

/-- A run that a fabric lock is for. -/
def holds_lock (run : RunRow) : Bool := decide (run.status.text ∈ ACTIVE_LOCK_STATUSES)

def Timestamp.readable : Timestamp → Bool
  | .aware _ => true
  | _ => false

/-- The times of the locks and of the runs are instants, as their columns ask. -/
structure Timed (platform : Platform) (store : Store) : Prop where
  acquired_at : ∀ lock ∈ store.fabric_locks, (timestamptz platform lock.acquired_at).readable = true
  expires_at : ∀ lock ∈ store.fabric_locks, (timestamptz platform lock.expires_at).readable = true
  updated_at : ∀ run ∈ store.runs, (timestamptz platform run.updated_at).readable = true

/-- The lease of a lock has not ended, and ends after it began. -/
def Leased (platform : Platform) (now : Datetime) (lock : FabricLockRow) : Prop :=
  ∃ acquired_at expires_at, timestamptz platform lock.acquired_at = .aware acquired_at ∧
    timestamptz platform lock.expires_at = .aware expires_at ∧ now < expires_at ∧ acquired_at < expires_at

/-- An entry shows the lock of a run. -/
structure Shows (platform : Platform) (entry : ReportedLock) (run : RunRow) : Prop where
  run_id_hash : entry.run_id_hash = _identity_hash platform run.run_id
  fabric_id_hash : entry.fabric_id_hash = _identity_hash platform run.fabric_id
  status : entry.status = run.status.text

/-- A report counts the locks and the runs of a store, shows every lock, and is safe just when all leases stand. -/
structure Accounts (platform : Platform) (now : Datetime) (store : Store) (report : RecoveryReport) : Prop where
  active : report.active_lock_count = store.runs.countP holds_lock
  shown : ∀ entry ∈ report.locks, ∃ run ∈ store.runs, holds_lock run = true ∧ Shows platform entry run
  complete : report.active_lock_count ≤ MAX_REPORTED_LOCKS →
    ∀ run ∈ store.runs, holds_lock run = true → ∃ entry ∈ report.locks, Shows platform entry run
  counts : ∀ key count, (key, count) ∈ report.run_status_counts ↔
    ∃ run ∈ store.runs, key = group_key (run.mode, run.status) ∧ count = group_count store (run.mode, run.status)
  safe : report.safe = true ↔ report.active_lock_count ≤ MAX_REPORTED_LOCKS ∧
    ∀ lock ∈ store.fabric_locks, Leased platform now lock

section Locks

variable {platform : Platform} {store : Store}

theorem holds_lock_iff (run : RunRow) : holds_lock run = true ↔ run.status.unfinished_apply := by
  rw [holds_lock, decide_eq_true_iff]
  cases run.status <;> simp [RunStatus.unfinished_apply, RunStatus.text, ACTIVE_LOCK_STATUSES]

theorem readable_iff {timestamp : Timestamp} : timestamp.readable = true ↔ ∃ instant, timestamp = .aware instant := by
  cases timestamp <;> simp [Timestamp.readable]

/-- The locks are those of the runs that hold one. -/
theorem locked_runs (hlocking : Locking store.runs store.fabric_locks) :
    (store.fabric_locks.map FabricLockRow.run_id).Perm ((store.runs.filter holds_lock).map RunRow.run_id) := by
  have hlocks : (store.fabric_locks.map FabricLockRow.run_id).Nodup := by
    refine List.Nodup.map_on (fun first hfirst second hsecond hsame => ?_) (List.Nodup.of_map _ hlocking.fabric_ids)
    obtain ⟨owner, howner, hid, hfabric, -⟩ := (hlocking.exact _ _).mp ⟨first, hfirst, rfl, rfl⟩
    obtain ⟨other, hother, hother_id, hother_fabric, -⟩ := (hlocking.exact _ _).mp ⟨second, hsecond, rfl, rfl⟩
    have heq : owner = other := hlocking.run_eq howner hother (by rw [hid, hother_id, hsame])
    refine List.inj_on_of_nodup_map hlocking.fabric_ids hfirst hsecond ?_
    rw [← hfabric, ← hother_fabric, heq]
  have hruns : ((store.runs.filter holds_lock).map RunRow.run_id).Nodup :=
    hlocking.run_ids.sublist (List.filter_sublist.map _)
  refine (List.perm_ext_iff_of_nodup hlocks hruns).mpr fun run_id => ?_
  simp only [List.mem_map, List.mem_filter, holds_lock_iff]
  constructor
  · rintro ⟨lock, hlock, rfl⟩
    obtain ⟨run, hrun, hid, -, hstatus⟩ := (hlocking.exact _ _).mp ⟨lock, hlock, rfl, rfl⟩
    exact ⟨run, ⟨hrun, hstatus⟩, hid⟩
  · rintro ⟨run, ⟨hrun, hstatus⟩, rfl⟩
    obtain ⟨lock, hlock, -, hid⟩ := (hlocking.exact _ _).mpr ⟨run, hrun, rfl, rfl, hstatus⟩
    exact ⟨lock, hlock, hid⟩

/-- The run of a lock. -/
theorem run_of_lock (hlocking : Locking store.runs store.fabric_locks) {lock : FabricLockRow}
    (hlock : lock ∈ store.fabric_locks) :
    ∃ run ∈ store.runs, store.find_run lock.run_id = some run ∧ run.run_id = lock.run_id ∧
      run.fabric_id = lock.fabric_id ∧ holds_lock run = true := by
  obtain ⟨run, hrun, hid, hfabric, hstatus⟩ := (hlocking.exact _ _).mp ⟨lock, hlock, rfl, rfl⟩
  exact ⟨run, hrun, hid ▸ table.lookup_of_mem hlocking.run_ids hrun, hid, hfabric, (holds_lock_iff run).mpr hstatus⟩

theorem mem_lock_rows {row : LockRow} : row ∈ lock_rows platform store ↔
    ∃ lock ∈ store.fabric_locks, ∃ run, store.find_run lock.run_id = some run ∧ lock_row platform lock run = row := by
  simp only [lock_rows, mem_sortedBy, List.mem_filterMap, Option.map_eq_some_iff]

theorem length_lock_rows (hlocking : Locking store.runs store.fabric_locks) :
    (lock_rows platform store).length = store.runs.countP holds_lock := by
  have hfound : ∀ lock ∈ store.fabric_locks,
      ((store.find_run lock.run_id).map (lock_row platform lock)).isSome = true := by
    intro lock hlock
    obtain ⟨run, -, hfind, -⟩ := run_of_lock hlocking hlock
    rw [hfind]
    rfl
  calc (lock_rows platform store).length = store.fabric_locks.length := by
        rw [lock_rows, sortedBy, (List.perm_insertionSort _ _).length_eq, List.length_filterMap_eq_countP]
        exact List.countP_eq_length.mpr hfound
    _ = store.runs.countP holds_lock := by
        rw [← List.length_map FabricLockRow.run_id, (locked_runs hlocking).length_eq, List.length_map,
          List.countP_eq_length_filter]

/-! ## The entry of a lock -/

theorem strip_status (status : RunStatus) : strip status.text = status.text := by
  cases status <;> decide +kernel

theorem strip_mode (mode : Mode) : strip mode.text = mode.text := by
  cases mode <;> decide +kernel

/-- What is reported about a lock with its run. -/
theorem reported_lock_ok {now : Datetime} {lock : FabricLockRow} {run : RunRow} (htimed : Timed platform store)
    (hlock : lock ∈ store.fabric_locks) (hrun : run ∈ store.runs) (hheld : holds_lock run = true)
    (hid : run.run_id = lock.run_id) (hfabric : run.fabric_id = lock.fabric_id) :
    ∃ issues entry, reported_lock platform now (lock_row platform lock run) = .ok (issues, entry) ∧
      Shows platform entry run ∧ (issues = [] ↔ Leased platform now lock) := by
  obtain ⟨acquired_at, hacquired⟩ := readable_iff.mp (htimed.acquired_at lock hlock)
  obtain ⟨expires_at, hexpires⟩ := readable_iff.mp (htimed.expires_at lock hlock)
  obtain ⟨updated_at, hupdated⟩ := readable_iff.mp (htimed.updated_at run hrun)
  have hleased : Leased platform now lock ↔ now < expires_at ∧ acquired_at < expires_at := by
    simp [Leased, hacquired, hexpires]
  have hactive : run.status.text ∈ ACTIVE_LOCK_STATUSES := of_decide_eq_true hheld
  refine ⟨lock_issues platform now (lock_row platform lock run) acquired_at expires_at,
    lock_entry platform now (lock_row platform lock run) acquired_at expires_at updated_at, ?_, ?_, ?_⟩
  · rw [reported_lock, lock_row, hacquired, hexpires, hupdated]
    rfl
  · exact ⟨by rw [hid]; rfl, by rw [hfabric]; rfl, strip_status _⟩
  · simp [hleased, lock_issues, lock_row, strip_status, hactive, issue_if, ← not_le_iff_lt]

/-! ## The counts -/

theorem set_of_new {key : String} {count : Int} {entries : List (String × Int)} (hnew : key ∉ entries.map Prod.fst) :
    assoc.set key count entries = entries ++ [(key, count)] := by
  induction entries with
  | nil => rfl
  | cons entry rest ih =>
    rw [List.map_cons, List.mem_cons, not_or] at hnew
    rw [assoc.set, if_neg (Ne.symm hnew.1), ih hnew.2]
    rfl

theorem status_text_injective : Function.Injective RunStatus.text := by
  intro first second hsame
  cases first <;> cases second <;> first | rfl | exact absurd hsame (by decide)

theorem group_key_injective : Function.Injective group_key := by
  rintro ⟨mode, status⟩ ⟨other_mode, other_status⟩ hsame
  have htexts := congrArg String.toList hsame
  simp only [group_key, String.toList_append] at htexts
  obtain rfl : mode = other_mode := by
    have hhead := congrArg List.head? htexts
    cases mode <;> cases other_mode <;> first | rfl | exact absurd hhead (by simp [Mode.text])
  obtain rfl := status_text_injective (String.toList_inj.mp (List.append_cancel_left htexts))
  rfl

/-- The counts of groups that are all new, in their order. -/
theorem counted_ok {count : Mode × RunStatus → Nat} {groups : List (Mode × RunStatus)} {counts : List (String × Int)}
    (hnodup : groups.Nodup) (hnew : ∀ group ∈ groups, group_key group ∉ counts.map Prod.fst) :
    (groups.map (status_row count)).foldlM counted counts =
      .ok (counts ++ groups.map fun group => (group_key group, (count group : Int))) := by
  induction groups generalizing counts with
  | nil => exact congrArg Except.ok (List.append_nil counts).symm
  | cons group rest ih =>
    obtain ⟨hfirst, hrest⟩ := List.nodup_cons.mp hnodup
    obtain ⟨hgroup, hothers⟩ := List.forall_mem_cons.mp hnew
    have hrow : counted counts (status_row count group) =
        .ok (counts ++ [(group_key group, (count group : Int))]) := by
      have hmode : group.1.text ∈ ["dry_run", "apply"] := by
        cases group.1 <;> decide
      have hstatus : group.2.text ≠ "" := by
        cases group.2 <;> decide
      simp only [counted, status_row, strip_mode, strip_status, raise_if_bind_eq_ok_iff]
      refine ⟨by simp [hmode, hstatus], by simp, ?_⟩
      rw [pure_eq_ok_iff]
      exact set_of_new hgroup
    have hlater : ∀ other ∈ rest,
        group_key other ∉ (counts ++ [(group_key group, (count group : Int))]).map Prod.fst := by
      intro other hother hmem
      rw [List.map_append, List.mem_append] at hmem
      obtain hold | hsame := hmem
      · exact hothers other hother hold
      · exact hfirst (group_key_injective (List.mem_singleton.mp hsame) ▸ hother)
    rw [List.map_cons, List.foldlM_cons, hrow]
    refine (ih hrest hlater).trans ?_
    rw [List.append_assoc]
    rfl

/-- Every group of runs is counted once. -/
theorem counted_groups (store : Store) : ∃ counts, (status_rows store).foldlM counted [] = .ok counts ∧
    ∀ key count, (key, count) ∈ counts ↔ ∃ run ∈ store.runs,
      key = group_key (run.mode, run.status) ∧ count = group_count store (run.mode, run.status) := by
  let groups := sortedBy (fun group : Mode × RunStatus => toLex (group.1.text, group.2.text))
    (store.runs.map fun run => (run.mode, run.status)).dedup
  have hnodup : groups.Nodup := (List.perm_insertionSort _ _).nodup_iff.mpr (List.nodup_dedup _)
  refine ⟨groups.map fun group => (group_key group, (group_count store group : Int)), ?_, fun key count => ?_⟩
  · exact counted_ok hnodup fun group _ => List.not_mem_nil
  · simp only [groups, List.mem_map, mem_sortedBy, List.mem_dedup, Prod.mk.injEq]
    constructor
    · rintro ⟨_, ⟨run, hrun, rfl⟩, rfl, rfl⟩
      exact ⟨run, hrun, rfl, rfl⟩
    · rintro ⟨run, hrun, rfl, rfl⟩
      exact ⟨_, ⟨run, hrun, rfl⟩, rfl, rfl⟩

/-- The first locks of a store are reported, each with its run. -/
theorem reported_locks (now : Datetime) (hlocking : Locking store.runs store.fabric_locks)
    (htimed : Timed platform store) :
    ∃ reported,
      ((lock_rows platform store).take MAX_REPORTED_LOCKS).mapM (reported_lock platform now) = .ok reported := by
  refine mapM_ok_of_forall fun row hrow => ?_
  obtain ⟨lock, hlock, run, hfind, rfl⟩ := mem_lock_rows.mp (List.mem_of_mem_take hrow)
  obtain ⟨owner, howner, hfound, hid, hfabric, hheld⟩ := run_of_lock hlocking hlock
  obtain rfl := Option.some.inj (hfind.symm.trans hfound)
  obtain ⟨issues, entry, hreported, -⟩ := reported_lock_ok htimed hlock howner hheld hid hfabric
  exact ⟨_, hreported⟩

section Reported

variable {now : Datetime} {reported : List (List RecoveryIssue × ReportedLock)}
  (hlocking : Locking store.runs store.fabric_locks) (htimed : Timed platform store)
  (hreported : ((lock_rows platform store).take MAX_REPORTED_LOCKS).mapM (reported_lock platform now) = .ok reported)
include hlocking htimed hreported

/-- What is reported is about a lock and its run. -/
theorem lock_of_reported {issues : List RecoveryIssue} {entry : ReportedLock} (hmem : (issues, entry) ∈ reported) :
    ∃ lock ∈ store.fabric_locks, ∃ run ∈ store.runs, holds_lock run = true ∧ Shows platform entry run ∧
      (issues = [] ↔ Leased platform now lock) := by
  obtain ⟨row, hrow, hok⟩ := mem_of_mapM hreported hmem
  obtain ⟨lock, hlock, run, hfind, rfl⟩ := mem_lock_rows.mp (List.mem_of_mem_take hrow)
  obtain ⟨owner, howner, hfound, hid, hfabric, hheld⟩ := run_of_lock hlocking hlock
  obtain rfl := Option.some.inj (hfind.symm.trans hfound)
  obtain ⟨_, _, hagain, hshows, hissues⟩ := reported_lock_ok htimed hlock howner hheld hid hfabric
  obtain ⟨rfl, rfl⟩ := Prod.mk.inj (Except.ok.inj (hagain.symm.trans hok))
  exact ⟨lock, hlock, run, howner, hheld, hshows, hissues⟩

/-- Every lock is reported, unless there are too many. -/
theorem reported_of_lock (hfew : (lock_rows platform store).length ≤ MAX_REPORTED_LOCKS) {lock : FabricLockRow}
    (hlock : lock ∈ store.fabric_locks) :
    ∃ issues entry, (issues, entry) ∈ reported ∧ (issues = [] ↔ Leased platform now lock) ∧
      ∃ run ∈ store.runs, run.run_id = lock.run_id ∧ Shows platform entry run := by
  obtain ⟨run, hrun, hfind, hid, hfabric, hheld⟩ := run_of_lock hlocking hlock
  obtain ⟨issues, entry, hok, hshows, hissues⟩ := reported_lock_ok htimed hlock hrun hheld hid hfabric
  have hrow : lock_row platform lock run ∈ (lock_rows platform store).take MAX_REPORTED_LOCKS := by
    rw [List.take_of_length_le hfew]
    exact mem_lock_rows.mpr ⟨lock, hlock, run, hfind, rfl⟩
  obtain ⟨result, hresult, hagain⟩ := exists_of_mapM hreported hrow
  obtain rfl := Except.ok.inj (hagain.symm.trans hok)
  exact ⟨issues, entry, hresult, hissues, run, hrun, hid, hshows⟩

/-- No lock has an issue just when the lease of every lock stands. -/
theorem no_issues_iff (hfew : (lock_rows platform store).length ≤ MAX_REPORTED_LOCKS) :
    reported.flatMap Prod.fst = [] ↔ ∀ lock ∈ store.fabric_locks, Leased platform now lock := by
  rw [List.flatMap_eq_nil_iff]
  constructor
  · intro hnone lock hlock
    obtain ⟨issues, entry, hmem, hissues, -⟩ := reported_of_lock hlocking htimed hreported hfew hlock
    exact hissues.mp (hnone _ hmem)
  · rintro hall ⟨issues, entry⟩ hmem
    obtain ⟨lock, hlock, -, -, -, -, hissues⟩ := lock_of_reported hlocking htimed hreported hmem
    exact hissues.mpr (hall lock hlock)

end Reported

end Locks

/-- The inspection of a reachable store accounts for its locks and its runs. -/
theorem inspection_accounts {platform : Platform} {derive_fabric_intent : Derive} {store : Store}
    (hreachable : Reachable platform derive_fabric_intent store) (htimed : Timed platform store) (now : Datetime) :
    ∃ report, inspect_postgresql platform expected_database_url now store = .ok report ∧
      Accounts platform now store report := by
  have hlocking := hreachable.locking
  obtain ⟨counts, hcounts, hcounted⟩ := counted_groups store
  obtain ⟨reported, hreported⟩ := reported_locks now hlocking htimed
  refine ⟨report_of now (lock_rows platform store).length counts reported, ?_, ?_, ?_, ?_, ?_, ?_⟩
  · rw [inspect_postgresql, raise_if_bind_eq_ok_iff]
    refine ⟨by simp, bind_eq_ok_iff.mpr ⟨now, rfl, ?_⟩⟩
    exact bind_eq_ok_iff.mpr ⟨reported, hreported, bind_eq_ok_iff.mpr ⟨counts, hcounts, rfl⟩⟩
  · exact length_lock_rows hlocking
  · intro entry hentry
    obtain ⟨⟨issues, _⟩, hmem, rfl⟩ := List.mem_map.mp hentry
    obtain ⟨lock, -, run, hrun, hheld, hshows, -⟩ := lock_of_reported hlocking htimed hreported hmem
    exact ⟨run, hrun, hheld, hshows⟩
  · intro hfew run hrun hheld
    have hheld_id : run.run_id ∈ store.fabric_locks.map FabricLockRow.run_id :=
      (locked_runs hlocking).mem_iff.mpr (List.mem_map_of_mem (List.mem_filter.mpr ⟨hrun, hheld⟩))
    obtain ⟨lock, hlock, hid⟩ := List.mem_map.mp hheld_id
    obtain ⟨issues, entry, hmem, -, owner, howner, howner_id, hshows⟩ :=
      reported_of_lock hlocking htimed hreported hfew hlock
    obtain rfl := hlocking.run_eq howner hrun (howner_id.trans hid)
    exact ⟨entry, List.mem_map_of_mem hmem, hshows⟩
  · exact fun key count => mem_sortedBy.trans (hcounted key count)
  · rw [RecoveryReport.safe, List.isEmpty_iff, report_of, List.append_eq_nil_iff]
    by_cases hmany : (lock_rows platform store).length > MAX_REPORTED_LOCKS
    · rw [if_pos hmany]
      exact ⟨fun hnone => absurd hnone.1 (List.cons_ne_nil _ _), fun hfew => absurd hfew.1 (Nat.not_le.mpr hmany)⟩
    · have hfew := Nat.not_lt.mp hmany
      rw [if_neg hmany, no_issues_iff hlocking htimed hreported hfew]
      exact ⟨fun hall => ⟨hfew, hall.2⟩, fun hall => ⟨rfl, hall.2⟩⟩

theorem lab_queued_timed : Timed cpython (store_after cpython lab_derive lab_queued) where
  acquired_at := by decide +kernel
  expires_at := by decide +kernel
  updated_at := by decide +kernel

theorem inspection_accounts_lab :
    ∃ report, inspect_postgresql cpython expected_database_url ⟨2025, 1, 15, 13, 0, 0, 0⟩
        (store_after cpython lab_derive lab_queued) = .ok report ∧
      Accounts cpython ⟨2025, 1, 15, 13, 0, 0, 0⟩ (store_after cpython lab_derive lab_queued) report :=
  inspection_accounts (store_after_reachable cpython lab_derive lab_queued) lab_queued_timed ⟨2025, 1, 15, 13, 0, 0, 0⟩

end orchestrator.runtime_recovery
