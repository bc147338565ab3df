import SdaOrchestrator.Lib.HashChain
import SdaOrchestrator.Lib.Json
import SdaOrchestrator.Store.Lab

open python hash_chain

namespace orchestrator.store

/-! ## The verification -/

/-- What the hash of an event is computed from. -/
def AuditEvent.body (event : AuditEvent) : Value := .dict [
  ("event_id", .str event.event_id),
  ("aggregate_type", .str event.aggregate_type),
  ("aggregate_id", .str event.aggregate_id),
  ("event_type", .str event.event_type),
  ("actor", .str event.actor),
  ("payload", event.payload),
  ("previous_hash", .str event.previous_hash),
  ("created_at", .str event.created_at)]

/-- The loop of `verify_audit_chain` over the rows in order of their sequence numbers. -/
def verify_rows (platform : Platform) (previous_hash : String) : List AuditEvent → Bool
  | [] => true
  | row :: rest =>
    if row.previous_hash ≠ previous_hash then false
    else if platform.sha256_json row.body ≠ row.event_hash then false
    else verify_rows platform row.event_hash rest

def verify_audit_chain (platform : Platform) (rows : List AuditEvent) : Bool :=
  verify_rows platform "GENESIS" rows

/-- The rows of a chain, from a previous hash on. -/
abbrev Chained (platform : Platform) (previous_hash : String) (rows : List AuditEvent) : Prop :=
  Valid AuditEvent.previous_hash AuditEvent.event_hash (fun row => platform.sha256_json row.body)
    previous_hash rows

section Chain

variable {platform : Platform} {store : Store}

theorem verify_rows_iff {previous_hash : String} {rows : List AuditEvent} :
    verify_rows platform previous_hash rows ↔ Chained platform previous_hash rows := by
  induction rows generalizing previous_hash with
  | nil => simp [verify_rows, Valid]
  | cons row rest ih => simp [verify_rows, Valid, ih]

theorem audit_head_eq_head : store.audit_head = head AuditEvent.event_hash "GENESIS" store.audit_events := by
  unfold Store.audit_head
  cases store.audit_events using List.reverseRecOn with
  | nil => rfl
  | append_singleton events event => rw [head_concat, List.getLast?_concat]

/-- The previous hash of an event is the hash of the event with the next lower sequence
number. -/
def Linked (rows : List AuditEvent) : Prop :=
  rows.IsChain fun first second => second.previous_hash = first.event_hash

/-- The event with its payload as a database gives it back. -/
def AuditEvent.read_back (event : AuditEvent) (column : Value → Value) : AuditEvent :=
  { event with payload := column event.payload }

/-- A payload counts in the hash of its event with its text only. -/
theorem sha256_json_body_read_back {event : AuditEvent} {column : Value → Value}
    (hcolumn : (column event.payload).canonical_json = event.payload.canonical_json) :
    platform.sha256_json (event.read_back column).body = platform.sha256_json event.body := by
  simp only [Platform.sha256_json, AuditEvent.read_back, AuditEvent.body, Value.canonical_json,
    Value.canonicalEntries, hcolumn]

/-- A chain stays one in a database whose payloads have the same texts. -/
theorem chained_read_back {previous_hash : String} {column : Value → Value} {rows : List AuditEvent}
    (hcolumn : ∀ row ∈ rows, (column row.payload).canonical_json = row.payload.canonical_json)
    (hchained : Chained platform previous_hash rows) :
    Chained platform previous_hash (rows.map (·.read_back column)) := by
  induction rows generalizing previous_hash with
  | nil => trivial
  | cons row rest ih =>
    rw [List.forall_mem_cons] at hcolumn
    obtain ⟨hlink, hdigest, hrest⟩ := hchained
    exact ⟨hlink, (sha256_json_body_read_back hcolumn.1).trans hdigest, ih hcolumn.2 hrest⟩

theorem append_audit_chained (hchained : Chained platform "GENESIS" store.audit_events)
    (aggregate_type aggregate_id event_type actor : String) (payload : Value) (now : Datetime)
    (uuid4_hex : String) :
    Chained platform "GENESIS" (store._append_audit platform aggregate_type aggregate_id event_type actor
      payload now uuid4_hex).audit_events := by
  refine valid_concat.mpr ⟨hchained, audit_head_eq_head, ?_⟩
  -- the hash is that of the body before the payload was stored
  exact @sha256_json_body_read_back platform ⟨"evt_" ++ uuid4_hex, aggregate_type, aggregate_id, event_type,
    actor, payload, store.audit_head, _, isoformat now⟩ Value.stored (Value.canonical_json_stored payload)

end Chain

/-! ## The chain of the store -/

section Operations

variable {platform : Platform} {derive_fabric_intent : Derive} {ambient : Ambient} {store next : Store}

theorem save_plan_chained {intent_id : String} {plan : Value} {actor artifact_hash intent_version : String}
    {reservation_id : Option String} {row : PlanRow × Bool}
    (hchained : Chained platform "GENESIS" store.audit_events)
    (hresult : save_plan platform intent_id plan actor artifact_hash intent_version reservation_id ambient
      store = .ok (row, next)) : Chained platform "GENESIS" next.audit_events := by
  simp only [save_plan, bind_eq_ok_iff, raise_if_eq_ok, require_eq_ok] at hresult
  obtain ⟨_, -, _, -, intent, -, _, -, _, -, _, -, plan_id, -, hresult⟩ := hresult
  split at hresult
  · simp only [save_existing_plan, bind_eq_ok_iff, raise_if_eq_ok] at hresult
    obtain ⟨_, -, hresult⟩ := hresult
    split at hresult
    · simp only [pure_eq_ok_iff, Prod.mk.injEq] at hresult
      exact hresult.2 ▸ hchained
    · simp only [bind_eq_ok_iff, pure_eq_ok_iff, Prod.mk.injEq] at hresult
      obtain ⟨_, -, _, -, _, -, -, rfl⟩ := hresult
      exact append_audit_chained hchained _ _ _ _ _ _ _
  · simp only [insert_plan, bind_eq_ok_iff, pure_eq_ok_iff, Prod.mk.injEq] at hresult
    obtain ⟨_, -, _, -, _, -, -, rfl⟩ := hresult
    exact append_audit_chained hchained _ _ _ _ _ _ _

/-- Every transaction that commits extends the chain. -/
theorem perform_chained {transaction : Transaction} (hchained : Chained platform "GENESIS" store.audit_events)
    (hstep : perform platform derive_fabric_intent ambient store transaction = .ok next) :
    Chained platform "GENESIS" next.audit_events := by
  cases transaction with
  | save_intent intent actor =>
    obtain ⟨value, hvalue⟩ := map_snd_eq_ok_iff.mp hstep
    simp only [save_intent, bind_eq_ok_iff] at hvalue
    obtain ⟨_, _, _, _, _, _, _, _, hvalue⟩ := hvalue
    split at hvalue
    · obtain ⟨-, rfl⟩ := Prod.mk.inj (Except.ok.inj hvalue)
      exact hchained
    · simp only [bind_eq_ok_iff, pure_eq_ok_iff, Prod.mk.injEq] at hvalue
      obtain ⟨_, -, -, rfl⟩ := hvalue
      exact append_audit_chained hchained _ _ _ _ _ _ _
  | reserve_design requirements policy idempotency_key actor =>
    obtain ⟨value, hvalue⟩ := map_snd_eq_ok_iff.mp hstep
    simp only [reserve_design, bind_eq_ok_iff, raise_if_eq_ok] at hvalue
    obtain ⟨_, -, _, -, hvalue⟩ := hvalue
    split at hvalue
    · simp only [bind_eq_ok_iff, pure_eq_ok_iff, Prod.mk.injEq] at hvalue
      obtain ⟨_, -, -, rfl⟩ := hvalue
      exact hchained
    · simp only [bind_eq_ok_iff, pure_eq_ok_iff, Prod.mk.injEq] at hvalue
      obtain ⟨_, -, _, -, _, -, -, rfl⟩ := hvalue
      exact append_audit_chained hchained _ _ _ _ _ _ _
  | save_plan intent_id plan actor artifact_hash intent_version reservation_id =>
    obtain ⟨value, hvalue⟩ := map_snd_eq_ok_iff.mp hstep
    exact save_plan_chained hchained hvalue
  | record_approval plan_id decision approver change_reference expires_at =>
    obtain ⟨value, hvalue⟩ := map_snd_eq_ok_iff.mp hstep
    simp only [record_approval, bind_eq_ok_iff, raise_if_eq_ok, require_eq_ok, pure_eq_ok_iff,
      Prod.mk.injEq] at hvalue
    obtain ⟨_, _, _, _, _, _, _, _, _, _, _, _, _, _, _, _, _, rfl⟩ := hvalue
    exact append_audit_chained hchained _ _ _ _ _ _ _
  | create_run plan_id mode idempotency_key requested_by execution_enabled maintenance_start
      maintenance_end lock_ttl_seconds =>
    obtain ⟨value, hvalue⟩ := map_snd_eq_ok_iff.mp hstep
    simp only [create_run, bind_eq_ok_iff, raise_if_eq_ok, require_eq_ok] at hvalue
    obtain ⟨parsed, -, _, -, _, -, window, -, plan, hplan, hvalue⟩ := hvalue
    split at hvalue
    · simp only [bind_eq_ok_iff, pure_eq_ok_iff, Prod.mk.injEq] at hvalue
      obtain ⟨_, -, -, rfl⟩ := hvalue
      exact hchained
    · simp only [bind_eq_ok_iff, pure_eq_ok_iff, Prod.mk.injEq] at hvalue
      obtain ⟨approval, -, _, -, _, -, _, -, _, -, locked, hlocked, -, rfl⟩ := hvalue
      refine append_audit_chained ?_ _ _ _ _ _ _ _
      cases parsed with
      | dry_run =>
        obtain rfl := Except.ok.inj hlocked
        exact hchained
      | apply =>
        simp only [take_fabric_lock, raise_if_bind_eq_ok_iff, pure_eq_ok_iff] at hlocked
        obtain ⟨-, rfl⟩ := hlocked
        exact hchained
  | transition_run run_id new_status actor detail =>
    obtain ⟨value, hvalue⟩ := map_snd_eq_ok_iff.mp hstep
    simp only [transition_run, bind_eq_ok_iff, pure_eq_ok_iff, Prod.mk.injEq] at hvalue
    obtain ⟨_, -, _, -, -, rfl⟩ := hvalue
    exact append_audit_chained hchained _ _ _ _ _ _ _
  | complete_apply run_id artifact_hash owned_state actor detail =>
    obtain ⟨value, hvalue⟩ := map_snd_eq_ok_iff.mp hstep
    simp only [complete_apply, bind_eq_ok_iff, raise_if_eq_ok, require_eq_ok, pure_eq_ok_iff,
      Prod.mk.injEq] at hvalue
    obtain ⟨_, -, _, -, _, -, _, -, _, -, _, -, _, -, _, -, _, -, -, rfl⟩ := hvalue
    exact append_audit_chained (append_audit_chained hchained _ _ _ _ _ _ _) _ _ _ _ _ _ _
  | transition_design_reservation reservation_id new_state actor verified =>
    obtain ⟨value, hvalue⟩ := map_snd_eq_ok_iff.mp hstep
    simp only [transition_design_reservation, bind_eq_ok_iff, raise_if_eq_ok, require_eq_ok,
      pure_eq_ok_iff, Prod.mk.injEq] at hvalue
    obtain ⟨_, -, _, -, _, -, _, -, -, rfl⟩ := hvalue
    exact append_audit_chained hchained _ _ _ _ _ _ _
  | add_evidence run_id phase_id evidence_type payload actor device_id =>
    obtain ⟨value, hvalue⟩ := map_snd_eq_ok_iff.mp hstep
    simp only [add_evidence, bind_eq_ok_iff, raise_if_eq_ok] at hvalue
    obtain ⟨_, -, hvalue⟩ := hvalue
    split at hvalue
    · simp only [pure_eq_ok_iff, Prod.mk.injEq] at hvalue
      obtain ⟨-, rfl⟩ := hvalue
      exact hchained
    · simp only [pure_eq_ok_iff, Prod.mk.injEq] at hvalue
      obtain ⟨-, rfl⟩ := hvalue
      exact append_audit_chained hchained _ _ _ _ _ _ _
  | adopt_manifest fabric_id manifest evidence_hash change_reference discovered_by approver =>
    simp only [perform, adopt_manifest, bind_eq_ok_iff, raise_if_eq_ok] at hstep
    obtain ⟨_, -, _, -, _, -, _, -, _, -, _, -, hstep⟩ := hstep
    split at hstep
    · simp only [bind_eq_ok_iff, pure_eq_ok_iff] at hstep
      obtain ⟨_, -, rfl⟩ := hstep
      exact hchained
    · rw [pure_eq_ok_iff] at hstep
      subst hstep
      exact append_audit_chained hchained _ _ _ _ _ _ _

/-- The chain of a store holds after every sequence of calls. A call that raises is rolled
back, wherever it stopped. -/
theorem chained_after_calls (calls : List (Transaction × Ambient)) :
    Chained platform "GENESIS" (after_calls platform derive_fabric_intent calls).audit_events := by
  induction calls using List.reverseRecOn with
  | nil => trivial
  | append_singleton calls call ih =>
    rw [after_calls_concat]
    obtain hstep | hsame := called_cases platform derive_fabric_intent
      (after_calls platform derive_fabric_intent calls) call
    · exact perform_chained ih hstep
    · rw [hsame]
      exact ih

end Operations

/-! ## What the head of a chain commits to -/

/-- The hashed fields of an event; the payload counts as its canonical text. -/
structure Hashed where
  event_id : String
  aggregate_type : String
  aggregate_id : String
  event_type : String
  actor : String
  payload : List Char
  previous_hash : String
  created_at : String

def AuditEvent.hashed (event : AuditEvent) : Hashed where
  event_id := event.event_id
  aggregate_type := event.aggregate_type
  aggregate_id := event.aggregate_id
  event_type := event.event_type
  actor := event.actor
  payload := event.payload.canonical_json
  previous_hash := event.previous_hash
  created_at := event.created_at

section Commitment

variable {platform : Platform}

/-- The text of a body determines the hashed fields. -/
theorem hashed_of_body {event other : AuditEvent} (hevent : event.payload.printed)
    (hother : other.payload.printed) (heq : event.body.canonical_json = other.body.canonical_json) :
    event.hashed = other.hashed := by
  have hprinted (row : AuditEvent) (hrow : row.payload.printed) : row.body.printed := by
    simp [AuditEvent.body, Value.printed, Value.printedEntries, hrow]
  have hlookup := Value.lookup_of_canonical_json_eq (hprinted event hevent) (hprinted other hother) heq
  have htext {text text' : String} (h : (some (Value.str text)).map Value.canonical_json =
      (some (Value.str text')).map Value.canonical_json) : text = text' := by
    refine (@jsonChars_append_inj text text' [] [] ?_).1
    exact congrArg (· ++ []) (Option.some.inj h)
  have hpayload : event.payload.canonical_json = other.payload.canonical_json :=
    Option.some.inj (hlookup "payload")
  rw [AuditEvent.hashed, AuditEvent.hashed, htext (hlookup "event_id"), htext (hlookup "aggregate_type"),
    htext (hlookup "aggregate_id"), htext (hlookup "event_type"), htext (hlookup "actor"), hpayload,
    htext (hlookup "previous_hash"), htext (hlookup "created_at")]

/-- Two chains with one head are one history: the same events, field by field, and so
equally many. -/
theorem tamper_evident
    (hinjective : ∀ value other : Value, platform.sha256_json value = platform.sha256_json other →
      value.canonical_json = other.canonical_json)
    (hgenesis : ∀ value : Value, platform.sha256_json value ≠ "GENESIS") {first second : List AuditEvent}
    (hprinted : ∀ row ∈ first ++ second, row.payload.printed)
    (hfirst : verify_audit_chain platform first) (hsecond : verify_audit_chain platform second)
    (hhead : head AuditEvent.event_hash "GENESIS" first = head AuditEvent.event_hash "GENESIS" second) :
    first.map AuditEvent.hashed = second.map AuditEvent.hashed := by
  refine content_eq_of_head_eq (fun event hevent other hother hdigest => ?_)
    (fun event other hsame => congrArg Hashed.previous_hash hsame) (fun event => hgenesis event.body)
    (verify_rows_iff.mp hfirst) (verify_rows_iff.mp hsecond) hhead
  exact hashed_of_body (hprinted event (List.mem_append_left _ hevent))
    (hprinted other (List.mem_append_right _ hother)) (hinjective _ _ hdigest)

end Commitment

/-! ## One history stored in two ways -/

/-- A digest that spells its text out. -/
def lab_plain : Platform := { cpython with sha256 := fun text => String.ofList ('#' :: text) }

def lab_audited : Store :=
  let approved := ({} : Store)._append_audit lab_plain "plan" "plan_lab" "plan.approved" "approver"
    (.dict [("plan_hash", .str lab_plan_hash), ("change_reference", .str "CHG-1")])
    ((lab_ambient 1).utc_now 0) "100"
  approved._append_audit lab_plain "run" "run_1" "run.created" "operator"
    (.dict [("plan_id", .str "plan_lab"), ("mode", .str "apply")]) ((lab_ambient 2).utc_now 0) "200"

/-- The keys of a dictionary in the opposite order. -/
def lab_reversed : Value → Value
  | .dict entries => .dict entries.reverse
  | value => value

/-- The same events from a database that keeps the keys of a payload in another order. -/
def lab_reordered : List AuditEvent := lab_audited.audit_events.map (·.read_back lab_reversed)

theorem tamper_evident_lab :
    lab_audited.audit_events.map AuditEvent.hashed = lab_reordered.map AuditEvent.hashed := by
  have hinjective (value other : Value) (heq : lab_plain.sha256_json value = lab_plain.sha256_json other) :
      value.canonical_json = other.canonical_json := by
    have hlists := congrArg String.toList heq
    simp only [Platform.sha256_json, lab_plain, String.toList_ofList] at hlists
    exact (List.cons.inj hlists).2
  have hgenesis (value : Value) : lab_plain.sha256_json value ≠ "GENESIS" := by
    intro heq
    have hlists := congrArg String.toList heq
    simp only [Platform.sha256_json, lab_plain, String.toList_ofList] at hlists
    cases (List.cons.inj hlists).1
  have hprinted : (lab_audited.audit_events ++ lab_reordered).all fun row => row.payload.printed := by
    decide +kernel
  have hcolumn : lab_audited.audit_events.all fun row =>
      (lab_reversed row.payload).canonical_json = row.payload.canonical_json := by
    decide +kernel
  have hempty : Chained lab_plain "GENESIS" ({} : Store).audit_events := trivial
  have hfirst : Chained lab_plain "GENESIS" lab_audited.audit_events :=
    append_audit_chained (append_audit_chained hempty _ _ _ _ _ _ _) _ _ _ _ _ _ _
  have hsecond : Chained lab_plain "GENESIS" lab_reordered :=
    chained_read_back (fun row hrow => of_decide_eq_true (List.all_eq_true.mp hcolumn row hrow)) hfirst
  have hhead : head AuditEvent.event_hash "GENESIS" lab_audited.audit_events =
      head AuditEvent.event_hash "GENESIS" lab_reordered := by
    rw [lab_reordered, head, head, List.foldl_map]
    rfl
  exact @tamper_evident lab_plain hinjective hgenesis _ _ (List.all_eq_true.mp hprinted)
    (verify_rows_iff.mpr hfirst) (verify_rows_iff.mpr hsecond) hhead

end orchestrator.store
