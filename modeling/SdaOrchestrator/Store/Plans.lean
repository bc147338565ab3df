import SdaOrchestrator.Store.Tables

open python

namespace orchestrator.store

def save_intent (platform : Platform) (intent : Value) (actor : String) (ambient : Ambient)
    (store : Store) : Py ((IntentRow × Bool) × Store) := do
  let intent_hash := platform.sha256_json intent
  let intent_id := "intent_" ++ take 16 intent_hash
  let fabric_id := (← (← intent.item "fabric").item "id").toStr
  let environment := (← (← intent.item "metadata").item "environment").toStr
  match table.lookup IntentRow.intent_hash intent_hash store.intents with
  | some existing => return ((existing, false), store)
  | none =>
    raise_if (store.find_intent intent_id).isSome (IntegrityError "intents.intent_id")
    let row : IntentRow := {
      intent_id, intent_hash, fabric_id, environment
      document := intent.stored
      created_at := isoformat (ambient.utc_now 0)
      created_by := actor }
    let payload : Value := .dict [
      ("intent_hash", .str intent_hash),
      ("fabric_id", .str fabric_id),
      ("environment", .str environment)]
    let inserted := { store with intents := store.intents ++ [row] }
    return ((row, true),
      inserted._append_audit platform "intent" intent_id "intent.created" actor payload
        (ambient.utc_now 1) (ambient.uuid4_hex 0))

/-- `reservation_id or None`: an empty id counts as none. -/
def given : Option String → Option String
  | some text => if text = "" then none else some text
  | none => none

/-- The reservation that the worker finds in a plan. -/
def CoreTables.planned_reservation (tables : CoreTables) (plan_id : String) : Option String :=
  (table.lookup PlanRow.plan_id plan_id tables.plans).bind fun plan => given plan.reservation_id

/-- The foreign key of `plans.reservation_id`. -/
def check_reservation_reference (store : Store) (reservation_id : Option String) : Py Unit :=
  match reservation_id with
  | some reference =>
    raise_if (store.find_reservation reference).isNone (IntegrityError "plans.reservation_id")
  | none => .ok ()

/-- The reservation checks of `save_plan`: it exists and its design is the stored intent. -/
def check_plan_reservation (platform : Platform) (store : Store) (intent : IntentRow)
    (reservation_id : Option String) : Py Unit :=
  match given reservation_id with
  | some reference => do
    let reservation ← require (store.find_reservation reference)
      (NotFoundError "Design reservation not found")
    raise_if (platform.sha256_json reservation.intent ≠ intent.intent_hash)
      (ConflictError "Reservation is not bound to the stored intent")
  | none => .ok ()

/-- The reservation a plan is bound to exists and is active. -/
def Store.reservation_active (store : Store) (reservation_id : String) : Bool :=
  match store.find_reservation reservation_id with
  | some reservation => reservation.state.active
  | none => false

/-- `UPDATE plans SET reservation_id = ? WHERE plan_id = ?`. -/
def rebind_plan (plan_id : String) (reservation_id : Option String) (plans : List PlanRow) :
    List PlanRow :=
  table.update PlanRow.plan_id plan_id (fun row => { row with reservation_id }) plans

/-- The branch of `save_plan` for a plan id that is already stored. -/
def save_existing_plan (platform : Platform) (plan : Value) (actor artifact_hash : String)
    (reservation_id : Option String) (existing : PlanRow) (ambient : Ambient) (store : Store) :
    Py ((PlanRow × Bool) × Store) := do
  raise_if (existing.artifact_hash ≠ artifact_hash)
    (ConflictError "Plan ID is already bound to a different artifact hash")
  let prior_reservation := existing.reservation_id.getD ""
  if prior_reservation = reservation_id.getD "" then
    return ((existing, false), store)
  else
    raise_if (prior_reservation ≠ "" && store.reservation_active prior_reservation)
      (ConflictError "Plan ID is already bound to a different reservation")
    check_reservation_reference store reservation_id
    let payload : Value := .dict [
      ("plan_hash", .str (← plan.item "plan_hash").toStr),
      ("artifact_hash", .str artifact_hash),
      ("previous_reservation_id", .str prior_reservation),
      ("reservation_id", Value.ofOption reservation_id)]
    let rebound := { store with
      plans := rebind_plan existing.plan_id reservation_id store.plans }
    return (({ existing with reservation_id }, false),
      rebound._append_audit platform "plan" existing.plan_id "plan.reservation_rebound" actor
        payload (ambient.utc_now 0) (ambient.uuid4_hex 0))

/-- The branch of `save_plan` for a new plan id. -/
def insert_plan (platform : Platform) (plan : Value) (plan_id : String)
    (actor artifact_hash intent_version : String) (reservation_id : Option String)
    (intent : IntentRow) (ambient : Ambient) (store : Store) : Py ((PlanRow × Bool) × Store) := do
  let plan_hash := (← plan.item "plan_hash").toStr
  raise_if (store.plans.any fun row => row.plan_hash = plan_hash) (IntegrityError "plans.plan_hash")
  check_reservation_reference store reservation_id
  let row : PlanRow := {
    plan_id, plan_hash, artifact_hash
    intent_version := strip intent_version
    reservation_id
    intent_id := intent.intent_id
    fabric_id := intent.fabric_id
    document := plan.stored
    created_at := isoformat (ambient.utc_now 0)
    created_by := actor }
  let payload : Value := .dict [
    ("plan_hash", .str plan_hash),
    ("artifact_hash", .str artifact_hash),
    ("intent_version", .str (strip intent_version)),
    ("reservation_id", Value.ofOption reservation_id),
    ("intent_id", .str intent.intent_id),
    ("fabric_id", .str intent.fabric_id)]
  let inserted := { store with plans := store.plans ++ [row] }
  return ((row, true),
    inserted._append_audit platform "plan" plan_id "plan.created" actor payload
      (ambient.utc_now 1) (ambient.uuid4_hex 0))

def save_plan (platform : Platform) (intent_id : String) (plan : Value)
    (actor artifact_hash intent_version : String) (reservation_id : Option String)
    (ambient : Ambient) (store : Store) : Py ((PlanRow × Bool) × Store) := do
  raise_if (len artifact_hash ≠ 64) (ValueError "artifact_hash must be a SHA-256 hex digest")
  raise_if (strip intent_version = "") (ValueError "intent_version is required")
  let intent ← require (store.find_intent intent_id) (NotFoundError "Intent not found")
  raise_if ((← plan.item "intent_hash").toStr ≠ intent.intent_hash)
    (ConflictError "Plan is not bound to the stored intent hash")
  check_plan_reservation platform store intent reservation_id
  let plan_id := (← plan.item "plan_id").toStr
  match store.find_plan plan_id with
  | some existing =>
    save_existing_plan platform plan actor artifact_hash reservation_id existing ambient store
  | none =>
    insert_plan platform plan plan_id actor artifact_hash intent_version reservation_id intent
      ambient store

def get_plan (plan_id : String) (store : Store) : Py PlanRow :=
  require (store.find_plan plan_id) (NotFoundError "Plan not found")

/-! ## What the operations do to the core tables -/

theorem save_intent_core {platform : Platform} {intent : Value} {actor : String} {ambient : Ambient}
    {store next : Store} {result : IntentRow × Bool}
    (hresult : save_intent platform intent actor ambient store = .ok (result, next)) :
    next.core = store.core := by
  simp only [save_intent, bind_eq_ok_iff] at hresult
  obtain ⟨_, -, _, -, _, -, _, -, hresult⟩ := hresult
  split at hresult
  · simp only [pure_eq_ok_iff, Prod.mk.injEq] at hresult
    exact hresult.2 ▸ rfl
  · simp only [bind_eq_ok_iff, raise_if_eq_ok, pure_eq_ok_iff, Prod.mk.injEq] at hresult
    obtain ⟨_, -, -, rfl⟩ := hresult
    rfl

/-- A reservation that a plan may refer to is stored. -/
def Store.reference_stored (store : Store) (reservation_id : Option String) : Prop :=
  ∀ reference, reservation_id = some reference →
    ∃ reservation, store.find_reservation reference = some reservation

theorem check_reservation_reference_ok {store : Store} {reservation_id : Option String} {u : Unit}
    (hcheck : check_reservation_reference store reservation_id = .ok u) :
    store.reference_stored reservation_id := by
  intro reference hreference
  subst hreference
  simp only [check_reservation_reference, raise_if_eq_ok, Option.isNone_eq_false_iff] at hcheck
  exact Option.isSome_iff_exists.mp hcheck

/-- A stored plan that `save_plan` binds to another reservation: the reservation it
had, if any, is no longer active. -/
structure Rebound (store : Store) (plan : Value) (existing : PlanRow)
    (reservation_id : Option String) : Prop where
  plan_id : ∃ document, plan.item "plan_id" = .ok document ∧ existing.plan_id = document.toStr
  found : store.find_plan existing.plan_id = some existing
  changed : existing.reservation_id.getD "" ≠ reservation_id.getD ""
  reference : store.reference_stored reservation_id
  prior : ∀ prior, existing.reservation_id = some prior → prior ≠ "" →
    store.reservation_active prior = false

/-- A new plan, bound to a stored reservation or to none. -/
structure NewPlan (store : Store) (plan : Value) (reservation_id : Option String)
    (row : PlanRow) : Prop where
  plan_id : ∃ document, plan.item "plan_id" = .ok document ∧ row.plan_id = document.toStr
  fresh : store.find_plan row.plan_id = none
  bound : row.reservation_id = reservation_id
  reference : store.reference_stored reservation_id

/-- The plan is stored and bound to the given reservation already. -/
def AlreadyBound (store : Store) (plan : Value) (reservation_id : Option String) : Prop :=
  ∃ document existing, plan.item "plan_id" = .ok document ∧
    store.find_plan document.toStr = some existing ∧
    existing.reservation_id.getD "" = reservation_id.getD ""

/-- `save_plan` answers from the stored plan, binds it to another reservation, or
stores one new plan. -/
theorem save_plan_core {platform : Platform} {intent_id : String} {plan : Value}
    {actor artifact_hash intent_version : String} {reservation_id : Option String}
    {ambient : Ambient} {store next : Store} {row : PlanRow} {created : Bool}
    (hresult : save_plan platform intent_id plan actor artifact_hash intent_version reservation_id
      ambient store = .ok ((row, created), next)) :
    (next = store ∧ AlreadyBound store plan reservation_id) ∨
      (∃ existing, Rebound store plan existing reservation_id ∧
        next.core = { store.core with
          plans := rebind_plan existing.plan_id reservation_id store.plans }) ∨
      (NewPlan store plan reservation_id row ∧
        next.core = { store.core with plans := store.plans ++ [row] }) := by
  simp only [save_plan, bind_eq_ok_iff, raise_if_eq_ok, require_eq_ok] at hresult
  obtain ⟨_, -, _, -, intent, -, _, -, _, -, _, -, plan_id, hplan_id, hresult⟩ := hresult
  split at hresult
  · rename_i existing hexisting
    have hid : existing.plan_id = plan_id.toStr := table.lookup_key hexisting
    simp only [save_existing_plan, bind_eq_ok_iff, raise_if_eq_ok] at hresult
    obtain ⟨_, -, hresult⟩ := hresult
    split at hresult
    · rename_i hsame
      simp only [pure_eq_ok_iff, Prod.mk.injEq] at hresult
      exact .inl ⟨hresult.2.symm, plan_id, existing, hplan_id, hexisting, hsame⟩
    · rename_i hchanged
      simp only [bind_eq_ok_iff, raise_if_eq_ok, pure_eq_ok_iff, Prod.mk.injEq] at hresult
      obtain ⟨_, hprior, _, hreference, _, -, -, rfl⟩ := hresult
      refine .inr (.inl ⟨existing, ⟨⟨plan_id, hplan_id, hid⟩, ?_, hchanged,
        check_reservation_reference_ok hreference, ?_⟩, rfl⟩)
      · rw [hid]
        exact hexisting
      · intro prior heq hne
        simpa [heq, hne] using hprior
  · rename_i hnone
    simp only [insert_plan, bind_eq_ok_iff, raise_if_eq_ok, pure_eq_ok_iff, Prod.mk.injEq] at hresult
    obtain ⟨_, -, _, -, _, hreference, ⟨rfl, -⟩, rfl⟩ := hresult
    exact .inr (.inr ⟨⟨⟨plan_id, hplan_id, rfl⟩, hnone, rfl,
      check_reservation_reference_ok hreference⟩, rfl⟩)

end orchestrator.store
