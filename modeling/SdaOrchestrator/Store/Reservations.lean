import Mathlib.Data.Prod.Lex
import SdaOrchestrator.Store.Tables

open python

namespace orchestrator.store

/-- A prefix that a design takes from a pool. -/
structure NetworkReservation where
  resource_pool_id : String
  pfx : String
  deriving DecidableEq, Repr

/-- A scalar that a design takes from a range. -/
structure ScalarReservation where
  resource_type : String
  value : String
  deriving DecidableEq, Repr

/-- What `derive_fabric_intent` returns. -/
structure Derived where
  intent : Value
  requirements_hash : String
  policy_hash : String
  reservation_hash : String
  allocation_domain : String
  fabric_id : String
  network : List NetworkReservation
  scalar : List ScalarReservation

/-- `derive_fabric_intent(requirements, policy, network_ledger, scalar_ledger)`. -/
abbrev Derive := Value → Value → List Value → List Value → Py Derived

/-- A row of `network_allocations` as the ledger passes it on. -/
def NetworkAllocationRow.ledger_item (row : NetworkAllocationRow) : Value :=
  .dict [
    ("allocation_domain", .str row.allocation_domain),
    ("resource_pool_id", .str row.resource_pool_id),
    ("prefix", .str row.pfx),
    ("state", .str row.state.text)]

/-- A row of `scalar_allocations` as the ledger passes it on. -/
def ScalarAllocationRow.ledger_item (row : ScalarAllocationRow) : Value :=
  .dict [
    ("allocation_domain", .str row.allocation_domain),
    ("resource_type", .str row.resource_type),
    ("value", .str row.value),
    ("state", .str row.state.text)]

/-- `SELECT ... FROM network_allocations WHERE state IN (...)`. -/
def Store.network_ledger (store : Store) : List Value :=
  (store.network_allocations.filter fun row => row.state.active).map
    NetworkAllocationRow.ledger_item

/-- `SELECT ... FROM scalar_allocations WHERE state IN (...)`. -/
def Store.scalar_ledger (store : Store) : List Value :=
  (store.scalar_allocations.filter fun row => row.state.active).map
    ScalarAllocationRow.ledger_item

/-- A reservation with its allocation rows, as the store hands it out. -/
structure ReservationRecord where
  row : ReservationRow
  network_allocations : List (String × String × ReservationState)
  scalar_allocations : List (String × String × ReservationState)

def _design_reservation_record (store : Store) (row : ReservationRow) : ReservationRecord where
  row := row
  network_allocations :=
    sortedBy (fun item => toLex (item.1, item.2.1))
      ((store.network_allocations.filter fun item => item.reservation_id = row.reservation_id).map
        fun item => (item.resource_pool_id, item.pfx, item.state))
  scalar_allocations :=
    sortedBy (fun item => toLex (item.1, item.2.1))
      ((store.scalar_allocations.filter fun item => item.reservation_id = row.reservation_id).map
        fun item => (item.resource_type, item.value, item.state))

/-- The row a design adds to `network_allocations` for one of its prefixes. -/
def ReservationRow.network_row (row : ReservationRow) (item : NetworkReservation) :
    NetworkAllocationRow where
  reservation_id := row.reservation_id
  allocation_domain := row.allocation_domain
  resource_pool_id := item.resource_pool_id
  fabric_id := row.fabric_id
  pfx := item.pfx
  state := .reserved
  created_at := row.created_at
  updated_at := row.updated_at

/-- The row a design adds to `scalar_allocations` for one of its scalars. -/
def ReservationRow.scalar_row (row : ReservationRow) (item : ScalarReservation) :
    ScalarAllocationRow where
  reservation_id := row.reservation_id
  allocation_domain := row.allocation_domain
  resource_type := item.resource_type
  fabric_id := row.fabric_id
  value := item.value
  state := .reserved
  created_at := row.created_at
  updated_at := row.updated_at

def reserve_design (platform : Platform) (derive_fabric_intent : Derive)
    (requirements policy : Value) (idempotency_key actor : String) (ambient : Ambient)
    (store : Store) : Py ((ReservationRecord × Bool) × Store) := do
  raise_if (len (strip idempotency_key) < 12)
    (ValueError "idempotency_key must contain at least 12 characters")
  let key_hash := platform.sha256 (chars (strip idempotency_key))
  let requirements_hash := platform.sha256_json requirements
  let policy_hash := platform.sha256_json policy
  let _domain_lock := (← requirements.getD "allocation_domain" (.str "")).toStr
  match store.design_reservations.find? fun row =>
      row.idempotency_key_hash = key_hash ∧ row.state.active with
  | some existing =>
    raise_if (existing.requirements_hash ≠ requirements_hash || existing.policy_hash ≠ policy_hash)
      (ConflictError "Idempotency key is already bound to different requirements or policy")
    return ((_design_reservation_record store existing, false), store)
  | none =>
    let derived ← derive_fabric_intent requirements policy store.network_ledger store.scalar_ledger
    let reservation_id := "reservation_" ++ ambient.uuid4_hex 0
    let created_at := isoformat (ambient.utc_now 0)
    raise_if (store.find_reservation reservation_id).isSome
      (IntegrityError "design_reservations.reservation_id")
    raise_if
      (store.design_reservations.any fun row =>
        row.reservation_hash = derived.reservation_hash ∧ row.state.active)
      (IntegrityError "design_reservations.reservation_hash")
    let row : ReservationRow := {
      reservation_id
      idempotency_key_hash := key_hash
      requirements_hash := derived.requirements_hash
      policy_hash := derived.policy_hash
      reservation_hash := derived.reservation_hash
      allocation_domain := derived.allocation_domain
      fabric_id := derived.fabric_id
      state := .reserved
      intent := derived.intent.stored
      created_at
      updated_at := created_at
      created_by := actor }
    let payload : Value := .dict [
      ("allocation_domain", .str derived.allocation_domain),
      ("fabric_id", .str derived.fabric_id),
      ("requirements_hash", .str derived.requirements_hash),
      ("policy_hash", .str derived.policy_hash),
      ("reservation_hash", .str derived.reservation_hash)]
    let inserted := { store with
      design_reservations := store.design_reservations ++ [row]
      network_allocations := store.network_allocations ++ derived.network.map row.network_row
      scalar_allocations := store.scalar_allocations ++ derived.scalar.map row.scalar_row }
    let audited := inserted._append_audit platform "reservation" reservation_id
      "reservation.created" actor payload (ambient.utc_now 1) (ambient.uuid4_hex 1)
    return ((_design_reservation_record audited row, true), audited)

/-- `UPDATE design_reservations SET state = ?, updated_at = ? WHERE reservation_id = ?`. -/
def set_reservation_state (reservation_id : String) (state : ReservationState)
    (updated_at : String) (rows : List ReservationRow) : List ReservationRow :=
  table.update ReservationRow.reservation_id reservation_id
    (fun row => { row with state, updated_at }) rows

/-- `UPDATE network_allocations SET state = ?, updated_at = ? WHERE reservation_id = ?`. -/
def set_network_state (reservation_id : String) (state : ReservationState) (updated_at : String)
    (rows : List NetworkAllocationRow) : List NetworkAllocationRow :=
  table.update NetworkAllocationRow.reservation_id reservation_id
    (fun row => { row with state, updated_at }) rows

/-- `UPDATE scalar_allocations SET state = ?, updated_at = ? WHERE reservation_id = ?`. -/
def set_scalar_state (reservation_id : String) (state : ReservationState) (updated_at : String)
    (rows : List ScalarAllocationRow) : List ScalarAllocationRow :=
  table.update ScalarAllocationRow.reservation_id reservation_id
    (fun row => { row with state, updated_at }) rows

def transition_design_reservation (platform : Platform) (reservation_id : String)
    (new_state : ReservationState) (actor : String) (verified : Bool) (ambient : Ambient)
    (store : Store) : Py (ReservationRecord × Store) := do
  raise_if (new_state ∉ transition_design_reservation.supported)
    (ValueError "Unsupported reservation state")
  let row ← require (store.find_reservation reservation_id)
    (NotFoundError "Design reservation not found")
  raise_if (new_state ∉ transition_design_reservation.allowed row.state)
    (ConflictError
      ("Invalid reservation transition " ++ row.state.text ++ " -> " ++ new_state.text))
  raise_if (new_state = .released && !verified)
    (ConflictError "Release requires verified rollback or cleanup")
  let updated_at := isoformat (ambient.utc_now 0)
  let updated := { store with
    design_reservations :=
      set_reservation_state reservation_id new_state updated_at store.design_reservations
    network_allocations :=
      set_network_state reservation_id new_state updated_at store.network_allocations
    scalar_allocations :=
      set_scalar_state reservation_id new_state updated_at store.scalar_allocations }
  let payload : Value := .dict [
    ("previous_state", .str row.state.text),
    ("verified", .bool verified)]
  let audited := updated._append_audit platform "reservation" reservation_id
    ("reservation." ++ new_state.text) actor payload (ambient.utc_now 1) (ambient.uuid4_hex 0)
  return (_design_reservation_record audited { row with state := new_state, updated_at }, audited)

/-! ## What the operations do to the core tables -/

/-- A new reservation: reserved, under a fresh id, for a design that the allocator
derived from the active ledger. -/
structure NewReservation (derive_fabric_intent : Derive) (requirements policy : Value)
    (store : Store) (row : ReservationRow) (derived : Derived) : Prop where
  derived_eq : derive_fabric_intent requirements policy store.network_ledger store.scalar_ledger =
    .ok derived
  fresh : store.find_reservation row.reservation_id = none
  reserved : row.state = .reserved
  domain : row.allocation_domain = derived.allocation_domain
  unreserved_key : ∀ other ∈ store.design_reservations,
    other.idempotency_key_hash = row.idempotency_key_hash → other.state.active = false

/-- `reserve_design` answers from the active reservation of its key or stores one
new reservation with all its allocations. -/
theorem reserve_design_core {platform : Platform} {derive_fabric_intent : Derive}
    {requirements policy : Value} {idempotency_key actor : String} {ambient : Ambient}
    {store next : Store} {record : ReservationRecord} {created : Bool}
    (hresult : reserve_design platform derive_fabric_intent requirements policy idempotency_key actor
      ambient store = .ok ((record, created), next)) :
    (next = store ∧ record.row ∈ store.design_reservations ∧ record.row.state.active) ∨
      ∃ derived, NewReservation derive_fabric_intent requirements policy store record.row derived ∧
        next.core = { store.core with
          design_reservations := store.design_reservations ++ [record.row]
          network_allocations :=
            store.network_allocations ++ derived.network.map record.row.network_row
          scalar_allocations :=
            store.scalar_allocations ++ derived.scalar.map record.row.scalar_row } := by
  simp only [reserve_design, bind_eq_ok_iff, raise_if_eq_ok] at hresult
  obtain ⟨_, -, _, -, hresult⟩ := hresult
  split at hresult
  · rename_i existing hexisting
    simp only [bind_eq_ok_iff, raise_if_eq_ok, pure_eq_ok_iff, Prod.mk.injEq] at hresult
    obtain ⟨_, -, ⟨rfl, -⟩, rfl⟩ := hresult
    have hactive := List.find?_some hexisting
    simp only [decide_eq_true_eq] at hactive
    exact .inl ⟨rfl, List.mem_of_find?_eq_some hexisting, hactive.2⟩
  · rename_i hnone
    simp only [bind_eq_ok_iff, raise_if_eq_ok, pure_eq_ok_iff, Prod.mk.injEq] at hresult
    obtain ⟨derived, hderived, _, hfresh, _, -, ⟨rfl, -⟩, rfl⟩ := hresult
    have hnew : store.find_reservation ("reservation_" ++ ambient.uuid4_hex 0) = none := by
      simpa using hfresh
    refine .inr ⟨derived, ⟨hderived, hnew, rfl, rfl, ?_⟩, rfl⟩
    intro other hother hkey
    have hinactive := List.find?_eq_none.mp hnone other hother
    simpa [hkey, _design_reservation_record] using hinactive

/-- `transition_design_reservation` moves one reservation, with all its allocations,
along the table. -/
theorem transition_design_reservation_core {platform : Platform} {reservation_id : String}
    {new_state : ReservationState} {actor : String} {verified : Bool} {ambient : Ambient}
    {store next : Store} {record : ReservationRecord}
    (hresult : transition_design_reservation platform reservation_id new_state actor verified ambient
      store = .ok (record, next)) :
    ∃ row updated_at, store.find_reservation reservation_id = some row ∧
      new_state ∈ transition_design_reservation.allowed row.state ∧
      next.core = { store.core with
        design_reservations :=
          set_reservation_state reservation_id new_state updated_at store.design_reservations
        network_allocations :=
          set_network_state reservation_id new_state updated_at store.network_allocations
        scalar_allocations :=
          set_scalar_state reservation_id new_state updated_at store.scalar_allocations } := by
  simp only [transition_design_reservation, bind_eq_ok_iff, raise_if_eq_ok, require_eq_ok,
    pure_eq_ok_iff, Prod.mk.injEq, decide_eq_false_iff_not, not_not] at hresult
  obtain ⟨_, -, row, hfind, _, hallowed, _, -, -, rfl⟩ := hresult
  exact ⟨row, _, hfind, hallowed, rfl⟩

end orchestrator.store
