import SdaOrchestrator.Allocator.Allocations
import SdaOrchestrator.Lib.LockedTable

open python orchestrator.store orchestrator.allocator locked_table

namespace orchestrator.postgres_store

/-- A row of one of the two tables of allocations. -/
inductive Allocation where
  | network (row : NetworkAllocationRow)
  | scalar (row : ScalarAllocationRow)

inductive AllocationTable where
  | network_allocations
  | scalar_allocations
  deriving DecidableEq

def Allocation.allocation_domain : Allocation → String
  | .network row => row.allocation_domain
  | .scalar row => row.allocation_domain

def Allocation.reservation_id : Allocation → String
  | .network row => row.reservation_id
  | .scalar row => row.reservation_id

def Allocation.state : Allocation → ReservationState
  | .network row => row.state
  | .scalar row => row.state

def Allocation.table : Allocation → AllocationTable
  | .network _ => .network_allocations
  | .scalar _ => .scalar_allocations

def Allocation.network? : Allocation → Option NetworkAllocationRow
  | .network row => some row
  | .scalar _ => none

def Allocation.scalar? : Allocation → Option ScalarAllocationRow
  | .network _ => none
  | .scalar row => some row

/-- Two active allocations of a domain go together. -/
def Allocation.Apart : Allocation → Allocation → Prop
  | .network first, .network second => NetworksApart first second
  | .scalar first, .scalar second => ScalarsApart first second
  | _, _ => True

/-- A call of `reserve_design`, with what it draws from outside. -/
structure ReserveCall where
  requirements : Value
  policy : Value
  key_hash : String
  actor : String
  reservation_id : String
  created_at : String

/-- The `allocation_domain` that the call locks. -/
def ReserveCall.domain (call : ReserveCall) : String :=
  match (call.requirements.getD "allocation_domain" (.str "")).map Value.toStr with
  | .ok domain => domain
  | .error _ => ""

/-- The row of the call in `design_reservations`. -/
def ReserveCall.row (call : ReserveCall) (derived : Derived) : ReservationRow where
  reservation_id := call.reservation_id
  idempotency_key_hash := call.key_hash
  requirements_hash := derived.requirements_hash
  policy_hash := derived.policy_hash
  reservation_hash := derived.reservation_hash
  allocation_domain := derived.allocation_domain
  fabric_id := derived.fabric_id
  state := .reserved
  intent := derived.intent.stored
  created_at := call.created_at
  updated_at := call.created_at
  created_by := call.actor

theorem row_domain (call : ReserveCall) (derived : Derived) :
    (call.row derived).allocation_domain = derived.allocation_domain := rfl

section Rules

variable (hashtextextended : String → Int) (derive_fabric_intent : Derive)

/-- `pg_advisory_xact_lock(hashtextextended(...))` of a domain. -/
def allocation_lock (allocation_domain : String) : Int := hashtextextended ("allocation:" ++ allocation_domain)

/-- The rows of a call whose two SELECTs have returned: `WHERE state IN (...)` leaves the active ones. -/
def inserted_rows (call : ReserveCall) (seen : AllocationTable → Option (List Allocation)) :
    Option (List Allocation) := do
  let networks := ((← seen .network_allocations).filterMap Allocation.network?).filter (·.state.active)
  let scalars := ((← seen .scalar_allocations).filterMap Allocation.scalar?).filter (·.state.active)
  match derive_fabric_intent call.requirements call.policy (networks.map NetworkAllocationRow.ledger_item)
    (scalars.map ScalarAllocationRow.ledger_item) with
  | .ok derived => return derived.network.map (.network <| (call.row derived).network_row ·) ++
      derived.scalar.map (.scalar <| (call.row derived).scalar_row ·)
  | .error _ => none

/-- `reserve_design` on PostgreSQL: the lock of its domain comes before its SELECTs, and is kept to the end. -/
def reserve_design : Rules Allocation Int ReserveCall AllocationTable where
  lock call := allocation_lock hashtextextended call.domain
  row_lock row := allocation_lock hashtextextended row.allocation_domain
  row_table := Allocation.table
  derive := inserted_rows derive_fabric_intent
  Apart := Allocation.Apart

end Rules

/-! ## The rows of a call go with those it has read -/

section Sound

variable {hashtextextended : String → Int} {platform : Platform} {upper : String → String} {documents : Documents}

theorem Allocation.Apart.symm {first second : Allocation} (hapart : first.Apart second) : second.Apart first := by
  cases first with
  | network first =>
    cases second with
    | network second => exact NetworksApart.symm hapart
    | scalar second => trivial
  | scalar first =>
    cases second with
    | network second => trivial
    | scalar second => exact ScalarsApart.symm hapart

theorem apart_of_domain_ne {first second : Allocation} (hne : first.allocation_domain ≠ second.allocation_domain) :
    first.Apart second := by
  cases first with
  | network first =>
    cases second with
    | network second => exact fun _ _ hdomain => absurd hdomain hne
    | scalar second => trivial
  | scalar first =>
    cases second with
    | network second => trivial
    | scalar second => exact fun _ _ hdomain => absurd hdomain hne

/-- What a call inserts comes from one derivation on the active rows that it has read. -/
theorem exists_derived {call : ReserveCall} {seen : AllocationTable → Option (List Allocation)} {rows : List Allocation}
    (hrows : inserted_rows (derive_documents platform upper documents) call seen = some rows) :
    ∃ networks scalars derived, seen .network_allocations = some networks ∧ seen .scalar_allocations = some scalars ∧
      derive_documents platform upper documents call.requirements call.policy
        (((networks.filterMap Allocation.network?).filter (·.state.active)).map NetworkAllocationRow.ledger_item)
        (((scalars.filterMap Allocation.scalar?).filter (·.state.active)).map ScalarAllocationRow.ledger_item) =
          .ok derived ∧
      rows = (derived.network.map (call.row derived).network_row).map .network ++
        (derived.scalar.map (call.row derived).scalar_row).map .scalar := by
  simp only [inserted_rows, Option.bind_eq_bind, Option.bind_eq_some_iff] at hrows
  obtain ⟨networks, hnetworks, scalars, hscalars, hrows⟩ := hrows
  split at hrows
  · rename_i derived hderived
    refine ⟨networks, scalars, derived, hnetworks, hscalars, hderived, ?_⟩
    rw [← Option.some.inj hrows, List.map_map, List.map_map]
    rfl
  · cases hrows

theorem reserve_design_sound : (reserve_design hashtextextended (derive_documents platform upper documents)).Sound where
  symm := Allocation.Apart.symm
  other_lock hne := apart_of_domain_ne fun hdomain => hne (congrArg (allocation_lock hashtextextended) hdomain)
  own_lock {call seen rows} hrows row hrow := by
    obtain ⟨networks, scalars, derived, -, -, hderived, rfl⟩ := exists_derived hrows
    have hdomain : call.domain = derived.allocation_domain := by
      rw [ReserveCall.domain, domain_of_derived hderived]
    show allocation_lock hashtextextended row.allocation_domain = allocation_lock hashtextextended call.domain
    rw [hdomain]
    obtain hrow | hrow := List.mem_append.mp hrow
    · rw [List.map_map] at hrow
      obtain ⟨item, -, rfl⟩ := List.mem_map.mp hrow
      rfl
    · rw [List.map_map] at hrow
      obtain ⟨item, -, rfl⟩ := List.mem_map.mp hrow
      rfl
  pairwise {call seen rows} hrows := by
    obtain ⟨networks, scalars, derived, -, -, hderived, rfl⟩ := exists_derived hrows
    obtain ⟨hnetworks, -⟩ := derived_networks_apart hderived (row_domain call derived)
    obtain ⟨hscalars, -⟩ := derived_scalars_apart hderived (row_domain call derived)
    refine List.pairwise_append.mpr ⟨List.pairwise_map.mpr hnetworks, List.pairwise_map.mpr hscalars, ?_⟩
    intro first hfirst second hsecond
    obtain ⟨network, -, rfl⟩ := List.mem_map.mp hfirst
    obtain ⟨scalar, -, rfl⟩ := List.mem_map.mp hsecond
    trivial
  free {call seen rows} hrows table := by
    obtain ⟨networks, scalars, derived, hnetworks_seen, hscalars_seen, hderived, rfl⟩ := exists_derived hrows
    obtain ⟨-, hnetworks⟩ := derived_networks_apart hderived (row_domain call derived)
    obtain ⟨-, hscalars⟩ := derived_scalars_apart hderived (row_domain call derived)
    have hactive_mem {α : Type} {state : α → ReservationState} {active? : Allocation → Option α} {rows : List Allocation}
        {old : Allocation} {row : α} (hold : old ∈ rows) (hrow : active? old = some row) (hactive : (state row).active) :
        row ∈ (rows.filterMap active?).filter fun row => (state row).active :=
      List.mem_filter.mpr ⟨List.mem_filterMap.mpr ⟨old, hold, hrow⟩, hactive⟩
    cases table with
    | network_allocations =>
      refine ⟨networks, hnetworks_seen, fun old hold htable row hrow => ?_⟩
      cases old with
      | scalar old => cases htable
      | network old =>
        obtain hrow | hrow := List.mem_append.mp hrow
        · obtain ⟨added, hadded, rfl⟩ := List.mem_map.mp hrow
          exact fun hactive => (hnetworks added hadded).2 old (hactive_mem hold rfl hactive) hactive
        · obtain ⟨added, -, rfl⟩ := List.mem_map.mp hrow
          trivial
    | scalar_allocations =>
      refine ⟨scalars, hscalars_seen, fun old hold htable row hrow => ?_⟩
      cases old with
      | network old => cases htable
      | scalar old =>
        obtain hrow | hrow := List.mem_append.mp hrow
        · obtain ⟨added, -, rfl⟩ := List.mem_map.mp hrow
          trivial
        · obtain ⟨added, hadded, rfl⟩ := List.mem_map.mp hrow
          exact fun hactive => hscalars added hadded old (hactive_mem hold rfl hactive) hactive

/-! ## Transitions -/

/-- `UPDATE ... SET state = ?, updated_at = ? WHERE reservation_id = ?` of a row of either table. -/
def Allocation.set_state (reservation_id : String) (state : ReservationState) (updated_at : String)
    (row : Allocation) : Allocation :=
  if row.reservation_id = reservation_id then
    match row with
    | .network row => .network { row with state, updated_at }
    | .scalar row => .scalar { row with state, updated_at }
  else row

/-- A transition that its row allows at the time of the UPDATE takes nothing that goes with the row. -/
theorem weakens_of_allowed {reservation_id updated_at : String} {state : ReservationState} {row : Allocation}
    (hallowed : row.reservation_id = reservation_id → state ∈ transition_design_reservation.allowed row.state) :
    (reserve_design hashtextextended (derive_documents platform upper documents)).Weakens row
      (row.set_state reservation_id state updated_at) := by
  unfold Allocation.set_state
  split
  · rename_i hsame
    have hactive := active_of_allowed (hallowed hsame)
    cases row with
    | network row =>
      refine ⟨rfl, rfl, fun other hapart => ?_⟩
      cases other with
      | network other => exact fun _ => hapart hactive
      | scalar other => trivial
    | scalar row =>
      refine ⟨rfl, rfl, fun other hapart => ?_⟩
      cases other with
      | network other => trivial
      | scalar other => exact fun _ => hapart hactive
  · exact ⟨rfl, rfl, fun _ hapart => hapart⟩

end Sound

/-! ## All interleavings -/

/-- What the transactions on the two tables do: those of `reserve_design` in any interleaving, and transitions of a
reservation whose check still holds when its UPDATE runs. -/
inductive AllocationStep (hashtextextended : String → Int) (derive_fabric_intent : Derive) (call : Nat → ReserveCall)
    (db : Database Allocation Int AllocationTable) :
    Nat × Statement Allocation AllocationTable → Database Allocation Int AllocationTable → Prop where
  | reserve (label : Nat × Statement Allocation AllocationTable) {next : Database Allocation Int AllocationTable} :
    label.2.is_update = false →
    Step (reserve_design hashtextextended derive_fabric_intent) call db label next →
      AllocationStep hashtextextended derive_fabric_intent call db label next
  | transition {tx : Nat} {reservation_id updated_at : String} {state : ReservationState} :
    (∀ row ∈ db.committed, row.reservation_id = reservation_id →
      state ∈ transition_design_reservation.allowed row.state) →
      AllocationStep hashtextextended derive_fabric_intent call db
        (tx, .update (Allocation.set_state reservation_id state updated_at))
        { db with committed := db.committed.map (Allocation.set_state reservation_id state updated_at) }

/-- Two calls for the domain of the lab. -/
def lab_call (tx : Nat) : ReserveCall where
  requirements := .dict [("allocation_domain", .str "lab")]
  policy := .dict []
  key_hash := toString tx
  actor := "planner"
  reservation_id := s!"reservation_{tx}"
  created_at := "2025-01-15T12:00:00+00:00"

theorem lab_rows : ∃ rows, inserted_rows (derive_documents cpython lab_upper lab_documents) (lab_call 0)
    (fun _ => some []) = some rows ∧ rows.length = 45 := by
  have hmap : (inserted_rows (derive_documents cpython lab_upper lab_documents) (lab_call 0)
      (fun _ => some [])).map List.length = some 45 := by decide +kernel
  exact Option.map_eq_some_iff.mp hmap

end orchestrator.postgres_store
