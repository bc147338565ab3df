import SdaOrchestrator.Allocator.Sound
import SdaOrchestrator.Store.Valid

open python ipaddress orchestrator.store

namespace orchestrator.allocator

open orchestrator.intent

/-! ## The derivation on documents -/

/-- What reads the documents of a request and writes the intent. -/
structure Documents where
  requirements : Value → Py Requirements
  policy : Value → Py Policy
  intent : DerivedIntent → Value
  /-- The requirements keep their allocation domain. -/
  domain_eq : ∀ {document asked}, requirements document = .ok asked →
    (document.getD "allocation_domain" (.str "")).map Value.toStr = .ok asked.allocation_domain

/-- A row of the ledger of networks. -/
def network_row (item : Value) : Py NetworkRow := do
  return {
    allocation_domain := Value.optStr (← item.get "allocation_domain")
    resource_pool_id := Value.optStr (← item.get "resource_pool_id")
    state := (← item.get "state").map Value.toStr
    pfx := (← item.item "prefix").toStr }

/-- A row of the ledger of scalars. -/
def scalar_row (item : Value) : Py ScalarRow := do
  return {
    allocation_domain := Value.optStr (← item.get "allocation_domain")
    resource_type := Value.optStr (← item.get "resource_type")
    state := (← item.get "state").map Value.toStr
    value := (← item.item "value").toStr }

def NetworkReservation.document (item : NetworkReservation) : Value :=
  .dict [("allocation_domain", .str item.allocation_domain), ("resource_pool_id", .str item.resource_pool_id),
    ("prefix", .str item.pfx), ("state", .str item.state)]

def ScalarReservation.document (item : ScalarReservation) : Value :=
  .dict [("allocation_domain", .str item.allocation_domain), ("resource_type", .str item.resource_type),
    ("value", .str item.value), ("state", .str item.state)]

/-- `reservation_body`. -/
def Reservations.document (reservations : Reservations) : Value :=
  .dict [("allocation_domain", .str reservations.allocation_domain), ("fabric_id", .str reservations.fabric_id),
    ("network", .list (reservations.network.map NetworkReservation.document)),
    ("scalar", .list (reservations.scalar.map ScalarReservation.document))]

/-- `derive_fabric_intent` with its hashes, as the store calls it. -/
def derive_documents (platform : Platform) (upper : String → String) (documents : Documents) : Derive :=
  fun requirements policy network_ledger scalar_ledger => do
    let network_rows ← network_ledger.mapM network_row
    let scalar_rows ← scalar_ledger.mapM scalar_row
    let derived ← derive_fabric_intent platform upper (← documents.policy policy)
      (← documents.requirements requirements) network_rows scalar_rows
    let reservations := derived.reservations
    return {
      intent := documents.intent derived.intent
      requirements_hash := platform.sha256_json requirements
      policy_hash := platform.sha256_json policy
      reservation_hash := platform.sha256_json reservations.document
      allocation_domain := reservations.allocation_domain
      fabric_id := reservations.fabric_id
      network := reservations.network.map fun item => { resource_pool_id := item.resource_pool_id, pfx := item.pfx }
      scalar := reservations.scalar.map fun item => { resource_type := item.resource_type, value := item.value } }

/-! ## Allocations that go together -/

/-- Two active prefixes of a pool have no address in common. -/
def NetworksApart (first second : NetworkAllocationRow) : Prop :=
  first.state.active → second.state.active → first.allocation_domain = second.allocation_domain →
    first.resource_pool_id = second.resource_pool_id → Disjoint first.pfx second.pfx

/-- Two active scalars of a type differ. -/
def ScalarsApart (first second : ScalarAllocationRow) : Prop :=
  first.state.active → second.state.active → first.allocation_domain = second.allocation_domain →
    first.resource_type = second.resource_type → first.value ≠ second.value

theorem NetworksApart.symm {first second : NetworkAllocationRow} (hapart : NetworksApart first second) :
    NetworksApart second first :=
  fun hsecond hfirst hdomain hpool => (hapart hfirst hsecond hdomain.symm hpool.symm).symm

theorem ScalarsApart.symm {first second : ScalarAllocationRow} (hapart : ScalarsApart first second) :
    ScalarsApart second first :=
  fun hsecond hfirst hdomain htype => (hapart hfirst hsecond hdomain.symm htype.symm).symm

theorem network_row_ledger_item (row : NetworkAllocationRow) : network_row row.ledger_item = .ok {
    allocation_domain := row.allocation_domain
    resource_pool_id := row.resource_pool_id
    state := some row.state.text
    pfx := row.pfx } := rfl

theorem scalar_row_ledger_item (row : ScalarAllocationRow) : scalar_row row.ledger_item = .ok {
    allocation_domain := row.allocation_domain
    resource_type := row.resource_type
    state := some row.state.text
    value := row.value } := rfl

/-- The rows of the ledger that keep their resource are the active ones. -/
theorem holds_text (state : ReservationState) : holds (some state.text) = state.active := by
  cases state <;> decide

section Derived

variable {platform : Platform} {upper : String → String} {documents : Documents} {requirements policy : Value}
  {network_rows : List NetworkAllocationRow} {scalar_rows : List ScalarAllocationRow} {derived : Derived}
  (hok : derive_documents platform upper documents requirements policy
    (network_rows.map NetworkAllocationRow.ledger_item) (scalar_rows.map ScalarAllocationRow.ledger_item) = .ok derived)

include hok

/-- The derivation behind the one on documents, with what it keeps of the ledgers. -/
theorem exists_derivation : ∃ asked guardrails found networks scalars, documents.requirements requirements = .ok asked ∧
    derive_fabric_intent platform upper guardrails asked networks scalars = .ok found ∧
    (∀ row ∈ network_rows, ∃ item ∈ networks, item.allocation_domain = row.allocation_domain ∧
      item.resource_pool_id = row.resource_pool_id ∧ holds item.state = row.state.active ∧ item.pfx = row.pfx) ∧
    (∀ row ∈ scalar_rows, ∃ item ∈ scalars, item.allocation_domain = row.allocation_domain ∧
      item.resource_type = row.resource_type ∧ holds item.state = row.state.active ∧ item.value = row.value) ∧
    derived.allocation_domain = found.reservations.allocation_domain ∧
    derived.network = found.reservations.network.map (fun item =>
      { resource_pool_id := item.resource_pool_id, pfx := item.pfx }) ∧
    derived.scalar = found.reservations.scalar.map (fun item =>
      { resource_type := item.resource_type, value := item.value }) := by
  simp only [derive_documents, bind_eq_ok_iff, pure_eq_ok_iff] at hok
  obtain ⟨networks, hnetworks, scalars, hscalars, guardrails, -, asked, hasked, found, hfound, rfl⟩ := hok
  refine ⟨asked, guardrails, found, networks, scalars, hasked, hfound, ?_, ?_, rfl, rfl, rfl⟩
  · intro row hrow
    obtain ⟨item, hitem, hread⟩ := exists_of_mapM hnetworks (List.mem_map_of_mem hrow)
    obtain rfl := Except.ok.inj ((network_row_ledger_item row).symm.trans hread)
    exact ⟨_, hitem, rfl, rfl, holds_text row.state, rfl⟩
  · intro row hrow
    obtain ⟨item, hitem, hread⟩ := exists_of_mapM hscalars (List.mem_map_of_mem hrow)
    obtain rfl := Except.ok.inj ((scalar_row_ledger_item row).symm.trans hread)
    exact ⟨_, hitem, rfl, rfl, holds_text row.state, rfl⟩

/-- The reservations are for the domain that the transaction locks. -/
theorem domain_of_derived :
    (requirements.getD "allocation_domain" (.str "")).map Value.toStr = .ok derived.allocation_domain := by
  obtain ⟨asked, guardrails, found, networks, scalars, hasked, hfound, -, -, hdomain, -, -⟩ := exists_derivation hok
  obtain ⟨stages⟩ := exists_stages hfound
  rw [documents.domain_eq hasked, hdomain]
  exact congrArg (fun fabric => Except.ok fabric.reservations.allocation_domain) stages.derived_eq.symm

/-- The rows of new networks name networks, and go with one another and with those of the ledger. -/
theorem derived_networks_apart {reservation : ReservationRow}
    (hdomain : reservation.allocation_domain = derived.allocation_domain) :
    (derived.network.map reservation.network_row).Pairwise NetworksApart ∧
      ∀ added ∈ derived.network.map reservation.network_row, (∃ network, _network added.pfx = .ok network) ∧
        ∀ row ∈ network_rows, NetworksApart row added := by
  obtain ⟨asked, guardrails, found, networks, scalars, hasked, hfound, hrows, -, hfound_domain, hnetwork, -⟩ :=
    exists_derivation hok
  obtain ⟨stages⟩ := exists_stages hfound
  have hasked_domain : found.reservations.allocation_domain = asked.allocation_domain :=
    congrArg (fun fabric => fabric.reservations.allocation_domain) stages.derived_eq
  rw [hnetwork, List.map_map]
  constructor
  · rw [List.pairwise_map]
    exact stages.networks_pairwise.imp fun hdisjoint _ _ _ hpool => hdisjoint hpool
  · intro added hadded
    obtain ⟨item, hitem, rfl⟩ := List.mem_map.mp hadded
    obtain ⟨-, supernet, network, hsupernet, hnamed, -⟩ := stages.network_admitted item hitem
    refine ⟨⟨network, hnamed⟩, ?_⟩
    intro row hrow hactive _ hrow_domain hrow_pool
    obtain ⟨kept, hkept, hkept_domain, hkept_pool, hholds, hpfx⟩ := hrows row hrow
    obtain ⟨pool, hpool, -⟩ := bind_eq_ok_iff.mp hsupernet
    rw [require_eq_ok] at hpool
    refine stages.network_free hitem hpool (.inr ⟨kept, hkept, ?_, hkept_pool.trans hrow_pool, hholds.trans hactive, hpfx⟩)
    exact hkept_domain.trans (hrow_domain.trans (hdomain.trans (hfound_domain.trans hasked_domain)))

/-- The rows of new scalars go with one another and with those of the ledger. -/
theorem derived_scalars_apart {reservation : ReservationRow}
    (hdomain : reservation.allocation_domain = derived.allocation_domain) :
    (derived.scalar.map reservation.scalar_row).Pairwise ScalarsApart ∧
      ∀ added ∈ derived.scalar.map reservation.scalar_row, ∀ row ∈ scalar_rows, ScalarsApart row added := by
  obtain ⟨asked, guardrails, found, networks, scalars, hasked, hfound, -, hrows, hfound_domain, -, hscalar⟩ :=
    exists_derivation hok
  obtain ⟨stages⟩ := exists_stages hfound
  have hasked_domain : found.reservations.allocation_domain = asked.allocation_domain :=
    congrArg (fun fabric => fabric.reservations.allocation_domain) stages.derived_eq
  rw [hscalar, List.map_map]
  constructor
  · have hnodup := stages.scalars_nodup
    rw [List.Nodup, List.pairwise_map] at hnodup
    rw [List.pairwise_map]
    exact hnodup.imp fun hne _ _ _ htype hvalue => hne (Prod.ext htype hvalue)
  · intro added hadded row hrow hactive _ hrow_domain hrow_type
    obtain ⟨item, hitem, rfl⟩ := List.mem_map.mp hadded
    obtain ⟨kept, hkept, hkept_domain, hkept_type, hholds, hvalue⟩ := hrows row hrow
    rw [← hvalue]
    refine stages.scalar_free hitem hkept ?_ (hkept_type.trans hrow_type) (hholds.trans hactive)
    exact hkept_domain.trans (hrow_domain.trans (hdomain.trans (hfound_domain.trans hasked_domain)))

end Derived

/-! ## All active allocations, in every run -/

/-- The active allocations go together, and every prefix is one. -/
structure AllocationsApart (tables : CoreTables) : Prop where
  named : ∀ row ∈ tables.network_allocations, ∃ network, _network row.pfx = .ok network
  networks : tables.network_allocations.Pairwise NetworksApart
  scalars : tables.scalar_allocations.Pairwise ScalarsApart

/-- A released reservation stays released. -/
theorem active_of_allowed {state new_state : ReservationState}
    (hallowed : new_state ∈ transition_design_reservation.allowed state) : state.active := by
  cases state with
  | released => cases hallowed
  | _ => rfl

theorem pairwise_update {α : Type} {key : α → String} {reservation_id : String} {change : α → α} {R : α → α → Prop}
    {rows : List α} (hsymm : ∀ {first second}, R first second → R second first)
    (hchange : ∀ row ∈ rows, key row = reservation_id → ∀ other, R row other → R (change row) other)
    (hrows : rows.Pairwise R) : (table.update key reservation_id change rows).Pairwise R := by
  have hkeeps (row : α) (hrow : row ∈ rows) (other : α) (hother : R row other) :
      R (if key row = reservation_id then change row else row) other := by
    split
    · exact hchange row hrow ‹_› other hother
    · exact hother
  rw [table.update, List.pairwise_map]
  refine hrows.imp_of_mem fun {first second} hfirst hsecond hpair => ?_
  exact hsymm (hkeeps second hsecond _ (hsymm (hkeeps first hfirst second hpair)))

theorem effect_apart {platform : Platform} {upper : String → String} {documents : Documents} {store : Store}
    {transaction : Transaction} {tables : CoreTables} (hvalid : store.core.Valid) (hapart : AllocationsApart store.core)
    (heffect : Effect (derive_documents platform upper documents) store transaction tables) :
    AllocationsApart tables := by
  cases heffect with
  | @reserve _ _ _ _ row derived hnew =>
    obtain ⟨hpairwise, hadded⟩ := derived_networks_apart hnew.derived_eq hnew.domain
    obtain ⟨hscalar_pairwise, hscalar_added⟩ := derived_scalars_apart hnew.derived_eq hnew.domain
    refine ⟨?_, ?_, ?_⟩
    · intro item hitem
      obtain hold | hnew_row := List.mem_append.mp hitem
      · exact hapart.named item hold
      · exact (hadded item hnew_row).1
    · refine List.pairwise_append.mpr ⟨hapart.networks, hpairwise, fun old hold added hmem hactive => ?_⟩
      exact (hadded added hmem).2 old (List.mem_filter.mpr ⟨hold, hactive⟩) hactive
    · refine List.pairwise_append.mpr ⟨hapart.scalars, hscalar_pairwise, fun old hold added hmem hactive => ?_⟩
      exact hscalar_added added hmem old (List.mem_filter.mpr ⟨hold, hactive⟩) hactive
  | @move reservation_id new_state _ _ row updated_at hfind hallowed =>
    have hstate {found : ReservationRow} {reference : String} (hreference : reference = reservation_id)
        (hfound : table.lookup ReservationRow.reservation_id reference store.design_reservations = some found) :
        found.state = row.state := by
      rw [hreference] at hfound
      exact congrArg ReservationRow.state (Option.some.inj (hfound.symm.trans hfind))
    refine ⟨?_, ?_, ?_⟩
    · intro item hitem
      obtain ⟨old, hold, rfl⟩ := table.mem_update.mp hitem
      split <;> exact hapart.named old hold
    · refine pairwise_update NetworksApart.symm (fun item hitem hkey other hpair _ => hpair ?_) hapart.networks
      obtain ⟨found, hfound, hsame⟩ := hvalid.network_state item hitem
      rw [hsame, hstate hkey hfound]
      exact active_of_allowed hallowed
    · refine pairwise_update ScalarsApart.symm (fun item hitem hkey other hpair _ => hpair ?_) hapart.scalars
      obtain ⟨found, hfound, hsame⟩ := hvalid.scalar_state item hitem
      rw [hsame, hstate hkey hfound]
      exact active_of_allowed hallowed
  | _ => exact ⟨hapart.named, hapart.networks, hapart.scalars⟩

theorem empty_apart : AllocationsApart ({} : Store).core where
  named := List.forall_mem_nil _
  networks := .nil
  scalars := .nil

/-- Whatever calls a store has seen, no two of its active prefixes of a domain and pool overlap and no two of its
active scalars of a domain and type are the same. -/
theorem active_allocations_apart (platform : Platform) (upper : String → String) (documents : Documents)
    (calls : List (Transaction × Ambient)) :
    AllocationsApart (after_calls platform (derive_documents platform upper documents) calls).core := by
  have hboth : (after_calls platform (derive_documents platform upper documents) calls).core.Valid ∧
      AllocationsApart (after_calls platform (derive_documents platform upper documents) calls).core := by
    induction calls using List.reverseRecOn with
    | nil => exact ⟨empty_valid, empty_apart⟩
    | append_singleton calls call ih =>
      rw [after_calls_concat]
      obtain hstep | hsame := called_cases platform (derive_documents platform upper documents)
        (after_calls platform (derive_documents platform upper documents) calls) call
      · exact ⟨step_valid ih.1 hstep, effect_apart ih.1 ih.2 (perform_effect hstep)⟩
      · rw [hsame]
        exact ih
  exact hboth.2

/-- The documents of the lab: its design, for the domain that the document of the requirements names. -/
def lab_documents : Documents where
  requirements document := do
    return { lab_requirements with allocation_domain := (← document.getD "allocation_domain" (.str "")).toStr }
  policy _ := .ok lab_policy
  intent derived := .dict [("fabric", .dict [("id", .str derived.fabric.id)])]
  domain_eq {document asked} hok := by
    obtain ⟨found, hfound, hasked⟩ := bind_eq_ok_iff.mp hok
    rw [hfound, ← pure_eq_ok_iff.mp hasked]
    rfl

end orchestrator.allocator
