import SdaOrchestrator.Lib.Subnets
import SdaOrchestrator.Store.Tables

open python ipaddress orchestrator.store

namespace orchestrator.allocator

def AllocationError (message : String) : Raised := ⟨"AllocationError", message⟩

/-! ## Guardrails -/

/-- A supernet of the guardrails. -/
structure PoolPolicy where
  cidr : Option String
  prefix_len : Option Int
  reserved : List String

/-- A range of scalars of the guardrails. -/
structure RangePolicy where
  min : Option Int
  max : Option Int
  base : Option Int
  reserved : List Int
  reserved_ranges : List (List Int)

/-! ## The ledger -/

structure NetworkRow where
  allocation_domain : String
  resource_pool_id : String
  state : Option String
  pfx : String

structure ScalarRow where
  allocation_domain : String
  resource_type : String
  state : Option String
  value : String

/-- The state of a row keeps its resource from others. -/
def holds (state : Option String) : Bool := state.getD "reserved" ∈ ["reserved", "committed", "quarantined"]

/-- `_network(value)`. -/
def _network (value : String) : Py IPv4Network :=
  match ip_network value with
  | .ipv4 network => .ok network
  | .ipv6 => .error (AllocationError "Only IPv4 allocation pools are supported")
  | .invalid => .error (AllocationError ("Invalid IPv4 prefix " ++ reprText value))

/-- `_active_networks(ledger, domain, pool_id)`. -/
def _active_networks (ledger : List NetworkRow) (domain pool_id : String) : Py (List IPv4Network) :=
  (ledger.filter fun item => item.allocation_domain = domain && item.resource_pool_id = pool_id &&
    holds item.state).mapM fun item => _network item.pfx

/-- `_active_scalars(ledger, domain, resource_type)`. -/
def _active_scalars (ledger : List ScalarRow) (domain resource_type : String) : List String :=
  (ledger.filter fun item => item.allocation_domain = domain && item.resource_type = resource_type &&
    holds item.state).map ScalarRow.value

/-- `_policy_reserved_networks(pool_id, pool)`. -/
def _policy_reserved_networks (pool_id : String) (pool : PoolPolicy) : Py (List IPv4Network) := do
  let supernet ← _network (← require pool.cidr (KeyError "cidr"))
  pool.reserved.mapM fun raw_prefix => do
    let reserved ← _network raw_prefix
    raise_if (!reserved.subnet_of supernet) (AllocationError
      s!"Reserved prefix {reserved.str} is outside guardrail pool {pool_id} ({supernet.str})")
    return reserved

/-- The numbers from `start` to `last`. -/
def inclusive (start last : Int) : List Int :=
  (List.range (last + 1 - start).toNat).map fun offset => start + (offset : Int)

/-- `_policy_reserved_scalars(resource_type, range_policy)`. -/
def _policy_reserved_scalars (resource_type : String) (range_policy : RangePolicy) : Py (List String) := do
  let minimum := range_policy.min.getD (range_policy.base.getD 0)
  let maximum := range_policy.max.getD minimum
  let ranges ← range_policy.reserved_ranges.mapM fun bounds =>
    match bounds with
    | [start, last] => do
      raise_if (last < start)
        (AllocationError s!"Reserved range for {resource_type} has end before start")
      return inclusive start last
    | _ => .error (AllocationError s!"Reserved range for {resource_type} must contain [start, end]")
  let reserved := range_policy.reserved ++ ranges.flatten
  match sortedBy id (reserved.filter fun value => value < minimum || maximum < value) with
  | outside :: _ =>
    .error (AllocationError s!"Reserved {resource_type} value {outside} is outside {minimum}-{maximum}")
  | [] => return reserved.map toString

/-! ## First fit -/

/-- `_first_prefix(supernet, prefix_len, excluded)`. -/
def _first_prefix (supernet : IPv4Network) (prefix_len : Int) (excluded : List IPv4Network) : Py IPv4Network :=
  if h : supernet.prefixlen ≤ prefix_len.toNat ∧ prefix_len.toNat ≤ 32 ∧ 0 ≤ prefix_len then
    match supernet.first_free prefix_len.toNat h.1 h.2.1 excluded with
    | some candidate => .ok candidate
    | none => .error (AllocationError s!"Address pool {supernet.str} is exhausted for /{prefix_len}")
  else .error (AllocationError s!"Prefix length /{prefix_len} cannot be carved from {supernet.str}")

/-- `_first_scalar(minimum, maximum, excluded, label)`. -/
def _first_scalar (minimum maximum : Int) (excluded : List String) (label : String) : Py Int :=
  let free (offset : Nat) : Bool := toString (minimum + offset) ∉ excluded
  match firstfit.first free 0 (maximum + 1 - minimum).toNat with
  | some offset => .ok (minimum + offset)
  | none => .error (AllocationError s!"Scalar pool {label} is exhausted")

/-! ## What is taken -/

/-- The scalars that the ledger keeps. -/
inductive Kind where
  | vlan_id | l2_instance_id | l3_instance_id | asn | sgt | lisp_domain_id | lisp_multihoming_id
  deriving DecidableEq

def Kind.text : Kind → String
  | .vlan_id => "vlan_id"
  | .l2_instance_id => "l2_instance_id"
  | .l3_instance_id => "l3_instance_id"
  | .asn => "asn"
  | .sgt => "sgt"
  | .lisp_domain_id => "lisp_domain_id"
  | .lisp_multihoming_id => "lisp_multihoming_id"

/-- `scalar_range_names`. -/
def Kind.range_name : Kind → String
  | .asn => "bgp_asn_local"
  | kind => kind.text

structure NetworkReservation where
  allocation_domain : String
  resource_pool_id : String
  pfx : String
  state : String
  deriving DecidableEq

structure ScalarReservation where
  allocation_domain : String
  resource_type : String
  value : String
  state : String
  deriving DecidableEq

/-- What is taken so far, and what the caller must reserve. -/
structure Taken where
  network_taken : List (String × List IPv4Network)
  scalar_taken : Kind → List String
  net_reservations : List NetworkReservation
  scalar_reservations : List ScalarReservation

/-- What is taken before the first reservation. -/
def initial_taken (supernets : List (String × PoolPolicy)) (ranges : List (String × RangePolicy))
    (network_ledger : List NetworkRow) (scalar_ledger : List ScalarRow) (domain : String) : Py Taken := do
  let network_taken ← supernets.mapM fun (pool_id, pool) => do
    return (pool_id, (← _active_networks network_ledger domain pool_id) ++ (← _policy_reserved_networks pool_id pool))
  let taken_of (kind : Kind) : Py (List String) := do
    let active := _active_scalars scalar_ledger domain kind.text
    match assoc.lookup kind.range_name ranges with
    | some range_policy => return active ++ (← _policy_reserved_scalars kind.text range_policy)
    | none => return active
  let vlan_id ← taken_of .vlan_id
  let l2_instance_id ← taken_of .l2_instance_id
  let l3_instance_id ← taken_of .l3_instance_id
  let asn ← taken_of .asn
  let sgt ← taken_of .sgt
  let lisp_domain_id ← taken_of .lisp_domain_id
  let lisp_multihoming_id ← taken_of .lisp_multihoming_id
  return {
    network_taken
    scalar_taken := fun
      | .vlan_id => vlan_id
      | .l2_instance_id => l2_instance_id
      | .l3_instance_id => l3_instance_id
      | .asn => asn
      | .sgt => sgt
      | .lisp_domain_id => lisp_domain_id
      | .lisp_multihoming_id => lisp_multihoming_id
    net_reservations := []
    scalar_reservations := [] }

/-- The value is taken, and reserved in the domain. -/
def Taken.take (taken : Taken) (domain : String) (kind : Kind) (value : Int) : Taken :=
  { taken with
    scalar_taken := fun other =>
      if other = kind then toString value :: taken.scalar_taken other else taken.scalar_taken other
    scalar_reservations := taken.scalar_reservations ++ [{
      allocation_domain := domain, resource_type := kind.text, value := toString value, state := "reserved" }] }

section Reserve

variable (supernets : List (String × PoolPolicy)) (domain : String)

/-- `reserve_prefix(pool_id, prefix_len)`. -/
def reserve_prefix (pool_id : String) (prefix_len : Int) (taken : Taken) : Py (IPv4Network × Taken) := do
  let pool ← require (assoc.lookup pool_id supernets) (KeyError pool_id)
  let supernet ← _network (← require pool.cidr (KeyError "cidr"))
  let excluded ← require (assoc.lookup pool_id taken.network_taken) (KeyError pool_id)
  let candidate ← _first_prefix supernet prefix_len excluded
  return (candidate, { taken with
    network_taken := assoc.set pool_id (excluded ++ [candidate]) taken.network_taken
    net_reservations := taken.net_reservations ++ [{
      allocation_domain := domain, resource_pool_id := pool_id, pfx := candidate.str, state := "reserved" }] })

/-- `reserve_scalar(kind, minimum, maximum)`. -/
def reserve_scalar (kind : Kind) (minimum maximum : Int) (taken : Taken) : Py (Int × Taken) := do
  let candidate ← _first_scalar minimum maximum (taken.scalar_taken kind) kind.text
  return (candidate, taken.take domain kind candidate)

/-- `reserve_requested_scalar(kind, value, minimum, maximum)`. -/
def reserve_requested_scalar (kind : Kind) (value minimum maximum : Int) (taken : Taken) : Py (Int × Taken) := do
  raise_if (value < minimum || maximum < value)
    (AllocationError s!"Requested {kind.text} value {value} is outside {minimum}-{maximum}")
  raise_if (toString value ∈ taken.scalar_taken kind)
    (AllocationError s!"Requested {kind.text} value {value} is unavailable")
  return (value, taken.take domain kind value)

end Reserve

/-! ## What a reservation does -/

section FirstFit

variable {minimum maximum value : Int} {excluded : List String} {label : String}

section Prefix

variable {supernet network : IPv4Network} {prefix_len : Int} {taken : List IPv4Network}

theorem lengths_of_fits (hfits : supernet.Fits prefix_len taken network) :
    supernet.prefixlen ≤ prefix_len.toNat ∧ prefix_len.toNat ≤ 32 ∧ 0 ≤ prefix_len := by
  have hhigh := network.prefixlen_le
  have hlow := IPv4Network.prefixlen_le_of_subnet_of (IPv4Network.subnet_of_iff.mpr hfits.inside)
  have hlength := hfits.prefixlen_eq
  omega

/-- First fit returns the lowest network of the length that fits. -/
theorem first_prefix_eq_ok_iff : _first_prefix supernet prefix_len taken = .ok network ↔
    supernet.Fits prefix_len taken network ∧
      ∀ other, supernet.Fits prefix_len taken other → network.network_address ≤ other.network_address := by
  unfold _first_prefix
  split
  · rename_i hlengths
    have hlength : (prefix_len.toNat : Int) = prefix_len := Int.toNat_of_nonneg hlengths.2.2
    have hfirst : supernet.first_free prefix_len.toNat hlengths.1 hlengths.2.1 taken = some network ↔ _ :=
      IPv4Network.first_free_eq_some_iff
    rw [hlength] at hfirst
    rw [← hfirst]
    split
    · rename_i candidate hfound
      rw [hfound, Except.ok.injEq, Option.some.injEq]
    · rename_i hnone
      simp only [hnone, error_ne_ok, reduceCtorEq]
  · rename_i hlengths
    simp only [error_ne_ok, false_iff, not_and]
    intro hfits
    exact absurd (lengths_of_fits hfits) hlengths

/-- First fit raises when the length does not fit the supernet or nothing of the length is free. -/
theorem exists_first_prefix_error_iff :
    (∃ raised, _first_prefix supernet prefix_len taken = .error raised) ↔
      prefix_len < supernet.prefixlen ∨ 32 < prefix_len ∨ ∀ other, ¬supernet.Fits prefix_len taken other := by
  unfold _first_prefix
  split
  · rename_i hlengths
    have hlength : (prefix_len.toNat : Int) = prefix_len := Int.toNat_of_nonneg hlengths.2.2
    have hnone : supernet.first_free prefix_len.toNat hlengths.1 hlengths.2.1 taken = none ↔ _ :=
      IPv4Network.first_free_eq_none_iff
    rw [hlength] at hnone
    have hlow : ¬prefix_len < supernet.prefixlen := by omega
    have hhigh : ¬32 < prefix_len := by omega
    rw [← hnone, or_iff_right hlow, or_iff_right hhigh]
    split
    · rename_i candidate hfound
      simp only [hfound, reduceCtorEq, exists_false]
    · rename_i hexhausted
      simp only [hexhausted, Except.error.injEq, exists_eq']
  · rename_i hlengths
    simp only [Except.error.injEq, exists_eq', true_iff]
    omega

end Prefix

/-- First fit returns the least free value of the range. -/
theorem first_scalar_eq_ok_iff : _first_scalar minimum maximum excluded label = .ok value ↔
    minimum ≤ value ∧ value ≤ maximum ∧ toString value ∉ excluded ∧
      ∀ other, minimum ≤ other → other < value → toString other ∈ excluded := by
  have hfirst : _first_scalar minimum maximum excluded label = .ok value ↔
      ∃ offset, firstfit.first (fun offset => toString (minimum + offset) ∉ excluded) 0
        (maximum + 1 - minimum).toNat = some offset ∧ minimum + offset = value := by
    simp only [_first_scalar]
    split
    · rename_i offset hfound
      simp only [hfound, Except.ok.injEq, Option.some.injEq, exists_eq_left']
    · rename_i hnone
      simp only [hnone, error_ne_ok, reduceCtorEq, false_and, exists_false]
  simp only [hfirst, firstfit.first_eq_some_iff, decide_eq_true_eq, decide_eq_false_iff_not, not_not]
  constructor
  · rintro ⟨offset, ⟨-, hhigh, hfree, hearlier⟩, rfl⟩
    refine ⟨by omega, by omega, hfree, fun other hlow hlt => ?_⟩
    have htaken := hearlier (other - minimum).toNat (Nat.zero_le _) (by omega)
    rwa [Int.toNat_of_nonneg (by omega), add_sub_cancel] at htaken
  · rintro ⟨hlow, hhigh, hfree, hearlier⟩
    have hvalue : minimum + ((value - minimum).toNat : Int) = value := by omega
    refine ⟨(value - minimum).toNat, ⟨Nat.zero_le _, by omega, by rwa [hvalue], fun offset _ hlt => ?_⟩, hvalue⟩
    exact hearlier _ (by omega) (by omega)

/-- First fit finds a value where there is a free one. -/
theorem exists_first_scalar_iff : (∃ value, _first_scalar minimum maximum excluded label = .ok value) ↔
    ∃ value, minimum ≤ value ∧ value ≤ maximum ∧ toString value ∉ excluded := by
  constructor
  · rintro ⟨value, hok⟩
    obtain ⟨hlow, hhigh, hfree, -⟩ := first_scalar_eq_ok_iff.mp hok
    exact ⟨value, hlow, hhigh, hfree⟩
  · rintro ⟨value, hlow, hhigh, hfree⟩
    cases hfound : _first_scalar minimum maximum excluded label with
    | ok found => exact ⟨found, rfl⟩
    | error raised =>
      exfalso
      simp only [_first_scalar] at hfound
      split at hfound
      · cases hfound
      · rename_i hnone
        rw [firstfit.first_eq_none_iff] at hnone
        have htaken := hnone (value - minimum).toNat (Nat.zero_le _) (by omega)
        rw [Int.toNat_of_nonneg (by omega), add_sub_cancel] at htaken
        exact of_decide_eq_false htaken hfree

end FirstFit

theorem reserve_scalar_eq_ok_iff {domain : String} {kind : Kind} {minimum maximum value : Int} {taken after : Taken} :
    reserve_scalar domain kind minimum maximum taken = .ok (value, after) ↔
      _first_scalar minimum maximum (taken.scalar_taken kind) kind.text = .ok value ∧
        after = taken.take domain kind value := by
  simp only [reserve_scalar, bind_eq_ok_iff, pure_eq_ok_iff, Prod.mk.injEq]
  constructor
  · rintro ⟨_, hfirst, rfl, rfl⟩
    exact ⟨hfirst, rfl⟩
  · rintro ⟨hfirst, rfl⟩
    exact ⟨value, hfirst, rfl, rfl⟩

@[simp] theorem scalar_taken_take {taken : Taken} {domain : String} {kind other : Kind} {value : Int} :
    (taken.take domain kind value).scalar_taken other =
      if other = kind then toString value :: taken.scalar_taken other else taken.scalar_taken other := rfl

/-- A reservation takes the lowest prefix of the pool that fits beside what is taken. -/
theorem fits_of_reserve_prefix {supernets : List (String × PoolPolicy)} {domain pool_id : String}
    {prefix_len : Int} {taken after : Taken} {network : IPv4Network}
    (hok : reserve_prefix supernets domain pool_id prefix_len taken = .ok (network, after)) :
    ∃ (supernet : IPv4Network) (excluded : List IPv4Network), assoc.lookup pool_id taken.network_taken = some excluded ∧
      supernet.Fits prefix_len excluded network ∧
      (∀ other, supernet.Fits prefix_len excluded other → network.network_address ≤ other.network_address) ∧
      after.network_taken = assoc.set pool_id (excluded ++ [network]) taken.network_taken := by
  simp only [ reserve_prefix, bind_eq_ok_iff, require_eq_ok, pure_eq_ok_iff, Prod.mk.injEq] at hok
  obtain ⟨pool, -, cidr, -, supernet, -, excluded, hexcluded, candidate, hcandidate, rfl, rfl⟩ := hok
  obtain ⟨hfits, hleast⟩ := first_prefix_eq_ok_iff.mp hcandidate
  exact ⟨supernet, excluded, hexcluded, hfits, hleast, rfl⟩

/-- A reserved prefix has the length that was asked for. -/
theorem prefixlen_of_reserve_prefix {supernets : List (String × PoolPolicy)} {domain pool_id : String}
    {prefix_len : Int} {taken after : Taken} {network : IPv4Network}
    (hok : reserve_prefix supernets domain pool_id prefix_len taken = .ok (network, after)) :
    (network.prefixlen : Int) = prefix_len := by
  obtain ⟨supernet, excluded, -, hfits, -⟩ := fits_of_reserve_prefix hok
  exact hfits.prefixlen_eq

/-- First fit takes the lowest aligned prefix of the length in the supernet that overlaps nothing that is
excluded, and it fails only when the length does not fit or there is no such prefix. -/
theorem first_prefix_exact (supernet : IPv4Network) (prefix_len : Int) (excluded : List IPv4Network) :
    (∀ candidate, _first_prefix supernet prefix_len excluded = .ok candidate ↔
      supernet.Fits prefix_len excluded candidate ∧
        ∀ other, supernet.Fits prefix_len excluded other → candidate.network_address ≤ other.network_address) ∧
    ((∃ raised, _first_prefix supernet prefix_len excluded = .error raised) ↔
      prefix_len < supernet.prefixlen ∨ 32 < prefix_len ∨ ¬∃ other, supernet.Fits prefix_len excluded other) := by
  refine ⟨fun candidate => first_prefix_eq_ok_iff, ?_⟩
  rw [not_exists]
  exact exists_first_prefix_error_iff

end orchestrator.allocator
