import SdaOrchestrator.Allocator.Derive
import SdaOrchestrator.Lib.Journal

open python ipaddress orchestrator.store

namespace orchestrator.allocator

open orchestrator.intent

/-! ## Resources -/

/-- What the ledger keeps for a fabric: a prefix of a pool, or a scalar. -/
inductive Resource where
  | network (pool_id pfx : String)
  | scalar (kind : Kind) (value : Int)
  deriving DecidableEq

/-- The two resources can be held at once. -/
def Resource.Apart : Resource → Resource → Prop
  | .network pool_id pfx, .network other_id other_pfx => pool_id = other_id → ∀ network other,
    _network pfx = .ok network → _network other_pfx = .ok other → ∀ address ∈ network, address ∉ other
  | .scalar kind value, .scalar other_kind other => kind = other_kind → value ≠ other
  | _, _ => True

/-- The value lies in the range of that name. -/
def Guardrails.Ranged (guardrails : Guardrails) (name : String) (value : Int) : Prop :=
  ∃ range minimum maximum, assoc.lookup name guardrails.ranges = some range ∧
    range.bounds = .ok (minimum, maximum) ∧ minimum ≤ value ∧ value ≤ maximum

/-- The ranges that the scalars of a kind are taken from; an L2 instance is derived from a VLAN. -/
def Kind.range_names : Kind → List String
  | .vlan_id => ["vlan_id", "shared_service_vlan_id", "handoff_vlan_id"]
  | .l2_instance_id => []
  | kind => [kind.range_name]

/-- The guardrails set the resource aside for fabrics. -/
def Guardrails.Admits (guardrails : Guardrails) : Resource → Prop
  | .network pool_id pfx => ∃ supernet network, guardrails.supernet pool_id = .ok supernet ∧
    _network pfx = .ok network ∧ ∀ address ∈ network, address ∈ supernet
  | .scalar kind value => (∃ name ∈ kind.range_names, guardrails.Ranged name value) ∨
    kind = .l2_instance_id ∧ ∃ range base, assoc.lookup "l2_instance_id" guardrails.ranges = some range ∧
      range.base = some base ∧ guardrails.Ranged "vlan_id" (value - base) ∧ value ≤ range.max.getD 16777215

/-- One reservation in a domain. -/
inductive Reserves (guardrails : Guardrails) (domain : String) : Taken → Resource → Taken → Prop
  | network {taken after : Taken} {pool_id : String} {prefix_len : Int} {network : IPv4Network} :
    reserve_prefix guardrails.supernets domain pool_id prefix_len taken = .ok (network, after) →
      Reserves guardrails domain taken (.network pool_id network.str) after
  | scalar {taken : Taken} {kind : Kind} {value : Int} :
    guardrails.Admits (.scalar kind value) → toString value ∉ taken.scalar_taken kind →
      Reserves guardrails domain taken (.scalar kind value) (taken.take domain kind value)

/-- The resource is taken. -/
def Taken.Holds (taken : Taken) : Resource → Prop
  | .network pool_id pfx => ∃ excluded network, assoc.lookup pool_id taken.network_taken = some excluded ∧
    network ∈ excluded ∧ _network pfx = .ok network
  | .scalar kind value => toString value ∈ taken.scalar_taken kind

theorem network_str (network : IPv4Network) : _network network.str = .ok network := by
  rw [_network, IPv4Network.ip_network_str]

section Steps

variable {guardrails : Guardrails} {domain : String} {before next : Taken} {resource other : Resource}

/-- A reservation is of a resource that is set aside for it. -/
theorem Reserves.admits (hstep : Reserves guardrails domain before resource next) : guardrails.Admits resource := by
  cases hstep with
  | @network _ pool_id prefix_len network hok =>
    simp only [ reserve_prefix, bind_eq_ok_iff, require_eq_ok, pure_eq_ok_iff, Prod.mk.injEq] at hok
    obtain ⟨pool, hpool, cidr, hcidr, supernet, hsupernet, excluded, -, candidate, hcandidate, rfl, -⟩ := hok
    refine ⟨supernet, candidate, ?_, network_str candidate, (first_prefix_eq_ok_iff.mp hcandidate).1.inside⟩
    simp only [Guardrails.supernet, bind_eq_ok_iff, require_eq_ok]
    exact ⟨pool, hpool, cidr, hcidr, hsupernet⟩
  | scalar hadmits _ => exact hadmits

/-- A reservation is of a resource that goes with all that is taken, and it is taken from then on. -/
theorem exclusive_reserves : journal.Exclusive (Reserves guardrails domain) Taken.Holds Resource.Apart where
  free {before resource next other} hstep hheld := by
    cases hstep with
    | @network _ pool_id prefix_len network hok =>
      obtain ⟨supernet, excluded, hexcluded, hfits, -⟩ := fits_of_reserve_prefix hok
      cases other with
      | scalar kind value => trivial
      | network other_id other_pfx =>
        rintro rfl known candidate hknown hcandidate address haddress hmem
        obtain ⟨held, member, hlookup, hmember, hnamed⟩ := hheld
        obtain rfl := Option.some.inj (hexcluded.symm.trans hlookup)
        obtain rfl := Except.ok.inj (hnamed.symm.trans hknown)
        obtain rfl := Except.ok.inj ((network_str network).symm.trans hcandidate)
        exact hfits.apart member hmember address hmem haddress
    | scalar hadmits hfree =>
      cases other with
      | network pool_id pfx => trivial
      | scalar kind value =>
        rintro rfl rfl
        exact hfree hheld
  kept {before resource next other} hstep hheld := by
    cases hstep with
    | @network _ pool_id prefix_len network hok =>
      obtain ⟨supernet, excluded, hexcluded, -, -, hafter⟩ := fits_of_reserve_prefix hok
      cases other with
      | scalar kind value =>
        simp only [ reserve_prefix, bind_eq_ok_iff, pure_eq_ok_iff, Prod.mk.injEq] at hok
        obtain ⟨_, -, _, -, _, -, _, -, _, -, -, rfl⟩ := hok
        exact hheld
      | network other_id other_pfx =>
        obtain ⟨held, member, hlookup, hmember, hnamed⟩ := hheld
        by_cases hsame : pool_id = other_id
        · subst hsame
          obtain rfl := Option.some.inj (hexcluded.symm.trans hlookup)
          refine ⟨excluded ++ [network], member, ?_, List.mem_append_left _ hmember, hnamed⟩
          rw [hafter, assoc.lookup_set, if_pos rfl]
        · refine ⟨held, member, ?_, hmember, hnamed⟩
          rw [hafter, assoc.lookup_set, if_neg hsame, hlookup]
    | scalar hadmits hfree =>
      cases other with
      | network pool_id pfx => exact hheld
      | scalar kind value =>
        show toString value ∈ (Taken.take _ _ _ _).scalar_taken kind
        rw [scalar_taken_take]
        split
        · exact List.mem_cons_of_mem _ hheld
        · exact hheld
  taken {before resource next} hstep := by
    cases hstep with
    | @network _ pool_id prefix_len network hok =>
      obtain ⟨supernet, excluded, -, -, -, hafter⟩ := fits_of_reserve_prefix hok
      refine ⟨excluded ++ [network], network, ?_, List.mem_append_right _ (List.mem_singleton.mpr rfl),
        network_str network⟩
      rw [hafter, assoc.lookup_set, if_pos rfl]
    | scalar hadmits hfree =>
      show toString _ ∈ (Taken.take _ _ _ _).scalar_taken _
      rw [scalar_taken_take, if_pos rfl]
      exact List.mem_cons_self

/-! ## The reservations that are recorded -/

/-- The record of a network. -/
def Resource.network_record (domain : String) : Resource → List NetworkReservation
  | .network pool_id pfx =>
    [{ allocation_domain := domain, resource_pool_id := pool_id, pfx, state := "reserved" }]
  | .scalar _ _ => []

/-- The record of a scalar. -/
def Resource.scalar_record (domain : String) : Resource → List ScalarReservation
  | .network _ _ => []
  | .scalar kind value =>
    [{ allocation_domain := domain, resource_type := kind.text, value := toString value, state := "reserved" }]

theorem Reserves.recorded (hstep : Reserves guardrails domain before resource next) :
    next.net_reservations = before.net_reservations ++ resource.network_record domain ∧
      next.scalar_reservations = before.scalar_reservations ++ resource.scalar_record domain := by
  cases hstep with
  | network hok =>
    simp only [ reserve_prefix, bind_eq_ok_iff, pure_eq_ok_iff, Prod.mk.injEq] at hok
    obtain ⟨_, -, _, -, _, -, _, -, _, -, rfl, rfl⟩ := hok
    exact ⟨rfl, (List.append_nil _).symm⟩
  | scalar _ _ => exact ⟨(List.append_nil _).symm, rfl⟩

end Steps

/-- The reservations of the resources in order. -/
abbrev ReservesAll (guardrails : Guardrails) (domain : String) : Taken → List Resource → Taken → Prop :=
  journal.Run (Reserves guardrails domain)

section Runs

variable {guardrails : Guardrails} {domain : String} {taken after : Taken} {resources : List Resource}

theorem ReservesAll.recorded (hrun : ReservesAll guardrails domain taken resources after) :
    after.net_reservations = taken.net_reservations ++ resources.flatMap (Resource.network_record domain) ∧
      after.scalar_reservations = taken.scalar_reservations ++ resources.flatMap (Resource.scalar_record domain) :=
  ⟨hrun.log_eq fun hstep => hstep.recorded.1, hrun.log_eq fun hstep => hstep.recorded.2⟩

end Runs

end orchestrator.allocator
