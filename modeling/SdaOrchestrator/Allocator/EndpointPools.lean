import Mathlib.Algebra.Order.Floor.Ring
import SdaOrchestrator.Allocator.Pools
import SdaOrchestrator.Intent.Overlay
import SdaOrchestrator.Lib.Binary64
import SdaOrchestrator.Lib.Threaded

open python ipaddress orchestrator.store

namespace orchestrator.allocator

open orchestrator.intent

/-! ## How many hosts a site asks for -/

/-- `int(math.ceil(users * (1.0 + headroom_percent / 100.0)))`. -/
def required_hosts (users headroom_percent : Int) : Int :=
  ⌈binary64.mul (binary64.ofRat users) (binary64.add 1 (binary64.div headroom_percent 100))⌉

/-- The loop of `_host_prefix`: another bit while the addresses are too few. -/
def more_bits (required : Int) : Nat → Nat → Nat
  | 0, host_bits => host_bits
  | rounds + 1, host_bits =>
    if (2 : Int) ^ host_bits - 2 < required then more_bits required rounds (host_bits + 1) else host_bits

/-- The host bits of `_host_prefix`; there are more addresses than rounds. -/
def host_bits_of (required : Int) : Nat := more_bits required required.toNat 2

/-- `_host_prefix(users, headroom_percent, supernet_prefix)`. -/
def _host_prefix (users headroom_percent : Int) ( supernet_prefix : Nat) : Py Int := do
  raise_if (users < 1) (AllocationError "users must be at least 1")
  raise_if (headroom_percent < 0 || 500 < headroom_percent)
    (AllocationError "headroom_percent must be between 0 and 500")
  let required := required_hosts users headroom_percent
  let pfx := 32 - (host_bits_of required : Int)
  raise_if (pfx < supernet_prefix)
    (AllocationError s!"Overlay requirement of {required} usable hosts exceeds its supernet")
  return pfx

/-- The loop ends at the least number of bits that is enough. -/
theorem more_bits_spec {required : Int} {rounds host_bits : Nat} (henough : required ≤ 2 ^ host_bits - 2 + rounds) :
    required ≤ 2 ^ more_bits required rounds host_bits - 2 ∧ host_bits ≤ more_bits required rounds host_bits ∧
      ∀ fewer, host_bits ≤ fewer → fewer < more_bits required rounds host_bits → (2 : Int) ^ fewer - 2 < required := by
  induction rounds generalizing host_bits with
  | zero =>
    refine ⟨?_, Nat.le_refl _, fun fewer hlow hhigh => absurd hhigh (Nat.not_lt.mpr hlow)⟩
    simpa [more_bits] using henough
  | succ rounds ih =>
    rw [more_bits]
    split
    · rename_i hfew
      have hpos : (0 : Int) < 2 ^ host_bits := by positivity
      have hnext : required ≤ 2 ^ (host_bits + 1) - 2 + rounds := by
        rw [pow_succ]
        push_cast at henough
        omega
      obtain ⟨hend, hlow, hfewer⟩ := ih hnext
      refine ⟨hend, by omega, fun fewer hfewer_low hfewer_high => ?_⟩
      obtain rfl | hlt := Nat.eq_or_lt_of_le hfewer_low
      · exact hfew
      · exact hfewer fewer hlt hfewer_high
    · rename_i hmany
      exact ⟨by omega, Nat.le_refl _, fun fewer hlow hhigh => absurd hhigh (Nat.not_lt.mpr hlow)⟩

theorem host_bits_spec (required : Int) :
    required ≤ 2 ^ host_bits_of required - 2 ∧ 2 ≤ host_bits_of required ∧
      ∀ fewer, 2 ≤ fewer → fewer < host_bits_of required → (2 : Int) ^ fewer - 2 < required :=
  more_bits_spec (by omega)

/-! ## How many hosts a site has -/

/-- `ceil(users * (100 + headroom_percent) / 100)`, exactly. -/
def exact_hosts (users headroom_percent : Int) : Int := ⌈(users * (100 + headroom_percent) : ℚ) / 100⌉

/-- What `_host_prefix` checks before it returns a prefix length. -/
theorem host_prefix_eq_ok_iff {users headroom_percent pfx : Int} { supernet_prefix : Nat} :
    _host_prefix users headroom_percent supernet_prefix = .ok pfx ↔
      1 ≤ users ∧ 0 ≤ headroom_percent ∧ headroom_percent ≤ 500 ∧
        pfx = 32 - (host_bits_of (required_hosts users headroom_percent) : Int) ∧ ( supernet_prefix : Int) ≤ pfx := by
  simp only [ _host_prefix, raise_if_bind_eq_ok_iff, pure_eq_ok_iff, decide_eq_false_iff_not, Bool.or_eq_false_iff]
  constructor
  · rintro ⟨husers, ⟨hlow, hhigh⟩, hsupernet, rfl⟩
    exact ⟨by omega, by omega, by omega, rfl, by omega⟩
  · rintro ⟨husers, hlow, hhigh, rfl, hsupernet⟩
    exact ⟨by omega, ⟨by omega, by omega⟩, by omega, rfl⟩

section Rounding

variable {users headroom_percent : Int} (husers : 1 ≤ users) (hheadroom : 0 ≤ headroom_percent)

include husers hheadroom

/-- Rounding loses at most four parts in 2 ^ 53. -/
theorem le_rounded : (users * (100 + headroom_percent) : ℚ) / 100 * (1 - 1 / 2 ^ 51) ≤
    binary64.mul (binary64.ofRat users) (binary64.add 1 (binary64.div headroom_percent 100)) := by
  have hu : (1 : ℚ) ≤ users := by exact_mod_cast husers
  have hh : (0 : ℚ) ≤ headroom_percent := by exact_mod_cast hheadroom
  have hdiv : (headroom_percent : ℚ) / 100 * (1 - 1 / 2 ^ 53) ≤ binary64.div headroom_percent 100 :=
    binary64.le_ofRat (by positivity)
  have hdiv_nonneg : 0 ≤ binary64.div headroom_percent 100 := binary64.ofRat_nonneg (by positivity)
  have hadd : (1 + binary64.div headroom_percent 100) * (1 - 1 / 2 ^ 53) ≤
      binary64.add 1 (binary64.div headroom_percent 100) := binary64.le_ofRat (by positivity)
  have husers' : (users : ℚ) * (1 - 1 / 2 ^ 53) ≤ binary64.ofRat users := binary64.le_ofRat (by linarith)
  have husers_nonneg : 0 ≤ binary64.ofRat users := binary64.ofRat_nonneg (by linarith)
  have hadd_nonneg : 0 ≤ binary64.add 1 (binary64.div headroom_percent 100) :=
    binary64.ofRat_nonneg (by positivity)
  have hmul : binary64.ofRat users * binary64.add 1 (binary64.div headroom_percent 100) * (1 - 1 / 2 ^ 53) ≤
      binary64.mul (binary64.ofRat users) (binary64.add 1 (binary64.div headroom_percent 100)) :=
    binary64.le_ofRat (mul_nonneg husers_nonneg hadd_nonneg)
  set e : ℚ := 1 - 1 / 2 ^ 53 with he
  have he_pos : 0 < e := by norm_num [he]
  have he_le : e ≤ 1 := by norm_num [he]
  -- a factor for each of the four roundings
  have hsum : (100 + headroom_percent : ℚ) / 100 * e ≤ 1 + binary64.div headroom_percent 100 := by
    linarith
  have hfactor : (100 + headroom_percent : ℚ) / 100 * e * e ≤
      binary64.add 1 (binary64.div headroom_percent 100) :=
    (mul_le_mul_of_nonneg_right hsum he_pos.le).trans hadd
  have hproduct : (users * e) * ((100 + headroom_percent : ℚ) / 100 * e * e) ≤
      binary64.ofRat users * binary64.add 1 (binary64.div headroom_percent 100) :=
    mul_le_mul husers' hfactor (by positivity) husers_nonneg
  have hfour : 1 - 1 / 2 ^ 51 ≤ e * e * e * e := by norm_num [he]
  calc (users * (100 + headroom_percent) : ℚ) / 100 * (1 - 1 / 2 ^ 51)
      ≤ (users * (100 + headroom_percent) : ℚ) / 100 * (e * e * e * e) :=
        mul_le_mul_of_nonneg_left hfour (by positivity)
    _ = (users * e) * ((100 + headroom_percent : ℚ) / 100 * e * e) * e := by ring
    _ ≤ _ := (mul_le_mul_of_nonneg_right hproduct he_pos.le).trans hmul

/-- Rounding asks for no fewer hosts, while the numbers stay far below 2 ^ 51. -/
theorem exact_le_required (hsmall : required_hosts users headroom_percent ≤ 2 ^ 32) :
    exact_hosts users headroom_percent ≤ required_hosts users headroom_percent := by
  have hrounded := le_rounded husers hheadroom
  have hceil := Int.le_ceil
    (binary64.mul (binary64.ofRat users) (binary64.add 1 (binary64.div headroom_percent 100)))
  have hsmall' : (required_hosts users headroom_percent : ℚ) ≤ 2 ^ 32 := by exact_mod_cast hsmall
  have hlow : (users * (100 + headroom_percent) : ℚ) / 100 * (1 - 1 / 2 ^ 51) ≤
      required_hosts users headroom_percent := hrounded.trans hceil
  generalize required_hosts users headroom_percent = required at *
  -- hundredths are whole numbers, so a demand above an integer is so by one of them
  have hhundredths : users * (100 + headroom_percent) ≤ required * 100 := by
    by_contra hmore
    have hmore' : ((required * 100 + 1 : Int) : ℚ) ≤ ((users * (100 + headroom_percent) : Int) : ℚ) := by
      exact_mod_cast (by omega : required * 100 + 1 ≤ users * (100 + headroom_percent))
    push_cast at hmore'
    linarith
  rw [exact_hosts, Int.ceil_le, div_le_iff₀ (by norm_num)]
  exact_mod_cast hhundredths

theorem one_le_exact_hosts : 1 ≤ exact_hosts users headroom_percent := by
  rw [exact_hosts, Int.one_le_ceil_iff]
  have hu : (1 : ℚ) ≤ users := by exact_mod_cast husers
  have hh : (0 : ℚ) ≤ headroom_percent := by exact_mod_cast hheadroom
  positivity

end Rounding

/-! ## The virtual networks and their pools -/

/-- The local DHCP server that a site asks for; its `mode` is `local_border`. -/
structure DhcpRequest where
  server_device_id : String
  lease_minutes : Option Int
  dns_servers : List IPv4Address

structure SiteRequest where
  site : String
  users : Int
  headroom_percent : Option Int
  dhcp_helpers : List IPv4Address
  dhcp : Option DhcpRequest

structure VirtualNetworkRequest where
  name : String
  vrf : String
  sites : List SiteRequest

/-- What the guardrails say about pools and ranges. -/
structure Guardrails where
  supernets : List (String × PoolPolicy)
  ranges : List (String × RangePolicy)
  rd_asn : Option Int

/-- `text.lower()`. -/
def lower (text : String) : String := String.ofList ((chars text).map Char.toLower)

section Derive

variable (guardrails : Guardrails) (domain : String) (devices : List Device)

/-- `ranges[name]`. -/
def Guardrails.range (name : String) : Py RangePolicy :=
  require (assoc.lookup name guardrails.ranges) (KeyError name)

/-- `int(range["min"])` and `int(range["max"])`. -/
def RangePolicy.bounds (range : RangePolicy) : Py (Int × Int) := do
  return (← require range.min (KeyError "min"), ← require range.max (KeyError "max"))

/-- The helpers of a site, and its local DHCP service. -/
def dhcp_of (site : SiteRequest) : Py (List IPv4Address × Option LocalDhcp) :=
  match site.dhcp with
  | some local_dhcp =>
    match assoc.lookup local_dhcp.server_device_id (dict_of (devices.map fun device => (device.id, device))) with
    | some server =>
      if Role.border ∈ server.roles then
        .ok ([server.loopback0_ip], some {
          server_device_id := local_dhcp.server_device_id
          helper_address := server.loopback0_ip
          lease_minutes := local_dhcp.lease_minutes.getD 60
          dns_servers := sortedBy (·.str) local_dhcp.dns_servers })
      else not_a_border local_dhcp
    | none => not_a_border local_dhcp
  | none =>
    if site.dhcp_helpers.isEmpty then
      .error (AllocationError "Each virtual-network site must select external DHCP helpers or local_border DHCP")
    else .ok (sortedBy (·.str) site.dhcp_helpers, none)
where
  not_a_border (local_dhcp : DhcpRequest) : Py (List IPv4Address × Option LocalDhcp) :=
    .error (AllocationError s!"Local DHCP server {local_dhcp.server_device_id} must be a fabric border device")

/-- The VLAN of a site and the L2 instance that is derived from it. -/
def reserve_vlan (vlan_range : Int × Int) (l2_base l2_max : Int) (taken : Taken) : Py ((Int × Int) × Taken) := do
  let (vlan, taken) ← reserve_scalar domain .vlan_id vlan_range.1 vlan_range.2 taken
  let l2_id := l2_base + vlan
  raise_if (l2_max < l2_id || toString l2_id ∈ taken.scalar_taken .l2_instance_id)
    (AllocationError s!"Derived L2 instance {l2_id} is unavailable")
  return ((vlan, l2_id), taken.take domain .l2_instance_id l2_id)

/-- One site of a virtual network. -/
def derive_pool (vlan_range : RangePolicy) (l2_base l2_max : Int) (virtual_network : String) (site : SiteRequest)
    (taken : Taken) : Py (EndpointPool × Taken) := do
  let (dhcp_helpers, dhcp) ← dhcp_of devices site
  let bounds ← vlan_range.bounds
  let ((vlan, l2_id), taken) ← reserve_vlan domain bounds l2_base l2_max taken
  let pool ← require (assoc.lookup "overlay_hosts" guardrails.supernets) (KeyError "overlay_hosts")
  let overlay_supernet ← _network (← require pool.cidr (KeyError "cidr"))
  let prefix_len ← _host_prefix site.users (site.headroom_percent.getD 25) overlay_supernet.prefixlen
  let (pfx, taken) ← reserve_prefix guardrails.supernets domain "overlay_hosts" prefix_len taken
  return ({
    id := lower site.site ++ "-" ++ lower virtual_network
    site := site.site
    virtual_network
    vlan_id := vlan
    l2_instance_id := l2_id
    pfx := pfx.str
    gateway := pfx.first_host
    dhcp_helpers
    dhcp }, taken)

/-- One virtual network with the pools of its sites. -/
def derive_virtual_network (local_as : Int) (l3_range vlan_range : RangePolicy) (l2_base l2_max : Int)
    (raw_vn : VirtualNetworkRequest) (taken : Taken) : Py ((VirtualNetwork × List EndpointPool) × Taken) := do
  let bounds ← l3_range.bounds
  let (l3_id, taken) ← reserve_scalar domain .l3_instance_id bounds.1 bounds.2 taken
  let (pools, taken) ← thread (derive_pool guardrails domain devices vlan_range l2_base l2_max raw_vn.name)
    (sortedBy (·.site) raw_vn.sites) taken
  return (({
    name := raw_vn.name
    vrf := raw_vn.vrf
    l3_instance_id := l3_id
    rd := s!"{local_as}:{l3_id}"
    route_targets := [s!"{local_as}:{l3_id}"] }, pools), taken)

/-- The ASN of the routes of the fabric: reserved where the border speaks BGP. -/
def derive_local_as (speaks_bgp : Bool) (taken : Taken) : Py (Int × Taken) := do
  if speaks_bgp then
    let bounds ← (← guardrails.range "bgp_asn_local").bounds
    reserve_scalar domain .asn bounds.1 bounds.2 taken
  else return (guardrails.rd_asn.getD 65000, taken)

/-- The part of `derive_fabric_intent` from the ASN to the last endpoint pool. -/
def derive_virtual_networks (speaks_bgp : Bool) (virtual_networks : List VirtualNetworkRequest) (taken : Taken) :
    Py ((List VirtualNetwork × List EndpointPool) × Taken) := do
  let (local_as, taken) ← derive_local_as guardrails domain speaks_bgp taken
  let l3_range ← guardrails.range "l3_instance_id"
  let vlan_range ← guardrails.range "vlan_id"
  let l2_range ← guardrails.range "l2_instance_id"
  let l2_base ← require l2_range.base (KeyError "base")
  let l2_max := l2_range.max.getD 16777215
  let (derived, taken) ← thread
    (derive_virtual_network guardrails domain devices local_as l3_range vlan_range l2_base l2_max)
    (sortedBy (·.name) virtual_networks) taken
  return ((derived.map Prod.fst, derived.flatMap Prod.snd), taken)

end Derive

/-! ## The guardrails of a lab -/

def lab_range (min max : Int) : RangePolicy where
  min := some min
  max := some max
  base := none
  reserved := []
  reserved_ranges := []

def lab_guardrails : Guardrails where
  supernets := [("overlay_hosts", { cidr := some "10.0.0.0/9", prefix_len := none, reserved := [] })]
  ranges := [("vlan_id", lab_range 100 3900), ("l3_instance_id", lab_range 4099 4999),
    ("l2_instance_id", { min := none, max := some 16777215, base := some 8000, reserved := [], reserved_ranges := [] })]
  rd_asn := some 65000

/-- One virtual network with one site. -/
def lab_request (users : Int) : VirtualNetworkRequest where
  name := "Corporate"
  vrf := "CORP_VN"
  sites := [{
    site := "SJC23", users, headroom_percent := some 0, dhcp_helpers := [.ofOctets 10 20 0 10], dhcp := none }]

/-- An active L2 instance. -/
def lab_l2_row : ScalarRow where
  allocation_domain := "lab"
  resource_type := "l2_instance_id"
  state := some "committed"
  value := "8100"

/-- The exception of a computation that raises. -/
def raised {α : Type} : Py α → Option Raised
  | .error exception => some exception
  | .ok _ => none

theorem raised_eq_some {α : Type} {result : Py α} {exception : Raised} :
    raised result = some exception ↔ result = .error exception := by
  cases result <;> simp [raised]

/-! ## VLANs and L2 instances -/

/-- The least VLAN of the range that is not taken. -/
def LowestFree (minimum maximum : Int) (excluded : List String) (vlan : Int) : Prop :=
  minimum ≤ vlan ∧ vlan ≤ maximum ∧ toString vlan ∉ excluded ∧
    ∀ other, minimum ≤ other → other < vlan → toString other ∈ excluded

/-- The L2 instance of a VLAN can be reserved. -/
def DerivedFree (l2_base l2_max : Int) (taken : Taken) (vlan : Int) : Prop :=
  l2_base + vlan ≤ l2_max ∧ toString (l2_base + vlan) ∉ taken.scalar_taken .l2_instance_id

/-- A site gets its VLAN and its L2 instance exactly when the L2 instance of the lowest free VLAN can be
reserved; the other free VLANs are not tried. -/
theorem reserve_vlan_eq_ok_iff {domain : String} {vlan_range : Int × Int} {l2_base l2_max : Int} {taken : Taken} :
    (∃ reserved, reserve_vlan domain vlan_range l2_base l2_max taken = .ok reserved) ↔
      ∃ vlan, LowestFree vlan_range.1 vlan_range.2 (taken.scalar_taken .vlan_id) vlan ∧
        DerivedFree l2_base l2_max taken vlan := by
  have hother {vlan : Int} : (taken.take domain .vlan_id vlan).scalar_taken .l2_instance_id =
      taken.scalar_taken .l2_instance_id := rfl
  simp only [reserve_vlan, bind_eq_ok_iff, Prod.exists, reserve_scalar_eq_ok_iff, first_scalar_eq_ok_iff,
    raise_if_eq_ok, pure_eq_ok_iff, Bool.or_eq_false_iff, decide_eq_false_iff_not, not_lt, LowestFree, DerivedFree]
  constructor
  · rintro ⟨_, _, _, vlan, _, ⟨hlowest, rfl⟩, _, hfree, -⟩
    exact ⟨vlan, hlowest, hfree⟩
  · rintro ⟨vlan, hlowest, hfree⟩
    exact ⟨_, _, _, vlan, _, ⟨hlowest, rfl⟩, (), hfree, rfl⟩

/-- VLAN 101 and its L2 instance are free. The site gets neither, since the L2 instance of VLAN 100 is active. -/
theorem free_vlan_not_reserved :
    ∃ taken, initial_taken lab_guardrails.supernets lab_guardrails.ranges [] [lab_l2_row] "lab" = .ok taken ∧
      (100 ≤ 101 ∧ 101 ≤ 3900 ∧ toString 101 ∉ taken.scalar_taken .vlan_id ∧ DerivedFree 8000 16777215 taken 101) ∧
      reserve_vlan "lab" (100, 3900) 8000 16777215 taken =
        .error (AllocationError "Derived L2 instance 8100 is unavailable") ∧
      derive_virtual_networks lab_guardrails "lab" [] false [lab_request 2] taken =
        .error (AllocationError "Derived L2 instance 8100 is unavailable") := by
  have hmap : (initial_taken lab_guardrails.supernets lab_guardrails.ranges [] [lab_l2_row] "lab").toOption.map
      (fun taken => (decide (toString (101 : Int) ∉ taken.scalar_taken .vlan_id),
        decide (toString (8000 + 101 : Int) ∉ taken.scalar_taken .l2_instance_id),
        raised (reserve_vlan "lab" (100, 3900) 8000 16777215 taken),
        raised (derive_virtual_networks lab_guardrails "lab" [] false [lab_request 2] taken))) =
      some (true, true, some (AllocationError "Derived L2 instance 8100 is unavailable"),
        some (AllocationError "Derived L2 instance 8100 is unavailable")) := by
    decide +kernel
  obtain ⟨taken, htaken, hfacts⟩ := exists_ok_of_map hmap
  simp only [Prod.mk.injEq, decide_eq_true_eq, raised_eq_some] at hfacts
  obtain ⟨hvlan, hl2, hreserve, hderive⟩ := hfacts
  exact ⟨taken, htaken, ⟨by omega, by omega, hvlan, by omega, hl2⟩, hreserve, hderive⟩

/-! ## The room of the pools -/

/-- The addresses of a pool that hosts can have: neither the first, nor the last, nor the gateway's. -/
def assignable (network : IPv4Network) (gateway : IPv4Address) : List IPv4Address :=
  network.addresses.filter fun address =>
    address ≠ network.network_address ∧ address ≠ network.broadcast_address ∧ address ≠ gateway

/-- A pool has an address for each host that its site asks for. -/
def Roomy (site : SiteRequest) (pool : EndpointPool) : Prop :=
  ∃ network, pool.network = some network ∧
    exact_hosts site.users (site.headroom_percent.getD 25) ≤ (assignable network pool.gateway).length

/-- The hosts that a site asks for fill all addresses of a network but its first and last one, and rounding
does not ask for one more. -/
def Tight (site : SiteRequest) : Prop :=
  let headroom_percent := site.headroom_percent.getD 25
  (∃ host_bits : Nat, exact_hosts site.users headroom_percent = 2 ^ host_bits - 2) ∧
    required_hosts site.users headroom_percent = exact_hosts site.users headroom_percent

/-- The first address, the last one and the first host are not for hosts. -/
theorem length_assignable (network : IPv4Network) (hlength : network.prefixlen ≤ 30) :
    (assignable network network.first_host).length + 3 = 2 ^ (32 - network.prefixlen) := by
  have hfour : 4 ≤ network.num_addresses :=
    Nat.pow_le_pow_right (by decide : 0 < 2) (by omega : 2 ≤ 32 - network.prefixlen)
  have hle := network.network_address_add_le
  have hhost : network.first_host.value = network.network_address.value + 1 := by
    rw [IPv4Network.first_host, if_pos hlength]
    exact Nat.mod_eq_of_lt (by omega)
  set kept : List IPv4Address := [network.network_address, network.broadcast_address, network.first_host] with hkept
  have hnodup : kept.Nodup := by
    simp only [hkept, List.nodup_cons, List.mem_cons, List.not_mem_nil, or_false, not_or, IPv4Address.ext_iff,
      hhost, IPv4Network.broadcast_address_value, not_false_eq_true, List.nodup_nil, and_true]
    omega
  have hrest : (network.addresses.filter fun address => decide (address ∈ kept)).Perm kept := by
    rw [List.perm_ext_iff_of_nodup (network.nodup_addresses.filter _) hnodup]
    intro address
    rw [List.mem_filter, decide_eq_true_eq, and_iff_right_iff_imp, IPv4Network.mem_addresses]
    intro hmem
    simp only [hkept, List.mem_cons, List.not_mem_nil, or_false] at hmem
    obtain rfl | rfl | rfl := hmem
    · exact network.network_address_mem
    · exact network.broadcast_address_mem
    · rw [IPv4Network.mem_iff, IPv4Address.le_iff, IPv4Address.le_iff, hhost, IPv4Network.broadcast_address_value]
      omega
  have hassignable : assignable network network.first_host =
      network.addresses.filter fun address => !decide (address ∈ kept) := by
    refine List.filter_congr fun address _ => ?_
    simp [hkept]
  have hsum := List.length_eq_length_filter_add (l := network.addresses) fun address => decide (address ∈ kept)
  rw [hrest.length_eq, IPv4Network.length_addresses, ← hassignable] at hsum
  have hthree : kept.length = 3 := rfl
  rw [IPv4Network.num_addresses] at hsum
  omega

/-- A successful site has a pool of the length that `_host_prefix` gives, whose gateway is the first host. -/
theorem derive_pool_spec {guardrails : Guardrails} {domain : String} {devices : List Device}
    {vlan_range : RangePolicy} {l2_base l2_max : Int} {virtual_network : String} {site : SiteRequest}
    {taken after : Taken} {pool : EndpointPool}
    (hok : derive_pool guardrails domain devices vlan_range l2_base l2_max virtual_network site taken =
      .ok (pool, after)) :
    ∃ (network : IPv4Network) ( supernet_prefix : Nat), pool.network = some network ∧
      pool.gateway = network.first_host ∧
      _host_prefix site.users (site.headroom_percent.getD 25) supernet_prefix = .ok network.prefixlen := by
  simp only [derive_pool, bind_eq_ok_iff, Prod.exists, pure_eq_ok_iff, Prod.mk.injEq] at hok
  obtain ⟨helpers, dhcp, -, low, high, -, vlan, l2_id, between, -, policy, -, cidr, -, supernet, -, prefix_len,
    hprefix_len, network, last, hreserved, rfl, rfl⟩ := hok
  refine ⟨network, supernet.prefixlen, ?_, rfl, ?_⟩
  · simp [EndpointPool.network, intent.ipv4_network, IPv4Network.ip_network_str]
  · rw [ prefixlen_of_reserve_prefix hreserved, hprefix_len]

/-- A pool that a site gets has an address for each of its hosts exactly when the site is not tight. -/
theorem roomy_iff {guardrails : Guardrails} {domain : String} {devices : List Device}
    {vlan_range : RangePolicy} {l2_base l2_max : Int} {virtual_network : String} {site : SiteRequest}
    {taken after : Taken} {pool : EndpointPool}
    (hok : derive_pool guardrails domain devices vlan_range l2_base l2_max virtual_network site taken =
      .ok (pool, after)) : Roomy site pool ↔ ¬Tight site := by
  obtain ⟨network, supernet_prefix, hnetwork, hgateway, hprefix⟩ := derive_pool_spec hok
  obtain ⟨husers, hlow, hhigh, hlength, hsupernet⟩ := host_prefix_eq_ok_iff.mp hprefix
  obtain ⟨henough, htwo, hfewer⟩ :=
    host_bits_spec (required_hosts site.users (site.headroom_percent.getD 25))
  have hroomy : Roomy site pool ↔ exact_hosts site.users (site.headroom_percent.getD 25) ≤
      (assignable network network.first_host).length := by
    simp only [Roomy, hnetwork, Option.some.injEq, exists_eq_left', hgateway]
  have hone := one_le_exact_hosts husers hlow
  have hexact : required_hosts site.users (site.headroom_percent.getD 25) ≤ 2 ^ 32 →
      exact_hosts site.users (site.headroom_percent.getD 25) ≤
        required_hosts site.users (site.headroom_percent.getD 25) := exact_le_required husers hlow
  rw [hroomy, Tight]
  generalize required_hosts site.users (site.headroom_percent.getD 25) = required at *
  generalize exact_hosts site.users (site.headroom_percent.getD 25) = demand at *
  set bits := host_bits_of required with hbits
  have hbits_length : network.prefixlen = 32 - bits ∧ bits ≤ 32 := by omega
  have hcount := length_assignable network (by omega)
  have hsame : 32 - network.prefixlen = bits := by omega
  rw [hsame] at hcount
  have hcount' : ((assignable network network.first_host).length : Int) + 3 = 2 ^ bits := by exact_mod_cast hcount
  have hpow : (2 : Int) ^ bits ≤ 2 ^ 32 := pow_le_pow_right₀ (by norm_num) hbits_length.2
  have hle := hexact (by omega)
  constructor
  · rintro hroom ⟨⟨host_bits, hdemand⟩, hrequired⟩
    -- the loop stops at the bits that the demand fills
    have hbits_eq : host_bits = bits := by
      obtain hlt | heq | hgt := Nat.lt_trichotomy host_bits bits
      · have htwo' : 2 ≤ host_bits := by
          by_contra hsmall
          obtain rfl | rfl : host_bits = 0 ∨ host_bits = 1 := by omega
          · norm_num at hdemand
            omega
          · norm_num at hdemand
            omega
        have := hfewer host_bits htwo' hlt
        omega
      · exact heq
      · have hmono : (2 : Int) ^ bits < 2 ^ host_bits := pow_lt_pow_right₀ (by norm_num) hgt
        omega
    rw [hbits_eq] at hdemand
    omega
  · intro htight
    by_contra hfull
    refine htight ⟨⟨bits, by omega⟩, by omega⟩

/-- The sites in the order of their pools. -/
def site_requests (virtual_networks : List VirtualNetworkRequest) : List SiteRequest :=
  (sortedBy (·.name) virtual_networks).flatMap fun raw_vn => sortedBy (·.site) raw_vn.sites

/-- In a derivation that succeeds, the sites whose pool has an address for each host are those that are
not tight. -/
theorem endpoint_pools_roomy_iff {guardrails : Guardrails} {domain : String} {devices : List Device}
    {speaks_bgp : Bool} {virtual_networks : List VirtualNetworkRequest} {taken after : Taken}
    {derived : List VirtualNetwork} {pools : List EndpointPool}
    (hok : derive_virtual_networks guardrails domain devices speaks_bgp virtual_networks taken =
      .ok ((derived, pools), after)) :
    List.Forall₂ (fun site pool => Roomy site pool ↔ ¬Tight site) (site_requests virtual_networks) pools := by
  simp only [derive_virtual_networks, bind_eq_ok_iff, Prod.exists, pure_eq_ok_iff, Prod.mk.injEq] at hok
  obtain ⟨local_as, reserved, -, l3_range, -, vlan_range, -, l2_range, -, l2_base, -, all, last, hall,
    ⟨rfl, rfl⟩, rfl⟩ := hok
  have hnetworks := (forall₂_of_thread (fun _ => True) (fun _ _ _ _ _ _ => trivial) trivial hall).2
  refine List.rel_flatMap hnetworks ?_
  rintro raw_vn derived ⟨before, between, -, hderived⟩
  simp only [derive_virtual_network, bind_eq_ok_iff, Prod.exists, pure_eq_ok_iff, Prod.mk.injEq] at hderived
  obtain ⟨low, high, -, l3_id, l3_taken, -, found, final, hfound, rfl, -⟩ := hderived
  refine (forall₂_of_thread (fun _ => True) (fun _ _ _ _ _ _ => trivial) trivial hfound).2.imp ?_
  rintro site pool ⟨before, between, -, hpool⟩
  exact roomy_iff hpool

/-- The derivation of the pools of a site with so many users. -/
def lab_derivation (users : Int) : Py ((List VirtualNetwork × List EndpointPool) × Taken) := do
  let taken ← initial_taken lab_guardrails.supernets lab_guardrails.ranges [] [] "lab"
  derive_virtual_networks lab_guardrails "lab" [] false [lab_request users] taken

theorem endpoint_pools_roomy_lab : ∃ taken derived pools after,
    derive_virtual_networks lab_guardrails "lab" [] false [lab_request 3] taken = .ok ((derived, pools), after) ∧
      List.Forall₂ (fun site pool => Roomy site pool ↔ ¬Tight site) (site_requests [lab_request 3]) pools := by
  have hmap : (lab_derivation 3).toOption.map (fun found => found.1.2.map (·.pfx)) = some ["10.0.0.0/29"] := by
    decide +kernel
  obtain ⟨⟨⟨derived, pools⟩, after⟩, hok, -⟩ := exists_ok_of_map hmap
  obtain ⟨taken, -, hderive⟩ := bind_eq_ok_iff.mp hok
  exact ⟨taken, derived, pools, after, hderive, endpoint_pools_roomy_iff hderive⟩

/-- Two hosts without headroom: a /30 has two host addresses, and the gateway takes one of them. -/
theorem endpoint_pool_not_roomy : ∃ taken derived pools after,
    derive_virtual_networks lab_guardrails "lab" [] false [lab_request 2] taken = .ok ((derived, pools), after) ∧
      ¬List.Forall₂ Roomy (site_requests [lab_request 2]) pools := by
  have hmap : (lab_derivation 2).toOption.map (fun found => found.1.2.map fun pool =>
      pool.network.map fun network => (assignable network pool.gateway).length) = some [some 1] := by
    decide +kernel
  have hdemand : exact_hosts 2 0 = 2 := by decide +kernel
  obtain ⟨⟨⟨derived, pools⟩, after⟩, hok, hrooms⟩ := exists_ok_of_map hmap
  obtain ⟨taken, -, hderive⟩ := bind_eq_ok_iff.mp hok
  refine ⟨taken, derived, pools, after, hderive, fun hroomy => ?_⟩
  obtain ⟨pool, rfl⟩ : ∃ pool, pools = [pool] := by
    rw [← List.length_eq_one_iff]
    simpa using congrArg List.length hrooms
  cases hroomy with
  | cons hfirst _ =>
    obtain ⟨network, hnetwork, henough⟩ := hfirst
    have hroom : (assignable network pool.gateway).length = 1 := by simpa [hnetwork] using hrooms
    rw [hroom] at henough
    exact absurd henough (by decide +kernel)

end orchestrator.allocator
