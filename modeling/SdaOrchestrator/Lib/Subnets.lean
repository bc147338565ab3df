import SdaOrchestrator.Lib.FirstFit
import SdaOrchestrator.Lib.Numerals

open python

namespace ipaddress

namespace IPv4Network

/-- The subnet of a length at a position, counted from the start of the network. -/
def subnet (network : IPv4Network) (prefixlen : Nat) (hlow : network.prefixlen ≤ prefixlen) (hhigh : prefixlen ≤ 32)
    (index : Nat) : IPv4Network where
  network_address := .ofNat (network.network_address.value + index * 2 ^ (32 - prefixlen))
  prefixlen
  prefixlen_le := hhigh
  no_host_bits := by
    have hspan : 2 ^ (32 - prefixlen) ∣ 2 ^ 32 := Nat.pow_dvd_pow 2 (by omega)
    have hstart : 2 ^ (32 - prefixlen) ∣ network.network_address.value :=
      (Nat.pow_dvd_pow 2 (by omega)).trans network.no_host_bits
    rw [IPv4Address.ofNat, Nat.dvd_mod_iff hspan]
    exact Nat.dvd_add hstart (Nat.dvd_mul_left _ _)

/-- The first of `network.subnets(new_prefix=prefixlen)` that overlaps none of the others. -/
def first_free (network : IPv4Network) (prefixlen : Nat) (hlow : network.prefixlen ≤ prefixlen)
    (hhigh : prefixlen ≤ 32) (excluded : List IPv4Network) : Option IPv4Network :=
  let candidate := network.subnet prefixlen hlow hhigh
  (firstfit.first (fun index => !excluded.any (candidate index).overlaps) 0
    (2 ^ (prefixlen - network.prefixlen))).map candidate

section Subnets

variable {network other : IPv4Network} {prefixlen : Nat} {hlow : network.prefixlen ≤ prefixlen} {hhigh : prefixlen ≤ 32}

/-- So many subnets of so many addresses make up the network. -/
theorem subnets_mul_addresses (hlow : network.prefixlen ≤ prefixlen) (hhigh : prefixlen ≤ 32) :
    2 ^ (prefixlen - network.prefixlen) * 2 ^ (32 - prefixlen) = network.num_addresses := by
  rw [num_addresses, ← pow_add]
  congr 1
  omega

theorem subnet_network_address {index : Nat} (hindex : index < 2 ^ (prefixlen - network.prefixlen)) :
    (network.subnet prefixlen hlow hhigh index).network_address.value =
      network.network_address.value + index * 2 ^ (32 - prefixlen) := by
  have hlt : index * 2 ^ (32 - prefixlen) < network.num_addresses := by
    rw [← subnets_mul_addresses hlow hhigh]
    exact Nat.mul_lt_mul_of_pos_right hindex (Nat.two_pow_pos _)
  have hspace := network.network_address_add_le
  exact Nat.mod_eq_of_lt (by omega)

theorem subnet_of_iff : network.subnet_of other ↔ ∀ address ∈ network, address ∈ other := by
  constructor
  · intro hsubnet address hmem
    exact mem_of_subnet_of hsubnet hmem
  · intro hall
    have hfirst := mem_iff.mp (hall _ network.network_address_mem)
    have hlast := mem_iff.mp (hall _ network.broadcast_address_mem)
    exact decide_eq_true ⟨hfirst.1, hlast.2⟩

theorem prefixlen_le_of_subnet_of (hsubnet : other.subnet_of network) : network.prefixlen ≤ other.prefixlen := by
  rw [subnet_of, decide_eq_true_iff, IPv4Address.le_iff, IPv4Address.le_iff, broadcast_address_value,
    broadcast_address_value] at hsubnet
  have hother := other.num_addresses_pos
  have hnetwork := network.num_addresses_pos
  have hsize : 2 ^ (32 - other.prefixlen) ≤ 2 ^ (32 - network.prefixlen) := by
    rw [← num_addresses, ← num_addresses]
    omega
  have hhosts := (Nat.pow_le_pow_iff_right Nat.one_lt_two).mp hsize
  have hle := network.prefixlen_le
  have hle' := other.prefixlen_le
  omega

theorem subnet_subnet_of {index : Nat} (hindex : index < 2 ^ (prefixlen - network.prefixlen)) :
    (network.subnet prefixlen hlow hhigh index).subnet_of network := by
  have haddress : (network.subnet prefixlen hlow hhigh index).network_address.value =
      network.network_address.value + index * 2 ^ (32 - prefixlen) := subnet_network_address hindex
  have hend : (index + 1) * 2 ^ (32 - prefixlen) ≤ network.num_addresses := by
    rw [← subnets_mul_addresses hlow hhigh]
    exact Nat.mul_le_mul_right _ hindex
  have hsize : (network.subnet prefixlen hlow hhigh index).num_addresses = 2 ^ (32 - prefixlen) := rfl
  have hpos := Nat.two_pow_pos (32 - prefixlen)
  rw [Nat.succ_mul] at hend
  rw [subnet_of, decide_eq_true_iff, IPv4Address.le_iff, IPv4Address.le_iff, broadcast_address_value,
    broadcast_address_value, haddress, hsize]
  omega

/-- The networks of a length inside a network are its subnets. -/
theorem exists_subnet (hlow : network.prefixlen ≤ prefixlen) (hhigh : prefixlen ≤ 32)
    (hprefixlen : other.prefixlen = prefixlen) (hinside : other.subnet_of network) :
    ∃ index < 2 ^ (prefixlen - network.prefixlen), other = network.subnet prefixlen hlow hhigh index := by
  subst hprefixlen
  rw [subnet_of, decide_eq_true_iff, IPv4Address.le_iff, IPv4Address.le_iff, broadcast_address_value,
    broadcast_address_value] at hinside
  have hsize : other.num_addresses = 2 ^ (32 - other.prefixlen) := rfl
  have hpos := other.num_addresses_pos
  have hsome := network.num_addresses_pos
  -- both start at multiples of the size of a subnet
  have hstart : 2 ^ (32 - other.prefixlen) ∣ network.network_address.value :=
    (Nat.pow_dvd_pow 2 (by omega)).trans network.no_host_bits
  obtain ⟨index, hindex⟩ := Nat.dvd_sub other.no_host_bits hstart
  rw [Nat.mul_comm] at hindex
  have hcount : index < 2 ^ (other.prefixlen - network.prefixlen) := by
    refine Nat.lt_of_mul_lt_mul_right (a := 2 ^ (32 - other.prefixlen)) ?_
    rw [subnets_mul_addresses hlow hhigh, ← hindex]
    omega
  have haddress : (network.subnet other.prefixlen hlow hhigh index).network_address.value =
      network.network_address.value + index * 2 ^ (32 - other.prefixlen) := subnet_network_address hcount
  refine ⟨index, hcount, IPv4Network.ext ?_ rfl⟩
  rw [IPv4Address.ext_iff, haddress, ← hindex]
  omega

variable {excluded : List IPv4Network} {found : IPv4Network}

/-- A network of the length, inside the network and apart from the excluded ones. -/
structure Fits (network : IPv4Network) (prefixlen : Int) (excluded : List IPv4Network) (found : IPv4Network) : Prop where
  prefixlen_eq : found.prefixlen = prefixlen
  inside : ∀ address ∈ found, address ∈ network
  apart : ∀ taken ∈ excluded, ∀ address ∈ found, address ∉ taken

/-- The subnets that fit are those that overlap nothing. -/
theorem fits_iff (hlow : network.prefixlen ≤ prefixlen) (hhigh : prefixlen ≤ 32) :
    Fits network prefixlen excluded found ↔ ∃ index < 2 ^ (prefixlen - network.prefixlen),
      found = network.subnet prefixlen hlow hhigh index ∧ (!excluded.any found.overlaps) = true := by
  have happart : (∀ taken ∈ excluded, ∀ address ∈ found, address ∉ taken) ↔
      (!excluded.any found.overlaps) = true := by
    simp only [Bool.not_eq_true', List.any_eq_false, Bool.not_eq_true, not_overlaps_iff]
  rw [← happart]
  constructor
  · rintro ⟨hprefixlen, hinside, hfree⟩
    obtain ⟨index, hindex, hfound⟩ :=
      exists_subnet hlow hhigh (Int.ofNat.inj hprefixlen) (subnet_of_iff.mpr hinside)
    exact ⟨index, hindex, hfound, hfree⟩
  · rintro ⟨index, hindex, hfound, hfree⟩
    refine ⟨hfound ▸ rfl, ?_, hfree⟩
    rw [hfound]
    exact subnet_of_iff.mp (subnet_subnet_of hindex)

/-- First fit finds the lowest of the networks that fit. -/
theorem first_free_eq_some_iff : network.first_free prefixlen hlow hhigh excluded = some found ↔
    Fits network prefixlen excluded found ∧
      ∀ other, Fits network prefixlen excluded other → found.network_address ≤ other.network_address := by
  have hmono {first second : Nat} (hfirst : first < 2 ^ (prefixlen - network.prefixlen))
      (hsecond : second < 2 ^ (prefixlen - network.prefixlen)) :
      (network.subnet prefixlen hlow hhigh first).network_address ≤
        (network.subnet prefixlen hlow hhigh second).network_address ↔ first ≤ second := by
    rw [IPv4Address.le_iff, subnet_network_address hfirst, subnet_network_address hsecond, Nat.add_le_add_iff_left,
      Nat.mul_le_mul_right_iff (Nat.two_pow_pos _)]
  simp only [first_free, Option.map_eq_some_iff, firstfit.first_eq_some_iff, Nat.zero_le, true_and, Nat.zero_add]
  constructor
  · rintro ⟨index, ⟨hindex, hfree, hearlier⟩, rfl⟩
    refine ⟨(fits_iff hlow hhigh).mpr ⟨index, hindex, rfl, hfree⟩, fun other hother => ?_⟩
    obtain ⟨position, hposition, rfl, hfits⟩ := (fits_iff hlow hhigh).mp hother
    rw [hmono hindex hposition]
    by_contra hlt
    rw [hearlier position (by simp) (by omega)] at hfits
    cases hfits
  · rintro ⟨hfits, hleast⟩
    obtain ⟨index, hindex, rfl, hfree⟩ := (fits_iff hlow hhigh).mp hfits
    refine ⟨index, ⟨hindex, hfree, fun earlier _ hlt => ?_⟩, rfl⟩
    by_contra htaken
    have hearlier : earlier < 2 ^ (prefixlen - network.prefixlen) := by omega
    have hle := hleast _ ((fits_iff hlow hhigh).mpr ⟨earlier, hearlier, rfl, Bool.not_eq_false _ ▸ htaken⟩)
    rw [hmono hindex hearlier] at hle
    omega

/-- First fit fails when nothing fits. -/
theorem first_free_eq_none_iff : network.first_free prefixlen hlow hhigh excluded = none ↔
    ∀ other, ¬Fits network prefixlen excluded other := by
  simp only [first_free, Option.map_eq_none_iff, firstfit.first_eq_none_iff, Nat.zero_le, Nat.zero_add]
  constructor
  · intro htaken other hother
    obtain ⟨index, hindex, rfl, hfree⟩ := (fits_iff hlow hhigh).mp hother
    rw [htaken index (by simp) hindex] at hfree
    cases hfree
  · intro hnone index _ hindex
    by_contra hfree
    exact hnone _ ((fits_iff hlow hhigh).mpr ⟨index, hindex, rfl, Bool.not_eq_false _ ▸ hfree⟩)

end Subnets

/-- `next(network.hosts())`. -/
def first_host (network : IPv4Network) : IPv4Address :=
  if network.prefixlen ≤ 30 then .ofNat (network.network_address.value + 1) else network.network_address

/-- All addresses of a network. -/
def addresses (network : IPv4Network) : List IPv4Address :=
  (List.range network.num_addresses).map fun offset => .ofNat (network.network_address.value + offset)

theorem addresses_value {network : IPv4Network} {offset : Nat} (hoffset : offset < network.num_addresses) :
    (IPv4Address.ofNat (network.network_address.value + offset)).value =
      network.network_address.value + offset := by
  have hle := network.network_address_add_le
  exact Nat.mod_eq_of_lt (by omega)

theorem nodup_addresses (network : IPv4Network) : network.addresses.Nodup := by
  refine List.nodup_range.map_on fun first hfirst second hsecond hsame => ?_
  rw [List.mem_range] at hfirst hsecond
  have hvalue := congrArg IPv4Address.value hsame
  rw [addresses_value hfirst, addresses_value hsecond] at hvalue
  omega

theorem length_addresses (network : IPv4Network) : network.addresses.length = network.num_addresses := by
  rw [addresses, List.length_map, List.length_range]

theorem mem_addresses {network : IPv4Network} {address : IPv4Address} :
    address ∈ network.addresses ↔ address ∈ network := by
  rw [mem_iff, IPv4Address.le_iff, IPv4Address.le_iff, broadcast_address_value]
  have hpos := network.num_addresses_pos
  constructor
  · intro hmem
    obtain ⟨offset, hoffset, rfl⟩ := List.mem_map.mp hmem
    rw [List.mem_range] at hoffset
    rw [addresses_value hoffset]
    omega
  · rintro ⟨hlow, hhigh⟩
    have hoffset : address.value - network.network_address.value < network.num_addresses := by omega
    refine List.mem_map.mpr ⟨address.value - network.network_address.value, List.mem_range.mpr hoffset, ?_⟩
    rw [IPv4Address.ext_iff, addresses_value hoffset]
    omega

/-! ## The text of a network -/

theorem slash_not_mem_str (address : IPv4Address) : '/' ∉ address.str.toList := by
  have hoctets : ∀ octet ∈ address.octets, '/' ∉ (toString octet).toList := by
    simp only [IPv4Address.octets, List.forall_mem_cons, List.not_mem_nil, false_implies, implies_true, and_true]
    exact ⟨numerals.not_mem_natText rfl _, numerals.not_mem_natText rfl _, numerals.not_mem_natText rfl _,
      numerals.not_mem_natText rfl _⟩
  simp only [IPv4Address.octets, List.forall_mem_cons] at hoctets
  obtain ⟨hfirst, hsecond, hthird, hfourth, -⟩ := hoctets
  simp only [IPv4Address.str, IPv4Address.octets, join, List.map_cons, List.map_nil, String.toList_intercalate]
  intro hslash
  simp at hslash hfirst hsecond hthird hfourth
  tauto

/-- The text of a network names the network. -/
theorem ip_network_str (network : IPv4Network) : ip_network network.str = .ipv4 network := by
  have hdecimal := (numerals.decimal_toString network.prefixlen).1
  have hsplit : split '/' (chars network.str) =
      [network.network_address.str.toList, (toString network.prefixlen).toList] := by
    have hparts : ∀ part ∈ [network.network_address.str.toList, (toString network.prefixlen).toList],
        '/' ∉ part := by
      rw [List.forall_mem_cons, List.forall_mem_singleton]
      exact ⟨slash_not_mem_str _, numerals.not_mem_natText rfl _⟩
    rw [split, ← List.splitOn_intercalate '/' hparts (by simp)]
    simp [str]
  have hparts : ipv4_parts? (chars network.str) = some (network.network_address, network.prefixlen) := by
    have haddress := ipv4_address_str network.network_address
    rw [chars_eq_toList] at haddress
    simp only [ipv4_parts?, split_addr_prefix?, hsplit, Option.bind_eq_bind, Option.bind_some, haddress,
      Option.elim_some, make_netmask?, hdecimal, network.prefixlen_le, ↓reduceIte, Option.pure_def]
  rw [ip_network, hparts]
  simp [IPv4Network.ofParts?, network.prefixlen_le, network.no_host_bits]

end IPv4Network

end ipaddress
