import Mathlib.Data.Nat.Basic
import SdaOrchestrator.Lib.Python

open python

namespace ipaddress

/-- An IPv4 address is a 32-bit number. -/
@[ext] structure IPv4Address where
  value : Nat
  lt : value < 2 ^ 32
  deriving DecidableEq

namespace IPv4Address

/-- The four octets, the highest first. -/
def octets (address : IPv4Address) : List Nat :=
  [address.value / 2 ^ 24, address.value / 2 ^ 16 % 256, address.value / 2 ^ 8 % 256,
    address.value % 256]

/-- `str(address)`. -/
def str (address : IPv4Address) : String :=
  join "." (address.octets.map toString)

/-- The address of a number, whose bits above the 32nd are dropped. -/
def ofNat (value : Nat) : IPv4Address := ⟨value % 2 ^ 32, Nat.mod_lt _ (by decide)⟩

instance : Inhabited IPv4Address := ⟨ofNat 0⟩

/-- `ip_address("a.b.c.d")`. -/
def ofOctets (a b c d : Nat) : IPv4Address := ofNat (((a * 256 + b) * 256 + c) * 256 + d)

/-- `address.is_multicast`. -/
def is_multicast (address : IPv4Address) : Bool := address.value / 2 ^ 28 = 14

/-- Addresses are ordered as numbers. -/
instance : LinearOrder IPv4Address :=
  LinearOrder.lift' IPv4Address.value fun _ _ => IPv4Address.ext

theorem le_iff {a b : IPv4Address} : a ≤ b ↔ a.value ≤ b.value := Iff.rfl

end IPv4Address

/-- A canonical IPv4 prefix: its network address has no host bits. -/
@[ext] structure IPv4Network where
  network_address : IPv4Address
  prefixlen : Nat
  prefixlen_le : prefixlen ≤ 32
  no_host_bits : 2 ^ (32 - prefixlen) ∣ network_address.value
  deriving DecidableEq

namespace IPv4Network

/-- `network.num_addresses`. -/
def num_addresses (network : IPv4Network) : Nat := 2 ^ (32 - network.prefixlen)

theorem num_addresses_pos (network : IPv4Network) : 0 < network.num_addresses :=
  Nat.two_pow_pos _

/-- The addresses that share the network bits fit below the end of the address space. -/
theorem network_address_add_le (network : IPv4Network) :
    network.network_address.value + network.num_addresses ≤ 2 ^ 32 := by
  obtain ⟨count, hcount⟩ := network.no_host_bits
  have hspace : 2 ^ (32 - network.prefixlen) * 2 ^ network.prefixlen = 2 ^ 32 := by
    rw [← pow_add, Nat.sub_add_cancel network.prefixlen_le]
  have hlt := network.network_address.lt
  rw [hcount, ← hspace] at hlt
  have hsucc : count + 1 ≤ 2 ^ network.prefixlen := Nat.lt_of_mul_lt_mul_left hlt
  calc network.network_address.value + network.num_addresses
      = 2 ^ (32 - network.prefixlen) * (count + 1) := by rw [hcount, num_addresses]; ring
    _ ≤ 2 ^ (32 - network.prefixlen) * 2 ^ network.prefixlen := Nat.mul_le_mul_left _ hsucc
    _ = 2 ^ 32 := hspace

/-- `network.broadcast_address`. -/
def broadcast_address (network : IPv4Network) : IPv4Address where
  value := network.network_address.value + (network.num_addresses - 1)
  lt := by
    have hle := network.network_address_add_le
    have hpos := network.num_addresses_pos
    omega

@[simp] theorem broadcast_address_value (network : IPv4Network) :
    network.broadcast_address.value =
      network.network_address.value + (network.num_addresses - 1) := rfl

/-- `network.hostmask`. -/
def hostmask (network : IPv4Network) : IPv4Address where
  value := network.num_addresses - 1
  lt := by
    have hle := network.network_address_add_le
    have hpos := network.num_addresses_pos
    omega

/-- `network.netmask`. -/
def netmask (network : IPv4Network) : IPv4Address where
  value := 2 ^ 32 - network.num_addresses
  lt := by
    have hpos := network.num_addresses_pos
    omega

/-- `str(network)`. -/
def str (network : IPv4Network) : String :=
  network.network_address.str ++ "/" ++ toString network.prefixlen

/-- `address in network`: the address without its host bits is the network address. -/
def contains (network : IPv4Network) (address : IPv4Address) : Bool :=
  address.value / network.num_addresses * network.num_addresses = network.network_address.value

instance : Membership IPv4Address IPv4Network := ⟨fun network address => network.contains address⟩

instance (network : IPv4Network) (address : IPv4Address) : Decidable (address ∈ network) :=
  inferInstanceAs (Decidable (network.contains address = true))

/-- The members of a network are the addresses from its network to its broadcast address. -/
theorem mem_iff {network : IPv4Network} {address : IPv4Address} :
    address ∈ network ↔
      network.network_address ≤ address ∧ address ≤ network.broadcast_address := by
  have hpos := network.num_addresses_pos
  obtain ⟨count, hcount⟩ := network.no_host_bits
  have hstart : network.network_address.value = count * network.num_addresses := by
    rw [hcount, num_addresses, Nat.mul_comm]
  have hmem : address ∈ network ↔
      address.value / network.num_addresses * network.num_addresses =
        count * network.num_addresses := by
    rw [← hstart]
    exact decide_eq_true_iff
  rw [hmem, Nat.mul_right_cancel_iff hpos, Nat.div_eq_iff hpos, IPv4Address.le_iff,
    IPv4Address.le_iff, broadcast_address_value, hstart]
  constructor <;> rintro ⟨hlow, hhigh⟩ <;> constructor <;> omega

theorem network_address_mem (network : IPv4Network) : network.network_address ∈ network := by
  rw [mem_iff, IPv4Address.le_iff, IPv4Address.le_iff, broadcast_address_value]
  omega

theorem broadcast_address_mem (network : IPv4Network) : network.broadcast_address ∈ network := by
  rw [mem_iff, IPv4Address.le_iff, IPv4Address.le_iff, broadcast_address_value]
  omega

/-- `network.overlaps(other)`. -/
def overlaps (network other : IPv4Network) : Bool :=
  network.contains other.network_address || network.contains other.broadcast_address ||
    other.contains network.network_address || other.contains network.broadcast_address

/-- Two networks overlap when they share an address. -/
theorem overlaps_iff {network other : IPv4Network} :
    network.overlaps other ↔ ∃ address, address ∈ network ∧ address ∈ other := by
  have hcases : network.overlaps other ↔
      other.network_address ∈ network ∨ other.broadcast_address ∈ network ∨
        network.network_address ∈ other ∨ network.broadcast_address ∈ other := by
    rw [overlaps, Bool.or_eq_true, Bool.or_eq_true, Bool.or_eq_true, or_assoc, or_assoc]
    rfl
  rw [hcases]
  constructor
  · rintro (hmem | hmem | hmem | hmem)
    · exact ⟨_, hmem, other.network_address_mem⟩
    · exact ⟨_, hmem, other.broadcast_address_mem⟩
    · exact ⟨_, network.network_address_mem, hmem⟩
    · exact ⟨_, network.broadcast_address_mem, hmem⟩
  · rintro ⟨address, hleft, hright⟩
    -- the later of the two network addresses lies in both
    rw [mem_iff] at hleft hright
    obtain hle | hle := le_total network.network_address other.network_address
    · exact Or.inl (mem_iff.mpr ⟨hle, hright.1.trans hleft.2⟩)
    · exact Or.inr (Or.inr (Or.inl (mem_iff.mpr ⟨hle, hleft.1.trans hright.2⟩)))

theorem not_overlaps_iff {network other : IPv4Network} :
    network.overlaps other = false ↔ ∀ address ∈ network, address ∉ other := by
  rw [← Bool.not_eq_true, overlaps_iff]
  push Not
  rfl

/-- `network.subnet_of(other)`. -/
def subnet_of (network other : IPv4Network) : Bool :=
  other.network_address ≤ network.network_address ∧
    network.broadcast_address ≤ other.broadcast_address

theorem mem_of_subnet_of {network other : IPv4Network} {address : IPv4Address}
    (hsubnet : network.subnet_of other) (hmem : address ∈ network) : address ∈ other := by
  rw [subnet_of, decide_eq_true_iff] at hsubnet
  rw [mem_iff] at hmem ⊢
  exact ⟨hsubnet.1.trans hmem.1, hmem.2.trans hsubnet.2⟩

/-- `ip_network(f"{address}/32")`. -/
def host (address : IPv4Address) : IPv4Network where
  network_address := address
  prefixlen := 32
  prefixlen_le := le_refl 32
  no_host_bits := by simp

@[simp] theorem mem_host {address member : IPv4Address} : member ∈ host address ↔ member = address := by
  rw [mem_iff, IPv4Address.le_iff, IPv4Address.le_iff, IPv4Address.ext_iff]
  simp only [broadcast_address_value, host, num_addresses]
  omega

end IPv4Network

/-! ## Reading addresses and networks -/

/-- A nonempty text of ASCII digits, as a number. -/
def decimal? (text : List Char) : Option Nat :=
  if text.isEmpty ∨ !text.all Char.isDigit then none
  else some (text.foldl (fun total c => total * 10 + (c.toNat - '0'.toNat)) 0)

/-- `_parse_octet(text)`: at most three digits without leading zeros, at most 255. -/
def parse_octet? (text : List Char) : Option Nat := do
  let value ← decimal? text
  if text.length > 3 ∨ (text ≠ ['0'] ∧ text.head? = some '0') ∨ value > 255 then none
  else some value

/-- The parts of a text between the separators. -/
def split (separator : Char) (text : List Char) : List (List Char) :=
  text.splitOn separator

/-- `IPv4Address(text)`. -/
def ipv4_address? (text : List Char) : Option IPv4Address :=
  match (split '.' text).mapM parse_octet? with
  | some [a, b, c, d] => some (.ofOctets a b c d)
  | _ => none

/-- The prefix length whose netmask is the number. -/
def prefix_from_ip_int? (value : Nat) : Option Nat :=
  (List.range 33).find? fun prefixlen => value = 2 ^ 32 - 2 ^ (32 - prefixlen)

/-- `_make_netmask(text)`: a prefix length, a dotted netmask or a dotted hostmask. -/
def make_netmask? (text : List Char) : Option Nat :=
  match decimal? text with
  | some prefixlen => if prefixlen ≤ 32 then some prefixlen else none
  | none => do
    let mask ← ipv4_address? text
    match prefix_from_ip_int? mask.value with
    | some prefixlen => some prefixlen
    | none => prefix_from_ip_int? (2 ^ 32 - 1 - mask.value)

/-- What a text names: an IPv4 network, an IPv6 network, or none that is canonical. -/
inductive Parsed where
  | ipv4 (network : IPv4Network)
  | ipv6
  | invalid

/-- The address and the mask of a prefix text; a missing mask is the full one. -/
def split_addr_prefix? (text : List Char) : Option (List Char × Option (List Char)) :=
  match split '/' text with
  | [address] => some (address, none)
  | [address, mask] => some (address, some mask)
  | _ => none

/-- `IPv4Network(text)` up to its host bits: the address and the prefix length. -/
def ipv4_parts? (text : List Char) : Option (IPv4Address × Nat) := do
  let (address, mask) ← split_addr_prefix? text
  let network_address ← ipv4_address? address
  let prefixlen ← mask.elim (some 32) make_netmask?
  return (network_address, prefixlen)

/-- The network of an address and a prefix length, when it has no host bits. -/
def IPv4Network.ofParts? (address : IPv4Address) (prefixlen : Nat) : Option IPv4Network :=
  if h : prefixlen ≤ 32 ∧ 2 ^ (32 - prefixlen) ∣ address.value then
    some ⟨address, prefixlen, h.1, h.2⟩
  else none

/-- `_parse_hextet(text)`. -/
def parse_hextet? (text : List Char) : Option Nat :=
  if text.length > 4 ∨ text.isEmpty ∨
      !text.all (fun c => c.isDigit ∨ ('a' ≤ c ∧ c ≤ 'f') ∨ ('A' ≤ c ∧ c ≤ 'F')) then none
  else some (text.foldl (fun total c => total * 16 +
    (if c.isDigit then c.toNat - '0'.toNat else c.toLower.toNat - 'a'.toNat + 10)) 0)

/-- The parts of an IPv6 text, where an IPv4 tail stands for its two hextets. -/
def ipv6_hextets? (text : List Char) : Option (List (Option Nat)) := do
  let parts := split ':' text
  if parts.length < 3 then none
  let last := parts.getLastD []
  let read (part : List Char) : Option (Option Nat) :=
    if part.isEmpty then some none else (parse_hextet? part).map some
  if '.' ∈ last then
    let tail ← ipv4_address? last
    return (← parts.dropLast.mapM read) ++
      [some (tail.value / 2 ^ 16), some (tail.value % 2 ^ 16)]
  else parts.mapM read

/-- `IPv6Address(text)`, as a number. -/
def ipv6_address? (text : List Char) : Option Nat := do
  let scopes := split '%' text
  -- a scope is one nonempty part after the address
  if scopes.length > 2 ∨ (scopes.length = 2 ∧ (scopes.getLastD []).isEmpty) then none
  let parts ← ipv6_hextets? (scopes.headD [])
  if parts.length > 9 then none
  let inner := ((parts.drop 1).dropLast.zipIdx 1).filter fun part => part.1.isNone
  let number (hextets : List (Option Nat)) : Nat :=
    hextets.foldl (fun total part => total * 65536 + part.getD 0) 0
  match inner with
  | [] => if parts.length ≠ 8 ∨ parts.any Option.isNone then none else some (number parts)
  | [(_, skip)] =>
    let high := if (parts.headD none).isNone then skip - 1 else skip
    let low := parts.length - skip - 1 - (if (parts.getLastD none).isNone then 1 else 0)
    if ((parts.headD none).isNone ∧ high ≠ 0) ∨ ((parts.getLastD none).isNone ∧ low ≠ 0) ∨
        8 ≤ high + low then none
    else
      some (number (parts.take high) * 65536 ^ (8 - high) +
        number (parts.drop (parts.length - low)))
  | _ => none

/-- `IPv6Network(text)` up to its host bits: the address and the prefix length. -/
def ipv6_parts? (text : List Char) : Option (Nat × Nat) := do
  let (address, mask) ← split_addr_prefix? text
  let network_address ← ipv6_address? address
  let prefixlen ← mask.elim (some 128) decimal?
  if prefixlen ≤ 128 then some (network_address, prefixlen) else none

/-- `ip_network(text, strict=True)`. -/
def ip_network (text : String) : Parsed :=
  match ipv4_parts? (chars text) with
  | some (address, prefixlen) =>
    match IPv4Network.ofParts? address prefixlen with
    | some network => .ipv4 network
    | none => .invalid
  | none =>
    match ipv6_parts? (chars text) with
    | some (address, prefixlen) => if 2 ^ (128 - prefixlen) ∣ address then .ipv6 else .invalid
    | none => .invalid

example : (match ip_network "10.8.0.0/255.252.0.0" with
    | .ipv4 network => network.str
    | _ => "") = "10.8.0.0/14" := by decide +kernel

/-! ## Texts of addresses -/

theorem parse_octet_toString : ∀ octet < 256, parse_octet? (toString octet).toList = some octet := by
  decide +kernel

theorem dot_not_mem_octet : ∀ octet < 256, '.' ∉ (toString octet).toList := by
  decide +kernel

theorem mapM_parse_octet {octets : List Nat} (hoctets : ∀ octet ∈ octets, octet < 256) :
    (octets.map fun octet => (toString octet).toList).mapM parse_octet? = some octets := by
  induction octets with
  | nil => rfl
  | cons octet rest ih =>
    rw [List.forall_mem_cons] at hoctets
    rw [List.map_cons, List.mapM_cons, parse_octet_toString octet hoctets.1, ih hoctets.2]
    rfl

/-- The text of an address names the address. -/
theorem ipv4_address_str (address : IPv4Address) : ipv4_address? (chars address.str) = some address := by
  have hlt := address.lt
  have hoctets : ∀ octet ∈ address.octets, octet < 256 := by
    simp only [IPv4Address.octets, List.forall_mem_cons, List.not_mem_nil, false_implies, implies_true, and_true]
    omega
  have hsplit : split '.' (chars address.str) = address.octets.map fun octet => (toString octet).toList := by
    have hparts : ∀ part ∈ address.octets.map (fun octet => (toString octet).toList), '.' ∉ part := by
      rw [List.forall_mem_map]
      exact fun octet hoctet => dot_not_mem_octet octet (hoctets octet hoctet)
    rw [split, ← List.splitOn_intercalate '.' hparts (by simp [IPv4Address.octets])]
    simp [IPv4Address.str, join, IPv4Address.octets]
  rw [ipv4_address?, hsplit, mapM_parse_octet hoctets]
  simp only [IPv4Address.octets, Option.some.injEq, IPv4Address.ext_iff, IPv4Address.ofOctets, IPv4Address.ofNat]
  omega

end ipaddress
