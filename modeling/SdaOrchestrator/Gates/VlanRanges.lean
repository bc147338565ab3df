import Mathlib.Data.List.TakeWhile
import SdaOrchestrator.Gates.GatePlan
import SdaOrchestrator.Lib.Numerals
import SdaOrchestrator.Lib.Ranges

open python ipaddress ranges orchestrator.store

namespace orchestrator.gates

open orchestrator.intent orchestrator.reconciliation orchestrator.renderer

/-! ## Reading ranges -/

def read_number : List Char → Option Int
  | '-' :: digits => (decimal? digits).map fun n => -(n : Int)
  | digits => (decimal? digits).map fun n => (n : Int)

/-- A number, or two of them around a `-`. A `-` at the start is a sign. -/
def read_range : List Char → Option (Int × Int)
  | [] => none
  | first :: rest =>
    let start := read_number (first :: rest.takeWhile (· ≠ '-'))
    match rest.dropWhile (· ≠ '-') with
    | [] => start.map fun n => (n, n)
    | _ :: last => do return (← start, ← read_number last)

/-- The ranges that a text lists. -/
def read_ranges (text : String) : Option (List (Int × Int)) :=
  if text = "" then some [] else (split ',' text.toList).mapM read_range

theorem read_number_toString (n : Int) : read_number (toString n).toList = some n := by
  cases n with
  | ofNat n =>
    have hread := (numerals.decimal_toString n).1
    have hminus : ∀ digits, (toString n).toList ≠ '-' :: digits := by
      intro digits htext
      exact numerals.not_mem_natText rfl n (htext ▸ List.mem_cons_self)
    rw [show toString (Int.ofNat n) = toString n from rfl, read_number, hread]
    · rfl
    · exact hminus
  | negSucc n =>
    rw [numerals.toList_negSucc, read_number, (numerals.decimal_toString (n + 1)).1]
    rfl

/-- After its first character, the text of a number has no sign. -/
theorem exists_toString_cons (n : Int) : ∃ first rest, (toString n).toList = first :: rest ∧ '-' ∉ rest := by
  cases n with
  | ofNat n =>
    obtain ⟨first, rest, htext⟩ := List.exists_cons_of_ne_nil (numerals.intText_ne_nil (Int.ofNat n))
    refine ⟨first, rest, htext, fun hmem => ?_⟩
    have hall : '-' ∈ (toString n).toList := htext ▸ List.mem_cons_of_mem first hmem
    exact numerals.not_mem_natText rfl n hall
  | negSucc n => exact ⟨'-', _, numerals.toList_negSucc n, numerals.not_mem_natText rfl (n + 1)⟩

theorem read_range_text (start last : Int) : read_range (range_text start last).toList = some (start, last) := by
  obtain ⟨first, rest, htext, hminus⟩ := exists_toString_cons start
  have hplain : ∀ c ∈ rest, decide (c ≠ '-') = true := by
    intro c hc
    exact decide_eq_true (ne_of_mem_of_not_mem hc hminus)
  have hstart : read_number (first :: rest) = some start := htext ▸ read_number_toString start
  unfold range_text
  split
  · rename_i hsame
    subst hsame
    have hall : rest.takeWhile (· ≠ '-') = rest := List.takeWhile_eq_self_iff.mpr hplain
    have hnone : rest.dropWhile (· ≠ '-') = [] := List.dropWhile_eq_nil_iff.mpr hplain
    simp only [htext, read_range, hall, hnone, hstart, Option.map_some]
  · have hchars : (toString start ++ "-" ++ toString last).toList =
        first :: (rest ++ '-' :: (toString last).toList) := by
      rw [String.toList_append, String.toList_append, htext, List.append_assoc]
      rfl
    have htake : (rest ++ '-' :: (toString last).toList).takeWhile (· ≠ '-') = rest := by
      rw [List.takeWhile_append_of_pos hplain]
      simp
    have hdrop : (rest ++ '-' :: (toString last).toList).dropWhile (· ≠ '-') = '-' :: (toString last).toList := by
      rw [List.dropWhile_append_of_pos hplain]
      simp
    simp only [hchars, read_range, htake, hdrop, hstart, read_number_toString]
    rfl

theorem comma_not_mem_range_text (start last : Int) : ',' ∉ (range_text start last).toList := by
  have hnumber (n : Int) : ',' ∉ (toString n).toList := numerals.not_mem_intText rfl (by decide) n
  unfold range_text
  split
  · exact hnumber start
  · simp only [String.toList_append, List.mem_append, not_or]
    exact ⟨⟨hnumber start, by decide⟩, hnumber last⟩

/-- The text of ranges reads as the ranges. -/
theorem read_ranges_join (ranges : List (Int × Int)) :
    read_ranges (join "," (ranges.map fun range => range_text range.1 range.2)) = some ranges := by
  cases ranges with
  | nil => rfl
  | cons range rest =>
    set ranges := range :: rest with hranges
    have hchars : (join "," (ranges.map fun range => range_text range.1 range.2)).toList =
        [','].intercalate (ranges.map fun range => (range_text range.1 range.2).toList) := by
      rw [join, String.toList_intercalate, List.map_map]
      rfl
    have hsplit : split ',' (join "," (ranges.map fun range => range_text range.1 range.2)).toList =
        ranges.map fun range => (range_text range.1 range.2).toList := by
      rw [hchars, split, List.splitOn_intercalate]
      · intro part hpart
        obtain ⟨range, -, rfl⟩ := List.mem_map.mp hpart
        exact comma_not_mem_range_text range.1 range.2
      · simp [hranges]
    have hread : (ranges.map fun range => (range_text range.1 range.2).toList).mapM read_range = some ranges := by
      rw [List.mapM_map]
      induction ranges with
      | nil => rfl
      | cons range rest ih => simp [List.mapM_cons, read_range_text, ih]
    have hne : join "," (ranges.map fun range => range_text range.1 range.2) ≠ "" := by
      intro hempty
      rw [hempty] at hsplit
      have hfirst : (range_text range.1 range.2).toList = [] := by
        simpa [hranges, split] using congrArg List.head? hsplit
      have hnone := read_range_text range.1 range.2
      rw [hfirst] at hnone
      cases hnone
    rw [read_ranges, if_neg hne, hsplit, hread]

/-! ## The two loops -/

/-- The texts are those of the ranges of some numbers. -/
def Compressed (lines : List String) (numbers : List Int) : Prop :=
  ∃ ranges, Canonical ranges ∧ (∀ number, number ∈ expand ranges ↔ number ∈ numbers) ∧
    lines = ranges.map fun range => range_text range.1 range.2

/-- One set of numbers has one list of texts. -/
theorem Compressed.unique {lines others : List String} {numbers : List Int} (hlines : Compressed lines numbers)
    (hothers : Compressed others numbers) : lines = others := by
  obtain ⟨ranges, hranges, hmem, rfl⟩ := hlines
  obtain ⟨ranges', hranges', hmem', rfl⟩ := hothers
  rw [hranges.eq_of_mem_iff hranges' fun number => (hmem number).trans (hmem' number).symm]

/-- A range in front of compressed numbers that come later. -/
theorem Compressed.cons {lines : List String} {later numbers : List Int} {start last : Int}
    (hlines : Compressed lines later) (hle : start ≤ last) (hapart : ∀ number ∈ later, last + 1 < number)
    (hnumbers : ∀ number, number ∈ numbers ↔ (start ≤ number ∧ number ≤ last) ∨ number ∈ later) :
    Compressed (range_text start last :: lines) numbers := by
  obtain ⟨ranges, hranges, hmem, rfl⟩ := hlines
  refine ⟨(start, last) :: ranges, .cons hle ?_ hranges, fun number => ?_, rfl⟩
  · intro number hnumber
    exact hapart number ((hmem number).mp hnumber)
  · rw [mem_expand_cons, hmem, hnumbers]

/-- The renderer's loop, with a range that is open up to its last number. -/
theorem compressed_compress_ranges {start last : Int} {rest : List Int} (hle : start ≤ last)
    (hsorted : (last :: rest).Pairwise (· < ·)) {numbers : List Int}
    (hnumbers : ∀ number, number ∈ numbers ↔ (start ≤ number ∧ number ≤ last) ∨ number ∈ rest) :
    Compressed (compress_ranges start last rest) numbers := by
  have hnil : Compressed [] [] := ⟨[], .nil, fun _ => Iff.rfl, rfl⟩
  induction rest generalizing start last numbers with
  | nil => exact hnil.cons hle (List.forall_mem_nil _) hnumbers
  | cons next rest ih =>
    obtain ⟨hlast, hrest⟩ := List.pairwise_cons.mp hsorted
    have hnext := hlast next List.mem_cons_self
    have hlater := (List.pairwise_cons.mp hrest).1
    simp only [List.mem_cons] at hnumbers
    rw [compress_ranges]
    split
    · rename_i hgoes_on
      refine ih (by omega) hrest fun number => ?_
      rw [hnumbers]
      by_cases hmem : number ∈ rest
      · simp only [hmem, or_true]
      · simp only [hmem, or_false]
        omega
    · have hlines : Compressed (compress_ranges next next rest) (next :: rest) := by
        refine ih (le_refl next) hrest fun number => ?_
        rw [List.mem_cons, le_antisymm_iff, and_comm]
      refine hlines.cons hle ?_ fun number => ?_
      · intro number hnumber
        obtain rfl | hmem := List.mem_cons.mp hnumber
        · omega
        · have hlt := hlater number hmem
          omega
      · rw [hnumbers, List.mem_cons]

/-- What a scan passes are the numbers up to where it ends. -/
theorem scan_range_spec {last : Int} {rest : List Int} (hsorted : (last :: rest).Pairwise (· < ·)) :
    last ≤ (scan_range last rest).1 ∧ (scan_range last rest).2.length ≤ rest.length ∧
      (scan_range last rest).2.Pairwise (· < ·) ∧
      (∀ number ∈ (scan_range last rest).2, (scan_range last rest).1 + 1 < number) ∧
      ∀ number, number ∈ rest ↔ (last < number ∧ number ≤ (scan_range last rest).1) ∨
        number ∈ (scan_range last rest).2 := by
  induction rest generalizing last with
  | nil => simp [scan_range]
  | cons next rest ih =>
    obtain ⟨hlast, hrest⟩ := List.pairwise_cons.mp hsorted
    have hnext := hlast next List.mem_cons_self
    have hlater := (List.pairwise_cons.mp hrest).1
    rw [scan_range]
    split
    · obtain ⟨hle, hlength, hafter, hapart, hmem⟩ := ih hrest
      refine ⟨by omega, by rw [List.length_cons]; omega, hafter, hapart, fun number => ?_⟩
      rw [List.mem_cons, hmem]
      by_cases hafter : number ∈ (scan_range next rest).2
      · simp only [hafter, or_true]
      · simp only [hafter, or_false]
        omega
    · refine ⟨le_refl last, le_refl _, hrest, fun number hnumber => ?_, fun number => ?_⟩
      · obtain rfl | hmem := List.mem_cons.mp hnumber
        · omega
        · have hlt := hlater number hmem
          omega
      · constructor
        · exact .inr
        · rintro (hnone | hmem)
          · omega
          · exact hmem

/-- The loop of the gates. -/
theorem compressed_vlan_ranges {rounds : Nat} {vlan_ids : List Int} (hrounds : vlan_ids.length ≤ rounds)
    (hsorted : vlan_ids.Pairwise (· < ·)) : Compressed (vlan_ranges rounds vlan_ids) vlan_ids := by
  induction rounds generalizing vlan_ids with
  | zero =>
    obtain rfl := List.eq_nil_of_length_eq_zero (Nat.le_zero.mp hrounds)
    exact ⟨[], .nil, fun _ => Iff.rfl, rfl⟩
  | succ rounds ih =>
    cases vlan_ids with
    | nil => exact ⟨[], .nil, fun _ => Iff.rfl, rfl⟩
    | cons start rest =>
      obtain ⟨hle, hlength, hafter, hapart, hmem⟩ := scan_range_spec hsorted
      rw [List.length_cons] at hrounds
      have hlines := ih (by omega) hafter
      refine hlines.cons hle hapart fun number => ?_
      rw [List.mem_cons, hmem]
      by_cases hafter : number ∈ (scan_range start rest).2
      · simp only [hafter, or_true]
      · simp only [hafter, or_false]
        omega

/-! ## The rendered VLANs and their gate -/

section Enforcement

variable {values : List Int}

/-- The numbers once each, in order. -/
theorem pairwise_sorted_dedup (values : List Int) : (sortedBy id values.dedup).Pairwise (· < ·) := by
  have hsorted : (sortedBy id values.dedup).Pairwise (· ≤ ·) := pairwise_sortedBy id values.dedup
  have hnodup : (sortedBy id values.dedup).Nodup :=
    (List.perm_insertionSort _ _).nodup_iff.mpr values.nodup_dedup
  exact (hsorted.and hnodup).imp fun hpair => lt_of_le_of_ne hpair.1 hpair.2

theorem compressed_sorted (values : List Int) :
    Compressed (vlan_ranges (sortedBy id values.dedup).length (sortedBy id values.dedup)) values := by
  obtain ⟨ranges, hranges, hmem, hlines⟩ := compressed_vlan_ranges (le_refl _) (pairwise_sorted_dedup values)
  refine ⟨ranges, hranges, fun number => ?_, hlines⟩
  rw [hmem, mem_sortedBy, List.mem_dedup]

/-- The renderer's text lists the ranges of the numbers. -/
theorem exists_compressed (values : List Int) :
    ∃ lines, Compressed lines values ∧ _compress_integer_ranges values = join "," lines := by
  have hmem : ∀ number, number ∈ sortedBy id values.dedup ↔ number ∈ values := fun number => by
    rw [mem_sortedBy, List.mem_dedup]
  have hsorted := pairwise_sorted_dedup values
  rw [_compress_integer_ranges]
  cases hvalues : sortedBy id values.dedup with
  | nil =>
    refine ⟨[], ⟨[], .nil, fun number => ?_, rfl⟩, rfl⟩
    rw [← hmem, hvalues]
    rfl
  | cons first rest =>
    rw [hvalues] at hsorted hmem
    refine ⟨_, compressed_compress_ranges (le_refl first) hsorted fun number => ?_, rfl⟩
    rw [← hmem, List.mem_cons, le_antisymm_iff, and_comm]

/-- Both loops write the same text. -/
theorem vlan_list_eq (values : List Int) : vlan_list values = _compress_integer_ranges values := by
  obtain ⟨lines, hlines, htext⟩ := exists_compressed values
  rw [htext, vlan_list, (compressed_sorted values).unique hlines]

/-- The gate asks for commands of the block. -/
def Verifies (gate : Gate) (block : Block) : Prop :=
  gate.evaluator = "exact_config_lines" ∧
    ∃ lines, gate.expected = [("lines", texts lines)] ∧ ∀ line ∈ lines, line ∈ block.commands

/-- The device has to enforce the policy on the VLANs. -/
structure Enforces (intent : FabricIntent) (device : Device) (vlan_ids : List Int) : Prop where
  listed : device ∈ intent.devices
  enforced : ∃ policy, intent.policy_plane = some policy ∧ policy.mode ≠ .none ∧
    device.id ∈ policy.enforcement_device_ids.getD [] ∧ policy.enforcement_vlan_ids.getD [] = vlan_ids

/-- A device that enforces a policy is sent the list that denies by default. -/
theorem default_deny_mem {platform : Platform} {policy : PolicyPlane} {device : Device} {blocks : List Block}
    (henforcing : device.id ∈ policy.enforcement_device_ids.getD [])
    (hok : enforcement_blocks platform policy device = .ok blocks) :
    default_deny_block platform (policy.enforcement_vlan_ids.getD []) ∈ blocks := by
  rw [enforcement_blocks, if_pos henforcing] at hok
  split at hok
  · simp only [bind_eq_ok_iff, pure_eq_ok_iff] at hok
    obtain ⟨named, -, contracts, -, rfl⟩ := hok
    exact List.mem_cons_self
  · simp only [bind_eq_ok_iff, pure_eq_ok_iff, exists_eq_left'] at hok
    exact hok ▸ List.mem_cons_self

theorem exists_verifies {platform : Platform} {intent : FabricIntent} {device : Device} {vlan_ids : List Int}
    {artifact : Option Artifact} {blocks : List Block} {gates : List Gate}
    (henforces : Enforces intent device vlan_ids)
    (hblocks : _policy_plane_blocks platform intent device = .ok blocks)
    (hgates : build_gate_plan intent artifact = .ok gates) :
    ∃ block ∈ blocks, ∃ gate ∈ gates, Verifies gate block ∧
      "cts role-based enforcement vlan-list " ++ _compress_integer_ranges vlan_ids ∈ block.commands := by
  obtain ⟨hdevice, policy, hpolicy, hmode, henforcing, rfl⟩ := henforces
  have hplane : intent.policy_plane.filter (·.mode ≠ .none) = some policy := by
    rw [hpolicy, Option.filter_some, if_pos (decide_eq_true hmode)]
  simp only [build_gate_plan, bind_eq_ok_iff, pure_eq_ok_iff] at hgates
  obtain ⟨reconciliation, -, _, -, publishers, -, devices, hdevices, fusions, -, rfl⟩ := hgates
  obtain ⟨found, hfound, hsub⟩ := exists_of_collect hdevices (mem_sortedBy.mpr hdevice)
  simp only [device_gates, policy_plane_gates, hplane, enforcement_gates, henforcing, ↓reduceIte, bind_eq_ok_iff,
    pure_eq_ok_iff] at hfound
  obtain ⟨pubsub, -, multicast, -, policy_plane, ⟨_, ⟨contracts, -, permissions, -, rfl⟩, sxp, -, rfl⟩, rfl⟩ := hfound
  simp only [_policy_plane_blocks, hplane, bind_eq_ok_iff, pure_eq_ok_iff] at hblocks
  obtain ⟨rendered, hrendered, sxp_rendered, -, rfl⟩ := hblocks
  have hdefault := List.mem_append_left sxp_rendered (default_deny_mem henforcing hrendered)
  set vlan_ids := policy.enforcement_vlan_ids.getD []
  have hline : "cts role-based enforcement vlan-list " ++ _compress_integer_ranges vlan_ids ∈
      (default_deny_block platform vlan_ids).commands := by
    simp [default_deny_block, plain_block, _block]
  have hlisted := hsub _ (List.mem_append_right _ (List.mem_append_left _ List.mem_cons_self))
  have hgate := List.mem_append_left fusions (List.mem_append_right reconciliation hlisted)
  refine ⟨default_deny_block platform vlan_ids, hdefault, _, hgate, ⟨rfl, _, rfl, ?_⟩, hline⟩
  rw [vlan_list_eq]
  simp [default_deny_block, plain_block, _block]

end Enforcement

/-- The ranges of a text are those of the numbers, in the only canonical way; the gate plan writes the
same text, and its gate on a device that enforces the VLANs asks for what the device is sent. -/
theorem compress_integer_ranges_exact (values : List Int) :
    (∃ ranges, read_ranges (_compress_integer_ranges values) = some ranges ∧ Canonical ranges ∧
      ∀ number, number ∈ expand ranges ↔ number ∈ values) ∧
    vlan_list values = _compress_integer_ranges values ∧
    ∀ (platform : Platform) (intent : FabricIntent) (device : Device) (artifact : Option Artifact)
      (blocks : List Block) (gates : List Gate), Enforces intent device values →
      _policy_plane_blocks platform intent device = .ok blocks → build_gate_plan intent artifact = .ok gates →
      ∃ block ∈ blocks, ∃ gate ∈ gates, Verifies gate block ∧
        "cts role-based enforcement vlan-list " ++ _compress_integer_ranges values ∈ block.commands := by
  obtain ⟨lines, ⟨ranges, hranges, hmem, rfl⟩, htext⟩ := exists_compressed values
  refine ⟨⟨ranges, ?_, hranges, hmem⟩, vlan_list_eq values, ?_⟩
  · rw [htext, read_ranges_join]
  · intro platform intent device artifact blocks gates henforces hblocks hgates
    exact exists_verifies henforces hblocks hgates

example : _compress_integer_ranges [12, -3, 7, 11, 7, -4, 10] = "-4--3,7,10-12" := by decide +kernel

end orchestrator.gates
