import SdaOrchestrator.Intent.Policy
import SdaOrchestrator.Ise.Manifest

open python ipaddress regex

namespace orchestrator.ise

open orchestrator.intent

/-! ## The origin of an accepted node -/

/-- A host and the digits of its port, as the location of an origin. -/
inductive Netloc : List Char → List Char → Option (List Char) → Prop where
  | host {host : List Char} (hne : host ≠ []) (hhost : ∀ c ∈ host, alphanumericOr ".-" c = true) :
    Netloc host host none
  | port {host digits : List Char} (hne : host ≠ [])
    (hhost : ∀ c ∈ host, alphanumericOr ".-" c = true) (hsome : digits ≠ [])
    (hdigits : ∀ c ∈ digits, isAsciiDigit c = true) :
    Netloc (host ++ ':' :: digits) host (some digits)

/-- The text of an origin is its scheme and its location. -/
theorem netloc_of_origin {text : String} (hmatch : ise_origin_pattern.fullmatch text = true) :
    ∃ netloc host port, text.toList = "https://".toList ++ netloc ∧ Netloc netloc host port := by
  rw [Regex.fullmatch_iff, ise_origin_pattern, origin_pattern, Regex.matches_literal_concat_iff] at hmatch
  obtain ⟨netloc, htext, hnetloc⟩ := hmatch
  simp only [Regex.matches_concat_cons, Regex.matches_concat_nil, Regex.matches_optional_iff,
    Regex.plus, Regex.Matches.seq_iff, Regex.Matches.oneOf_iff, Regex.matches_star_oneOf_iff,
    Regex.matches_literal_iff] at hnetloc
  obtain ⟨_, _, rfl, ⟨_, rest, rfl, ⟨first, hfirst, rfl⟩, hrest⟩, _, _, rfl, htail, rfl⟩ := hnetloc
  have hhost : ∀ c ∈ [first] ++ rest, alphanumericOr ".-" c = true := by
    rw [List.forall_mem_append, List.forall_mem_singleton]
    exact ⟨hfirst, hrest⟩
  have hne : [first] ++ rest ≠ [] := List.cons_ne_nil _ _
  have hdigit {u : List Char} (hu : (∃ c, isAsciiDigit c = true ∧ u = [c]) ∨ u = []) :
      ∀ c ∈ u, isAsciiDigit c = true := by
    obtain ⟨c, hc, rfl⟩ | rfl := hu
    · exact List.forall_mem_singleton.mpr hc
    · exact fun c hc => absurd hc List.not_mem_nil
  rw [List.append_nil] at htext
  obtain ⟨_, _, rfl, rfl, _, _, rfl, ⟨d, hd, rfl⟩, d₁, _, rfl, h₁, d₂, _, rfl, h₂, d₃, _, rfl, h₃, d₄, _,
    rfl, h₄, rfl⟩ | rfl := htail
  · have hdigits : ∀ c ∈ [d] ++ (d₁ ++ (d₂ ++ (d₃ ++ (d₄ ++ [])))), isAsciiDigit c = true := by
      simp only [List.forall_mem_append, List.forall_mem_singleton]
      exact ⟨hd, hdigit h₁, hdigit h₂, hdigit h₃, hdigit h₄, fun c hc => absurd hc List.not_mem_nil⟩
    exact ⟨_, _, _, htext, .port hne hhost (List.cons_ne_nil _ _) hdigits⟩
  · rw [List.append_nil] at htext
    exact ⟨_, _, _, htext, .host hne hhost⟩

section Urlparse

variable {text : String} {netloc host : List Char} {port : Option (List Char)}

/-- The characters of a location. -/
theorem Netloc.char (h : Netloc netloc host port) {c : Char} (hc : c ∈ netloc) :
    alphanumericOr ".-:" c = true := by
  have hweaken {c : Char} (h : alphanumericOr ".-" c = true) : alphanumericOr ".-:" c = true := by
    simp only [alphanumericOr, Bool.or_eq_true, List.contains_iff_mem] at h ⊢
    refine h.imp_right fun hmem => ?_
    exact List.mem_append_left [':'] hmem
  cases h with
  | host _ hhost => exact hweaken (hhost c hc)
  | port _ hhost _ hdigits =>
    rw [List.mem_append, List.mem_cons] at hc
    obtain hc | rfl | hc := hc
    · exact hweaken (hhost c hc)
    · rfl
    · rw [alphanumericOr, hdigits c hc, Bool.or_true, Bool.true_or]

theorem Netloc.not_mem (h : Netloc netloc host port) {c : Char}
    (hother : alphanumericOr ".-:" c = false) : c ∉ netloc := by
  intro hc
  rw [h.char hc] at hother
  cases hother

/-- What `urlparse` reads off an origin. -/
theorem urlparse_of_netloc (htext : text.toList = "https://".toList ++ netloc)
    (h : Netloc netloc host port) :
    url.urlparse text = .ok ⟨"https".toList, netloc, [], [], []⟩ := by
  have hkeep : (text.toList.filter fun c => c ≠ '\t' ∧ c ≠ '\r' ∧ c ≠ '\n') = text.toList := by
    rw [List.filter_eq_self]
    intro c hc
    rw [htext, List.mem_append] at hc
    refine decide_eq_true ⟨?_, ?_, ?_⟩
    all_goals
      rintro rfl
      obtain hc | hc := hc
      · exact absurd hc (by decide)
      · exact h.not_mem (by decide) hc
  have hstripped : (chars text).dropWhile (fun c => decide (c.toNat ≤ 32)) = text.toList := by
    rw [chars_eq_toList, htext]
    rfl
  have hdelimiter : ∀ c ∈ netloc, (!(decide (c = '/') || decide (c = '?') || decide (c = '#'))) = true := by
    intro c hc
    simp only [Bool.not_eq_true', Bool.or_eq_false_iff, decide_eq_false_iff_not]
    refine ⟨⟨?_, ?_⟩, ?_⟩
    all_goals
      rintro rfl
      exact h.not_mem (by decide) hc
  have hscheme : url.split_scheme text.toList = ("https".toList, '/' :: '/' :: netloc) := by
    have hcolon : ':' ∉ "https".toList := by decide
    have htext' : text.toList = "https".toList ++ ':' :: '/' :: '/' :: netloc := htext
    rw [url.split_scheme, htext', url.partition_append hcolon]
    rfl
  have hnetloc : url.split_netloc ('/' :: '/' :: netloc) = (netloc, []) := by
    rw [url.split_netloc, List.takeWhile_eq_self_iff.mpr hdelimiter, List.dropWhile_eq_nil_iff.mpr hdelimiter]
  rw [url.urlparse, hstripped, hkeep]
  have hbrackets : ('[' ∈ netloc) = (']' ∈ netloc) :=
    propext (iff_of_false (h.not_mem (by decide)) (h.not_mem (by decide)))
  simp only [hscheme, hnetloc]
  refine raise_if_bind_eq_ok_iff.mpr ⟨decide_eq_false (not_not_intro hbrackets), ?_⟩
  split <;> rfl

theorem userinfo_of_netloc (parsed : url.ParseResult) (h : Netloc parsed.netloc host port) :
    parsed.userinfo = none := by
  rw [url.ParseResult.userinfo, url.rpartition_of_not_mem (h.not_mem (by decide))]
  rfl

theorem hostinfo_of_netloc (parsed : url.ParseResult) (h : Netloc parsed.netloc host port) :
    parsed.hostinfo = (host, port) := by
  rw [url.ParseResult.hostinfo, url.rpartition_of_not_mem (h.not_mem (by decide)),
    url.partition_of_not_mem (h.not_mem (by decide))]
  have hcolon {host : List Char} (hhost : ∀ c ∈ host, alphanumericOr ".-" c = true) : ':' ∉ host :=
    fun hmem => absurd (hhost ':' hmem) (by decide)
  generalize parsed.netloc = netloc at h
  cases h with
  | host _ hhost => exact url.partition_of_not_mem (hcolon hhost)
  | port _ hhost => exact url.partition_append (hcolon hhost)

/-- The port of an origin, as the validation of the intent reads it. -/
theorem origin_port_of_netloc {digits : List Char} (htext : text.toList = "https://".toList ++ netloc)
    (h : Netloc netloc host (some digits)) : origin_port text = decimal? digits := by
  cases h with
  | port hne hhost hsome hdigits =>
    have hcolon : ∀ part ∈ [host, digits], ':' ∉ part := by
      rw [List.forall_mem_cons, List.forall_mem_singleton]
      exact ⟨fun hmem => absurd (hhost ':' hmem) (by decide),
        fun hmem => absurd (hdigits ':' hmem) (by decide)⟩
    have hsplit := List.splitOn_intercalate ':' hcolon (List.cons_ne_nil _ _)
    have hparts : (host ++ ':' :: digits).splitOn ':' = [host, digits] := by
      rw [← hsplit]
      simp [List.intercalate]
    have hdrop : (chars text).drop 8 = host ++ ':' :: digits := by
      rw [chars_eq_toList, htext]
      rfl
    rw [origin_port, hdrop, hparts]

/-- The port that `urlparse` reads is in range when the validation of the intent finds it so. -/
theorem port_of_netloc (parsed : url.ParseResult) (htext : text.toList = "https://".toList ++ parsed.netloc)
    (h : Netloc parsed.netloc host port)
    (hrange : (origin_port text).any (fun port => port = 0 || 65535 < port) = false) :
    ∃ value, parsed.port = .ok value ∧ value.any (fun value => value < 1 || 65535 < value) = false := by
  cases port with
  | none =>
    refine ⟨none, ?_, rfl⟩
    rw [url.ParseResult.port, hostinfo_of_netloc parsed h]
  | some digits =>
    obtain ⟨hsome, hdigits⟩ : digits ≠ [] ∧ ∀ c ∈ digits, isAsciiDigit c = true := by
      generalize parsed.netloc = netloc at h
      cases h with
      | port _ _ hsome hdigits => exact ⟨hsome, hdigits⟩
    have hempty : digits.isEmpty = false := List.isEmpty_eq_false_iff.mpr hsome
    have hall : digits.all isAsciiDigit = true := List.all_eq_true.mpr hdigits
    have hall' : digits.all Char.isDigit = true := by
      rw [List.all_eq_true]
      intro c hc
      have hdigit := hdigits c hc
      rw [isAsciiDigit, decide_eq_true_iff] at hdigit
      rw [Char.isDigit, Bool.and_eq_true, decide_eq_true_iff, decide_eq_true_iff]
      exact hdigit
    rw [origin_port_of_netloc htext h, decimal?, hempty, hall'] at hrange
    simp only [Bool.false_eq_true, Bool.not_true, or_self, if_false, Option.any_some,
      Bool.or_eq_false_iff, decide_eq_false_iff_not] at hrange
    obtain ⟨hzero, hlarge⟩ := hrange
    refine ⟨some (digits.foldl (fun total c => total * 10 + (c.toNat - '0'.toNat)) 0), ?_, ?_⟩
    · rw [url.ParseResult.port, hostinfo_of_netloc parsed h]
      simp only [hempty, hall, Bool.not_true, Bool.or_self, Bool.false_eq_true, if_false, if_neg hlarge]
    · rw [Option.any_some, Bool.or_eq_false_iff, decide_eq_false_iff_not, decide_eq_false_iff_not]
      exact ⟨by omega, hlarge⟩

end Urlparse

/-- The API takes the origin of an accepted node. -/
theorem exists_validate_origin {text : String} (hgood : bad_origin text = false) :
    ∃ found, _validate_origin text = .ok found := by
  rw [bad_origin, Bool.or_eq_false_iff, Bool.not_eq_false'] at hgood
  obtain ⟨hmatch, hrange⟩ := hgood
  obtain ⟨netloc, host, port, htext, h⟩ := netloc_of_origin hmatch
  have hhostne : host ≠ [] := by
    cases h with
    | host hne => exact hne
    | port hne => exact hne
  let parsed : url.ParseResult := ⟨"https".toList, netloc, [], [], []⟩
  have hname : parsed.hostname.isNone = false := by
    rw [url.ParseResult.hostname, hostinfo_of_netloc parsed h]
    cases host with
    | nil => exact absurd rfl hhostne
    | cons first rest => rfl
  obtain ⟨value, hvalue, hinside⟩ := port_of_netloc parsed htext h hrange
  refine ⟨(String.ofList ("https".toList ++ [':', '/', '/'] ++ netloc),
    String.ofList (parsed.hostname.getD [])), ?_⟩
  rw [_validate_origin, bind_eq_ok_iff]
  refine ⟨parsed, urlparse_of_netloc htext h, ?_⟩
  simp only [raise_if_bind_eq_ok_iff, hvalue, hname, userinfo_of_netloc parsed h]
  exact ⟨rfl, hinside, rfl⟩

end orchestrator.ise
