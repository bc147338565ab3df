import SdaOrchestrator.Lib.Backtrack
import SdaOrchestrator.Lib.JsonReader

/-! The repair of request bodies in which a workflow wrote values without their quotes. -/

open python regex backtrack backtrack.Pattern

namespace orchestrator.api

/-! ## The patterns -/

def key_start (c : Char) : Bool := isAsciiLetter c || c = '_'
def key_char (c : Char) : Bool := alphanumericOr "_" c

/-- The characters of a value that may stand without quotes. -/
def token (c : Char) : Bool := alphanumericOr "_.:@/+-" c

def quote (c : Char) : Bool := c = '"'
def colon (c : Char) : Bool := c = ':'
def closes (c : Char) : Bool := c = ',' || c = '\x7d'

/-- `\s*`. -/
def spaces : Pattern := many none (char isSpace)

def MERAKI_UNQUOTED_SCALAR : Pattern :=
  .seq
    (group "1" (concat [char quote, group "key" (.seq (char key_start) (many none (char key_char))), char quote,
      spaces, char colon] spaces))
    (.seq (group "value" (.seq (char token) (many (some 255) (char token)))) (ahead (.seq spaces (char closes))))

/-- So many characters of a class. -/
def between (minimum maximum : Nat) (accepts : Char → Bool) (value : List Char) : Bool :=
  minimum ≤ value.length && value.length ≤ maximum && value.all accepts

def hexadecimal (c : Char) : Bool := isAsciiDigit c || ('a' ≤ c && c ≤ 'f')
def timestamp (c : Char) : Bool := isAsciiDigit c || "TtZz:+.-".toList.contains c

/-- A fixed start and so many hexadecimal digits. -/
def identifier_of (start : String) (digits : Nat) (value : List Char) : Bool :=
  start.toList.isPrefixOf value && between digits digits hexadecimal (value.drop start.toList.length)

def MERAKI_SCALAR_GRAMMARS : List (String × (List Char → Bool)) := [
  ("plan_id", identifier_of "plan_" 16),
  ("run_id", identifier_of "run_" 32),
  ("idempotency_key", between 12 128 (alphanumericOr "_.:-")),
  ("mode", fun value => value = "dry_run".toList || value = "apply".toList),
  ("decision", fun value => value = "approved".toList || value = "rejected".toList),
  ("change_reference", between 3 128 (alphanumericOr "_.:/-")),
  ("expires_at", between 10 64 timestamp),
  ("start", between 10 64 timestamp),
  ("end", between 10 64 timestamp),
  ("fabric_id", between 3 128 (alphanumericOr "_.:-")),
  ("evidence_hash", between 64 64 hexadecimal),
  ("discovered_by", between 3 128 (alphanumericOr "_.:@/-"))]

/-! ## The repair -/

/-- `match.group(name)`. -/
def group_of (found : Position) (name : String) : List Char := (assoc.lookup name found.groups).getD []

/-- The value of a key matches the grammar of the key. -/
def approved (key value : List Char) : Bool :=
  match assoc.lookup (String.ofList key) MERAKI_SCALAR_GRAMMARS with
  | some grammar => grammar value
  | none => false

/-- What a match is replaced by, and how many replacements that makes. -/
def replace (matched : List Char) (found : Position) : List Char × Nat :=
  let value := group_of found "value"
  if approved (group_of found "key") value then (group_of found "1" ++ jsonChars (String.ofList value), 1)
  else (matched, 0)

def _repair_meraki_unquoted_scalars (parse_float : List Char → ℚ × String) (raw_document : String) :
    Option Value :=
  let (repaired, replacements) := rewritten MERAKI_UNQUOTED_SCALAR replace [] (chars raw_document)
  if replacements = 0 then none
  else
    match json.loads parse_float repaired with
    | some (.dict entries) => some (.dict entries)
    | _ => none

/-! ## Tokens -/

theorem toNat_lt_of_token {c : Char} (hc : token c = true) : c.toNat < 123 := by
  simp only [token, alphanumericOr, isAsciiLetter, isAsciiDigit, Bool.or_eq_true, decide_eq_true_eq,
    List.contains_iff_mem, Char.le_def, UInt32.le_iff_toNat_le] at hc
  obtain ((hupper | hlower) | hdigit) | hextra := hc
  · exact Nat.lt_of_le_of_lt hupper.2 (by decide)
  · exact Nat.lt_of_le_of_lt hlower.2 (by decide)
  · exact Nat.lt_of_le_of_lt hdigit.2 (by decide)
  · have hall : "_.:@/+-".toList.all (fun c => c.toNat < 123) := by decide
    exact of_decide_eq_true (List.all_eq_true.mp hall c hextra)

/-- What can be looked up for every token. -/
theorem of_token (holds : Char → Bool)
    (hall : (List.range 123).all (fun n => !token (Char.ofNat n) || holds (Char.ofNat n)) = true) {c : Char}
    (hc : token c = true) : holds c = true := by
  have hlookup := List.all_eq_true.mp hall c.toNat (List.mem_range.mpr (toNat_lt_of_token hc))
  rw [Char.ofNat_toNat, hc] at hlookup
  exact hlookup

theorem isSpace_of_token {c : Char} (hc : token c = true) : isSpace c = false := by
  have hnot := of_token (fun c => !isSpace c) (by decide +kernel) hc
  simpa using hnot

theorem ends_word_of_token {c : Char} (hc : token c = true) (hcolon : c ≠ ':') : json.ends_word c = false := by
  have hnot := of_token (fun c => !json.ends_word c || c = ':') (by decide +kernel) hc
  simpa [hcolon] using hnot

/-- A token is written between quotes as it stands. -/
theorem spelled_of_tokens {text : List Char} (htext : ∀ c ∈ text, token c = true) : json.Spelled text text := by
  induction text with
  | nil => exact .nil
  | cons c rest ih =>
    obtain ⟨hc, hrest⟩ := List.forall_mem_cons.mp htext
    have hplain := of_token (fun c => c ≠ '"' && c ≠ '\\' && !decide (c.toNat < 32)) (by decide +kernel) hc
    simp only [Bool.and_eq_true, decide_eq_true_eq, Bool.not_eq_true', decide_eq_false_iff_not] at hplain
    exact .plain hplain.1.1 hplain.1.2 hplain.2 (ih hrest)

theorem jsonChars_of_tokens {text : List Char} (htext : ∀ c ∈ text, token c = true) :
    jsonChars (String.ofList text) = '"' :: (text ++ ['"']) := by
  obtain ⟨escaped, hescaped⟩ : ∃ escaped : Char → List Char,
      ∀ text, jsonChars text = '"' :: (text.toList.flatMap escaped ++ ['"']) :=
    ⟨_, fun text => by rw [jsonChars, chars_eq_toList]⟩
  have hplain {c : Char} (hc : token c = true) : escaped c = [c] := by
    have hsingle := of_token (fun c => jsonChars (String.singleton c) = ['"', c, '"']) (by decide +kernel) hc
    rw [decide_eq_true_eq, hescaped] at hsingle
    simp only [String.toList_singleton, List.flatMap_cons, List.flatMap_nil, List.append_nil, List.cons.injEq,
      true_and] at hsingle
    exact List.append_cancel_right (show escaped c ++ ['"'] = [c] ++ ['"'] from hsingle)
  rw [hescaped, String.toList_ofList]
  have hall : text.flatMap escaped = text := by
    induction text with
    | nil => rfl
    | cons c rest ih =>
      obtain ⟨hc, hrest⟩ := List.forall_mem_cons.mp htext
      rw [List.flatMap_cons, hplain hc, ih hrest, List.singleton_append]
  rw [hall]

/-! ## Approved values -/

/-- A nonempty text of tokens, of a length that the pattern reads. -/
def Scannable (value : List Char) : Prop := value ≠ [] ∧ value.length ≤ 256 ∧ ∀ c ∈ value, token c = true

def identifier (name : List Char) : Bool :=
  match name with
  | [] => false
  | c :: rest => key_start c && rest.all key_char

theorem scannable_of_between {minimum maximum : Nat} {accepts : Char → Bool} {value : List Char}
    (hminimum : 0 < minimum) (hmaximum : maximum ≤ 256) (haccepts : ∀ c, accepts c = true → token c = true)
    (hvalue : between minimum maximum accepts value = true) : Scannable value := by
  simp only [between, Bool.and_eq_true, decide_eq_true_eq, List.all_eq_true] at hvalue
  obtain ⟨⟨hlow, hhigh⟩, hall⟩ := hvalue
  refine ⟨?_, by omega, fun c hc => haccepts c (hall c hc)⟩
  rintro rfl
  simp only [List.length_nil] at hlow
  omega

theorem token_of_alphanumeric {extra : String} (hextra : extra.toList ⊆ "_.:@/+-".toList) {c : Char}
    (hc : alphanumericOr extra c = true) : token c = true := by
  simp only [token, alphanumericOr, Bool.or_eq_true, List.contains_iff_mem] at hc ⊢
  exact hc.imp_right fun hmem => hextra hmem

theorem token_of_hexadecimal {c : Char} (hc : hexadecimal c = true) : token c = true := by
  simp only [hexadecimal, token, alphanumericOr, isAsciiLetter, Bool.or_eq_true, Bool.and_eq_true,
    decide_eq_true_eq] at hc ⊢
  obtain hdigit | ⟨hlow, hhigh⟩ := hc
  · exact .inl (.inr hdigit)
  · exact .inl (.inl (.inr ⟨hlow, le_trans hhigh (by decide)⟩))

theorem token_of_timestamp {c : Char} (hc : timestamp c = true) : token c = true := by
  simp only [timestamp, Bool.or_eq_true, List.contains_iff_mem] at hc
  obtain hdigit | hextra := hc
  · simp only [token, alphanumericOr, hdigit, Bool.or_true, Bool.true_or]
  · have hall : "TtZz:+.-".toList.all token = true := by decide
    exact List.all_eq_true.mp hall c hextra

theorem scannable_of_identifier_of {start : String} {digits : Nat} {value : List Char}
    (hstart : ∀ c ∈ start.toList, token c = true) (hdigits : 0 < digits)
    (hlength : start.toList.length + digits ≤ 256) (hvalue : identifier_of start digits value = true) :
    Scannable value := by
  simp only [identifier_of, Bool.and_eq_true, List.isPrefixOf_iff_prefix] at hvalue
  obtain ⟨⟨rest, rfl⟩, hrest⟩ := hvalue
  rw [List.drop_left] at hrest
  obtain ⟨hne, -, htokens⟩ := scannable_of_between hdigits (by omega) (fun c => token_of_hexadecimal) hrest
  simp only [between, Bool.and_eq_true, decide_eq_true_eq] at hrest
  refine ⟨by simp [hne], ?_, List.forall_mem_append.mpr ⟨hstart, htokens⟩⟩
  rw [List.length_append]
  omega

/-- An approved value stands under an identifier and is one that the pattern reads. -/
theorem scannable_of_approved {key value : List Char} (happroved : approved key value = true) :
    identifier key = true ∧ Scannable value := by
  have hgrammars : ∀ entry ∈ MERAKI_SCALAR_GRAMMARS,
      identifier entry.1.toList = true ∧ (entry.2 value = true → Scannable value) := by
    have hone {first second value : List Char} (hfirst : Scannable first) (hsecond : Scannable second)
        (hvalue : (value = first || value = second) = true) : Scannable value := by
      simp only [Bool.or_eq_true, decide_eq_true_eq] at hvalue
      obtain rfl | rfl := hvalue
      · exact hfirst
      · exact hsecond
    have hdate : ∀ value, between 10 64 timestamp value = true → Scannable value := fun value =>
      scannable_of_between (by decide) (by decide) fun c => token_of_timestamp
    have htext {minimum maximum : Nat} {extra : String} (hminimum : 0 < minimum) (hmaximum : maximum ≤ 256)
        (hextra : extra.toList ⊆ "_.:@/+-".toList) (value : List Char)
        (hvalue : between minimum maximum (alphanumericOr extra) value = true) : Scannable value :=
      scannable_of_between hminimum hmaximum (fun c => token_of_alphanumeric hextra) hvalue
    simp only [MERAKI_SCALAR_GRAMMARS, List.forall_mem_cons]
    refine ⟨⟨by decide, scannable_of_identifier_of (List.all_eq_true.mp (by decide)) (by decide) (by decide)⟩,
      ⟨by decide, scannable_of_identifier_of (List.all_eq_true.mp (by decide)) (by decide) (by decide)⟩,
      ⟨by decide, htext (by decide) (by decide) (by decide) _⟩,
      ⟨by decide, hone ⟨by decide, by decide, List.all_eq_true.mp (by decide)⟩ ⟨by decide, by decide, List.all_eq_true.mp (by decide)⟩⟩,
      ⟨by decide, hone ⟨by decide, by decide, List.all_eq_true.mp (by decide)⟩ ⟨by decide, by decide, List.all_eq_true.mp (by decide)⟩⟩,
      ⟨by decide, htext (by decide) (by decide) (by decide) _⟩,
      ⟨by decide, hdate _⟩, ⟨by decide, hdate _⟩, ⟨by decide, hdate _⟩,
      ⟨by decide, htext (by decide) (by decide) (by decide) _⟩,
      ⟨by decide, scannable_of_between (by decide) (by decide) fun c => token_of_hexadecimal⟩,
      ⟨by decide, htext (by decide) (by decide) (by decide) _⟩, List.forall_mem_nil _⟩
  simp only [approved] at happroved
  split at happroved
  · rename_i grammar hlookup
    have hmem := hgrammars _ (assoc.lookup_mem hlookup)
    rw [String.toList_ofList] at hmem
    exact ⟨hmem.1, hmem.2 happroved⟩
  · cases happroved

end orchestrator.api
