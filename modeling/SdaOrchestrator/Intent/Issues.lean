import Mathlib.Data.List.Induction
import SdaOrchestrator.Intent.Schema

open python ipaddress

namespace orchestrator.intent

inductive Severity where
  | error | warning
  deriving DecidableEq

structure ValidationIssue where
  code : String
  path : String
  message : String
  severity : Severity

structure ValidationResult where
  issues : List ValidationIssue

def ValidationResult.errors (result : ValidationResult) : List ValidationIssue :=
  result.issues.filter (·.severity = .error)

def ValidationResult.warnings (result : ValidationResult) : List ValidationIssue :=
  result.issues.filter (·.severity = .warning)

def ValidationResult.is_valid (result : ValidationResult) : Bool := result.errors.isEmpty

/-- No issue is an error. -/
def Clean (issues : List ValidationIssue) : Prop := ∀ issue ∈ issues, issue.severity = .warning

theorem ValidationResult.is_valid_iff {result : ValidationResult} :
    result.is_valid ↔ Clean result.issues := by
  rw [is_valid, errors, List.isEmpty_iff, List.filter_eq_nil_iff]
  refine forall₂_congr fun issue _ => ?_
  cases issue.severity <;> simp

/-! ## Issues -/

/-- `_add(issues, code, path, message)`. -/
def _add (code path message : String) : List ValidationIssue := [⟨code, path, message, .error⟩]

/-- `_add(issues, code, path, message, "warning")`. -/
def _warn (code path message : String) : List ValidationIssue := [⟨code, path, message, .warning⟩]

/-- `if condition: _add(issues, code, path, message)`. -/
def add_if (condition : Bool) (code path message : String) : List ValidationIssue :=
  if condition then _add code path message else []

/-- `if condition: _add(issues, code, path, message, "warning")`. -/
def warn_if (condition : Bool) (code path message : String) : List ValidationIssue :=
  if condition then _warn code path message else []

@[simp] theorem clean_nil : Clean [] := by simp [Clean]

@[simp] theorem clean_append {first second : List ValidationIssue} :
    Clean (first ++ second) ↔ Clean first ∧ Clean second :=
  List.forall_mem_append

@[simp] theorem not_clean_add (code path message : String) : ¬ Clean (_add code path message) := by
  simp [Clean, _add]

@[simp] theorem clean_add_if {condition : Bool} {code path message : String} :
    Clean (add_if condition code path message) ↔ condition = false := by
  cases condition <;> simp [add_if]

@[simp] theorem clean_warn_if {condition : Bool} {code path message : String} :
    Clean (warn_if condition code path message) := by
  cases condition <;> simp [warn_if, _warn, Clean]

@[simp] theorem clean_flatMap {α : Type*} {items : List α} {body : α → List ValidationIssue} :
    Clean (items.flatMap body) ↔ ∀ item ∈ items, Clean (body item) := by
  simp only [Clean, List.mem_flatMap]
  constructor
  · intro hclean item hitem issue hissue
    exact hclean issue ⟨item, hitem, hissue⟩
  · rintro hclean issue ⟨item, hitem, hissue⟩
    exact hclean item hitem issue hissue

/-- Issues that are collected under a condition. -/
@[simp] theorem clean_ite {condition : Prop} [Decidable condition]
    {first second : List ValidationIssue} :
    Clean (if condition then first else second) ↔
      (condition → Clean first) ∧ (¬ condition → Clean second) := by
  split <;> simp [*]

/-! ## Loops -/

/-- A loop over the items, whose body also sees the items before. -/
def eachFrom {α β : Type*} (body : List α → α → List β) (earlier : List α) : List α → List β
  | [] => []
  | item :: rest => body earlier item ++ eachFrom body (earlier ++ [item]) rest

def each {α β : Type*} (items : List α) (body : List α → α → List β) : List β :=
  eachFrom body [] items

theorem clean_eachFrom {α : Type*} {body : List α → α → List ValidationIssue}
    {before items : List α} :
    Clean (eachFrom body before items) ↔
      ∀ earlier item rest, items = earlier ++ item :: rest → Clean (body (before ++ earlier) item) := by
  induction items generalizing before with
  | nil => simp [eachFrom]
  | cons head tail ih =>
    rw [eachFrom, clean_append, ih]
    constructor
    · rintro ⟨hhead, htail⟩ earlier item rest hitems
      cases earlier with
      | nil =>
        obtain ⟨rfl, rfl⟩ := List.cons.inj hitems
        rwa [List.append_nil]
      | cons first earlier =>
        obtain ⟨rfl, rfl⟩ := List.cons.inj hitems
        have hclean := htail earlier item rest rfl
        rwa [List.append_assoc] at hclean
    · intro hall
      refine ⟨by simpa using hall [] head tail rfl, fun earlier item rest hitems => ?_⟩
      rw [List.append_assoc]
      exact hall (head :: earlier) item rest (by rw [hitems, List.cons_append])

theorem clean_each {α : Type*} {items : List α} {body : List α → α → List ValidationIssue} :
    Clean (each items body) ↔
      ∀ earlier item rest, items = earlier ++ item :: rest → Clean (body earlier item) := by
  rw [each, clean_eachFrom]
  simp only [List.nil_append]

/-- What the body of a clean loop found clean for an item. -/
theorem clean_each_mem {α : Type*} {items : List α} {body : List α → α → List ValidationIssue}
    (hclean : Clean (each items body)) {item : α} (hitem : item ∈ items) :
    ∃ earlier rest, items = earlier ++ item :: rest ∧ Clean (body earlier item) := by
  obtain ⟨earlier, rest, rfl⟩ := List.append_of_mem hitem
  exact ⟨earlier, rest, rfl, clean_each.mp hclean earlier item rest rfl⟩

/-- A loop whose body finds every item unrelated to those before it. -/
theorem pairwise_of_clean_each {α : Type*} {items : List α}
    {body : List α → α → List ValidationIssue} {related : α → α → Prop}
    (hclean : Clean (each items body))
    (hbody : ∀ earlier item rest, items = earlier ++ item :: rest → Clean (body earlier item) →
      ∀ first ∈ earlier, related first item) :
    items.Pairwise related := by
  rw [clean_each] at hclean
  have hprior : ∀ earlier item rest, items = earlier ++ item :: rest →
      ∀ first ∈ earlier, related first item :=
    fun earlier item rest hitems => hbody earlier item rest hitems (hclean earlier item rest hitems)
  clear hclean hbody
  induction items using List.reverseRecOn with
  | nil => exact List.Pairwise.nil
  | append_singleton init last ih =>
    rw [List.pairwise_append]
    refine ⟨ih ?_, List.pairwise_singleton _ _, ?_⟩
    · intro earlier item rest hinit
      exact hprior earlier item (rest ++ [last]) (by rw [hinit]; simp)
    · intro first hfirst second hsecond
      rw [List.mem_singleton] at hsecond
      exact hsecond ▸ hprior init last [] rfl first hfirst

/-! ## Dictionaries that a loop fills -/

section Declared

variable {α κ ν : Type*}

/-- `{key: value for ...}`: a later entry replaces the value of an earlier one. -/
def dict_of [DecidableEq κ] (entries : List (κ × ν)) : List (κ × ν) :=
  entries.foldl (fun found entry => assoc.set entry.1 entry.2 found) []

theorem lookup_dict_of [DecidableEq κ] (entries : List (κ × ν)) (key : κ) :
    assoc.lookup key (dict_of entries) = assoc.lookup key entries.reverse := by
  induction entries using List.reverseRecOn with
  | nil => rfl
  | append_singleton init last ih =>
    rw [List.reverse_append, List.reverse_singleton, List.singleton_append, assoc.lookup_cons, ← ih,
      dict_of, List.foldl_append, List.foldl_cons, List.foldl_nil, assoc.lookup_set]
    rfl

theorem keys_dict_of_nodup [DecidableEq κ] (entries : List (κ × ν)) :
    ((dict_of entries).map Prod.fst).Nodup := by
  induction entries using List.reverseRecOn with
  | nil => exact List.nodup_nil
  | append_singleton init last ih =>
    rw [dict_of, List.foldl_append]
    exact assoc.keys_set_nodup ih

/-- A dictionary holds some of the entries it is filled with. -/
theorem mem_of_mem_dict_of [DecidableEq κ] {entries : List (κ × ν)} {entry : κ × ν}
    (hentry : entry ∈ dict_of entries) : entry ∈ entries := by
  have hlookup := assoc.lookup_of_mem (keys_dict_of_nodup entries) hentry
  rw [lookup_dict_of] at hlookup
  exact List.mem_reverse.mp (assoc.lookup_mem hlookup)

theorem mem_keys_dict_of [DecidableEq κ] {entries : List (κ × ν)} {key : κ} :
    key ∈ (dict_of entries).map Prod.fst ↔ key ∈ entries.map Prod.fst := by
  rw [← assoc.lookup_isSome_iff, lookup_dict_of, assoc.lookup_isSome_iff, List.map_reverse,
    List.mem_reverse]

theorem mem_dict_of_iff [DecidableEq κ] {entries : List (κ × ν)}
    (hnodup : (entries.map Prod.fst).Nodup) {entry : κ × ν} :
    entry ∈ dict_of entries ↔ entry ∈ entries := by
  refine ⟨mem_of_mem_dict_of, fun hentry => ?_⟩
  have hreverse : (entries.reverse.map Prod.fst).Nodup := by
    rw [List.map_reverse]
    exact List.nodup_reverse.mpr hnodup
  have hlookup : assoc.lookup entry.1 (dict_of entries) = some entry.2 := by
    rw [lookup_dict_of]
    exact assoc.lookup_of_mem hreverse (List.mem_reverse.mpr hentry)
  exact assoc.lookup_mem hlookup

/-- The keys that the items declare, with the path of each declaration. -/
def declared (path : Nat → String) (key : α → Option κ) (items : List α) : List (κ × String) :=
  items.zipIdx.filterMap fun entry => (key entry.1).map (·, path entry.2)

/-- `_check_duplicate(seen, value, path, label, issues)`. -/
def _check_duplicate [DecidableEq κ] (seen : List (κ × String)) (value : Option κ) (path label : String) :
    List ValidationIssue :=
  match value.bind (assoc.lookup · seen) with
  | some first => _add "unique.duplicate" path s!"Duplicate {label}; first declared at {first}"
  | none => []

theorem keys_declared {path : Nat → String} {key : α → Option κ} {items : List α} :
    (declared path key items).map Prod.fst = items.filterMap key := by
  rw [declared, List.map_filterMap]
  have hkey : (fun entry : α × Nat => ((key entry.1).map (·, path entry.2)).map Prod.fst) =
      key ∘ Prod.fst := by
    funext entry
    cases hentry : key entry.1 <;> simp [hentry]
  rw [hkey, ← List.filterMap_map, List.zipIdx_map_fst]

@[simp] theorem clean_check_duplicate [DecidableEq κ] {seen : List (κ × String)} {value : Option κ}
    {path label : String} :
    Clean (_check_duplicate seen value path label) ↔
      ∀ key, value = some key → key ∉ seen.map Prod.fst := by
  rw [_check_duplicate]
  cases value with
  | none => simp
  | some key =>
    simp only [Option.bind_some, Option.some.injEq, forall_eq']
    rw [← assoc.lookup_eq_none_iff]
    cases hlookup : assoc.lookup key seen <;> simp

end Declared

/-! ## Fields -/

/-- The issues of `_list(value, path, issues)`. -/
def _list {α : Type*} (value : Option (List α)) (path : String) : List ValidationIssue :=
  add_if value.isNone "type.list" path "Expected a list"

/-- The issues of `_mapping(value, path, issues)`. -/
def _mapping {α : Type*} (value : Option α) (path : String) : List ValidationIssue :=
  add_if value.isNone "type.mapping" path "Expected an object/mapping"

/-- What `_required_string(obj, key, path, issues)` returns. -/
def required_string (value : Option String) : Option String :=
  value.bind fun text =>
    if strip text = "" ∨ '\r' ∈ chars text ∨ '\n' ∈ chars text then none else some (strip text)

/-- The issues of `_required_string(obj, key, path, issues)`, at the path of the field. -/
def _required_string (value : Option String) (path : String) : List ValidationIssue :=
  match value with
  | none => _add "required.string" path "A non-empty string is required"
  | some text =>
    if strip text = "" then _add "required.string" path "A non-empty string is required"
    else add_if ('\r' ∈ chars text ∨ '\n' ∈ chars text) "security.control_character" path
      "Line breaks are forbidden"

/-- What `_integer(obj, key, path, issues, minimum, maximum)` returns. -/
def integer (value : Option Int) (minimum maximum : Int) : Option Int :=
  value.bind fun number => if minimum ≤ number ∧ number ≤ maximum then some number else none

/-- The issues of `_integer(obj, key, path, issues, minimum, maximum)`. -/
def _integer (value : Option Int) (path : String) (minimum maximum : Int) : List ValidationIssue :=
  match value with
  | none => _add "required.integer" path "An integer is required"
  | some number =>
    add_if (¬ (minimum ≤ number ∧ number ≤ maximum)) "range.integer" path
      s!"Value must be between {minimum} and {maximum}"

/-- The issues of `_ipv4_address(value, path, issues)`. -/
def _ipv4_address (value : Option IPv4Address) (path : String) : List ValidationIssue :=
  add_if value.isNone "format.ipv4" path "A valid IPv4 address is required"

/-- What `_ipv4_network(value, path, issues)` returns. -/
def ipv4_network (value : Option String) : Option IPv4Network :=
  value.bind fun text =>
    match ip_network text with
    | .ipv4 network => some network
    | _ => none

/-- The issues of `_ipv4_network(value, path, issues)`. -/
def _ipv4_network (value : Option String) (path : String) : List ValidationIssue :=
  match value.map ip_network with
  | some (.ipv4 _) => []
  | some .ipv6 => _add "format.prefix" path "IPv6 is not supported in schema version 1.0"
  | _ => _add "format.prefix" path "A canonical IPv4 prefix is required"

@[simp] theorem clean_required_string {value : Option String} {path : String} :
    Clean (_required_string value path) ↔ (required_string value).isSome := by
  cases value with
  | none => simp [_required_string, required_string]
  | some text => by_cases hempty : strip text = "" <;> simp [_required_string, required_string, hempty]

/-- A required string is read without its surrounding space. -/
theorem required_string_eq {text : String} (hsome : (required_string (some text)).isSome) :
    required_string (some text) = some (strip text) := by
  simp only [required_string, Option.bind_some] at hsome ⊢
  split at hsome
  · cases hsome
  · rw [if_neg ‹_›]

theorem exists_required_string {value : Option String} (hsome : (required_string value).isSome) :
    ∃ text, value = some text ∧ required_string value = some (strip text) := by
  cases value with
  | none => cases hsome
  | some text => exact ⟨text, rfl, required_string_eq hsome⟩

@[simp] theorem clean_integer {value : Option Int} {path : String} {minimum maximum : Int} :
    Clean (_integer value path minimum maximum) ↔ (integer value minimum maximum).isSome := by
  cases value with
  | none => simp [_integer, integer]
  | some number =>
    by_cases hrange : minimum ≤ number ∧ number ≤ maximum <;> simp [_integer, integer, hrange]

theorem integer_isSome_iff {number minimum maximum : Int} :
    (integer (some number) minimum maximum).isSome ↔ minimum ≤ number ∧ number ≤ maximum := by
  simp [integer]

theorem integer_eq {number minimum maximum : Int}
    (hsome : (integer (some number) minimum maximum).isSome) :
    integer (some number) minimum maximum = some number := by
  simp only [integer, Option.bind_some, if_pos (integer_isSome_iff.mp hsome)]

@[simp] theorem clean_ipv4_address {value : Option IPv4Address} {path : String} :
    Clean (_ipv4_address value path) ↔ value.isSome := by
  cases value <;> simp [_ipv4_address]

@[simp] theorem clean_ipv4_network {value : Option String} {path : String} :
    Clean (_ipv4_network value path) ↔ (ipv4_network value).isSome := by
  cases value with
  | none => simp [_ipv4_network, ipv4_network]
  | some text =>
    simp only [_ipv4_network, ipv4_network, Option.map_some, Option.bind_some]
    cases ip_network text <;> simp

end orchestrator.intent
