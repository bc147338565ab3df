import SdaOrchestrator.Lib.SameDocument

/-! The canonical text of a document. -/

namespace python

namespace assoc

variable {κ α β : Type*} [DecidableEq κ]

theorem erase_of_not_mem {key : κ} {entries : List (κ × α)} (hkey : key ∉ entries.map Prod.fst) :
    erase key entries = entries := by
  induction entries with
  | nil => rfl
  | cons entry rest ih =>
    obtain ⟨name, value⟩ := entry
    rw [List.map_cons, List.mem_cons, not_or] at hkey
    rw [erase, if_neg (Ne.symm hkey.1), ih hkey.2]

theorem distinct_of_nodup {entries : List (κ × α)} (hnodup : (entries.map Prod.fst).Nodup) :
    distinct entries = entries := by
  induction entries with
  | nil => rfl
  | cons entry rest ih =>
    obtain ⟨name, value⟩ := entry
    rw [List.map_cons, List.nodup_cons] at hnodup
    rw [distinct, ih hnodup.2, erase_of_not_mem hnodup.1]

theorem map_erase (f : α → β) (key : κ) (entries : List (κ × α)) :
    (erase key entries).map (Prod.map id f) = erase key (entries.map (Prod.map id f)) := by
  induction entries with
  | nil => rfl
  | cons entry rest ih =>
    obtain ⟨name, value⟩ := entry
    rw [erase, List.map_cons, Prod.map_apply, id, erase]
    split
    · exact ih
    · rw [List.map_cons, ih]
      rfl

theorem map_distinct (f : α → β) (entries : List (κ × α)) :
    (distinct entries).map (Prod.map id f) = distinct (entries.map (Prod.map id f)) := by
  induction entries with
  | nil => rfl
  | cons entry rest ih =>
    obtain ⟨name, value⟩ := entry
    rw [distinct, List.map_cons, map_erase, ih]
    rfl

end assoc

section Sorting

variable {κ α β : Type*} [LinearOrder κ]

theorem sortedBy_of_pairwise {key : α → κ} {items : List α}
    (hsorted : items.Pairwise fun first second => key first ≤ key second) : sortedBy key items = items :=
  hsorted.insertionSort_eq

/-- Sorting looks at the keys only. -/
theorem map_sortedBy {key : α → κ} {other : β → κ} {f : α → β} (hkey : ∀ item, other (f item) = key item)
    (items : List α) : (sortedBy key items).map f = sortedBy other (items.map f) := by
  refine List.map_insertionSort _ _ f items fun first _ second _ => ?_
  rw [hkey, hkey]

end Sorting

namespace Value

theorem canonicalItems_eq_map (items : List Value) : canonicalItems items = items.map canonical_json := by
  induction items with
  | nil => rfl
  | cons item rest ih => rw [canonicalItems, ih, List.map_cons]

theorem canonicalEntries_eq_map (entries : List (String × Value)) :
    canonicalEntries entries = entries.map (Prod.map id canonical_json) := by
  induction entries with
  | nil => rfl
  | cons entry rest ih =>
    obtain ⟨key, value⟩ := entry
    rw [canonicalEntries, ih, List.map_cons]
    rfl

theorem storedEntries_eq_map (entries : List (String × Value)) :
    storedEntries entries = entries.map (Prod.map id stored) := by
  induction entries with
  | nil => rfl
  | cons entry rest ih =>
    obtain ⟨key, value⟩ := entry
    rw [storedEntries, ih, List.map_cons]
    rfl

theorem keys_sortedBy_distinct_nodup {α : Type} (entries : List (String × α)) :
    ((sortedBy Prod.fst (assoc.distinct entries)).map Prod.fst).Nodup :=
  ((List.perm_insertionSort _ _).map Prod.fst).nodup_iff.mpr (assoc.keys_distinct_nodup entries)

/-- Entries in order of their keys, each key once. -/
theorem sorted_distinct_sorted {α : Type} (entries : List (String × α)) :
    sortedBy Prod.fst (assoc.distinct (sortedBy Prod.fst (assoc.distinct entries))) =
      sortedBy Prod.fst (assoc.distinct entries) := by
  rw [assoc.distinct_of_nodup (keys_sortedBy_distinct_nodup entries)]
  exact sortedBy_of_pairwise (pairwise_sortedBy _ _)

mutual

/-- What is stored has the text of what it was stored from. -/
theorem canonical_json_stored (value : Value) : value.stored.canonical_json = value.canonical_json := by
  cases value with
  | list items => rw [stored, canonical_json, canonical_json, canonicalItems_stored]
  | dict entries =>
    have hfst : ∀ entry : String × Value, (Prod.map id canonical_json entry).1 = entry.1 := fun _ => rfl
    have hsorted := map_sortedBy hfst (assoc.distinct (storedEntries entries))
    rw [assoc.map_distinct, ← canonicalEntries_eq_map (storedEntries entries), canonicalEntries_stored] at hsorted
    rw [stored, canonical_json, canonical_json, canonicalEntries_eq_map, hsorted, sorted_distinct_sorted]
  | _ => rfl

theorem canonicalItems_stored (items : List Value) : canonicalItems (storedItems items) = canonicalItems items := by
  cases items with
  | nil => rfl
  | cons item rest => rw [storedItems, canonicalItems, canonicalItems, canonical_json_stored, canonicalItems_stored]

theorem canonicalEntries_stored (entries : List (String × Value)) :
    canonicalEntries (storedEntries entries) = canonicalEntries entries := by
  cases entries with
  | nil => rfl
  | cons entry rest =>
    obtain ⟨key, value⟩ := entry
    rw [storedEntries, canonicalEntries, canonicalEntries, canonical_json_stored, canonicalEntries_stored]

end

/-! ## Texts that say where they end -/

/-- The characters that end a number or a name. -/
def delimiter (c : Char) : Bool :=
  c = ',' || c = ':' || c = '"' || c = '[' || c = ']' || c = '\x7b' || c = '\x7d'

/-- What follows a document is nothing or starts with a delimiter. -/
def Ends (rest : List Char) : Prop := ∀ c tail, rest = c :: tail → delimiter c

/-- The texts of documents. -/
inductive Document : List Char → Prop where
  | word {text : List Char} (hne : text ≠ []) (hword : ∀ c ∈ text, delimiter c = false) : Document text
  | string (text : String) : Document (jsonChars text)
  | list {items : List (List Char)} (hitems : ∀ item ∈ items, Document item) :
      Document ('[' :: ([','].intercalate items ++ [']']))
  | dict {entries : List (String × List Char)} (hentries : ∀ entry ∈ entries, Document entry.2) :
      Document ('\x7b' :: ([','].intercalate (entries.map fun entry => jsonChars entry.1 ++ ':' :: entry.2) ++
        ['\x7d']))

section Delimited

variable {text other rest tail : List Char}

theorem word_append_inj (htext : ∀ c ∈ text, delimiter c = false) (hother : ∀ c ∈ other, delimiter c = false)
    (hrest : Ends rest) (htail : Ends tail) (heq : text ++ rest = other ++ tail) :
    text = other ∧ rest = tail := by
  induction text generalizing other with
  | nil =>
    cases other with
    | nil => exact ⟨rfl, heq⟩
    | cons c other =>
      have hc := hrest c (other ++ tail) heq
      rw [hother c List.mem_cons_self] at hc
      cases hc
  | cons c text ih =>
    cases other with
    | nil =>
      have hc := htail c (text ++ rest) heq.symm
      rw [htext c List.mem_cons_self] at hc
      cases hc
    | cons d other =>
      obtain ⟨rfl, hremaining⟩ := List.cons.inj heq
      obtain ⟨rfl, hrest⟩ := ih (fun c hc => htext c (List.mem_cons_of_mem _ hc))
        (fun c hc => hother c (List.mem_cons_of_mem _ hc)) hremaining
      exact ⟨rfl, hrest⟩

theorem intercalate_comma (first : List Char) (items : List (List Char)) :
    [','].intercalate (first :: items) = first ++ items.flatMap fun item => ',' :: item := by
  induction items generalizing first with
  | nil => simp [List.intercalate]
  | cons second items ih =>
    have hstep : [','].intercalate (first :: second :: items) = first ++ ',' :: [','].intercalate (second :: items) := by
      simp [List.intercalate, List.intersperse]
    rw [hstep, ih, List.flatMap_cons]
    rfl

/-- A text that is delimited by what follows it, among the pieces. -/
def Delimited (Piece : List Char → Prop) (text : List Char) : Prop :=
  ∀ other rest tail, Piece other → Ends rest → Ends tail → text ++ rest = other ++ tail →
    text = other ∧ rest = tail

theorem ends_items {close : Char} (hclose : delimiter close) (items : List (List Char)) (rest : List Char) :
    Ends ((items.flatMap fun item => ',' :: item) ++ close :: rest) := by
  intro c tail heq
  cases items with
  | nil =>
    obtain ⟨rfl, -⟩ := List.cons.inj heq
    exact hclose
  | cons item items =>
    obtain ⟨rfl, -⟩ := List.cons.inj heq
    rfl

theorem items_append_inj {Piece : List Char → Prop} {close : Char} (hclose : delimiter close)
    (hcomma : close ≠ ',') {items others : List (List Char)} (hitems : ∀ item ∈ items, Delimited Piece item)
    (hothers : ∀ item ∈ others, Piece item)
    (heq : (items.flatMap fun item => ',' :: item) ++ close :: rest =
      (others.flatMap fun item => ',' :: item) ++ close :: tail) : items = others ∧ rest = tail := by
  induction items generalizing others with
  | nil =>
    cases others with
    | nil => exact ⟨rfl, (List.cons.inj heq).2⟩
    | cons other others => exact absurd (List.cons.inj heq).1 hcomma
  | cons item items ih =>
    cases others with
    | nil => exact absurd (List.cons.inj heq).1.symm hcomma
    | cons other others =>
      rw [List.forall_mem_cons] at hitems hothers
      rw [List.flatMap_cons, List.flatMap_cons, List.append_assoc, List.append_assoc] at heq
      obtain ⟨rfl, hremaining⟩ := hitems.1 other _ _ hothers.1 (ends_items hclose items rest)
        (ends_items hclose others tail) (List.cons.inj heq).2
      obtain ⟨rfl, hrest⟩ := ih hitems.2 hothers.2 hremaining
      exact ⟨rfl, hrest⟩

/-- Pieces between brackets say where the brackets close. -/
theorem pieces_append_inj {Piece : List Char → Prop} {close : Char} (hclose : delimiter close)
    (hcomma : close ≠ ',') (hopen : ∀ text, Piece text → ∀ tail rest, text ++ tail ≠ close :: rest)
    {items others : List (List Char)} (hitems : ∀ item ∈ items, Piece item ∧ Delimited Piece item)
    (hothers : ∀ item ∈ others, Piece item)
    (heq : [','].intercalate items ++ close :: rest = [','].intercalate others ++ close :: tail) :
    items = others ∧ rest = tail := by
  cases items with
  | nil =>
    cases others with
    | nil => exact ⟨rfl, (List.cons.inj heq).2⟩
    | cons other others =>
      rw [intercalate_comma, List.append_assoc] at heq
      exact absurd heq.symm (hopen other (hothers _ List.mem_cons_self) _ _)
  | cons item items =>
    rw [List.forall_mem_cons] at hitems
    rw [intercalate_comma, List.append_assoc] at heq
    cases others with
    | nil => exact absurd heq (hopen item hitems.1.1 _ _)
    | cons other others =>
      rw [List.forall_mem_cons] at hothers
      rw [intercalate_comma, List.append_assoc] at heq
      obtain ⟨rfl, hremaining⟩ := hitems.1.2 other _ _ hothers.1 (ends_items hclose items rest)
        (ends_items hclose others tail) heq
      obtain ⟨rfl, hrest⟩ := items_append_inj hclose hcomma (fun item hitem => (hitems.2 item hitem).2)
        hothers.2 hremaining
      exact ⟨rfl, hrest⟩

/-- A document starts with neither a comma nor a closing bracket. -/
theorem Document.ne_cons (hdocument : Document text) {close : Char} (hclose : close = ']' ∨ close = '\x7d') :
    text ++ tail ≠ close :: rest := by
  intro heq
  cases hdocument with
  | word hne hword =>
    obtain ⟨c, text, rfl⟩ := List.exists_cons_of_ne_nil hne
    obtain ⟨rfl, -⟩ := List.cons.inj heq
    have hc := hword c List.mem_cons_self
    obtain rfl | rfl := hclose <;> cases hc
  | string content =>
    obtain ⟨rfl, -⟩ := List.cons.inj heq
    obtain hclose | hclose := hclose <;> cases hclose
  | list _ =>
    obtain ⟨rfl, -⟩ := List.cons.inj heq
    obtain hclose | hclose := hclose <;> cases hclose
  | dict _ =>
    obtain ⟨rfl, -⟩ := List.cons.inj heq
    obtain hclose | hclose := hclose <;> cases hclose

/-- A word starts like no other document. -/
theorem word_ne_cons (hne : text ≠ []) (hword : ∀ c ∈ text, delimiter c = false) {c : Char}
    (hc : delimiter c) : text ++ rest ≠ c :: tail := by
  intro heq
  obtain ⟨d, text, rfl⟩ := List.exists_cons_of_ne_nil hne
  obtain ⟨rfl, -⟩ := List.cons.inj heq
  rw [hword d List.mem_cons_self] at hc
  cases hc

/-- A key, a colon and a document. -/
def entry_text (entry : String × List Char) : List Char := jsonChars entry.1 ++ ':' :: entry.2

theorem entry_text_injective : Function.Injective entry_text := by
  rintro ⟨key, text⟩ ⟨other, text'⟩ heq
  obtain ⟨hkey, hvalues⟩ := jsonChars_append_inj heq
  exact Prod.ext hkey (List.cons.inj hvalues).2

/-- The entries of a dictionary, up to its closing bracket. -/
theorem entries_append_inj {entries others : List (String × List Char)}
    (hentries : ∀ entry ∈ entries, Document entry.2 ∧ Delimited Document entry.2)
    (hothers : ∀ entry ∈ others, Document entry.2)
    (heq : [','].intercalate (entries.map entry_text) ++ '\x7d' :: rest =
      [','].intercalate (others.map entry_text) ++ '\x7d' :: tail) : entries = others ∧ rest = tail := by
  let Piece (text : List Char) : Prop := ∃ entry, Document entry.2 ∧ text = entry_text entry
  have hpiece : ∀ entry ∈ entries, Piece (entry_text entry) ∧ Delimited Piece (entry_text entry) := by
    refine fun entry hentry => ⟨⟨entry, (hentries entry hentry).1, rfl⟩, ?_⟩
    rintro _ rest tail ⟨⟨key, text⟩, htext, rfl⟩ hrest htail heq
    simp only [entry_text, List.append_assoc, List.cons_append] at heq ⊢
    obtain ⟨hkey, htexts⟩ := jsonChars_append_inj heq
    obtain ⟨hsame, hrest⟩ := (hentries entry hentry).2 text rest tail htext hrest htail (List.cons.inj htexts).2
    rw [hkey, hsame]
    exact ⟨rfl, hrest⟩
  have hopen : ∀ text, Piece text → ∀ tail rest, text ++ tail ≠ '\x7d' :: rest := by
    rintro _ ⟨entry, -, rfl⟩ tail rest heq
    cases (List.cons.inj heq).1
  obtain ⟨hsame, hrest⟩ := pieces_append_inj (by decide) (by decide) hopen (List.forall_mem_map.mpr hpiece)
    (List.forall_mem_map.mpr fun entry hentry => ⟨entry, hothers entry hentry, rfl⟩) heq
  exact ⟨entry_text_injective.list_map hsame, hrest⟩

/-- A document says where it ends. -/
theorem Document.append_inj (hdocument : Document text) : Delimited Document text := by
  induction hdocument with
  | word hne hword =>
    intro other rest tail hother hrest htail heq
    cases hother with
    | word _ hword' => exact word_append_inj hword hword' hrest htail heq
    | string content => exact absurd heq (word_ne_cons hne hword rfl)
    | list _ => exact absurd heq (word_ne_cons hne hword rfl)
    | dict _ => exact absurd heq (word_ne_cons hne hword rfl)
  | string content =>
    intro other rest tail hother hrest htail heq
    cases hother with
    | word hne hword => exact absurd heq.symm (word_ne_cons hne hword rfl)
    | string content' =>
      obtain ⟨rfl, hrest⟩ := jsonChars_append_inj heq
      exact ⟨rfl, hrest⟩
    | list _ => cases (List.cons.inj heq).1
    | dict _ => cases (List.cons.inj heq).1
  | list hitems ih =>
    intro other rest tail hother hrest htail heq
    cases hother with
    | word hne hword => exact absurd heq.symm (word_ne_cons hne hword rfl)
    | string content => cases (List.cons.inj heq).1
    | list hothers =>
      rw [List.cons_append, List.cons_append, List.append_assoc, List.append_assoc] at heq
      obtain ⟨rfl, hrest⟩ := pieces_append_inj (by decide) (by decide)
        (fun text htext tail rest => htext.ne_cons (.inl rfl))
        (fun item hitem => ⟨hitems item hitem, ih item hitem⟩) hothers (List.cons.inj heq).2
      exact ⟨rfl, hrest⟩
    | dict _ => cases (List.cons.inj heq).1
  | @dict entries hentries ih =>
    intro other rest tail hother hrest htail heq
    cases hother with
    | word hne hword => exact absurd heq.symm (word_ne_cons hne hword rfl)
    | string content => cases (List.cons.inj heq).1
    | list _ => cases (List.cons.inj heq).1
    | @dict others hothers =>
      rw [List.cons_append, List.cons_append, List.append_assoc, List.append_assoc] at heq
      obtain ⟨rfl, hrest⟩ := entries_append_inj (fun entry hentry => ⟨hentries entry hentry, ih entry hentry⟩)
        hothers (List.cons.inj heq).2
      exact ⟨rfl, hrest⟩

end Delimited

/-! ## The text of a value -/

mutual

/-- The text of every float is one word, as `repr` prints it. -/
def printed : Value → Bool
  | .float _ text => text ≠ "" && (chars text).all fun c => !delimiter c
  | .list items => printedItems items
  | .dict entries => printedEntries entries
  | _ => true

def printedItems : List Value → Bool
  | [] => true
  | item :: rest => printed item && printedItems rest

def printedEntries : List (String × Value) → Bool
  | [] => true
  | (_, value) :: rest => printed value && printedEntries rest

end

theorem digit_word {n : Nat} : (toString n).toList ≠ [] ∧ ∀ c ∈ (toString n).toList, delimiter c = false := by
  have hdigits : (toString n).toList = Nat.toDigits 10 n := by simp
  rw [hdigits]
  refine ⟨fun hnil => ?_, fun c hc => ?_⟩
  · have hlength := @Nat.length_toDigits_pos 10 n
    rw [hnil] at hlength
    cases hlength
  · have hdigit := Nat.isDigit_of_mem_toDigits (by decide) (by decide) hc
    cases hdelimiter : delimiter c with
    | false => rfl
    | true =>
      simp only [delimiter, Bool.or_eq_true, decide_eq_true_eq, or_assoc] at hdelimiter
      obtain rfl | rfl | rfl | rfl | rfl | rfl | rfl := hdelimiter <;> cases hdigit

theorem int_word (value : Int) :
    (toString value).toList ≠ [] ∧ ∀ c ∈ (toString value).toList, delimiter c = false := by
  cases value with
  | ofNat n => exact digit_word
  | negSucc n =>
    have htext : (toString (Int.negSucc n)).toList = '-' :: (toString (n + 1)).toList := by
      show ("-" ++ toString (n + 1)).toList = _
      rw [String.toList_append]
      rfl
    rw [htext]
    exact ⟨List.cons_ne_nil _ _, List.forall_mem_cons.mpr ⟨rfl, digit_word.2⟩⟩

mutual

/-- The text of a value whose floats are printed is that of a document. -/
theorem document_of_printed {value : Value} (hprinted : printed value) : Document value.canonical_json := by
  cases value with
  | null => exact .word (List.cons_ne_nil _ _) (by simp [canonical_json, delimiter])
  | bool value =>
    cases value with
    | true => exact .word (List.cons_ne_nil _ _) (by simp [canonical_json, delimiter])
    | false => exact .word (List.cons_ne_nil _ _) (by simp [canonical_json, delimiter])
  | int value =>
    rw [canonical_json, chars_eq_toList]
    exact .word (int_word value).1 (int_word value).2
  | float value text =>
    simp only [printed, Bool.and_eq_true, decide_eq_true_eq, List.all_eq_true, Bool.not_eq_true'] at hprinted
    refine .word (fun hnil => hprinted.1 ?_) hprinted.2
    rwa [canonical_json, chars_eq_toList, String.toList_eq_nil_iff] at hnil
  | str text => exact .string text
  | list items => exact .list (documents_of_printedItems hprinted)
  | dict entries =>
    refine .dict fun entry hentry => documents_of_printedEntries hprinted entry ?_
    exact assoc.lookup_mem (assoc.mem_distinct_iff.mp (mem_sortedBy.mp hentry))

theorem documents_of_printedItems {items : List Value} (hprinted : printedItems items) :
    ∀ item ∈ canonicalItems items, Document item := by
  cases items with
  | nil => exact fun _ hitem => nomatch hitem
  | cons item rest =>
    rw [printedItems, Bool.and_eq_true] at hprinted
    rw [canonicalItems, List.forall_mem_cons]
    exact ⟨document_of_printed hprinted.1, documents_of_printedItems hprinted.2⟩

theorem documents_of_printedEntries {entries : List (String × Value)} (hprinted : printedEntries entries) :
    ∀ entry ∈ canonicalEntries entries, Document entry.2 := by
  cases entries with
  | nil => exact fun _ hentry => nomatch hentry
  | cons entry rest =>
    obtain ⟨key, value⟩ := entry
    rw [printedEntries, Bool.and_eq_true] at hprinted
    rw [canonicalEntries, List.forall_mem_cons]
    exact ⟨document_of_printed hprinted.1, documents_of_printedEntries hprinted.2⟩

end

theorem lookup_sorted_distinct {α : Type} (key : String) (entries : List (String × α)) :
    assoc.lookup key (sortedBy Prod.fst (assoc.distinct entries)) = assoc.lookup key entries := by
  have hperm : (sortedBy Prod.fst (assoc.distinct entries)).Perm (assoc.distinct entries) :=
    List.perm_insertionSort _ _
  rw [assoc.lookup_perm hperm (keys_sortedBy_distinct_nodup entries), assoc.lookup_distinct]

theorem lookup_canonicalEntries (key : String) (entries : List (String × Value)) :
    assoc.lookup key (canonicalEntries entries) = (assoc.lookup key entries).map canonical_json := by
  induction entries with
  | nil => rfl
  | cons entry rest ih =>
    obtain ⟨name, value⟩ := entry
    rw [canonicalEntries, assoc.lookup_cons, assoc.lookup_cons, ih]
    split <;> rfl

theorem documents_of_sorted {entries : List (String × Value)} (hprinted : printed (.dict entries)) :
    ∀ entry ∈ sortedBy Prod.fst (assoc.distinct (canonicalEntries entries)), Document entry.2 :=
  fun entry hentry => documents_of_printedEntries hprinted entry
    (assoc.lookup_mem (assoc.mem_distinct_iff.mp (mem_sortedBy.mp hentry)))

/-- Dictionaries with one text have the same texts under every key. -/
theorem lookup_of_canonical_json_eq {entries others : List (String × Value)}
    (hentries : printed (.dict entries)) (hothers : printed (.dict others))
    (heq : canonical_json (.dict entries) = canonical_json (.dict others)) (key : String) :
    (assoc.lookup key entries).map canonical_json = (assoc.lookup key others).map canonical_json := by
  rw [canonical_json, canonical_json] at heq
  have hsorted := documents_of_sorted hentries
  obtain ⟨hsame, -⟩ := entries_append_inj (fun entry hentry => ⟨hsorted entry hentry, (hsorted entry hentry).append_inj⟩)
    (documents_of_sorted hothers) (List.cons.inj heq).2
  rw [← lookup_canonicalEntries, ← lookup_canonicalEntries, ← lookup_sorted_distinct, hsame, lookup_sorted_distinct]

end Value

end python
