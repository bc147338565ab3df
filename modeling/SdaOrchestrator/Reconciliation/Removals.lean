import SdaOrchestrator.Reconciliation.Exact

open python regex regex.Regex orchestrator.store

namespace orchestrator.reconciliation

open orchestrator.renderer

/-! ## What a resource may remove -/

/-- `line.lstrip()`. -/
def lstrip (line : String) : String := String.ofList ((chars line).dropWhile isSpace)

def lines_of (field : String) (item : Value) : List String :=
  match item.item field with
  | .ok (.list lines) => lines.map Value.toStr
  | _ => []

def kind_of (item : Value) : String :=
  match item.item "kind" with
  | .ok kind => kind.toStr
  | .error _ => ""

/-- The kinds of resources that are an interface of their own. -/
def _INTERFACE_KINDS : List String := ["multicast_rp_loopback", "segment_loopback", "lisp_interface"]

/-- A loopback other than `Loopback0`, or a LISP interface. -/
def is_multicast_interface (name : String) : Bool :=
  let numbered (start : String) : Bool :=
    startswith name start && (chars (drop (len start) name)).all fun c => (digitValue? c).isSome
  (numbered "Loopback" && (chars (drop 8 name)).any fun c => digitValue? c ≠ some 0) || numbered "LISP0."

/-- The removal commands delete only what the configured lines and the kind of the resource name.
A negation without indentation is global, one blank puts it under an interface and three under
an instance of `router lisp`. -/
structure Scoped (item : Value) : Prop where
  created : ∀ name, "no interface " ++ name ∈ lines_of "remove_commands" item →
    "interface " ++ name ∈ lines_of "configured_lines" item ∧ kind_of item ∈ _INTERFACE_KINDS
  global : ∀ line, "no " ++ line ∈ lines_of "remove_commands" item →
    line ∈ lines_of "configured_lines" item
  under_interface : ∀ line, " no " ++ line ∈ lines_of "remove_commands" item →
    line ∈ lines_of "configured_lines" item
  under_lisp : ∀ line, "   no " ++ line ∈ lines_of "remove_commands" item →
    line ∈ lines_of "configured_lines" item
  spared : ∀ name, "no interface " ++ name ∈ lines_of "remove_commands" item →
    is_multicast_interface name

/-- A command undoes a line of its resource; an interface is undone only by the kinds that are one. -/
def undoes_own_line (item : Value) (command : String) : Bool :=
  let line := lstrip command
  !startswith line "no " ||
    (drop 3 line ∈ lines_of "configured_lines" item &&
      (!startswith line "no interface " ||
        (kind_of item ∈ _INTERFACE_KINDS && is_multicast_interface (drop 13 line))))

/-! ## The commands that are let through -/

theorem startswith_iff {text start : String} :
    startswith text start = true ↔ ∃ rest, text = start ++ rest := by
  rw [startswith, chars_eq_toList, chars_eq_toList, List.isPrefixOf_iff_prefix]
  constructor
  · rintro ⟨rest, hrest⟩
    refine ⟨String.ofList rest, String.ext ?_⟩
    simp [hrest]
  · rintro ⟨rest, rfl⟩
    exact ⟨rest.toList, by simp⟩

/-- The shapes of an accepted command: a line without a negation, or a negation at one of the
three depths, where only one without indentation negates an interface. -/
inductive Shape (command : String) : Prop where
  | line (h : startswith (lstrip command) "no " = false)
  | global (line : String) (h : command = "no " ++ line)
  | nested (indentation line : String) (hblank : indentation = " " ∨ indentation = "   ")
    (h : command = indentation ++ "no " ++ line) (hother : startswith line "interface " = false)

namespace Shape

variable {command : String} {w : List Char}

theorem of_line (hline : command.toList = w)
    (hw : "no ".toList.isPrefixOf (w.dropWhile isSpace) = false) : Shape command := by
  refine .line ?_
  simp only [startswith, lstrip, chars_eq_toList, String.toList_ofList, hline]
  exact hw

theorem of_global (hline : command.toList = "no ".toList ++ w) : Shape command := by
  refine .global (String.ofList w) (String.ext ?_)
  simp [hline]

theorem of_nested {indentation : String} (hblank : indentation = " " ∨ indentation = "   ")
    (hline : command.toList = indentation.toList ++ "no ".toList ++ w)
    (hw : "interface ".toList.isPrefixOf w = false) : Shape command := by
  refine .nested indentation (String.ofList w) hblank (String.ext ?_) ?_
  · simp [hline]
  · simp only [startswith, chars_eq_toList, String.toList_ofList]
    exact hw

end Shape

theorem shape_of_fullmatch {command : String}
    (hmatch : _SAFE_REMOVE_PATTERNS.any (·.fullmatch command) = true) : Shape command := by
  obtain ⟨pattern, hpattern, hmatch⟩ := List.any_eq_true.mp hmatch
  rw [fullmatch_iff] at hmatch
  simp only [_SAFE_REMOVE_PATTERNS, List.mem_cons, List.not_mem_nil, or_false] at hpattern
  rcases hpattern with rfl | rfl | rfl | rfl | rfl | rfl | rfl | rfl | rfl | rfl | rfl | rfl | rfl
  -- `interface ...`, with and without a negation
  · obtain ⟨u, v, hsplit, hu, hv⟩ := matches_concat_cons.mp hmatch
    obtain ⟨tail, rfl, -⟩ := matches_literal_concat_iff.mp hv
    rcases matches_optional_iff.mp hu with hu | rfl
    · rw [matches_literal_iff.mp hu] at hsplit
      exact .of_global hsplit
    · exact .of_line hsplit rfl
  -- the lines of an interface
  · obtain ⟨v, hsplit, hv⟩ := matches_literal_concat_iff.mp hmatch
    have hother : "interface ".toList.isPrefixOf v = false := by
      simp only [matches_concat_cons, matches_concat_nil, matches_anyOf_iff, List.mem_cons,
        List.not_mem_nil, or_false] at hv
      obtain ⟨u, _, rfl, ⟨item, hitem, hu⟩, rfl⟩ := hv
      rcases hitem with rfl | rfl | rfl | rfl <;> rw [matches_literal_iff.mp hu] <;> rfl
    exact .of_nested (.inl rfl) hsplit hother
  -- the global negations
  · obtain ⟨v, hsplit, -⟩ := matches_literal_concat_iff.mp hmatch
    exact .of_global hsplit
  · obtain ⟨v, hsplit, -⟩ := matches_literal_concat_iff.mp hmatch
    exact .of_global hsplit
  · obtain ⟨v, hsplit, -⟩ := matches_literal_concat_iff.mp hmatch
    exact .of_global hsplit
  · obtain ⟨v, hsplit, -⟩ := matches_literal_concat_iff.mp hmatch
    exact .of_global hsplit
  -- the way into an instance of `router lisp`
  · exact .of_line (matches_literal_iff.mp hmatch) rfl
  · obtain ⟨v, hsplit, -⟩ := matches_literal_concat_iff.mp hmatch
    exact .of_line hsplit rfl
  · obtain ⟨v, hsplit, -⟩ := matches_literal_concat_iff.mp hmatch
    exact .of_line hsplit rfl
  -- the lines of an instance
  · obtain ⟨v, hsplit, hv⟩ := matches_literal_concat_iff.mp hmatch
    have hother : "interface ".toList.isPrefixOf v = false := by
      simp only [matches_concat_cons, matches_concat_nil, matches_anyOf_iff, List.mem_cons,
        List.not_mem_nil, or_false] at hv
      obtain ⟨u, _, rfl, ⟨item, hitem, hu⟩, rfl⟩ := hv
      rcases hitem with rfl | rfl
      · obtain ⟨tail, rfl, -⟩ := matches_literal_concat_iff.mp hu
        rfl
      · obtain ⟨tail, rfl, -⟩ := matches_literal_concat_iff.mp hu
        rfl
    exact .of_nested (.inr rfl) hsplit hother
  -- the way out
  · obtain ⟨v, hsplit, -⟩ := matches_literal_concat_iff.mp hmatch
    exact .of_line hsplit rfl
  · exact .of_line (matches_literal_iff.mp hmatch) rfl
  · exact .of_line (matches_literal_iff.mp hmatch) rfl

/-! ## The exact condition -/

theorem lstrip_no (line : String) : lstrip ("no " ++ line) = "no " ++ line := by
  refine String.ext ?_
  simp [lstrip, isSpace]

theorem lstrip_nested {indentation : String} (hblank : indentation = " " ∨ indentation = "   ")
    (line : String) : lstrip (indentation ++ "no " ++ line) = "no " ++ line := by
  refine String.ext ?_
  rcases hblank with rfl | rfl <;> simp [lstrip, isSpace]

theorem drop_append (start line : String) : drop (len start) (start ++ line) = line := by
  refine String.ext ?_
  simp [drop, ← String.length_toList]

theorem startswith_append (start line : String) : startswith (start ++ line) start = true :=
  startswith_iff.mpr ⟨line, rfl⟩

theorem no_interface (name : String) : "no " ++ ("interface " ++ name) = "no interface " ++ name :=
  String.ext (by simp)

/-- The condition on a command that negates a line. -/
theorem undoes_negation_iff {item : Value} {command line : String} (hline : lstrip command = "no " ++ line) :
    undoes_own_line item command ↔ line ∈ lines_of "configured_lines" item ∧
      ∀ name, line = "interface " ++ name →
        kind_of item ∈ _INTERFACE_KINDS ∧ is_multicast_interface name := by
  have hdrop : drop 3 ("no " ++ line) = line := drop_append "no " line
  simp only [undoes_own_line, hline, startswith_append, hdrop, Bool.not_true, Bool.false_or,
    Bool.and_eq_true, decide_eq_true_eq, Bool.or_eq_true, Bool.not_eq_true']
  refine and_congr_right fun _ => ?_
  by_cases hinterface : ∃ name, line = "interface " ++ name
  · obtain ⟨name, rfl⟩ := hinterface
    have hname : drop 13 ("no interface " ++ name) = name := drop_append "no interface " name
    have hstart := startswith_append "no interface " name
    rw [no_interface, hname, hstart]
    constructor
    · rintro (hfalse | hboth) other heq
      · cases hfalse
      · have hother : name = other := by simpa [String.ext_iff] using heq
        exact hother ▸ hboth
    · exact fun hall => .inr (hall name rfl)
  · constructor
    · exact fun _ name heq => absurd ⟨name, heq⟩ hinterface
    · intro _
      left
      rw [← Bool.not_eq_true, startswith_iff]
      rintro ⟨name, heq⟩
      refine hinterface ⟨name, String.ext ?_⟩
      simpa [String.ext_iff] using heq

/-- What the manifest accepts of a resource does not look at what it configures: its removals are
scoped exactly when every command undoes one of its own lines. -/
theorem scoped_iff {item : Value}
    (haccepted : ∀ command ∈ lines_of "remove_commands" item,
      _SAFE_REMOVE_PATTERNS.any (·.fullmatch command) = true) :
    Scoped item ↔ ∀ command ∈ lines_of "remove_commands" item, undoes_own_line item command := by
  constructor
  · intro hscoped command hcommand
    cases shape_of_fullmatch (haccepted command hcommand) with
    | line h => simp [undoes_own_line, h]
    | global line h =>
      subst h
      rw [undoes_negation_iff (lstrip_no line)]
      refine ⟨hscoped.global line hcommand, ?_⟩
      rintro name rfl
      rw [no_interface] at hcommand
      exact ⟨(hscoped.created name hcommand).2, hscoped.spared name hcommand⟩
    | nested indentation line hblank h hother =>
      subst h
      rw [undoes_negation_iff (lstrip_nested hblank line)]
      constructor
      · rcases hblank with rfl | rfl
        · exact hscoped.under_interface line hcommand
        · exact hscoped.under_lisp line hcommand
      · rintro name rfl
        rw [startswith_append] at hother
        cases hother
  · intro hall
    have hglobal (line : String) (hline : "no " ++ line ∈ lines_of "remove_commands" item) :=
      (undoes_negation_iff (lstrip_no line)).mp (hall _ hline)
    have hnested (indentation line : String) (hblank : indentation = " " ∨ indentation = "   ")
        (hline : indentation ++ "no " ++ line ∈ lines_of "remove_commands" item) :=
      (undoes_negation_iff (lstrip_nested hblank line)).mp (hall _ hline)
    have hinterface (name : String) (hname : "no interface " ++ name ∈ lines_of "remove_commands" item) :=
      hglobal ("interface " ++ name) (no_interface name ▸ hname)
    exact {
      created := fun name hname =>
        ⟨(hinterface name hname).1, ((hinterface name hname).2 name rfl).1⟩
      global := fun line hline => (hglobal line hline).1
      under_interface := fun line hline => (hnested " " line (.inl rfl) hline).1
      under_lisp := fun line hline => (hnested "   " line (.inr rfl) hline).1
      spared := fun name hname => ((hinterface name hname).2 name rfl).2 }

/-! ## Accepted manifests -/

/-- The removal commands of an accepted resource are let through. -/
theorem commands_of_resource {platform : Platform} {item : Value} {key : String}
    (hok : _validate_resource platform item = .ok key) :
    ∀ command ∈ lines_of "remove_commands" item,
      _SAFE_REMOVE_PATTERNS.any (·.fullmatch command) = true := by
  unfold _validate_resource at hok
  split at hok
  · rename_i fields
    simp only [bind_eq_ok_iff] at hok
    obtain ⟨_, -, _, -, normalized, hcommands, -⟩ := hok
    unfold _validate_remove_commands at hcommands
    split at hcommands
    · rename_i first rest hlookup
      simp only [bind_eq_ok_iff, forM_eq_ok_iff, raise_if_eq_ok, Bool.not_eq_false'] at hcommands
      obtain ⟨_, hall, -⟩ := hcommands
      have hlines : lines_of "remove_commands" (.dict fields) = (first :: rest).map Value.toStr := by
        rw [lines_of, item_of_lookup hlookup]
      rw [hlines]
      intro command hcommand
      obtain ⟨_, -, hmatch⟩ := hall command hcommand
      exact hmatch
    · cases hcommands
  · cases hok

/-- Its resource configures `Loopback100` and removes `Loopback0`. -/
def lab_underlay_manifest : Value :=
  lab_owned_manifest
    [lab_owned_resource ["interface Loopback100"] ["no interface Loopback0"]
      "9c7f4d3e5d59432d5f512f96d9e2dbb122c7e5acb8edc680d77dd6a72004ef24"
      "cb18172d67205feb2f2ae4e44fd708c573dc77e9276e4453306e720c3103f2ae"]
    "2ada2a6e181966846f2631872a8601d988e8a6d94fa4b2e085be41c3f125fa35"

end orchestrator.reconciliation
