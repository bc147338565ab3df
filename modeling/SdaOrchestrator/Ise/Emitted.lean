import SdaOrchestrator.Intent.PlainTexts
import SdaOrchestrator.Ise.Operations
import SdaOrchestrator.Ise.Origin
import SdaOrchestrator.Reconciliation.OwnedState
import SdaOrchestrator.Renderer.PolicyPlane

open python ipaddress regex orchestrator.store

namespace orchestrator.ise

open orchestrator.intent orchestrator.renderer orchestrator.reconciliation

/-! ## Texts of emitted operations -/

theorem is_safe_name_iff {text : String} :
    is_safe_name text ↔
      1 ≤ text.length ∧ text.length ≤ 128 ∧ ∀ c ∈ text.toList, alphanumericOr "_.:-" c = true := by
  simp only [is_safe_name, safe_text, decide_eq_true_eq, chars_eq_toList, len_eq_length, List.all_eq_true]

theorem not_mem_of_safe {text : String} (hsafe : is_safe_name text) {c : Char}
    (hother : alphanumericOr "_.:-" c = false) : c ∉ text.toList := by
  intro hc
  rw [(is_safe_name_iff.mp hsafe).2.2 c hc] at hother
  cases hother

/-- A safe name is read as it stands. -/
theorem required_string_of_safe {text : String} (hsafe : is_safe_name text) :
    required_string (some text) = some text := by
  obtain ⟨hlong, -, hchars⟩ := is_safe_name_iff.mp hsafe
  refine required_string_of_alphanumeric ?_ hchars
  rintro rfl
  exact absurd hlong (by decide)

/-- A safe name holds no text with a character that is not safe. -/
theorem contains_of_safe {text part : String} (hsafe : is_safe_name text) {c : Char}
    (hc : c ∈ part.toList) (hother : alphanumericOr "_.:-" c = false) : contains part text = false := by
  rw [← Bool.not_eq_true, contains_iff]
  exact fun hpart => not_mem_of_safe hsafe hother (hpart.subset hc)

theorem no_secrets_of_safe {text : String} (hsafe : is_safe_name text) :
    contains "secret://" text = false ∧ contains "<secret:" text = false :=
  ⟨contains_of_safe hsafe (c := '/') (by decide) (by decide),
    contains_of_safe hsafe (c := '<') (by decide) (by decide)⟩

/-- The owned names of access lists are safe. -/
theorem safe_of_sgacl_pattern {text : String} (hmatch : sgacl_pattern.fullmatch text = true) :
    is_safe_name text := by
  rw [Regex.fullmatch_iff, sgacl_pattern, owned_name, Regex.Matches.seq_iff] at hmatch
  obtain ⟨u, v, htext, hu, hv⟩ := hmatch
  rw [Regex.matches_literal_iff] at hu
  obtain ⟨hlength, hhex⟩ := Regex.matches_concat_replicate hv
  have hlong : text.length = 22 := by
    rw [← String.length_toList, htext, hu, List.length_append, hlength]
    rfl
  rw [is_safe_name_iff, htext, hu, List.forall_mem_append]
  refine ⟨by omega, by omega, List.all_eq_true.mp (by decide), fun c hc => ?_⟩
  have hc := hhex c hc
  simp only [hexadecimal, decide_eq_true_eq] at hc
  simp only [alphanumericOr, isAsciiLetter, Bool.or_eq_true, decide_eq_true_eq]
  obtain hupper | hdigit := hc
  · exact .inl (.inl (.inl ⟨hupper.1, le_trans hupper.2 (by decide)⟩))
  · exact .inl (.inr hdigit)

/-- A text without line breaks, null characters and references to secrets. -/
structure Plain (text : String) : Prop where
  line : '\n' ∉ text.toList
  carriage : '\r' ∉ text.toList
  null : '\x00' ∉ text.toList
  secrets : contains "secret://" text = false ∧ contains "<secret:" text = false

theorem Plain.of_safe {text : String} (hsafe : is_safe_name text) : Plain text :=
  ⟨not_mem_of_safe hsafe (by decide), not_mem_of_safe hsafe (by decide),
    not_mem_of_safe hsafe (by decide), no_secrets_of_safe hsafe⟩

/-- A part that meets no end of the first text lies in the second. -/
theorem infix_append_iff {α : Type*} {part first second : List α}
    (hends : ∀ tail, tail <:+ first → tail ≠ [] → ¬part <+: tail ∧ ¬tail <+: part) :
    part <:+: first ++ second ↔ part <:+: second := by
  induction first with
  | nil => rfl
  | cons c rest ih =>
    have hrest := ih fun tail htail => hends tail (htail.trans (List.suffix_cons c rest))
    rw [List.cons_append, List.infix_cons_iff, hrest, or_iff_right_iff_imp]
    intro hstart
    obtain ⟨hpart, htail⟩ := hends (c :: rest) List.suffix_rfl (List.cons_ne_nil _ _)
    obtain h | h := List.prefix_or_prefix_of_prefix hstart (List.prefix_append (c :: rest) second)
    · exact absurd h hpart
    · exact absurd h htail

section Append

variable {first second part : String}

theorem contains_append (hends : ∀ tail ∈ first.toList.tails, tail ≠ [] →
      ¬part.toList <+: tail ∧ ¬tail <+: part.toList) :
    contains part (first ++ second) = contains part second := by
  rw [Bool.eq_iff_iff, contains_iff, contains_iff, String.toList_append]
  exact infix_append_iff fun tail htail => hends tail ((List.mem_tails _ _).mpr htail)

theorem not_mem_append_iff {c : Char} (hc : c ∉ first.toList) :
    c ∉ (first ++ second).toList ↔ c ∉ second.toList := by
  rw [String.toList_append, List.mem_append, not_or, and_iff_right hc]

theorem contains_append_of_left (h : contains part first) : contains part (first ++ second) := by
  rw [contains_iff] at h ⊢
  rw [String.toList_append]
  exact h.trans (List.prefix_append _ _).isInfix

theorem append_ne_empty (h : first ≠ "") : first ++ second ≠ "" := by
  simp [h]

end Append

/-- The description of the objects of a contract. -/
def contract_description (name : String) : String := "managed-by:meraki-dynamic-sda contract:" ++ name

theorem plain_description_iff {name : String} : Plain (contract_description name) ↔ Plain name := by
  have hsecret : contains "secret://" (contract_description name) = contains "secret://" name :=
    contains_append (by decide)
  have htoken : contains "<secret:" (contract_description name) = contains "<secret:" name :=
    contains_append (by decide)
  have hline : '\n' ∉ (contract_description name).toList ↔ '\n' ∉ name.toList :=
    not_mem_append_iff (by decide)
  have hcarriage : '\r' ∉ (contract_description name).toList ↔ '\r' ∉ name.toList :=
    not_mem_append_iff (by decide)
  have hnull : '\x00' ∉ (contract_description name).toList ↔ '\x00' ∉ name.toList :=
    not_mem_append_iff (by decide)
  constructor
  · rintro ⟨h₁, h₂, h₃, h₄⟩
    rw [hsecret, htoken] at h₄
    exact ⟨hline.mp h₁, hcarriage.mp h₂, hnull.mp h₃, h₄⟩
  · rintro ⟨h₁, h₂, h₃, h₄⟩
    rw [← hsecret, ← htoken] at h₄
    exact ⟨hline.mpr h₁, hcarriage.mpr h₂, hnull.mpr h₃, h₄⟩

section Emitted

variable (platform : Platform)

/-- The sixteen digits that stand for the identity of an object. -/
def digest (identity : List (String × Value)) : String :=
  take 16 (platform.sha256_json (.dict identity))

def sgt_identity (name : String) : List (String × Value) :=
  [("resource", .str "sgt"), ("name", .str name)]

def sgacl_identity (name : String) : List (String × Value) :=
  [("resource", .str "sgacl"), ("name", .str name)]

def cell_identity (pair : String × String) : List (String × Value) :=
  [("resource", .str "egressmatrixcell"), ("source", .str pair.1), ("destination", .str pair.2)]

variable {platform}

theorem safe_operation_id (hhex : ∀ text, is_sha256_hex (platform.sha256 text) = true) (kind : String)
    (hkind : is_safe_name (kind ++ "-0123456789abcdef")) (identity : List (String × Value)) :
    is_safe_name (kind ++ "-" ++ digest platform identity) := by
  have hdigits := hhex (Value.dict identity).canonical_json
  simp only [is_sha256_hex, decide_eq_true_eq, len_eq_length, chars_eq_toList, List.all_eq_true] at hdigits
  obtain ⟨hlength, hall⟩ := hdigits
  have hlen : (digest platform identity).length = 16 := by
    rw [digest, take, String.length_ofList, List.length_take, chars_eq_toList, String.length_toList,
      Platform.sha256_json, hlength]
    rfl
  have hchars : ∀ c ∈ (digest platform identity).toList, alphanumericOr "_.:-" c = true := by
    intro c hc
    rw [digest, take, String.toList_ofList, chars_eq_toList] at hc
    have hhex := hall c (List.mem_of_mem_take hc)
    simp only [Bool.or_eq_true, decide_eq_true_eq] at hhex
    simp only [alphanumericOr, isAsciiLetter, Bool.or_eq_true, decide_eq_true_eq]
    obtain (hdigit | hlower) | hupper := hhex
    · exact .inl (.inr hdigit)
    · exact .inl (.inl (.inr ⟨hlower.1, le_trans hlower.2 (by decide)⟩))
    · exact .inl (.inl (.inl ⟨hupper.1, le_trans hupper.2 (by decide)⟩))
  rw [is_safe_name_iff] at hkind ⊢
  simp only [String.length_append, String.toList_append, List.forall_mem_append] at hkind ⊢
  obtain ⟨hone, hmany, hkind, -⟩ := hkind
  have hsixteen : "-0123456789abcdef".length = 17 := rfl
  have hdash : "-".length = 1 := rfl
  refine ⟨by omega, by omega, ⟨hkind, List.all_eq_true.mp (by decide)⟩, hchars⟩

/-! ## The emitted operations -/

theorem nonempty_text_str {text label : String} (hne : text ≠ "") (hr : '\r' ∉ text.toList)
    (hnull : '\x00' ∉ text.toList) : _nonempty_text (some (.str text)) label = .ok text := by
  have htext : text_or_empty (some (.str text)) = text := by
    simp [text_or_empty, Value.truthy, hne, Value.toStr]
  rw [nonempty_text_eq_ok, htext, chars_eq_toList]
  exact ⟨rfl, hne, hr, hnull⟩

theorem nonempty_text_safe {text label : String} (hsafe : is_safe_name text) :
    _nonempty_text (some (.str text)) label = .ok text := by
  refine nonempty_text_str ?_ (not_mem_of_safe hsafe (by decide)) (not_mem_of_safe hsafe (by decide))
  rintro rfl
  cases hsafe

theorem operation_of_group (group : SecurityGroup) :
    operation_of (group_operation platform group) = {
      operation_id := operation_id platform "ise-sgt" (sgt_identity group.name)
      resource := .sgt
      lookup := [("name", .str group.name)]
      desired := [("name", .str group.name), ("value", .int group.tag),
        ("description", .str "managed-by:meraki-dynamic-sda"), ("propogateToApic", .bool false)] } := by
  rfl

/-- An object that is looked up under the name it is to have. -/
theorem validate_named_str_iff {resource : Resource} {name : String} {desired : List (String × Value)}
    (hname : assoc.lookup "name" desired = some (.str name)) :
    _validate_named [] resource [("name", .str name)] desired = .ok () ↔
      is_safe_name name ∧
        (if resource = .sgt then _validate_sgt desired else _validate_sgacl desired) = .ok () := by
  have hlookup : assoc.lookup "name" [("name", Value.str name)] = some (.str name) := rfl
  rw [_validate_named, hlookup, hname, bind_eq_ok_iff]
  constructor
  · rintro ⟨text, htext, hok⟩
    obtain rfl : text = name := (optStr_of_nonempty htext).symm
    obtain ⟨hsafe, hok⟩ := raise_if_bind_eq_ok_iff.mp hok
    simp only [Bool.or_eq_false_iff, Bool.not_eq_false'] at hsafe
    exact ⟨hsafe.1.1, hok⟩
  · rintro ⟨hsafe, hok⟩
    refine ⟨name, nonempty_text_safe hsafe, raise_if_bind_eq_ok_iff.mpr ⟨?_, hok⟩⟩
    rw [hsafe]
    simp [names, Value.toStr]

/-- A cell between two named groups that refers to one access list. -/
theorem validate_cell_str_iff {lookup desired : List (String × Value)}
    {source destination sgacl_name : String}
    (hsource : assoc.lookup "source_sgt_name" lookup = some (.str source))
    (hdestination : assoc.lookup "destination_sgt_name" lookup = some (.str destination))
    (hrefs : assoc.lookup "sgacl_name_refs" desired = some (.list [.str sgacl_name]))
    (hsafe : is_safe_name sgacl_name) (hstatus : is_str "ENABLED" (assoc.lookup "matrixCellStatus" desired))
    (hrule : is_str "NONE" (assoc.lookup "defaultRule" desired)) :
    _validate_cell lookup desired = .ok () ↔
      is_safe_name source ∧ is_safe_name destination ∧ source ≠ destination := by
  rw [_validate_cell, hsource, hdestination, hrefs, hstatus, hrule]
  constructor
  · intro hok
    obtain ⟨first, hfirst, hrest⟩ := bind_eq_ok_iff.mp hok
    obtain ⟨second, hsecond, hchecks⟩ := bind_eq_ok_iff.mp hrest
    obtain ⟨hpair, -⟩ := raise_if_bind_eq_ok_iff.mp hchecks
    obtain rfl : first = source := (optStr_of_nonempty hfirst).symm
    obtain rfl : second = destination := (optStr_of_nonempty hsecond).symm
    simpa only [Bool.or_eq_false_iff, Bool.not_eq_false', decide_eq_false_iff_not, and_assoc] using hpair
  · rintro ⟨hfirst, hsecond, hne⟩
    refine bind_eq_ok_iff.mpr ⟨source, nonempty_text_safe hfirst, bind_eq_ok_iff.mpr
      ⟨destination, nonempty_text_safe hsecond, raise_if_bind_eq_ok_iff.mpr ⟨?_, ?_⟩⟩⟩
    · simp only [hfirst, hsecond, Bool.not_true, Bool.false_or, decide_eq_false_iff_not]
      exact hne
    · simp only [raise_if_bind_eq_ok_iff, raise_if_eq_ok]
      refine ⟨rfl, ?_, ?_, rfl⟩
      · simp
      · simp [Value.toStr, hsafe]

/-- A group is an operation that is accepted under a safe name. -/
theorem validate_group_iff (hhex : ∀ text, is_sha256_hex (platform.sha256 text) = true)
    {group : SecurityGroup} (htag : 2 ≤ group.tag ∧ group.tag ≤ 65519) :
    _validate_operation "managed-by:meraki-dynamic-sda" [] (group_operation platform group) =
      .ok (operation_of (group_operation platform group)) ↔ is_safe_name group.name := by
  rw [operation_of_group, group_operation, validate_operation_eq_ok]
  constructor
  · rintro ⟨-, -, -, -, -, -, -, -, -, hkind⟩
    exact ((validate_named_str_iff rfl).mp hkind).1
  · intro hsafe
    have hid := safe_operation_id hhex "ise-sgt" (by decide) (sgt_identity group.name)
    refine ⟨⟨_, nonempty_text_safe hid, hid, List.not_mem_nil⟩, rfl, rfl, rfl, rfl, rfl, rfl,
      ⟨_, nonempty_text_str (by decide) (by decide) (by decide), by decide, by decide⟩, ?_, ?_⟩
    · have hstrings : _strings (.dict [("name", .str group.name), ("value", .int group.tag),
          ("description", .str "managed-by:meraki-dynamic-sda"), ("propogateToApic", .bool false)]) =
          [group.name, "managed-by:meraki-dynamic-sda"] := rfl
      rw [hstrings, List.forall_mem_cons, List.forall_mem_singleton]
      exact ⟨no_secrets_of_safe hsafe, no_secrets_of_safe (by decide)⟩
    · refine (validate_named_str_iff rfl).mpr ⟨hsafe, ?_⟩
      rw [if_pos rfl, _validate_sgt, raise_if_bind_eq_ok_iff, raise_if_eq_ok]
      refine ⟨?_, rfl⟩
      have hrange : 1 ≤ group.tag ∧ group.tag ≤ 65535 := by omega
      exact decide_eq_false (not_not_intro hrange)

/-- An operation under a contract's description is accepted as its kind and the contract's name are. -/
theorem validate_described_iff {fields : List (String × Value)} {operation : Operation}
    {id name : String} (before after : List String)
    (hid : assoc.lookup "operation_id" fields = some (.str id)) (hsafe : is_safe_name id)
    (heq : operation.operation_id = .str id)
    (hresource : Resource.ofText ((assoc.lookup "resource" fields).getD (.str "")).toStr = some operation.resource)
    (hstrategy : is_str operation.resource.strategy (assoc.lookup "strategy" fields))
    (hpolicy : is_str "fail_if_unmanaged" (assoc.lookup "collision_policy" fields))
    (hdesired : assoc.lookup "desired" fields = some (.dict operation.desired))
    (hlookup : assoc.lookup "lookup" fields = some (.dict operation.lookup))
    (hdescription : assoc.lookup "description" operation.desired = some (.str (contract_description name)))
    (hstrings : _strings (.dict operation.desired) = before ++ contract_description name :: after)
    (hothers : ∀ text ∈ before ++ after, contains "secret://" text = false ∧ contains "<secret:" text = false) :
    _validate_operation "managed-by:meraki-dynamic-sda" [] (.dict fields) = .ok operation ↔
      Plain name ∧ _validate_kind [] operation.resource operation.lookup operation.desired = .ok () := by
  have hne : contract_description name ≠ "" := append_ne_empty (by decide)
  have hmarker : contains "managed-by:meraki-dynamic-sda" (contract_description name) :=
    contains_append_of_left (by decide)
  rw [validate_operation_eq_ok, ← plain_description_iff]
  constructor
  · rintro ⟨-, -, -, -, -, -, -, ⟨text, htext, hline, -⟩, hsecrets, hkind⟩
    rw [hdescription] at htext
    obtain rfl : text = contract_description name := (optStr_of_nonempty htext).symm
    obtain ⟨-, -, hcarriage, hnull⟩ := nonempty_text_eq_ok.mp htext
    rw [chars_eq_toList] at hline hcarriage hnull
    rw [hstrings] at hsecrets
    exact ⟨⟨hline, hcarriage, hnull, hsecrets _ (by simp)⟩, hkind⟩
  · rintro ⟨⟨hline, hcarriage, hnull, hsecrets⟩, hkind⟩
    refine ⟨⟨id, hid ▸ nonempty_text_safe hsafe, hsafe, List.not_mem_nil⟩, heq ▸ hid, hresource, hstrategy,
      hpolicy, hdesired, hlookup, ⟨_, hdescription ▸ nonempty_text_str hne hcarriage hnull, ?_, hmarker⟩,
      ?_, hkind⟩
    · rwa [chars_eq_toList]
    · intro text htext
      rw [hstrings, List.mem_append, List.mem_cons] at htext
      obtain hbefore | rfl | hafter := htext
      · exact hothers text (List.mem_append_left _ hbefore)
      · exact hsecrets
      · exact hothers text (List.mem_append_right _ hafter)

/-- What the operations of a contract are and when each is accepted. -/
structure Emits (platform : Platform) (contract : Contract) (sgacl cell : Value) : Prop where
  sgacl_id : (operation_of sgacl).operation_id.toStr =
    "ise-sgacl" ++ "-" ++ digest platform (sgacl_identity (contract.sgacl_name.getD ""))
  sgacl_resource : (operation_of sgacl).resource = .sgacl
  sgacl_name : (operation_of sgacl).lookup_text "name" = contract.sgacl_name.getD ""
  sgacl_accepted : _validate_operation "managed-by:meraki-dynamic-sda" [] sgacl = .ok (operation_of sgacl) ↔
    Plain (contract.name.getD "")
  cell_id : (operation_of cell).operation_id.toStr =
    "ise-cell" ++ "-" ++ digest platform (cell_identity (contract.source, contract.destination))
  cell_resource : (operation_of cell).resource = .egressmatrixcell
  cell_source :
    assoc.lookup "source_sgt_name" (operation_of cell).lookup = some (.str contract.source)
  cell_destination :
    assoc.lookup "destination_sgt_name" (operation_of cell).lookup = some (.str contract.destination)
  cell_refs : (operation_of cell).sgacl_name_refs = [.str (contract.sgacl_name.getD "")]
  cell_accepted : _validate_operation "managed-by:meraki-dynamic-sda" [] cell = .ok (operation_of cell) ↔
    is_safe_name contract.source ∧ is_safe_name contract.destination ∧
      contract.source ≠ contract.destination ∧ Plain (contract.name.getD "")

theorem emits_of_accepted (hhex : ∀ text, is_sha256_hex (platform.sha256 text) = true)
    {contract : Contract} {name sgacl_name : String} (hname : contract.name = some name)
    (hsgacl : contract.sgacl_name = some sgacl_name) (hsafe : is_safe_name sgacl_name)
    (haces : contract.aces = some contract.expected_aces) :
    ∃ sgacl cell, contract_operations platform contract = .ok [sgacl, cell] ∧
      Emits platform contract sgacl cell := by
  obtain ⟨_, source, source_tag, destination, destination_tag, action, protocol, _, _, default_action⟩ := contract
  rw [Contract.expected_aces] at haces
  simp only at hname hsgacl haces
  subst hname hsgacl haces
  have hsgacl_id := safe_operation_id hhex "ise-sgacl" (by decide) (sgacl_identity sgacl_name)
  have hcell_id := safe_operation_id hhex "ise-cell" (by decide)
    (cell_identity (source, destination))
  have haces : ∀ ace, ace = action.text ++ " " ++ protocol.text →
      ace ≠ "" ∧ '\r' ∉ chars ace ∧ '\x00' ∉ chars ace ∧
        contains "secret://" ace = false ∧ contains "<secret:" ace = false := by
    rintro ace rfl
    cases action <;> cases protocol <;> decide
  obtain ⟨hne, hcarriage, hnull, hsecrets⟩ := haces _ rfl
  have hsgacl_texts : ∀ text ∈ [sgacl_name] ++ ["IPV4", action.text ++ " " ++ protocol.text],
      contains "secret://" text = false ∧ contains "<secret:" text = false := by
    rw [List.singleton_append, List.forall_mem_cons, List.forall_mem_cons, List.forall_mem_singleton]
    exact ⟨no_secrets_of_safe hsafe, no_secrets_of_safe (by decide), hsecrets⟩
  have hcell_texts : ∀ text ∈ [] ++ ["ENABLED", "NONE", sgacl_name],
      contains "secret://" text = false ∧ contains "<secret:" text = false := by
    rw [List.nil_append, List.forall_mem_cons, List.forall_mem_cons, List.forall_mem_singleton]
    exact ⟨no_secrets_of_safe (by decide), no_secrets_of_safe (by decide), no_secrets_of_safe hsafe⟩
  have hsgacl_desired {desired : List (String × Value)}
      (hversion : assoc.lookup "ipVersion" desired = some (.str "IPV4"))
      (hcontent : assoc.lookup "aclcontent" desired = some (.str (action.text ++ " " ++ protocol.text))) :
      _validate_sgacl desired = .ok () := by
    rw [_validate_sgacl, hversion, hcontent, raise_if_eq_ok]
    simp only [Bool.or_eq_false_iff, decide_eq_false_iff_not]
    exact ⟨rfl, ⟨hne, hcarriage⟩, hnull⟩
  refine ⟨_, _, rfl, ?_⟩
  exact {
    sgacl_id := rfl
    sgacl_resource := rfl
    sgacl_name := rfl
    sgacl_accepted := by
      rw [validate_described_iff [sgacl_name] ["IPV4", action.text ++ " " ++ protocol.text]
        rfl hsgacl_id rfl rfl rfl rfl rfl rfl rfl rfl hsgacl_texts]
      exact and_iff_left ((validate_named_str_iff rfl).mpr ⟨hsafe, hsgacl_desired rfl rfl⟩)
    cell_id := rfl
    cell_resource := rfl
    cell_source := rfl
    cell_destination := rfl
    cell_refs := rfl
    cell_accepted := by
      rw [validate_described_iff [] ["ENABLED", "NONE", sgacl_name]
        rfl hcell_id rfl rfl rfl rfl rfl rfl rfl rfl hcell_texts]
      have hcell : _validate_cell
          [("source_sgt_name", .str source), ("destination_sgt_name", .str destination)]
          [("description", .str (contract_description name)), ("matrixCellStatus", .str "ENABLED"),
            ("defaultRule", .str "NONE"), ("sgacl_name_refs", .list [.str sgacl_name])] = .ok () ↔
          is_safe_name source ∧ is_safe_name destination ∧ source ≠ destination :=
        validate_cell_str_iff rfl rfl rfl hsafe rfl rfl
      constructor
      · rintro ⟨hplain, hkind⟩
        obtain ⟨hsource, hdestination, hne⟩ := hcell.mp hkind
        exact ⟨hsource, hdestination, hne, hplain⟩
      · rintro ⟨hsource, hdestination, hne, hplain⟩
        exact ⟨hplain, hcell.mpr ⟨hsource, hdestination, hne⟩⟩ }

end Emitted

/-! ## The emitted manifest -/

/-- The fields of an emitted manifest. -/
def manifest_fields (write_node_id address api_base_url credential_ref : String)
    (operations : List Value) : List (String × Value) := [
  ("type", .str "cisco_ise_ers"),
  ("executor_contract_version", .str "1.0"),
  ("contains_secret_values", .bool false),
  ("write_node_id", .str write_node_id),
  ("write_node_address", .str address),
  ("api_base_url", .str api_base_url),
  ("credential_ref", .str credential_ref),
  ("tls_verify", .bool true),
  ("csrf_mode", .str "auto"),
  ("ownership", .dict [
    ("marker", .str "managed-by:meraki-dynamic-sda"),
    ("unmanaged_collision", .str "fail"),
    ("delete_policy", .str "new_owned_resources_only_during_verified_rollback")]),
  ("preconditions", texts [
    "ers_read_write_enabled", "write_node_is_primary_pan", "trusted_tls_chain",
    "default_egress_matrix_is_deny"]),
  ("operations", .list operations),
  ("rollback", .str "restore_prechange_snapshots_and_delete_only_new_owned_resources")]

section Manifest

variable {write_node_id address api_base_url credential_ref : String} {operations : List Value}
  {others : List (String × Value)}

theorem validate_ownership_of_fields :
    _validate_ownership (.dict (manifest_fields write_node_id address api_base_url credential_ref operations
      ++ others)) = .ok "managed-by:meraki-dynamic-sda" := by
  rfl

theorem validate_preconditions_of_fields :
    _validate_preconditions (.dict (manifest_fields write_node_id address api_base_url credential_ref
      operations ++ others)) = .ok () := by
  rfl

/-- What is left to check of an emitted manifest: the write node and the operations. -/
theorem validate_emitted_iff (hurl : bad_origin api_base_url = false)
    (hcredential : startswith credential_ref "secret://")
    (haddress : (ipv4_address? (chars address)).isSome) :
    (∃ manifest, _validate_manifest (.dict (manifest_fields write_node_id address api_base_url
        credential_ref operations ++ others)) = .ok manifest) ↔
      is_safe_name write_node_id ∧ 1 ≤ operations.length ∧ operations.length ≤ 10000 ∧
        ∃ accepted, _validate_operations "managed-by:meraki-dynamic-sda" [] operations = .ok accepted ∧
          accepted.forM (_validate_references accepted) = .ok () := by
  obtain ⟨origin, horigin⟩ := exists_validate_origin hurl
  have hget (key : String) (value : Value)
      (hlookup : assoc.lookup key (manifest_fields write_node_id address api_base_url credential_ref
        operations ++ others) = some value) :
      (Value.dict (manifest_fields write_node_id address api_base_url credential_ref operations
        ++ others)).get key = .ok (some value) := by
    rw [Value.get, hlookup]
  generalize hmanifest : Value.dict (manifest_fields write_node_id address api_base_url credential_ref
    operations ++ others) = manifest at hget
  have htype := hget "type" _ rfl
  have hversion := hget "executor_contract_version" _ rfl
  have hsecrets := hget "contains_secret_values" _ rfl
  have htls := hget "tls_verify" _ rfl
  have hbase := hget "api_base_url" _ rfl
  have hcred := hget "credential_ref" _ rfl
  have hwrite := hget "write_node_id" _ rfl
  have haddr := hget "write_node_address" _ rfl
  have hops := hget "operations" _ rfl
  have hownership : _validate_ownership manifest = .ok "managed-by:meraki-dynamic-sda" := by
    rw [← hmanifest, validate_ownership_of_fields]
  have hpreconditions : _validate_preconditions manifest = .ok () := by
    rw [← hmanifest, validate_preconditions_of_fields]
  clear hmanifest hget
  have hreads (found : Manifest) : _validate_manifest manifest = .ok found ↔
      ∃ write_node, _nonempty_text (some (.str write_node_id)) "ISE write-node ID" = .ok write_node ∧
        is_safe_name write_node ∧ (¬(operations.length < 1) ∧ ¬(10000 < operations.length)) ∧
        ∃ accepted, _validate_operations "managed-by:meraki-dynamic-sda" [] operations = .ok accepted ∧
          ∃ u, accepted.forM (_validate_references accepted) = .ok u ∧
          ⟨origin.1, origin.2, write_node, address, "managed-by:meraki-dynamic-sda", accepted⟩ = found := by
    simp only [_validate_manifest, Value.getD, bind_eq_ok_iff, pure_eq_ok_iff, htype, hversion, hsecrets, htls,
      hbase, hcred, hwrite, haddr, hops, hownership, hpreconditions, Except.ok.injEq, exists_eq_left',
      Option.getD_some, Value.toStr, horigin, hcredential, raise_if_eq_ok, is_str, decide_true, Bool.not_true,
      Bool.or_eq_false_iff, decide_eq_false_iff_not, Bool.not_eq_false', exists_const, true_and,
      Option.isNone_eq_false_iff, haddress]
  constructor
  · rintro ⟨found, hok⟩
    obtain ⟨write_node, hnonempty, hsafe, ⟨hlow, hhigh⟩, accepted, haccepted, u, href, -⟩ := (hreads found).mp hok
    obtain rfl : write_node = write_node_id := (optStr_of_nonempty hnonempty).symm
    exact ⟨hsafe, by omega, by omega, accepted, haccepted, href⟩
  · rintro ⟨hsafe, hlow, hhigh, accepted, haccepted, href⟩
    exact ⟨_, (hreads _).mpr ⟨write_node_id, nonempty_text_safe hsafe, hsafe, ⟨by omega, by omega⟩, accepted,
      haccepted, (), href, rfl⟩⟩

end Manifest

end orchestrator.ise
