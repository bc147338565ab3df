import SdaOrchestrator.Ise.Manifest
import SdaOrchestrator.Renderer.Blocks

open python

namespace orchestrator.ise

open orchestrator.renderer

/-! ## The operations of an accepted manifest -/

/-- Two operations are told apart by their ids and, on named objects of one kind, by their names. -/
def Apart (first second : Operation) : Prop :=
  first.operation_id.toStr ≠ second.operation_id.toStr ∧
    (first.resource = second.resource → first.resource ≠ .egressmatrixcell →
      first.lookup_text "name" ≠ second.lookup_text "name")

theorem mem_names {resource : Resource} {operations : List Operation} {name : String} :
    name ∈ names resource operations ↔
      ∃ operation ∈ operations, operation.resource = resource ∧ operation.lookup_text "name" = name := by
  simp only [names, List.mem_map, List.mem_filter, decide_eq_true_eq, and_assoc]

theorem nonempty_text_eq_ok {value : Option Value} {label text : String} :
    _nonempty_text value label = .ok text ↔
      text = text_or_empty value ∧ text ≠ "" ∧ '\r' ∉ chars text ∧ '\x00' ∉ chars text := by
  simp only [_nonempty_text, bind_eq_ok_iff, raise_if_eq_ok, pure_eq_ok_iff, Bool.or_eq_false_iff,
    decide_eq_false_iff_not]
  constructor
  · rintro ⟨_, ⟨⟨hne, hr⟩, hnull⟩, rfl⟩
    exact ⟨rfl, hne, hr, hnull⟩
  · rintro ⟨rfl, hne, hr, hnull⟩
    exact ⟨(), ⟨⟨hne, hr⟩, hnull⟩, rfl⟩

/-- A text that is not empty is that of a value that is there. -/
theorem text_or_empty_ne {value : Option Value} (hne : text_or_empty value ≠ "") :
    ∃ found, value = some found ∧ text_or_empty value = found.toStr := by
  cases value with
  | none => exact absurd rfl hne
  | some found =>
    refine ⟨found, rfl, ?_⟩
    simp only [text_or_empty] at hne ⊢
    split at hne
    · rw [if_pos ‹_›]
    · exact absurd rfl hne

/-- A text that is read as not empty is the text of the value. -/
theorem optStr_of_nonempty {value : Option Value} {label text : String}
    (hok : _nonempty_text value label = .ok text) : Value.optStr value = text := by
  obtain ⟨rfl, hne, -⟩ := nonempty_text_eq_ok.mp hok
  obtain ⟨found, rfl, htext⟩ := text_or_empty_ne hne
  exact htext.symm

theorem validate_named_iff {done : List Operation} {resource : Resource}
    {lookup desired : List (String × Value)} {u : Unit} :
    _validate_named done resource lookup desired = .ok u ↔
      _validate_named [] resource lookup desired = .ok () ∧
        Value.optStr (assoc.lookup "name" lookup) ∉ names resource done := by
  simp only [_validate_named, bind_eq_ok_iff, raise_if_eq_ok, Bool.or_eq_false_iff, decide_eq_false_iff_not]
  constructor
  · rintro ⟨name, hname, _, ⟨hsafe, hfresh⟩, hrest⟩
    rw [optStr_of_nonempty hname]
    exact ⟨⟨name, hname, (), ⟨hsafe, List.not_mem_nil⟩, hrest⟩, hfresh⟩
  · rintro ⟨⟨name, hname, _, ⟨hsafe, -⟩, hrest⟩, hfresh⟩
    rw [optStr_of_nonempty hname] at hfresh
    exact ⟨name, hname, (), ⟨hsafe, hfresh⟩, hrest⟩

/-- The checks of the kind of an operation alone read the names of the others. -/
theorem validate_kind_iff {done : List Operation} {resource : Resource}
    {lookup desired : List (String × Value)} {u : Unit} :
    _validate_kind done resource lookup desired = .ok u ↔
      _validate_kind [] resource lookup desired = .ok () ∧
        (resource ≠ .egressmatrixcell →
          Value.optStr (assoc.lookup "name" lookup) ∉ names resource done) := by
  by_cases hcell : resource = .egressmatrixcell
  · simp [_validate_kind, hcell]
  · rw [_validate_kind, if_neg hcell, _validate_kind, if_neg hcell, validate_named_iff]
    simp [hcell]

theorem forall_apart_iff {done : List Operation} {operation : Operation} :
    (∀ earlier ∈ done, Apart earlier operation) ↔
      operation.operation_id.toStr ∉ done.map (·.operation_id.toStr) ∧
        (operation.resource ≠ .egressmatrixcell →
          operation.lookup_text "name" ∉ names operation.resource done) := by
  simp only [mem_names, List.mem_map, not_exists, not_and]
  constructor
  · intro hapart
    refine ⟨fun earlier hearlier heq => (hapart earlier hearlier).1 heq,
      fun hother earlier hearlier hsame hname => ?_⟩
    exact (hapart earlier hearlier).2 hsame (hsame ▸ hother) hname
  · rintro ⟨hid, hname⟩ earlier hearlier
    exact ⟨hid earlier hearlier,
      fun hsame hother => hname (hsame ▸ hother) earlier hearlier hsame⟩

/-- The accepted operation holds what the fields of the document say. -/
theorem validate_operation_eq_ok {marker : String} {done : List Operation}
    {fields : List (String × Value)} {operation : Operation} :
    _validate_operation marker done (.dict fields) = .ok operation ↔
      (∃ text, _nonempty_text (assoc.lookup "operation_id" fields) "operation ID" = .ok text ∧
        is_safe_name text ∧ text ∉ done.map (·.operation_id.toStr)) ∧
      assoc.lookup "operation_id" fields = some operation.operation_id ∧
      Resource.ofText ((assoc.lookup "resource" fields).getD (.str "")).toStr = some operation.resource ∧
      is_str operation.resource.strategy (assoc.lookup "strategy" fields) ∧
      is_str "fail_if_unmanaged" (assoc.lookup "collision_policy" fields) ∧
      assoc.lookup "desired" fields = some (.dict operation.desired) ∧
      assoc.lookup "lookup" fields = some (.dict operation.lookup) ∧
      (∃ description, _nonempty_text (assoc.lookup "description" operation.desired)
          "ISE resource description" = .ok description ∧
        '\n' ∉ chars description ∧ contains marker description) ∧
      (∀ text ∈ _strings (.dict operation.desired),
        contains "secret://" text = false ∧ contains "<secret:" text = false) ∧
      _validate_kind done operation.resource operation.lookup operation.desired = .ok () := by
  simp only [_validate_operation]
  constructor
  · intro hok
    obtain ⟨text, htext, hok⟩ := bind_eq_ok_iff.mp hok
    obtain ⟨hsafe, hok⟩ := raise_if_bind_eq_ok_iff.mp hok
    rw [Bool.or_eq_false_iff, decide_eq_false_iff_not, Bool.not_eq_false'] at hsafe
    split at hok
    · cases hok
    · rename_i resource hresource
      obtain ⟨hstrategy, hok⟩ := raise_if_bind_eq_ok_iff.mp hok
      obtain ⟨hpolicy, hok⟩ := raise_if_bind_eq_ok_iff.mp hok
      split at hok
      · rename_i desired lookup hdesired hlookup
        obtain ⟨description, hdescription, hok⟩ := bind_eq_ok_iff.mp hok
        obtain ⟨hmarker, hok⟩ := raise_if_bind_eq_ok_iff.mp hok
        obtain ⟨hsecrets, hok⟩ := raise_if_bind_eq_ok_iff.mp hok
        obtain ⟨u, hkind, hok⟩ := bind_eq_ok_iff.mp hok
        obtain rfl := pure_eq_ok_iff.mp hok
        have hpresent : ∃ found, assoc.lookup "operation_id" fields = some found := by
          obtain ⟨rfl, hne, -⟩ := nonempty_text_eq_ok.mp htext
          obtain ⟨found, hfound, -⟩ := text_or_empty_ne hne
          exact ⟨found, hfound⟩
        obtain ⟨found, hfound⟩ := hpresent
        rw [Bool.or_eq_false_iff, decide_eq_false_iff_not, Bool.not_eq_false'] at hmarker
        rw [Bool.not_eq_false'] at hstrategy hpolicy
        simp only [List.any_eq_false, Bool.or_eq_true, not_or, Bool.not_eq_true] at hsecrets
        refine ⟨⟨text, htext, hsafe⟩, ?_, hresource, hstrategy, hpolicy, hdesired, hlookup,
          ⟨description, hdescription, hmarker⟩, hsecrets, hkind⟩
        rw [hfound]
        rfl
      · cases hok
  · rintro ⟨⟨text, htext, hsafe, hfresh⟩, hid, hresource, hstrategy, hpolicy, hdesired, hlookup,
      ⟨description, hdescription, hline, hmarker⟩, hsecrets, hkind⟩
    have hnosecrets : ((_strings (.dict operation.desired)).any fun text =>
        contains "secret://" text || contains "<secret:" text) = false := by
      simpa only [List.any_eq_false, Bool.or_eq_true, not_or, Bool.not_eq_true] using hsecrets
    refine bind_eq_ok_iff.mpr ⟨text, htext, raise_if_bind_eq_ok_iff.mpr ⟨by simp [hsafe, hfresh], ?_⟩⟩
    simp only [hresource, hdesired, hlookup]
    refine raise_if_bind_eq_ok_iff.mpr ⟨by simp [hstrategy], raise_if_bind_eq_ok_iff.mpr
      ⟨by simp [hpolicy], bind_eq_ok_iff.mpr ⟨description, hdescription, raise_if_bind_eq_ok_iff.mpr
        ⟨Bool.or_eq_false_iff.mpr ⟨decide_eq_false hline, by rw [hmarker]; rfl⟩, raise_if_bind_eq_ok_iff.mpr ⟨hnosecrets, ?_⟩⟩⟩⟩⟩
    exact bind_eq_ok_iff.mpr ⟨(), hkind, by rw [hid]; rfl⟩

/-- An operation is accepted after others when it is accepted on its own and apart from them. -/
theorem validate_operation_iff {marker : String} {done : List Operation} {value : Value}
    {operation : Operation} :
    _validate_operation marker done value = .ok operation ↔
      _validate_operation marker [] value = .ok operation ∧ ∀ earlier ∈ done, Apart earlier operation := by
  cases value with
  | dict fields =>
    rw [validate_operation_eq_ok, validate_operation_eq_ok, forall_apart_iff, validate_kind_iff]
    constructor
    · rintro ⟨⟨text, htext, hsafe, hfresh⟩, hid, hresource, hstrategy, hpolicy, hdesired, hlookup,
        hdescription, hsecrets, hkind, hname⟩
      have heq : operation.operation_id.toStr = text := by
        rw [← optStr_of_nonempty htext, hid]
        rfl
      exact ⟨⟨⟨text, htext, hsafe, List.not_mem_nil⟩, hid, hresource, hstrategy, hpolicy, hdesired,
        hlookup, hdescription, hsecrets, hkind⟩, heq ▸ hfresh, hname⟩
    · rintro ⟨⟨⟨text, htext, hsafe, -⟩, hid, hresource, hstrategy, hpolicy, hdesired, hlookup,
        hdescription, hsecrets, hkind⟩, hfresh, hname⟩
      have heq : operation.operation_id.toStr = text := by
        rw [← optStr_of_nonempty htext, hid]
        rfl
      exact ⟨⟨text, htext, hsafe, heq ▸ hfresh⟩, hid, hresource, hstrategy, hpolicy, hdesired, hlookup,
        hdescription, hsecrets, hkind, hname⟩
  | _ => simp [_validate_operation]

/-- A manifest's operations are accepted when each is on its own and no two have one id or name. -/
theorem validate_operations_iff {marker : String} {done accepted : List Operation} {values : List Value} :
    _validate_operations marker done values = .ok accepted ↔
      ∃ added, accepted = done ++ added ∧
        List.Forall₂ (fun value operation => _validate_operation marker [] value = .ok operation)
          values added ∧
        added.Pairwise Apart ∧ ∀ earlier ∈ done, ∀ operation ∈ added, Apart earlier operation := by
  induction values generalizing done with
  | nil =>
    rw [_validate_operations, pure_eq_ok_iff]
    constructor
    · rintro rfl
      exact ⟨[], (List.append_nil _).symm, .nil, .nil, fun _ _ _ hmem => absurd hmem List.not_mem_nil⟩
    · rintro ⟨added, rfl, hall, -⟩
      cases hall
      exact (List.append_nil _).symm
  | cons value rest ih =>
    rw [_validate_operations, bind_eq_ok_iff]
    constructor
    · rintro ⟨operation, hoperation, hrest⟩
      obtain ⟨halone, hapart⟩ := validate_operation_iff.mp hoperation
      obtain ⟨added, rfl, hall, hpairs, hearlier⟩ := ih.mp hrest
      refine ⟨operation :: added, List.append_assoc _ _ _, .cons halone hall, .cons ?_ hpairs, ?_⟩
      · exact hearlier operation (List.mem_append_right _ (List.mem_singleton_self _))
      · intro earlier hmem other hother
        cases hother with
        | head => exact hapart earlier hmem
        | tail _ hother => exact hearlier earlier (List.mem_append_left _ hmem) other hother
    · rintro ⟨added, rfl, hall, hpairs, hearlier⟩
      cases hall with
      | @cons _ operation _ added halone hall =>
        rw [List.pairwise_cons] at hpairs
        refine ⟨operation, validate_operation_iff.mpr ⟨halone, fun earlier hmem =>
          hearlier earlier hmem operation List.mem_cons_self⟩, ih.mpr ⟨added, ?_, hall, hpairs.2, ?_⟩⟩
        · exact (List.append_assoc _ [operation] _).symm
        · intro earlier hmem other hother
          obtain hmem | hmem := List.mem_append.mp hmem
          · exact hearlier earlier hmem other (List.mem_cons_of_mem _ hother)
          · rw [List.mem_singleton.mp hmem]
            exact hpairs.1 other hother

/-- The operation that a document describes. -/
def operation_of (value : Value) : Operation :=
  let field (key : String) : Option Value :=
    match value with
    | .dict fields => assoc.lookup key fields
    | _ => none
  let entries (found : Option Value) : List (String × Value) :=
    match found with
    | some (.dict entries) => entries
    | _ => []
  { operation_id := (field "operation_id").getD .null
    resource := (Resource.ofText ((field "resource").getD (.str "")).toStr).getD .sgt
    lookup := entries (field "lookup")
    desired := entries (field "desired") }

theorem operation_of_validate {marker : String} {done : List Operation} {value : Value}
    {operation : Operation} (hok : _validate_operation marker done value = .ok operation) :
    operation = operation_of value := by
  cases value with
  | dict fields =>
    obtain ⟨-, hid, hresource, -, -, hdesired, hlookup, -⟩ := validate_operation_eq_ok.mp hok
    simp only [operation_of, hid, hresource, hdesired, hlookup, Option.getD_some]
  | _ => cases hok

/-- A manifest's operations are accepted when each is on its own and no two have one id or name. -/
theorem exists_validate_operations_iff {marker : String} {values : List Value} {accepted : List Operation} :
    _validate_operations marker [] values = .ok accepted ↔
      accepted = values.map operation_of ∧
        (∀ value ∈ values, _validate_operation marker [] value = .ok (operation_of value)) ∧
        (values.map operation_of).Pairwise Apart := by
  rw [validate_operations_iff]
  constructor
  · rintro ⟨added, haccepted, hall, hpairs, -⟩
    rw [List.nil_append] at haccepted
    have hadded : added = values.map operation_of := by
      clear hpairs haccepted
      induction hall with
      | nil => rfl
      | cons hvalue _ ih => rw [List.map_cons, ← ih, operation_of_validate hvalue]
    rw [hadded, List.forall₂_map_right_iff, List.forall₂_same] at hall
    exact ⟨haccepted.trans hadded, hall, hadded ▸ hpairs⟩
  · rintro ⟨rfl, hall, hpairs⟩
    refine ⟨_, rfl, ?_, hpairs, fun _ hmem => absurd hmem List.not_mem_nil⟩
    rw [List.forall₂_map_right_iff, List.forall₂_same]
    exact hall

theorem names_nodup_iff {resource : Resource} {operations : List Operation} :
    (names resource operations).Nodup ↔
      operations.Pairwise fun first second => first.resource = resource → second.resource = resource →
        first.lookup_text "name" ≠ second.lookup_text "name" := by
  rw [names, List.nodup_iff_pairwise_ne, List.pairwise_map, List.pairwise_filter]
  simp only [decide_eq_true_eq]

/-- Operations are apart when no id comes twice and no name comes twice in one kind. -/
theorem pairwise_apart_iff {operations : List Operation} :
    operations.Pairwise Apart ↔
      (operations.map (·.operation_id.toStr)).Nodup ∧ (names .sgt operations).Nodup ∧
        (names .sgacl operations).Nodup := by
  rw [names_nodup_iff, names_nodup_iff, List.nodup_iff_pairwise_ne, List.pairwise_map,
    ← List.pairwise_and_iff, ← List.pairwise_and_iff]
  refine List.Pairwise.iff fun {first second} => ?_
  constructor
  · rintro ⟨hid, hname⟩
    exact ⟨hid, fun hfirst hsecond => hname (hfirst.trans hsecond.symm) (by rw [hfirst]; decide),
      fun hfirst hsecond => hname (hfirst.trans hsecond.symm) (by rw [hfirst]; decide)⟩
  · rintro ⟨hid, hsgt, hsgacl⟩
    refine ⟨hid, fun hsame hother => ?_⟩
    cases hfirst : first.resource with
    | sgt => exact hsgt hfirst (hsame ▸ hfirst)
    | sgacl => exact hsgacl hfirst (hsame ▸ hfirst)
    | egressmatrixcell => exact absurd hfirst hother

/-- The operations of an accepted manifest are accepted one after the other, and each
refers to planned names. -/
theorem operations_of_validate {document : Value} {manifest : Manifest}
    (hvalid : _validate_manifest document = .ok manifest) :
    ∃ values, _validate_operations manifest.ownership_marker [] values = .ok manifest.operations ∧
      manifest.operations.forM (_validate_references manifest.operations) = .ok () := by
  simp only [_validate_manifest, bind_eq_ok_iff, raise_if_eq_ok, exists_const] at hvalid
  obtain ⟨_, _, _, _, _, _, _, _, _, _, _, _, _, _, _, _, _, _, _, _, _, _, _, _, _, _, _, marker, _, _, _,
    found, _, hoperations⟩ := hvalid
  split at hoperations
  · simp only [bind_eq_ok_iff, raise_if_eq_ok, exists_const, pure_eq_ok_iff] at hoperations
    obtain ⟨-, accepted, haccepted, _, hreferences, rfl⟩ := hoperations
    exact ⟨_, haccepted, hreferences⟩
  · cases hoperations

/-- The names that an accepted cell refers to are planned. -/
theorem references_of_validate {document : Value} {manifest : Manifest}
    (hvalid : _validate_manifest document = .ok manifest) {operation : Operation}
    (hoperation : operation ∈ manifest.operations) (hcell : operation.resource = .egressmatrixcell) :
    operation.lookup_text "source_sgt_name" ∈ names .sgt manifest.operations ∧
      operation.lookup_text "destination_sgt_name" ∈ names .sgt manifest.operations ∧
      ∀ ref ∈ operation.sgacl_name_refs, ∃ name, ref = .str name ∧ name ∈ names .sgacl manifest.operations := by
  have hplanned {names : List String} {value : Option Value} (hvalue : is_planned names value) :
      ∃ name, value = some (.str name) ∧ name ∈ names := by
    unfold is_planned at hvalue
    split at hvalue
    · exact ⟨_, rfl, of_decide_eq_true hvalue⟩
    · cases hvalue
  obtain ⟨values, -, hreferences⟩ := operations_of_validate hvalid
  have hchecked := forM_eq_ok_iff.mp hreferences operation hoperation
  simp only [_validate_references, if_pos hcell, bind_eq_ok_iff, raise_if_eq_ok, Bool.not_eq_false',
    exists_const, List.all_eq_true] at hchecked
  obtain ⟨hsource, hdestination, hrefs⟩ := hchecked
  obtain ⟨source, hsource, hmem⟩ := hplanned hsource
  obtain ⟨destination, hdestination, hmem'⟩ := hplanned hdestination
  refine ⟨?_, ?_, fun ref href => ?_⟩
  · rw [Operation.lookup_text, hsource]
    exact hmem
  · rw [Operation.lookup_text, hdestination]
    exact hmem'
  · obtain ⟨name, hname, hmem⟩ := hplanned (hrefs ref href)
    exact ⟨name, Option.some.inj hname, hmem⟩

theorem apart_of_validate {document : Value} {manifest : Manifest}
    (hvalid : _validate_manifest document = .ok manifest) : manifest.operations.Pairwise Apart := by
  obtain ⟨values, hoperations, -⟩ := operations_of_validate hvalid
  obtain ⟨heq, -, hapart⟩ := exists_validate_operations_iff.mp hoperations
  rw [heq]
  exact hapart

end orchestrator.ise
