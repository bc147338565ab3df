import SdaOrchestrator.Allocator.EndpointPools
import SdaOrchestrator.Lib.Grants
import SdaOrchestrator.Lib.Loops

open python ipaddress orchestrator.store grants

namespace orchestrator.allocator

open orchestrator.intent

/-! ## Security groups -/

structure SecurityGroupRequest where
  name : String
  tag : Option Int
  deriving DecidableEq

section Derive

variable (guardrails : Guardrails) (domain : String)

/-- A value of a range: the one that is asked for, else the first free one. -/
def reserve_or_request (kind : Kind) (range : RangePolicy) (requested : Option Int) (taken : Taken) :
    Py (Int × Taken) := do
  let bounds ← range.bounds
  match requested with
  | none => reserve_scalar domain kind bounds.1 bounds.2 taken
  | some value => reserve_requested_scalar domain kind value bounds.1 bounds.2 taken

/-- One security group, after those of the given names. -/
def derive_security_group (sgt_range : RangePolicy) (raw_group : SecurityGroupRequest)
    (state : List String × Taken) : Py (SecurityGroup × List String × Taken) := do
  raise_if (raw_group.name ∈ state.1) (AllocationError ("Duplicate security group " ++ raw_group.name))
  let (tag, taken) ← reserve_or_request domain .sgt sgt_range raw_group.tag state.2
  return ({ name := raw_group.name, tag }, raw_group.name :: state.1, taken)

/-- The security groups, in the order of their names. -/
def derive_security_groups (raw_groups : List SecurityGroupRequest) (taken : Taken) :
    Py (List SecurityGroup × Taken) := do
  let sgt_range ← require (assoc.lookup "sgt" guardrails.ranges) (AllocationError "Guardrail range sgt is missing")
  let (security_groups, _, taken) ← thread (derive_security_group domain sgt_range)
    (sortedBy (·.name) raw_groups) ([], taken)
  return (security_groups, taken)

/-! ## LISP identities -/

/-- The multihoming identity that a fabric site asks for. -/
structure SiteIdentity where
  id : String
  lisp_multihoming_id : Option Int

/-- `borders_by_site.get(site_id, [])`. -/
def borders_of (devices : List Device) (site_id : String) : List String :=
  (devices.filter fun device => Role.border ∈ device.roles && device.site = site_id).map (·.id)

/-- The sites that have two borders, in order. -/
def multihomed_sites (devices : List Device) : List String :=
  (sortedSet ((devices.filter (Role.border ∈ ·.roles)).map (·.site))).filter fun site_id =>
    2 ≤ (borders_of devices site_id).length

/-- `sites_by_id`. -/
def sites_by_id (fabric_sites : List SiteIdentity) : List (String × SiteIdentity) :=
  dict_of (fabric_sites.map fun site => (site.id, site))

/-- `site.get("lisp_multihoming_id")` of a site that may be unknown. -/
def requested_identity (fabric_sites : List SiteIdentity) (site_id : String) : Option Int :=
  (assoc.lookup site_id (sites_by_id fabric_sites)).bind (·.lisp_multihoming_id)

def derive_multihoming_group (multihoming_range : RangePolicy) (fabric_sites : List SiteIdentity)
    (devices : List Device) (site_id : String) (taken : Taken) : Py (MultihomingGroup × Taken) := do
  let (multihoming_id, taken) ← reserve_or_request domain .lisp_multihoming_id multihoming_range
    (requested_identity fabric_sites site_id) taken
  return ({
    site_id, multihoming_id, border_device_ids := sortedTexts (borders_of devices site_id) }, taken)

/-- A site that asks for an identity has two borders. -/
def check_borders (devices : List Device) (site : SiteIdentity) : Py Unit :=
  raise_if (site.lisp_multihoming_id.isSome && (borders_of devices site.id).length < 2)
    (AllocationError s!"Requested lisp_multihoming_id for site {site.id} requires at least two borders")

/-- The LISP identities of a publish-subscribe fabric of schema version 1.2. -/
def derive_lisp_identities (lisp_domain_id : Option Int) (fabric_sites : List SiteIdentity)
    (devices : List Device) (taken : Taken) : Py ((Int × List MultihomingGroup) × Taken) := do
  let domain_range ← require (assoc.lookup "lisp_domain_id" guardrails.ranges)
    (AllocationError "Guardrail range lisp_domain_id is missing")
  let multihoming_range ← require (assoc.lookup "lisp_multihoming_id" guardrails.ranges)
    (AllocationError "Guardrail range lisp_multihoming_id is missing")
  let (lisp_domain_id, taken) ← reserve_or_request domain .lisp_domain_id domain_range lisp_domain_id taken
  (sortedBy (·.id) ((sites_by_id fabric_sites).map Prod.snd)).forM (check_borders devices)
  let (groups, taken) ← thread
    (derive_multihoming_group domain multihoming_range fabric_sites devices) (multihomed_sites devices) taken
  return ((lisp_domain_id, groups), taken)

end Derive

/-! ## What a reservation grants -/

/-- The value is reported unavailable. -/
def unavailable (kind : Kind) (value : Int) : Raised :=
  AllocationError s!"Requested {kind.text} value {value} is unavailable"

/-- The values that are taken. -/
def taken_values (kind : Kind) (taken : Taken) : Set Int := {value | toString value ∈ taken.scalar_taken kind}

theorem taken_values_take {domain : String} {kind : Kind} {value : Int} {taken : Taken} :
    taken_values kind (taken.take domain kind value) = insert value (taken_values kind taken) := by
  ext other
  simp only [taken_values, scalar_taken_take, ↓reduceIte, Set.mem_ofPred_eq, List.mem_cons, Set.mem_insert_iff,
    numerals.toString_injective.eq_iff]

theorem taken_values_take_of_ne {domain : String} {kind other : Kind} {value : Int} {taken : Taken}
    (hne : other ≠ kind) : taken_values other (taken.take domain kind value) = taken_values other taken := by
  simp only [taken_values, scalar_taken_take, hne, ↓reduceIte]

section Messages

variable {kind : Kind} {value : Int}

theorem message_unavailable : (unavailable kind value).message.toList =
    "Requested ".toList ++ kind.text.toList ++ " value ".toList ++ (toString value).toList ++
      " is unavailable".toList := by
  show ("Requested " ++ kind.text ++ " value " ++ toString value ++ " is unavailable").toList = _
  simp only [String.toList_append]

theorem unavailable_injective {other : Int} (hsame : unavailable kind value = unavailable kind other) :
    value = other := by
  have htext := congrArg (fun raised : Raised => raised.message.toList) hsame
  rw [message_unavailable, message_unavailable] at htext
  have hvalue := List.append_cancel_left (List.append_cancel_right htext)
  exact numerals.toString_injective (String.toList_injective hvalue)

/-- A report starts with its first word. -/
theorem ne_unavailable {message : String} (hhead : message.toList.head? ≠ some 'R') :
    AllocationError message ≠ unavailable kind value := by
  intro hsame
  have htext := congrArg (fun raised : Raised => raised.message.toList.head?) hsame
  rw [message_unavailable] at htext
  exact hhead (htext.trans rfl)

theorem key_error_ne_unavailable {key : String} : KeyError key ≠ unavailable kind value := by
  intro hsame
  exact (by decide : "KeyError" ≠ "AllocationError") (congrArg Raised.type_name hsame)

theorem outside_ne_unavailable {minimum maximum other : Int} :
    AllocationError s!"Requested {kind.text} value {other} is outside {minimum}-{maximum}" ≠
      unavailable kind value := by
  intro hsame
  have htext := congrArg (fun raised : Raised => raised.message.toList.getLast?) hsame
  have houtside : (AllocationError
      s!"Requested {kind.text} value {other} is outside {minimum}-{maximum}").message.toList.getLast? =
        (toString maximum).toList.getLast? := by
    show ("Requested " ++ kind.text ++ " value " ++ toString other ++ " is outside " ++ toString minimum ++ "-" ++
      toString maximum).toList.getLast? = _
    rw [String.toList_append, List.getLast?_append_of_ne_nil]
    exact numerals.intText_ne_nil maximum
  rw [houtside, message_unavailable, List.getLast?_append_of_ne_nil _ (by decide)] at htext
  have hmem : 'e' ∈ (toString maximum).toList := List.mem_of_getLast? (htext.trans rfl)
  exact numerals.not_mem_intText rfl (by decide) maximum hmem

theorem first_scalar_ne_unavailable {minimum maximum : Int} {excluded : List String} :
    _first_scalar minimum maximum excluded kind.text ≠ .error (unavailable kind value) := by
  intro hraised
  simp only [_first_scalar] at hraised
  split at hraised
  · cases hraised
  · refine ne_unavailable ?_ (Except.error.inj hraised)
    show ("Scalar pool " ++ kind.text ++ " is exhausted").toList.head? ≠ some 'R'
    rw [String.toList_append, String.toList_append]
    exact (by decide : some 'S' ≠ some 'R')

end Messages

section Granted

variable {domain : String} {kind : Kind} {range : RangePolicy} {minimum maximum : Int}
  (hbounds : range.bounds = .ok (minimum, maximum)) {requested : Option Int} {taken : Taken}

include hbounds

theorem reserve_or_request_eq_ok_iff {value : Int} {after : Taken} :
    reserve_or_request domain kind range requested taken = .ok (value, after) ↔
      Granted minimum maximum (taken_values kind taken) requested value ∧ after = taken.take domain kind value := by
  cases requested with
  | none =>
    simp only [reserve_or_request, hbounds, bind_eq_ok_iff, Except.ok.injEq, exists_eq_left',
      reserve_scalar_eq_ok_iff, first_scalar_eq_ok_iff, Granted, taken_values, Set.mem_ofPred_eq]
  | some wanted =>
    simp only [reserve_or_request, hbounds, bind_eq_ok_iff, Except.ok.injEq, exists_eq_left',
      reserve_requested_scalar, raise_if_eq_ok, pure_eq_ok_iff, Prod.mk.injEq, Granted, taken_values,
      Set.mem_ofPred_eq, Bool.or_eq_false_iff, decide_eq_false_iff_not, not_lt]
    constructor
    · rintro ⟨_, ⟨hlow, hhigh⟩, _, hfree, rfl, rfl⟩
      exact ⟨⟨hlow, hhigh, hfree, rfl⟩, rfl⟩
    · rintro ⟨⟨hlow, hhigh, hfree, rfl⟩, rfl⟩
      exact ⟨(), ⟨hlow, hhigh⟩, (), hfree, rfl, rfl⟩

/-- A value is reported unavailable where it is asked for, in range, and taken. -/
theorem reserve_or_request_unavailable_iff {value : Int} :
    reserve_or_request domain kind range requested taken = .error (unavailable kind value) ↔
      requested = some value ∧ minimum ≤ value ∧ value ≤ maximum ∧ value ∈ taken_values kind taken := by
  simp only [reserve_or_request, hbounds, bind_eq_error_iff, Except.ok.injEq, exists_eq_left', reduceCtorEq,
    false_or]
  cases requested with
  | none =>
    simp only [reserve_scalar, bind_eq_error_iff, first_scalar_ne_unavailable, false_or, reduceCtorEq, false_and,
      iff_false]
    rintro ⟨_, -, hpure⟩
    cases hpure
  | some wanted =>
    simp only [reserve_requested_scalar, raise_if, Option.some.injEq, taken_values, Set.mem_ofPred_eq]
    by_cases hrange : minimum ≤ wanted ∧ wanted ≤ maximum
    · have hinside : (decide (wanted < minimum) || decide (maximum < wanted)) = false := by
        simp only [Bool.or_eq_false_iff, decide_eq_false_iff_not]
        omega
      by_cases htaken : toString wanted ∈ taken.scalar_taken kind
      · simp only [hinside, htaken, decide_true, Bool.false_eq_true, ↓reduceIte]
        constructor
        · intro hraised
          obtain rfl := unavailable_injective (Except.error.inj hraised)
          exact ⟨rfl, hrange.1, hrange.2, htaken⟩
        · rintro ⟨rfl, -⟩
          rfl
      · simp only [hinside, htaken, decide_false, Bool.false_eq_true, ↓reduceIte]
        constructor
        · rintro ⟨⟩
        · rintro ⟨rfl, -, -, htaken'⟩
          exact absurd htaken' htaken
    · have houtside : (decide (wanted < minimum) || decide (maximum < wanted)) = true := by
        simp only [Bool.or_eq_true, decide_eq_true_eq]
        omega
      simp only [houtside, ↓reduceIte]
      constructor
      · intro hraised
        exact absurd (Except.error.inj hraised) outside_ne_unavailable
      · rintro ⟨rfl, hlow, hhigh, -⟩
        exact absurd ⟨hlow, hhigh⟩ hrange

end Granted

/-! ## Loops of reservations -/

/-- The rounds of a loop grant a value each, and report a value unavailable only where it is asked for. -/
structure Allocates {α β σ : Type} (kind : Kind) (minimum maximum : Int) (request : α → Option Int)
    (values : σ → Set Int) (body : α → σ → Py (β × σ)) : Prop where
  granted : ∀ item before result between, body item before = .ok (result, between) →
    ∃ value, Granted minimum maximum (values before) (request item) value ∧
      values between = insert value (values before)
  asked : ∀ item before value, body item before = .error (unavailable kind value) → request item = some value

/-- One of the items in order asks for the value, which is in range and free. -/
structure SoleRequest {α : Type} (request : α → Option Int) (items before : List α) (item : α) (after : List α)
    (minimum maximum value : Int) (taken : Set Int) : Prop where
  order : items = before ++ item :: after
  asks : request item = some value
  in_range : minimum ≤ value ∧ value ≤ maximum
  free : value ∉ taken
  alone : ∀ other ∈ before ++ after, request other ≠ some value

section Loop

variable {α β σ : Type} {kind : Kind} {minimum maximum : Int} {request : α → Option Int} {values : σ → Set Int}
  {body : α → σ → Py (β × σ)} (hallocates : Allocates kind minimum maximum request values body)

include hallocates

theorem Allocates.run {items : List α} {state after : σ} {results : List β}
    (hok : thread body items state = .ok (results, after)) :
    Run minimum maximum (values state) (items.map request) (values after) := by
  induction items generalizing state results with
  | nil =>
    cases hok
    exact .nil
  | cons item rest ih =>
    obtain ⟨result, between, others, hitem, hrest, rfl⟩ := thread_cons_eq_ok.mp hok
    obtain ⟨value, hgranted, hvalues⟩ := hallocates.granted item state result between hitem
    have hrun := ih hrest
    rw [hvalues] at hrun
    exact .cons hgranted hrun

/-- The sole request for a value is refused where the loop reaches it and its body refuses it. -/
theorem Allocates.refused_iff {items before after : List α} {item : α} {value : Int} {state : σ}
    (hrequest : SoleRequest request items before item after minimum maximum value (values state)) :
    thread body items state = .error (unavailable kind value) ↔ ∃ results between,
      thread body before state = .ok (results, between) ∧ body item between = .error (unavailable kind value) := by
  have hother : ∀ others : List α, (∀ other ∈ others, request other ≠ some value) → ∀ start : σ,
      thread body others start ≠ .error (unavailable kind value) := by
    intro others hothers start hraised
    obtain ⟨other, hmem, found, hbody⟩ := exists_of_thread_eq_error hraised
    exact hothers other hmem (hallocates.asked other found value hbody)
  have halone := hrequest.alone
  rw [List.forall_mem_append] at halone
  rw [hrequest.order, thread_append_eq_error]
  constructor
  · rintro (hraised | ⟨results, between, hbefore, hraised⟩)
    · exact absurd hraised (hother before halone.1 state)
    · obtain hitem | ⟨_, next, -, hafter⟩ := thread_cons_eq_error.mp hraised
      · exact ⟨results, between, hbefore, hitem⟩
      · exact absurd hafter (hother after halone.2 next)
  · rintro ⟨results, between, hbefore, hitem⟩
    exact .inr ⟨results, between, hbefore, thread_cons_eq_error.mpr (.inl hitem)⟩

/-- Once the items before are done, the value is taken exactly when more of them press on it than values
below it are free. -/
theorem Allocates.mem_iff {items before after : List α} {item : α} {value : Int} {state between : σ}
    (hrequest : SoleRequest request items before item after minimum maximum value (values state))
    {results : List β} (hok : thread body before state = .ok (results, between)) :
    value ∈ values between ↔
      free_below minimum value (values state) < ((before.map request).filter (presses value)).length := by
  refine (hallocates.run hok).mem_iff hrequest.in_range.1 hrequest.in_range.2 hrequest.free ?_
  intro hmem
  obtain ⟨other, hother, hsame⟩ := List.mem_map.mp hmem
  exact hrequest.alone other (List.mem_append_left _ hother) hsame

end Loop

section Instances

variable {domain : String} {range : RangePolicy} {minimum maximum : Int}
  (hbounds : range.bounds = .ok (minimum, maximum))

include hbounds

theorem allocates_security_groups : Allocates .sgt minimum maximum (·.tag)
    (fun state => taken_values .sgt state.2) (derive_security_group domain range) where
  granted raw_group before result between hok := by
    simp only [derive_security_group, bind_eq_ok_iff, Prod.exists, pure_eq_ok_iff, Prod.mk.injEq,
      reserve_or_request_eq_ok_iff hbounds] at hok
    obtain ⟨_, -, tag, after, ⟨hgranted, rfl⟩, -, rfl⟩ := hok
    exact ⟨tag, hgranted, taken_values_take⟩
  asked raw_group before value hraised := by
    simp only [derive_security_group, bind_eq_error_iff] at hraised
    obtain hduplicate | ⟨_, -, hreserve | ⟨_, -, hpure⟩⟩ := hraised
    · unfold raise_if at hduplicate
      split at hduplicate
      · refine absurd (Except.error.inj hduplicate) (ne_unavailable ?_)
        rw [String.toList_append]
        exact (by decide : some 'D' ≠ some 'R')
      · cases hduplicate
    · exact ((reserve_or_request_unavailable_iff hbounds).mp hreserve).1
    · cases hpure

theorem allocates_multihoming_groups {fabric_sites : List SiteIdentity} {devices : List Device} :
    Allocates .lisp_multihoming_id minimum maximum (requested_identity fabric_sites)
      (taken_values .lisp_multihoming_id) (derive_multihoming_group domain range fabric_sites devices) where
  granted site_id before result between hok := by
    simp only [derive_multihoming_group, bind_eq_ok_iff, Prod.exists, pure_eq_ok_iff, Prod.mk.injEq,
      reserve_or_request_eq_ok_iff hbounds] at hok
    obtain ⟨identity, after, ⟨hgranted, rfl⟩, -, rfl⟩ := hok
    exact ⟨identity, hgranted, taken_values_take⟩
  asked site_id before value hraised := by
    simp only [derive_multihoming_group, bind_eq_error_iff] at hraised
    obtain hreserve | ⟨_, -, hpure⟩ := hraised
    · exact ((reserve_or_request_unavailable_iff hbounds).mp hreserve).1
    · cases hpure

end Instances

/-! ## Requests that are honoured -/

section Honoured

variable {guardrails : Guardrails} {domain : String} {taken : Taken} {range : RangePolicy}
  {minimum maximum value : Int}

/-- The groups in order are derived one after the other. -/
def groups_derived (domain : String) (range : RangePolicy) (groups : List SecurityGroupRequest) (taken : Taken) :
    Prop :=
  ∃ derived state, thread (derive_security_group domain range) groups ([], taken) = .ok (derived, state)

/-- The LISP domain gets its identity, the sites that ask for one have two borders, and the sites in order
get theirs. -/
def identities_derived (guardrails : Guardrails) (domain : String) (range : RangePolicy) (lisp_domain_id : Option Int)
    (fabric_sites : List SiteIdentity) (devices : List Device) (sites : List String) (taken : Taken) : Prop :=
  ∃ domain_range identity reserved derived state,
    assoc.lookup "lisp_domain_id" guardrails.ranges = some domain_range ∧
    reserve_or_request domain .lisp_domain_id domain_range lisp_domain_id taken = .ok (identity, reserved) ∧
    (sortedBy (·.id) ((sites_by_id fabric_sites).map Prod.snd)).forM (check_borders devices) = .ok () ∧
    thread (derive_multihoming_group domain range fabric_sites devices) sites reserved = .ok (derived, state)

/-- How many of the requests are for the first free value, or for one below the value. -/
def pressing (requests : List (Option Int)) (value : Int) : Nat := (requests.filter (presses value)).length

theorem names_of_groups {groups : List SecurityGroupRequest} {derived : List SecurityGroup}
    {state after : List String × Taken}
    (hok : thread (derive_security_group domain range) groups state = .ok (derived, after)) (name : String) :
    name ∈ after.1 ↔ name ∈ groups.map (·.name) ∨ name ∈ state.1 := by
  induction groups generalizing state derived with
  | nil =>
    cases hok
    simp
  | cons group rest ih =>
    obtain ⟨result, between, others, hgroup, hrest, rfl⟩ := thread_cons_eq_ok.mp hok
    simp only [derive_security_group, bind_eq_ok_iff, Prod.exists, pure_eq_ok_iff, Prod.mk.injEq] at hgroup
    obtain ⟨_, -, tag, _, -, -, rfl⟩ := hgroup
    rw [ih hrest, List.map_cons, List.mem_cons, List.mem_cons]
    tauto

/-- A group's tag is reported unavailable where the groups before it press on it too much. -/
theorem security_group_refused_iff (hrange : assoc.lookup "sgt" guardrails.ranges = some range)
    (hbounds : range.bounds = .ok (minimum, maximum)) {raw_groups before after : List SecurityGroupRequest}
    {group : SecurityGroupRequest} (hrequest : SoleRequest (·.tag) (sortedBy (·.name) raw_groups) before group after
      minimum maximum value (taken_values .sgt taken)) :
    derive_security_groups guardrails domain raw_groups taken = .error (unavailable .sgt value) ↔
      groups_derived domain range before taken ∧ group.name ∉ before.map (·.name) ∧
        free_below minimum value (taken_values .sgt taken) < pressing (before.map (·.tag)) value := by
  have hallocates : Allocates .sgt minimum maximum (·.tag) (fun state => taken_values .sgt state.2)
      (derive_security_group domain range) := allocates_security_groups hbounds
  have hrequest' : SoleRequest (·.tag) (sortedBy (·.name) raw_groups) before group after minimum maximum value
      (taken_values .sgt (([], taken) : List String × Taken).2) := hrequest
  have hloop : derive_security_groups guardrails domain raw_groups taken = .error (unavailable .sgt value) ↔
      thread (derive_security_group domain range) (sortedBy (·.name) raw_groups) ([], taken) =
        .error (unavailable .sgt value) := by
    simp only [derive_security_groups, hrange, require, bind_eq_error_iff, Except.ok.injEq, exists_eq_left',
      reduceCtorEq, false_or, pure, Except.pure, and_false, exists_false, or_false]
  rw [hloop, hallocates.refused_iff hrequest']
  constructor
  · rintro ⟨results, between, hbefore, hraised⟩
    have hmem := hallocates.mem_iff hrequest' hbefore
    simp only [derive_security_group, bind_eq_error_iff] at hraised
    obtain hduplicate | ⟨_, hnew, hreserve | ⟨_, -, hpure⟩⟩ := hraised
    · have hasked := hallocates.asked group between value
      unfold raise_if at hduplicate
      split at hduplicate
      · refine absurd (Except.error.inj hduplicate) (ne_unavailable ?_)
        rw [String.toList_append]
        exact (by decide : some 'D' ≠ some 'R')
      · cases hduplicate
    · rw [raise_if_eq_ok, decide_eq_false_iff_not, names_of_groups hbefore] at hnew
      refine ⟨⟨results, between, hbefore⟩, fun hname => hnew (.inl hname), hmem.mp ?_⟩
      exact ((reserve_or_request_unavailable_iff hbounds).mp hreserve).2.2.2
    · cases hpure
  · rintro ⟨⟨results, between, hbefore⟩, hname, hpressed⟩
    refine ⟨results, between, hbefore, ?_⟩
    have hmem := (hallocates.mem_iff hrequest' hbefore).mpr hpressed
    simp only [derive_security_group, bind_eq_error_iff]
    refine .inr ⟨(), ?_, .inl ?_⟩
    · rw [raise_if_eq_ok, decide_eq_false_iff_not, names_of_groups hbefore]
      rintro (hrepeated | hnone)
      · exact hname hrepeated
      · cases hnone
    · exact (reserve_or_request_unavailable_iff hbounds).mpr
        ⟨hrequest.asks, hrequest.in_range.1, hrequest.in_range.2, hmem⟩

/-- A LISP domain identity is never reported as a multihoming identity. -/
theorem domain_ne_unavailable {lisp_domain_id : Option Int} :
    reserve_or_request domain .lisp_domain_id range lisp_domain_id taken ≠
      .error (unavailable .lisp_multihoming_id value) := by
  have hletter : (unavailable .lisp_multihoming_id value).message.toList[15]? = some 'm' := by
    rw [message_unavailable]
    rfl
  intro hraised
  simp only [reserve_or_request, RangePolicy.bounds, bind_eq_error_iff, Prod.exists] at hraised
  obtain (hmin | ⟨_, -, hmax | ⟨_, -, hpure⟩⟩) | ⟨low, high, -, hraised⟩ := hraised
  · cases hlow : range.min with
    | none => exact key_error_ne_unavailable (Except.error.inj (hlow ▸ hmin))
    | some low =>
      rw [hlow] at hmin
      cases hmin
  · cases hhigh : range.max with
    | none => exact key_error_ne_unavailable (Except.error.inj (hhigh ▸ hmax))
    | some high =>
      rw [hhigh] at hmax
      cases hmax
  · cases hpure
  · cases lisp_domain_id with
    | none =>
      simp only [reserve_scalar, bind_eq_error_iff] at hraised
      obtain hfirst | ⟨_, -, hpure⟩ := hraised
      · simp only [_first_scalar] at hfirst
        split at hfirst
        · cases hfirst
        · exact ne_unavailable (by decide) (Except.error.inj hfirst)
      · cases hpure
    | some wanted =>
      simp only [reserve_requested_scalar, bind_eq_error_iff] at hraised
      obtain houtside | ⟨_, -, htaken | ⟨_, -, hpure⟩⟩ := hraised
      · unfold raise_if at houtside
        split at houtside
        · have hother : (AllocationError s!"Requested {Kind.lisp_domain_id.text} value {wanted} is outside {low}-{high}")
              |>.message.toList[15]? = some 'd' := by
            show ("Requested " ++ "lisp_domain_id" ++ " value " ++ toString wanted ++ " is outside " ++ toString low ++
              "-" ++ toString high).toList[15]? = some 'd'
            simp only [String.toList_append]
            rfl
          rw [← Except.error.inj houtside, hother] at hletter
          cases hletter
        · cases houtside
      · unfold raise_if at htaken
        split at htaken
        · have hother : (AllocationError s!"Requested {Kind.lisp_domain_id.text} value {wanted} is unavailable")
              |>.message.toList[15]? = some 'd' := by
            show ("Requested " ++ "lisp_domain_id" ++ " value " ++ toString wanted ++ " is unavailable").toList[15]? =
              some 'd'
            simp only [String.toList_append]
            rfl
          rw [← Except.error.inj htaken, hother] at hletter
          cases hletter
        · cases htaken
      · cases hpure

/-- A site without two borders is not reported as an unavailable value. -/
theorem borders_ne_unavailable {devices : List Device} {site : SiteIdentity} :
    check_borders devices site ≠ .error (unavailable .lisp_multihoming_id value) := by
  intro hraised
  unfold check_borders raise_if at hraised
  split at hraised
  · have hletter : (unavailable .lisp_multihoming_id value).message.toList[30]? = some 'v' := by
      rw [message_unavailable]
      rfl
    have hother : (AllocationError
        s!"Requested lisp_multihoming_id for site {site.id} requires at least two borders").message.toList[30]? =
          some 'f' := by
      show ("Requested lisp_multihoming_id for site " ++ site.id ++ " requires at least two borders").toList[30]? =
        some 'f'
      simp only [String.toList_append]
      rfl
    rw [← Except.error.inj hraised, hother] at hletter
    cases hletter
  · cases hraised

theorem taken_values_of_domain {range : RangePolicy} {lisp_domain_id : Option Int} {identity : Int} {reserved : Taken}
    (hok : reserve_or_request domain .lisp_domain_id range lisp_domain_id taken = .ok (identity, reserved)) :
    taken_values .lisp_multihoming_id reserved = taken_values .lisp_multihoming_id taken := by
  obtain ⟨⟨low, high⟩, hbounds, -⟩ := bind_eq_ok_iff.mp hok
  rw [reserve_or_request_eq_ok_iff hbounds] at hok
  rw [hok.2, taken_values_take_of_ne (by decide)]

/-- Where a multihoming identity is reported unavailable, the domain has its identity and the sites that ask for
one have two borders. -/
theorem lisp_identity_refused_spec (hrange : assoc.lookup "lisp_multihoming_id" guardrails.ranges = some range)
    {lisp_domain_id : Option Int} {fabric_sites : List SiteIdentity} {devices : List Device}
    (hraised : derive_lisp_identities guardrails domain lisp_domain_id fabric_sites devices taken =
      .error (unavailable .lisp_multihoming_id value)) :
    ∃ domain_range identity reserved, assoc.lookup "lisp_domain_id" guardrails.ranges = some domain_range ∧
      reserve_or_request domain .lisp_domain_id domain_range lisp_domain_id taken = .ok (identity, reserved) ∧
      (sortedBy (·.id) ((sites_by_id fabric_sites).map Prod.snd)).forM (check_borders devices) = .ok () ∧
      thread (derive_multihoming_group domain range fabric_sites devices) (multihomed_sites devices) reserved =
        .error (unavailable .lisp_multihoming_id value) := by
  simp only [derive_lisp_identities, hrange, bind_eq_error_iff, Prod.exists] at hraised
  obtain hmissing | ⟨domain_range, hdomain_range, hmissing | ⟨_, hsome, hdomain | ⟨identity, reserved, hreserved,
    hchecks | ⟨_, hchecks, hgroups | ⟨_, _, -, hpure⟩⟩⟩⟩⟩ := hraised
  · unfold require at hmissing
    split at hmissing
    · cases hmissing
    · exact absurd (Except.error.inj hmissing) (ne_unavailable (by decide))
  · cases hmissing
  · exact absurd hdomain domain_ne_unavailable
  · obtain ⟨site, -, hcheck⟩ := exists_of_forM_eq_error hchecks
    exact absurd hcheck borders_ne_unavailable
  · obtain rfl := Except.ok.inj hsome
    exact ⟨domain_range, identity, reserved, require_eq_ok.mp hdomain_range, hreserved, hchecks, hgroups⟩
  · cases hpure

/-- A site's identity is reported unavailable where the sites before it press on it too much. -/
theorem lisp_identity_refused_iff (hrange : assoc.lookup "lisp_multihoming_id" guardrails.ranges = some range)
    (hbounds : range.bounds = .ok (minimum, maximum)) {lisp_domain_id : Option Int} {fabric_sites : List SiteIdentity}
    {devices : List Device} {before after : List String} {site_id : String}
    (hrequest : SoleRequest (requested_identity fabric_sites) (multihomed_sites devices) before site_id after
      minimum maximum value (taken_values .lisp_multihoming_id taken)) :
    derive_lisp_identities guardrails domain lisp_domain_id fabric_sites devices taken =
        .error (unavailable .lisp_multihoming_id value) ↔
      identities_derived guardrails domain range lisp_domain_id fabric_sites devices before taken ∧
        free_below minimum value (taken_values .lisp_multihoming_id taken) <
          pressing (before.map (requested_identity fabric_sites)) value := by
  have hallocates : Allocates .lisp_multihoming_id minimum maximum (requested_identity fabric_sites)
      (taken_values .lisp_multihoming_id) (derive_multihoming_group domain range fabric_sites devices) :=
    allocates_multihoming_groups hbounds
  have hmoved {reserved : Taken} (hsame : taken_values .lisp_multihoming_id reserved =
      taken_values .lisp_multihoming_id taken) : SoleRequest (requested_identity fabric_sites)
        (multihomed_sites devices) before site_id after minimum maximum value
          (taken_values .lisp_multihoming_id reserved) := by rwa [hsame]
  constructor
  · intro hraised
    obtain ⟨domain_range, identity, reserved, hdomain_range, hreserved, hchecks, hgroups⟩ :=
      lisp_identity_refused_spec hrange hraised
    have hsame := taken_values_of_domain hreserved
    obtain ⟨results, between, hbefore, hsite⟩ := (hallocates.refused_iff (hmoved hsame)).mp hgroups
    have hmem := hallocates.mem_iff (hmoved hsame) hbefore
    simp only [derive_multihoming_group, bind_eq_error_iff] at hsite
    obtain hreserve | ⟨_, -, hpure⟩ := hsite
    · have htaken := hmem.mp ((reserve_or_request_unavailable_iff hbounds).mp hreserve).2.2.2
      rw [hsame] at htaken
      exact ⟨⟨domain_range, identity, reserved, results, between, hdomain_range, hreserved, hchecks, hbefore⟩, htaken⟩
    · cases hpure
  · rintro ⟨⟨domain_range, identity, reserved, results, between, hdomain_range, hreserved, hchecks, hbefore⟩,
      hpressed⟩
    have hsame := taken_values_of_domain hreserved
    have hmem := (hallocates.mem_iff (hmoved hsame) hbefore).mpr (by rwa [hsame])
    have hsite : derive_multihoming_group domain range fabric_sites devices site_id between =
        .error (unavailable .lisp_multihoming_id value) := by
      rw [derive_multihoming_group, bind_eq_error_iff]
      exact .inl ((reserve_or_request_unavailable_iff hbounds).mpr
        ⟨hrequest.asks, hrequest.in_range.1, hrequest.in_range.2, hmem⟩)
    have hgroups := (hallocates.refused_iff (hmoved hsame)).mpr ⟨results, between, hbefore, hsite⟩
    simp only [derive_lisp_identities, hrange, hdomain_range, require, bind_eq_error_iff, Prod.exists]
    exact .inr ⟨domain_range, rfl, .inr ⟨range, rfl, .inr ⟨identity, reserved, hreserved, .inr ⟨(), hchecks,
      .inl hgroups⟩⟩⟩⟩

/-- A site that asks for an identity without two borders is refused for that. -/
theorem lisp_identity_not_refused (hrange : assoc.lookup "lisp_multihoming_id" guardrails.ranges = some range)
    {lisp_domain_id : Option Int} {fabric_sites : List SiteIdentity} {devices : List Device} {site_id : String}
    (hasks : requested_identity fabric_sites site_id = some value) (hsingle : site_id ∉ multihomed_sites devices) :
    derive_lisp_identities guardrails domain lisp_domain_id fabric_sites devices taken ≠
      .error (unavailable .lisp_multihoming_id value) := by
  intro hraised
  obtain ⟨_, _, _, -, -, hchecks, -⟩ := lisp_identity_refused_spec hrange hraised
  obtain ⟨site, hsite, hidentity⟩ := Option.bind_eq_some_iff.mp hasks
  have hmem := assoc.lookup_mem hsite
  obtain ⟨source, -, hsource⟩ := List.mem_map.mp (mem_of_mem_dict_of hmem)
  obtain ⟨hid, rfl⟩ := Prod.mk.inj hsource
  have hcheck := forM_eq_ok_iff.mp hchecks source (mem_sortedBy.mpr (List.mem_map_of_mem hmem))
  rw [check_borders, raise_if_eq_ok, hidentity, hid] at hcheck
  simp only [Option.isSome_some, Bool.true_and, decide_eq_false_iff_not, not_lt] at hcheck
  refine hsingle (List.mem_filter.mpr ⟨?_, decide_eq_true hcheck⟩)
  -- a site with a border is among the sites of the borders
  obtain ⟨border, hborder⟩ := List.exists_mem_of_length_pos (Nat.lt_of_lt_of_le Nat.zero_lt_two hcheck)
  obtain ⟨device, hdevice, rfl⟩ := List.mem_map.mp hborder
  rw [List.mem_filter, Bool.and_eq_true, decide_eq_true_eq, decide_eq_true_eq] at hdevice
  rw [sortedSet, mem_sortedTexts, List.mem_dedup]
  refine List.mem_map.mpr ⟨device, List.mem_filter.mpr ⟨hdevice.1, ?_⟩, hdevice.2.2⟩
  exact decide_eq_true hdevice.2.1

/-- The sole request for a tag or for a multihoming identity is never reported unavailable exactly when, once
what sorts before it is derived, the free values below are at least as many as the requests that sort before it
and are for the first free value or for one below. -/
theorem requested_honoured_iff :
    (∀ {range : RangePolicy} {minimum maximum value : Int} {raw_groups before after : List SecurityGroupRequest}
        {group : SecurityGroupRequest},
      assoc.lookup "sgt" guardrails.ranges = some range → range.bounds = .ok (minimum, maximum) →
      SoleRequest (·.tag) (sortedBy (·.name) raw_groups) before group after minimum maximum value
        (taken_values .sgt taken) →
      (derive_security_groups guardrails domain raw_groups taken ≠ .error (unavailable .sgt value) ↔
        (groups_derived domain range before taken → group.name ∉ before.map (·.name) →
          pressing (before.map (·.tag)) value ≤ free_below minimum value (taken_values .sgt taken)))) ∧
    (∀ {range : RangePolicy} {minimum maximum value : Int} {lisp_domain_id : Option Int}
        {fabric_sites : List SiteIdentity} {devices : List Device} {site_id : String},
      assoc.lookup "lisp_multihoming_id" guardrails.ranges = some range → range.bounds = .ok (minimum, maximum) →
      (∀ {before after : List String},
        SoleRequest (requested_identity fabric_sites) (multihomed_sites devices) before site_id after minimum maximum
          value (taken_values .lisp_multihoming_id taken) →
        (derive_lisp_identities guardrails domain lisp_domain_id fabric_sites devices taken ≠
            .error (unavailable .lisp_multihoming_id value) ↔
          (identities_derived guardrails domain range lisp_domain_id fabric_sites devices before taken →
            pressing (before.map (requested_identity fabric_sites)) value ≤
              free_below minimum value (taken_values .lisp_multihoming_id taken)))) ∧
      (requested_identity fabric_sites site_id = some value → site_id ∉ multihomed_sites devices →
        derive_lisp_identities guardrails domain lisp_domain_id fabric_sites devices taken ≠
          .error (unavailable .lisp_multihoming_id value))) := by
  refine ⟨fun hrange hbounds hrequest => ?_, fun hrange hbounds => ⟨fun hrequest => ?_, ?_⟩⟩
  · rw [ne_eq, security_group_refused_iff hrange hbounds hrequest]
    simp only [not_and, not_lt]
  · rw [ne_eq, lisp_identity_refused_iff hrange hbounds hrequest]
    simp only [not_and, not_lt]
  · exact lisp_identity_not_refused hrange

end Honoured

/-! ## Requests in a lab -/

def lab_identities : Guardrails :=
  { lab_guardrails with
    ranges := [("sgt", lab_range 2 65519), ("lisp_domain_id", lab_range 1 4294967295),
      ("lisp_multihoming_id", lab_range 1 65535)] }

def nothing_taken : Taken where
  network_taken := []
  scalar_taken _ := []
  net_reservations := []
  scalar_reservations := []

/-- Two groups, in the order of their names. -/
def lab_groups (employees servers : Option Int) : List SecurityGroupRequest :=
  [{ name := "Employees", tag := employees }, { name := "Servers", tag := servers }]

def lab_border (id site : String) : Device where
  id
  hostname := id
  site
  platform := "C9500-32C"
  software_version := "17.18.3"
  management_ip := .ofOctets 192 0 2 10
  dashboard_management_ip := none
  loopback0_ip := .ofOctets 10 255 1 1
  roles := [.border]
  credential_ref := "secret://sda-lab/devices/border"

/-- Two sites with two borders, and one with a single border. -/
def lab_borders : List Device :=
  [lab_border "a-01" "Austin", lab_border "a-02" "Austin", lab_border "b-01" "Boston", lab_border "b-02" "Boston",
    lab_border "c-01" "Chicago"]

def lab_sites (austin boston chicago : Option Int) : List SiteIdentity :=
  [{ id := "Austin", lisp_multihoming_id := austin }, { id := "Boston", lisp_multihoming_id := boston },
    { id := "Chicago", lisp_multihoming_id := chicago }]

theorem requested_honoured_lab :
    (derive_security_groups lab_identities "lab" (lab_groups none (some 30)) nothing_taken ≠
        .error (unavailable .sgt 30) ↔
      (groups_derived "lab" (lab_range 2 65519) [{ name := "Employees", tag := none }] nothing_taken →
        "Servers" ∉ ["Employees"] → pressing [none] 30 ≤ free_below 2 30 (taken_values .sgt nothing_taken))) ∧
    (derive_lisp_identities lab_identities "lab" none (lab_sites none (some 7) none) lab_borders nothing_taken ≠
        .error (unavailable .lisp_multihoming_id 7) ↔
      (identities_derived lab_identities "lab" (lab_range 1 65535) none (lab_sites none (some 7) none) lab_borders
        ["Austin"] nothing_taken → pressing [none] 7 ≤
          free_below 1 7 (taken_values .lisp_multihoming_id nothing_taken))) ∧
    derive_lisp_identities lab_identities "lab" none (lab_sites none none (some 9)) lab_borders nothing_taken ≠
      .error (unavailable .lisp_multihoming_id 9) := by
  have hgroups : SoleRequest (·.tag) (sortedBy (·.name) (lab_groups none (some 30)))
      [{ name := "Employees", tag := none }] { name := "Servers", tag := some 30 } [] 2 65519 30
      (taken_values .sgt nothing_taken) :=
    ⟨by decide +kernel, rfl, by decide, List.not_mem_nil, by decide⟩
  have hsites : SoleRequest (requested_identity (lab_sites none (some 7) none)) (multihomed_sites lab_borders)
      ["Austin"] "Boston" [] 1 65535 7 (taken_values .lisp_multihoming_id nothing_taken) :=
    ⟨by decide +kernel, by decide +kernel, by decide, List.not_mem_nil, by decide +kernel⟩
  have hasks : requested_identity (lab_sites none none (some 9)) "Chicago" = some 9 := by decide +kernel
  have hsingle : "Chicago" ∉ multihomed_sites lab_borders := by decide +kernel
  exact ⟨requested_honoured_iff.1 rfl rfl hgroups, (requested_honoured_iff.2 rfl rfl).1 hsites,
    (requested_honoured_iff.2 rfl rfl).2 hasks hsingle⟩

/-- The first automatic tag is the one that the next group asks for. With the request in the first group, both
groups get a tag. -/
theorem requested_not_honoured : ∃ taken,
    initial_taken lab_identities.supernets lab_identities.ranges [] [] "lab" = .ok taken ∧
      SoleRequest (·.tag) (sortedBy (·.name) (lab_groups none (some 2))) [{ name := "Employees", tag := none }]
        { name := "Servers", tag := some 2 } [] 2 65519 2 (taken_values .sgt taken) ∧
      derive_security_groups lab_identities "lab" (lab_groups none (some 2)) taken = .error (unavailable .sgt 2) ∧
      (derive_security_groups lab_identities "lab" (lab_groups (some 2) none) taken).isOk := by
  have hmap : (initial_taken lab_identities.supernets lab_identities.ranges [] [] "lab").toOption.map
      (fun taken => (decide (toString (2 : Int) ∉ taken.scalar_taken .sgt),
        raised (derive_security_groups lab_identities "lab" (lab_groups none (some 2)) taken),
        (derive_security_groups lab_identities "lab" (lab_groups (some 2) none) taken).isOk)) =
      some (true, some (unavailable .sgt 2), true) := by
    decide +kernel
  obtain ⟨taken, htaken, hfacts⟩ := exists_ok_of_map hmap
  simp only [Prod.mk.injEq, decide_eq_true_eq, raised_eq_some] at hfacts
  obtain ⟨hfree, hrefused, hgranted⟩ := hfacts
  exact ⟨taken, htaken, ⟨by decide +kernel, rfl, by decide, hfree, by decide⟩, hrefused, hgranted⟩

end orchestrator.allocator
