import SdaOrchestrator.Ise.Adapter
import SdaOrchestrator.Renderer.Blocks

open python effects

namespace orchestrator.ise

open orchestrator.renderer

variable {server : Server} {resource : Resource} {id name message : String} {fields : Fields}
  {filters : List (String × String)} {exact : Fields → Py Bool}

/-- What a query returns when the server answers every request of it. -/
abbrev Server.answers {α : Type} (server : Server) (query : Ask α) : Py α :=
  query.answer fun request => .ok (server.reply request)

/-- An identifier that the adapter puts in a path. -/
def readable (id : String) : Bool := is_safe_id id && !contains ".." id

theorem Server.id_of_eq (hobject : server.object resource id = some fields) : id_of fields = id := by
  rw [id_of, server.id_of_object hobject]
  rfl

/-- Reading an object finds the one that the server keeps. -/
theorem get_by_id_eq_ok {found : Option Fields} :
    server.answers (_get_by_id resource id) = .ok found ↔
      readable id ∧ found = server.object resource id := by
  simp only [Server.answers, _get_by_id, safe_path, Query.answer_bind, Query.answer_lift,
    Query.answer_fetch, raise_if_bind_eq_ok_iff, readable, Bool.and_eq_true, Bool.not_eq_true',
    Bool.not_eq_false', and_assoc]
  refine and_congr_right fun hsafe => and_congr_right fun _ => ?_
  simp only [bind_eq_ok_iff, Except.ok.injEq, exists_eq_left', Server.reply]
  cases hobject : server.object resource id with
  | none => simp only [Query.answer_pure, Except.ok.injEq, eq_comm]
  | some root =>
    have hroot : _root root = .ok root := by
      rw [_root, Server.id_of_eq hobject, hsafe]
      rfl
    simp only [Query.answer_bind, Query.answer_lift, Query.answer_pure, hroot]
    exact ⟨fun h => (Except.ok.inj h).symm, fun h => h ▸ rfl⟩

/-! ## Searching -/

/-- The texts of the fields are those of the filters. -/
def Matches (filters : List (String × String)) (fields : Fields) : Prop :=
  ∀ filter ∈ filters, has_text filter.1 filter.2 fields

theorem mem_matching_iff :
    (id, fields) ∈ server.matching resource filters ↔
      server.object resource id = some fields ∧ Matches filters fields := by
  rw [Server.matching, List.mem_filter, Server.mem_objects_iff, Matches, List.all_eq_true]
  rfl

theorem search_eq_ok {found : List Fields} :
    server.answers (_search resource filters) = .ok found ↔
      (server.matching resource filters).length ≤ 100 ∧
      (server.matching resource filters).map Server.summary = found := by
  simp only [Server.answers, _search, Query.answer_bind, Query.answer_lift, Query.answer_fetch,
    Query.answer_pure, bind_eq_ok_iff, Except.ok.injEq, exists_eq_left', raise_if_eq_ok,
    decide_eq_false_iff_not, not_lt, Server.reply, exists_const]

/-- What a search keeps of one object that it names. -/
theorem exact_candidate_eq_ok (hobject : server.object resource id = some fields) {found : Option Fields} :
    server.answers (exact_candidate resource exact (Server.summary (id, fields))) = .ok found ↔
      readable id ∧ ∃ flag, exact fields = .ok flag ∧ (if flag then some fields else none) = found := by
  have hid : id_of (Server.summary (id, fields)) = id := rfl
  simp only [Server.answers, exact_candidate, Query.answer_bind, bind_eq_ok_iff, hid]
  constructor
  · rintro ⟨candidate, hget, hrest⟩
    obtain ⟨hreadable, rfl⟩ := get_by_id_eq_ok.mp hget
    simp only [hobject, Query.answer_bind, Query.answer_lift, Query.answer_pure, bind_eq_ok_iff,
      Except.ok.injEq] at hrest
    exact ⟨hreadable, hrest⟩
  · rintro ⟨hreadable, hrest⟩
    refine ⟨server.object resource id, get_by_id_eq_ok.mpr ⟨hreadable, rfl⟩, ?_⟩
    simp only [hobject, Query.answer_bind, Query.answer_lift, Query.answer_pure, bind_eq_ok_iff,
      Except.ok.injEq]
    exact hrest

def affirms (answer : Py Bool) : Bool :=
  match answer with
  | .ok flag => flag
  | .error _ => false

/-- The objects that a search keeps. -/
def kept (server : Server) (resource : Resource) (filters : List (String × String))
    (exact : Fields → Py Bool) : List (String × Fields) :=
  (server.matching resource filters).filter fun entry => affirms (exact entry.2)

/-- A search returns the objects that match exactly, once it can read every object
that it names. -/
theorem find_exact_eq_ok {found : List Fields} :
    server.answers (find_exact resource filters exact) = .ok found ↔
      (server.matching resource filters).length ≤ 100 ∧
      (∀ entry ∈ server.matching resource filters, readable entry.1 ∧ ∃ flag, exact entry.2 = .ok flag) ∧
      (kept server resource filters exact).map Prod.snd = found := by
  have hcandidate {entry : String × Fields} (hentry : entry ∈ server.matching resource filters)
      {found : Option Fields} := @exact_candidate_eq_ok server resource entry.1 entry.2 exact
        (mem_matching_iff.mp hentry).1 found
  have hkept (entry : String × Fields) {flag : Bool} (hflag : exact entry.2 = .ok flag) :
      affirms (exact entry.2) = flag := by
    rw [hflag]
    rfl
  have hfilterMap : ((server.matching resource filters).map fun entry =>
        if affirms (exact entry.2) then some entry.2 else none).filterMap (fun candidate => candidate) =
      (kept server resource filters exact).map Prod.snd := by
    rw [kept, List.filterMap_map, ← List.filterMap_eq_filter, List.map_filterMap]
    congr 1
    funext entry
    by_cases haffirms : affirms (exact entry.2) <;> simp [haffirms]
  rw [← hfilterMap]
  simp only [Server.answers, find_exact, Query.answer_bind, Query.answer_collect, Query.answer_pure,
    bind_eq_ok_iff, Except.ok.injEq]
  constructor
  · rintro ⟨summaries, hsummaries, candidates, hall, rfl⟩
    obtain ⟨hlength, rfl⟩ := search_eq_ok.mp hsummaries
    rw [mapM_eq_ok_iff, List.forall₂_map_left_iff] at hall
    refine ⟨hlength, fun entry hentry => ?_, ?_⟩
    · obtain ⟨candidate, -, hbody⟩ := exists_of_forall₂ hall hentry
      obtain ⟨hreadable, flag, hflag, -⟩ := (hcandidate hentry).mp hbody
      exact ⟨hreadable, flag, hflag⟩
    · congr 1
      have hforall := forall₂_of_mem hall fun entry hentry candidate hbody => by
        obtain ⟨-, flag, hflag, heq⟩ := (hcandidate hentry).mp hbody
        exact (show (if affirms (exact entry.2) then some entry.2 else none) = candidate from
          hkept entry hflag ▸ heq)
      rw [← List.forall₂_map_left_iff, List.forall₂_eq_eq_eq] at hforall
      exact hforall
  · rintro ⟨hlength, hall, rfl⟩
    refine ⟨_, search_eq_ok.mpr ⟨hlength, rfl⟩, _, ?_, rfl⟩
    rw [mapM_eq_ok_iff, List.forall₂_map_left_iff, List.forall₂_map_right_iff, List.forall₂_same]
    intro entry hentry
    obtain ⟨hreadable, flag, hflag⟩ := hall entry hentry
    exact (hcandidate hentry).mpr ⟨hreadable, flag, hflag, by rw [hkept entry hflag]⟩

/-- The search can read everything that it names. -/
def Searched (server : Server) (resource : Resource) (filters : List (String × String))
    (exact : Fields → Py Bool) : Prop :=
  (server.matching resource filters).length ≤ 100 ∧
    ∀ entry ∈ server.matching resource filters, readable entry.1 ∧ ∃ flag, exact entry.2 = .ok flag

/-- An object that a search keeps. -/
def Found (server : Server) (resource : Resource) (filters : List (String × String))
    (exact : Fields → Py Bool) (id : String) (fields : Fields) : Prop :=
  server.object resource id = some fields ∧ Matches filters fields ∧ affirms (exact fields)

theorem mem_kept_iff {entry : String × Fields} :
    entry ∈ kept server resource filters exact ↔
      Found server resource filters exact entry.1 entry.2 := by
  rw [kept, List.mem_filter, Found, ← and_assoc, ← mem_matching_iff]

theorem find_one_eq_ok {found : Option Fields} :
    server.answers (find_one resource filters exact message) = .ok found ↔
      Searched server resource filters exact ∧
      ((kept server resource filters exact).length ≤ 1 ∧
      ((kept server resource filters exact).map Prod.snd).head? =
        found) := by
  simp only [Server.answers, find_one, Query.answer_bind, Query.answer_lift, Query.answer_pure,
    bind_eq_ok_iff, raise_if_eq_ok, exists_const, decide_eq_false_iff_not, not_lt, Except.ok.injEq]
  constructor
  · rintro ⟨list, hlist, hone, rfl⟩
    obtain ⟨hlength, hall, rfl⟩ := find_exact_eq_ok.mp hlist
    rw [List.length_map] at hone
    exact ⟨⟨hlength, hall⟩, hone, rfl⟩
  · rintro ⟨⟨hlength, hall⟩, hone, rfl⟩
    refine ⟨_, find_exact_eq_ok.mpr ⟨hlength, hall, rfl⟩, ?_, rfl⟩
    rwa [List.length_map]

theorem find_one_none_iff :
    server.answers (find_one resource filters exact message) = .ok none ↔
      Searched server resource filters exact ∧
        ∀ id fields, ¬Found server resource filters exact id fields := by
  rw [find_one_eq_ok, List.head?_eq_none_iff, List.map_eq_nil_iff]
  refine and_congr_right fun _ => ?_
  constructor
  · rintro ⟨-, hnil⟩ id fields hfound
    have hmem := mem_kept_iff.mpr (show Found server resource filters exact (id, fields).1 _ from hfound)
    rw [hnil] at hmem
    cases hmem
  · intro hnone
    have hnil : kept server resource filters exact = [] :=
      List.eq_nil_iff_forall_not_mem.mpr fun entry hentry => hnone _ _ (mem_kept_iff.mp hentry)
    rw [hnil]
    exact ⟨Nat.zero_le _, rfl⟩

theorem find_one_some_iff :
    server.answers (find_one resource filters exact message) = .ok (some fields) ↔
      Searched server resource filters exact ∧ ∃ id, Found server resource filters exact id fields ∧
        ∀ other found, Found server resource filters exact other found → other = id := by
  rw [find_one_eq_ok]
  refine and_congr_right fun _ => ?_
  have hnodup : (kept server resource filters exact).Nodup :=
    ((List.Nodup.of_map _ (server.keyed resource)).filter _).filter _
  constructor
  · rintro ⟨hone, hhead⟩
    rcases hkept : kept server resource filters exact with
      _ | ⟨entry, rest⟩
    · rw [hkept] at hhead
      cases hhead
    · rw [hkept] at hone hhead
      obtain rfl : rest = [] := List.length_eq_zero_iff.mp (Nat.le_zero.mp (Nat.le_of_succ_le_succ hone))
      obtain rfl := Option.some.inj hhead
      refine ⟨entry.1, mem_kept_iff.mp (hkept ▸ List.mem_singleton_self _), fun other found hfound => ?_⟩
      have hmem := mem_kept_iff.mpr (show Found server resource filters exact (other, found).1 _ from hfound)
      rw [hkept, List.mem_singleton] at hmem
      rw [← hmem]
  · rintro ⟨id, hfound, hunique⟩
    have hsame : ∀ entry ∈ kept server resource filters exact,
        entry = (id, fields) := by
      intro entry hentry
      have hother := mem_kept_iff.mp hentry
      have hid := hunique _ _ hother
      have hfields := hother.1
      rw [hid, hfound.1] at hfields
      exact Prod.ext hid (Option.some.inj hfields).symm
    rcases hkept : kept server resource filters exact with
      _ | ⟨entry, rest⟩
    · have hmem := mem_kept_iff.mpr (show Found server resource filters exact (id, fields).1 _ from hfound)
      rw [hkept] at hmem
      cases hmem
    · rw [hkept] at hsame hnodup
      have hrest : rest = [] := by
        cases rest with
        | nil => rfl
        | cons second rest =>
          have hfirst := hsame entry List.mem_cons_self
          have hsecond := hsame second (List.mem_cons_of_mem _ List.mem_cons_self)
          rw [List.nodup_cons, hfirst, hsecond] at hnodup
          exact absurd List.mem_cons_self hnodup.1
      rw [hrest, hsame entry List.mem_cons_self]
      exact ⟨le_rfl, rfl⟩

theorem found_name_iff :
    Found server resource [("name", name)] (fun candidate => pure (has_text "name" name candidate)) id fields ↔
      server.object resource id = some fields ∧ has_text "name" name fields := by
  rw [Found, Matches, List.forall_mem_singleton]
  exact and_congr_right fun _ => and_self_iff

theorem found_cell_iff {source_id destination_id : String} :
    Found server .egressmatrixcell [("sourceSgtId", source_id), ("destinationSgtId", destination_id)]
      (fun candidate => pure (has_text "sourceSgtId" source_id candidate &&
        has_text "destinationSgtId" destination_id candidate)) id fields ↔
      server.object .egressmatrixcell id = some fields ∧
        has_text "sourceSgtId" source_id fields ∧ has_text "destinationSgtId" destination_id fields := by
  rw [Found, Matches, List.forall_mem_cons, List.forall_mem_singleton]
  refine and_congr_right fun _ => ?_
  show _ ∧ (has_text _ _ fields && has_text _ _ fields) = true ↔ _
  rw [Bool.and_eq_true, and_self_iff]

/-! ## The object that an action is about -/

/-- The fields by which an object is looked up. -/
def key_fields : Resource → List String
  | .egressmatrixcell => ["sourceSgtId", "destinationSgtId"]
  | _ => ["name"]

/-- The object has the texts of the desired one in the fields of the lookup. -/
def Target (resource : Resource) (desired fields : Fields) : Prop :=
  ∀ key ∈ key_fields resource, ∃ text, text_at desired key = .ok text ∧ has_text key text fields

section Target

variable {desired : Fields}

theorem target_cell_iff {source_id destination_id : String}
    (hsource : text_at desired "sourceSgtId" = .ok source_id)
    (hdestination : text_at desired "destinationSgtId" = .ok destination_id) :
    Target .egressmatrixcell desired fields ↔
      has_text "sourceSgtId" source_id fields ∧ has_text "destinationSgtId" destination_id fields := by
  simp only [Target, key_fields, List.forall_mem_cons, List.not_mem_nil, false_imp_iff, implies_true,
    and_true, hsource, hdestination, Except.ok.injEq, exists_eq_left']

theorem target_named_iff (hnamed : resource ≠ .egressmatrixcell) (hname : text_at desired "name" = .ok name) :
    Target resource desired fields ↔ has_text "name" name fields := by
  have hkeys : key_fields resource = ["name"] := by
    cases resource with
    | egressmatrixcell => exact absurd rfl hnamed
    | _ => rfl
  simp only [Target, hkeys, List.forall_mem_singleton, hname, Except.ok.injEq, exists_eq_left']

/-- The lookup of an action searches for its target. -/
theorem lookup_eq_ok {found : Option Fields}
    (hlookup : server.answers (_lookup_for_action resource desired) = .ok found) :
    ∃ filters exact message, server.answers (find_one resource filters exact message) = .ok found ∧
      (∀ id fields, Found server resource filters exact id fields ↔
        server.object resource id = some fields ∧ Target resource desired fields) ∧
      ∀ key ∈ key_fields resource, ∃ text, text_at desired key = .ok text := by
  by_cases hcell : resource = .egressmatrixcell
  · subst hcell
    simp only [Server.answers, _lookup_for_action, if_true, Query.answer_bind, Query.answer_lift,
      bind_eq_ok_iff] at hlookup
    obtain ⟨source_id, hsource, destination_id, hdestination, hfind⟩ := hlookup
    refine ⟨_, _, _, hfind, fun id fields => ?_, ?_⟩
    · rw [found_cell_iff, target_cell_iff hsource hdestination]
    · rw [key_fields, List.forall_mem_cons, List.forall_mem_singleton]
      exact ⟨⟨_, hsource⟩, ⟨_, hdestination⟩⟩
  · simp only [Server.answers, _lookup_for_action, if_neg hcell, Query.answer_bind, Query.answer_lift,
      bind_eq_ok_iff] at hlookup
    obtain ⟨name, hname, hfind⟩ := hlookup
    refine ⟨_, _, _, hfind, fun id fields => ?_, ?_⟩
    · rw [found_name_iff, target_named_iff hcell hname]
    · have hkeys : key_fields resource = ["name"] := by
        cases resource with
        | egressmatrixcell => exact absurd rfl hcell
        | _ => rfl
      rw [hkeys, List.forall_mem_singleton]
      exact ⟨_, hname⟩

theorem not_target_of_none (hlookup : server.answers (_lookup_for_action resource desired) = .ok none)
    (hobject : server.object resource id = some fields) : ¬Target resource desired fields := by
  obtain ⟨_, _, _, hfind, hfound, -⟩ := lookup_eq_ok hlookup
  exact fun htarget => (find_one_none_iff.mp hfind).2 id fields ((hfound id fields).mpr ⟨hobject, htarget⟩)

theorem target_of_some (hlookup : server.answers (_lookup_for_action resource desired) = .ok (some fields)) :
    ∃ id, server.object resource id = some fields ∧ Target resource desired fields ∧
      ∀ other found, server.object resource other = some found → Target resource desired found →
        other = id := by
  obtain ⟨_, _, _, hfind, hfound, -⟩ := lookup_eq_ok hlookup
  obtain ⟨-, id, hid, hunique⟩ := find_one_some_iff.mp hfind
  obtain ⟨hobject, htarget⟩ := (hfound id fields).mp hid
  exact ⟨id, hobject, htarget, fun other found hother htarget =>
    hunique other found ((hfound other found).mpr ⟨hother, htarget⟩)⟩

/-- The lookup read the object that it found. -/
theorem readable_of_lookup
    (hlookup : server.answers (_lookup_for_action resource desired) = .ok (some fields)) :
    readable (id_of fields) := by
  obtain ⟨_, _, _, hfind, -, -⟩ := lookup_eq_ok hlookup
  obtain ⟨⟨-, hread⟩, id, ⟨hobject, hmatches, -⟩, -⟩ := find_one_some_iff.mp hfind
  rw [Server.id_of_eq hobject]
  exact (hread (id, fields) (mem_matching_iff.mpr ⟨hobject, hmatches⟩)).1

/-! ## What an object keeps of what it is sent -/

theorem lookup_mutable (key : String) (value : Fields) :
    assoc.lookup key (_mutable resource value) =
      if key ∈ resource.mutable_keys then assoc.lookup key value else none := by
  rw [_mutable]
  induction resource.mutable_keys with
  | nil => rfl
  | cons first rest ih =>
    rw [List.filterMap_cons]
    cases hfirst : assoc.lookup first value with
    | none =>
      rw [Option.map_none, ih]
      by_cases hkey : key = first
      · simp [hkey, hfirst]
      · simp [hkey]
    | some found =>
      rw [Option.map_some, assoc.lookup_cons, ih]
      by_cases hkey : first = key
      · simp [hkey, ← hfirst]
      · simp [hkey, Ne.symm hkey]

/-- The object as it stands after its body was sent. -/
def stored_as (resource : Resource) (id : String) (body : Fields) : Fields :=
  assoc.set "id" (.str id) (_body resource body)

theorem lookup_stored_as {key : String} (hkey : key ∈ resource.mutable_keys) (hid : key ≠ "id") :
    assoc.lookup key (stored_as resource id fields) = assoc.lookup key fields := by
  rw [stored_as, assoc.lookup_set, if_neg hid.symm, _body, lookup_mutable, if_pos hkey]

/-- The comparison reads nothing but its own fields. -/
theorem comparable_congr {other : Fields}
    (hsame : ∀ key ∈ resource.compare_keys, assoc.lookup key fields = assoc.lookup key other) :
    _comparable resource fields = _comparable resource other := by
  have hresult : (resource.compare_keys.map fun key => (key, (assoc.lookup key fields).getD .null)) =
      resource.compare_keys.map fun key => (key, (assoc.lookup key other).getD .null) :=
    List.map_congr_left fun key hkey => by rw [hsame key hkey]
  unfold _comparable
  rw [hresult]

theorem mem_compare_keys {key : String} (hkey : key ∈ resource.compare_keys) :
    key ∈ resource.mutable_keys ∧ key ≠ "id" := by
  cases resource <;>
    exact (by decide : ∀ key ∈ Resource.compare_keys _, key ∈ Resource.mutable_keys _ ∧ key ≠ "id") key hkey

/-- What is sent compares as what it is made from. -/
theorem comparable_body : _comparable resource (_body resource fields) = _comparable resource fields := by
  refine comparable_congr fun key hkey => ?_
  rw [_body, lookup_mutable, if_pos (mem_compare_keys hkey).1]

/-- The identifier takes no part in a comparison. -/
theorem comparable_set_id (value : Value) :
    _comparable resource (assoc.set "id" value fields) = _comparable resource fields := by
  refine comparable_congr fun key hkey => ?_
  rw [assoc.lookup_set, if_neg (mem_compare_keys hkey).2.symm]

theorem comparable_stored_as :
    _comparable resource (stored_as resource id fields) = _comparable resource fields := by
  rw [stored_as, comparable_set_id, comparable_body]

theorem target_stored_as (hkeys : ∀ key ∈ key_fields resource, ∃ text, text_at desired key = .ok text) :
    Target resource desired (stored_as resource id desired) := by
  intro key hkey
  obtain ⟨text, htext⟩ := hkeys key hkey
  refine ⟨text, htext, ?_⟩
  have hlookup : assoc.lookup key (stored_as resource id desired) = assoc.lookup key desired := by
    refine lookup_stored_as ?_ ?_
    · cases resource <;> exact (by decide : ∀ key ∈ key_fields _, key ∈ Resource.mutable_keys _) key hkey
    · cases resource <;> exact (by decide : ∀ key ∈ key_fields _, key ≠ "id") key hkey
  rw [text_at] at htext
  rw [has_text, hlookup]
  cases hvalue : assoc.lookup key desired with
  | none =>
    rw [hvalue] at htext
    cases htext
  | some value =>
    rw [hvalue] at htext
    exact decide_eq_true (Except.ok.inj htext)

/-- After its creation the lookup of an action finds the object that it created. -/
theorem lookup_created {found : Option Fields}
    (hlookup : (server.store resource id (_body resource desired)).answers
      (_lookup_for_action resource desired) = .ok found) :
    found = some (stored_as resource id desired) := by
  obtain ⟨-, -, -, -, -, hkeys⟩ := lookup_eq_ok hlookup
  have htarget : Target resource desired (stored_as resource id desired) := target_stored_as hkeys
  have hobject : (server.store resource id (_body resource desired)).object resource id =
      some (stored_as resource id desired) := by
    rw [Server.object_store, if_pos ⟨rfl, rfl⟩, stored_as]
  cases found with
  | none => exact absurd htarget (not_target_of_none hlookup hobject)
  | some fields =>
    obtain ⟨other, hother, -, hunique⟩ := target_of_some hlookup
    rw [← hunique id _ hobject htarget, hobject] at hother
    exact hother.symm

end Target

end orchestrator.ise
