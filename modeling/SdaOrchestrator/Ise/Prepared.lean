import SdaOrchestrator.Ise.Operations
import SdaOrchestrator.Ise.Steps

open python effects Program

namespace orchestrator.ise

open orchestrator.store (Platform)

/-! ## The classification of an action -/

/-- What the classification of an action says about the object that exists. -/
inductive Classified (platform : Platform) (manifest : Manifest) (server : Server) (resource : Resource)
    (desired : Fields) : Kind → Prop where
  | create : Classified platform manifest server resource desired .create
  | noop {id pre_hash : String} {existing : Fields} (hobject : server.object resource id = some existing)
    (howned : _owned manifest existing) (hhash : _state_hash platform resource existing = .ok pre_hash)
    (halike : alike resource existing desired = .ok true) :
    Classified platform manifest server resource desired
      (.noop id (_mutable resource existing) pre_hash)
  | update {id pre_hash : String} {existing : Fields} (hobject : server.object resource id = some existing)
    (howned : _owned manifest existing) (hhash : _state_hash platform resource existing = .ok pre_hash)
    (halike : alike resource existing desired = .ok false) :
    Classified platform manifest server resource desired
      (.update id (_mutable resource existing) pre_hash)

section Classified

variable {platform : Platform} {manifest : Manifest} {server : Server} {operation : Operation}
  {desired : Fields} {existing : Option Fields} {action : Action}

/-- An object that exists is classified only when it is owned. -/
theorem classified_of_classify (hexisting : ∀ found, existing = some found →
      server.object operation.resource (id_of found) = some found)
    (hclassify : _classify platform manifest operation desired existing = .ok action) :
    action.operation_id = operation.operation_id.toStr ∧ action.resource = operation.resource ∧
      action.desired = desired ∧
      Classified platform manifest server operation.resource desired action.kind := by
  cases existing with
  | none =>
    obtain rfl := Except.ok.inj hclassify
    exact ⟨rfl, rfl, rfl, .create⟩
  | some found =>
    simp only [_classify, bind_eq_ok_iff, raise_if_eq_ok, Bool.not_eq_false', exists_const, pure_eq_ok_iff]
      at hclassify
    obtain ⟨howned, pre_hash, hhash, same, halike, rfl⟩ := hclassify
    refine ⟨rfl, rfl, rfl, ?_⟩
    have hobject := hexisting found rfl
    cases same with
    | true => exact .noop hobject howned hhash halike
    | false => exact .update hobject howned hhash halike

end Classified

/-! ## What prepare plans -/

/-- An action is classified, or it waits for the objects that its cell refers to. -/
structure Planned (platform : Platform) (manifest : Manifest) (server : Server) (action : Action) :
    Prop where
  operation : ∃ operation ∈ manifest.operations,
    action.operation_id = operation.operation_id.toStr ∧ action.resource = operation.resource
  kind : Classified platform manifest server action.resource action.desired action.kind ∨
    action.resource = .egressmatrixcell ∧ ∃ lookup, action.kind = .deferred lookup

section Preflight

variable {environment : Environment} {manifest : Manifest} {server : Server}

theorem object_of_find_one {resource : Resource} {filters : List (String × String)}
    {exact : Fields → Py Bool} {message : String} {found : Option Fields}
    (hfind : server.answers (find_one resource filters exact message) = .ok found) (fields : Fields)
    (hfound : found = some fields) : server.object resource (id_of fields) = some fields := by
  subst hfound
  obtain ⟨-, id, ⟨hobject, -⟩, -⟩ := find_one_some_iff.mp hfind
  rw [Server.id_of_eq hobject, hobject]

/-- A search that returns finds the only object that matches exactly. -/
theorem find_one_of_found {resource : Resource} {filters : List (String × String)}
    {exact : Fields → Py Bool} {message id : String} {fields : Fields} {found : Option Fields}
    (hfind : server.answers (find_one resource filters exact message) = .ok found)
    (hfound : Found server resource filters exact id fields) : found = some fields := by
  cases found with
  | none => exact absurd hfound ((find_one_none_iff.mp hfind).2 id fields)
  | some other =>
    obtain ⟨-, key, ⟨hobject, -⟩, hunique⟩ := find_one_some_iff.mp hfind
    rw [← hunique id fields hfound, hfound.1] at hobject
    exact hobject.symm

theorem owned_of_classify {platform : Platform} {operation : Operation} {desired existing : Fields}
    {action : Action}
    (hclassify : _classify platform manifest operation desired (some existing) = .ok action) :
    _owned manifest existing := by
  simp only [_classify, bind_eq_ok_iff, raise_if_eq_ok, Bool.not_eq_false', exists_const] at hclassify
  exact hclassify.1

theorem planned_of_named {operation : Operation} {action : Action} {existing : Option Fields}
    (hoperation : operation ∈ manifest.operations)
    (hprepare : server.answers (prepare_named environment manifest operation) = .ok (action, existing)) :
    Planned environment.platform manifest server action ∧ action.resource = operation.resource ∧
      ∀ fields, existing = some fields → server.object operation.resource (id_of fields) = some fields := by
  simp only [Server.answers, prepare_named, Query.answer_bind, bind_eq_ok_iff] at hprepare
  obtain ⟨found, hfind, hrest⟩ := hprepare
  have hobject := object_of_find_one hfind
  have hclassify : _classify environment.platform manifest operation operation.desired found = .ok action ∧
      found = existing := by
    split at hrest
    all_goals
      simp only [Query.answer_bind, Query.answer_lift, Query.answer_pure, bind_eq_ok_iff, Except.ok.injEq,
        Prod.mk.injEq] at hrest
    · obtain ⟨_, _, _, hclassify, rfl, rfl⟩ := hrest
      exact ⟨hclassify, rfl⟩
    · obtain ⟨_, hclassify, rfl, rfl⟩ := hrest
      exact ⟨hclassify, rfl⟩
  obtain ⟨hclassify, rfl⟩ := hclassify
  obtain ⟨hid, hresource, hdesired, hkind⟩ := classified_of_classify hobject hclassify
  refine ⟨⟨⟨operation, hoperation, hid, hresource⟩, .inl ?_⟩, hresource, hobject⟩
  rw [hresource, hdesired]
  exact hkind

/-- The object that exists under a name. -/
def named_object (server : Server) (resource : Resource) (name : String) : Option Fields :=
  match server.answers (_find_by_name resource name) with
  | .ok found => found
  | .error _ => none

theorem named_object_of_ok {resource : Resource} {name : String} {found : Option Fields}
    (hfind : server.answers (_find_by_name resource name) = .ok found) :
    named_object server resource name = found := by
  rw [named_object, hfind]

/-- The known identifiers after some operations. -/
def known_after (server : Server) (known : Known) (operations : List Operation) : Known :=
  operations.foldl (fun known operation => known.add operation.resource (operation.lookup_text "name")
    (named_object server operation.resource (operation.lookup_text "name"))) known

theorem existing_of_named {operation : Operation} {action : Action} {existing : Option Fields}
    (hprepare : server.answers (prepare_named environment manifest operation) = .ok (action, existing)) :
    named_object server operation.resource (operation.lookup_text "name") = existing := by
  simp only [Server.answers, prepare_named, Query.answer_bind, bind_eq_ok_iff] at hprepare
  obtain ⟨found, hfind, hrest⟩ := hprepare
  rw [named_object_of_ok hfind]
  split at hrest
  all_goals
    simp only [Query.answer_bind, Query.answer_lift, Query.answer_pure, bind_eq_ok_iff, Except.ok.injEq,
      Prod.mk.injEq] at hrest
  · exact hrest.choose_spec.2.choose_spec.2.2
  · exact hrest.choose_spec.2.2

/-- Every operation of the loop is prepared on its own. -/
theorem prepared_of_all {operations : List Operation} {known after : Known} {actions : List Action}
    (hprepare : server.answers (prepare_all_named environment manifest known operations) =
      .ok (actions, after)) :
    List.Forall₂ (fun operation action => ∃ existing,
        server.answers (prepare_named environment manifest operation) = .ok (action, existing))
      operations actions ∧ after = known_after server known operations := by
  induction operations generalizing known actions with
  | nil =>
    obtain ⟨rfl, rfl⟩ := Prod.mk.inj (Except.ok.inj hprepare)
    exact ⟨.nil, rfl⟩
  | cons operation rest ih =>
    simp only [Server.answers, prepare_all_named, Query.answer_bind, Query.answer_pure, bind_eq_ok_iff,
      Except.ok.injEq, Prod.mk.injEq] at hprepare
    obtain ⟨⟨first, existing⟩, hfirst, ⟨others, _⟩, hothers, rfl, rfl⟩ := hprepare
    obtain ⟨hall, hafter⟩ := ih hothers
    refine ⟨.cons ⟨existing, hfirst⟩ hall, ?_⟩
    rw [hafter, known_after, known_after, List.foldl_cons, existing_of_named hfirst]

def Known.ids (known : Known) : Resource → List (String × String)
  | .sgt => known.sgts
  | _ => known.sgacls

theorem lookup_add {known : Known} {resource other : Resource} {name key : String} {existing : Option Fields}
    (hresource : resource ≠ .egressmatrixcell) (hother : other ≠ .egressmatrixcell) :
    assoc.lookup key ((known.add resource name existing).ids other) =
      if resource = other ∧ name = key then (existing.map id_of).or (assoc.lookup key (known.ids other))
      else assoc.lookup key (known.ids other) := by
  cases existing with
  | none => simp [Known.add]
  | some found =>
    cases resource <;> cases other <;> simp_all [Known.add, Known.ids, assoc.lookup_set]

/-- The known identifiers are those of the objects that exist under planned names. -/
theorem lookup_known {known : Known} {resource : Resource} {name : String} {operations : List Operation}
    (hresource : resource ≠ .egressmatrixcell)
    (hnamed : ∀ operation ∈ operations, operation.resource ≠ .egressmatrixcell) :
    assoc.lookup name ((known_after server known operations).ids resource) =
      if name ∈ names resource operations then
        ((named_object server resource name).map id_of).or (assoc.lookup name (known.ids resource))
      else assoc.lookup name (known.ids resource) := by
  induction operations generalizing known with
  | nil => rfl
  | cons operation rest ih =>
    obtain ⟨hfirst, hrest⟩ := List.forall_mem_cons.mp hnamed
    have hstep : known_after server known (operation :: rest) = known_after server
        (known.add operation.resource (operation.lookup_text "name")
          (named_object server operation.resource (operation.lookup_text "name"))) rest := rfl
    have hmem : name ∈ names resource (operation :: rest) ↔
        (operation.resource = resource ∧ operation.lookup_text "name" = name) ∨ name ∈ names resource rest := by
      rw [mem_names, mem_names, List.exists_mem_cons_iff]
    rw [hstep, ih hrest, lookup_add hfirst hresource, if_congr hmem rfl rfl]
    by_cases hsame : operation.resource = resource ∧ operation.lookup_text "name" = name
    · obtain ⟨rfl, rfl⟩ := hsame
      cases (named_object server operation.resource (operation.lookup_text "name")) <;> simp
    · simp [hsame]

theorem planned_of_cell {known : Known} {operation : Operation} {action : Action}
    (hoperation : operation ∈ manifest.operations) (hcell : operation.resource = .egressmatrixcell)
    (hprepare : server.answers (prepare_cell environment manifest known operation) = .ok action) :
    Planned environment.platform manifest server action ∧ action.resource = operation.resource := by
  unfold prepare_cell at hprepare
  dsimp only at hprepare
  split at hprepare
  · simp only [Query.answer_bind, Query.answer_lift, bind_eq_ok_iff] at hprepare
    obtain ⟨existing, hfind, hclassify⟩ := hprepare
    have hobject := object_of_find_one hfind
    rw [← hcell] at hobject
    obtain ⟨hid, hresource, hdesired, hkind⟩ := classified_of_classify hobject hclassify
    refine ⟨⟨⟨operation, hoperation, hid, hresource⟩, .inl ?_⟩, hresource⟩
    rw [hresource, hdesired]
    exact hkind
  · obtain rfl := Except.ok.inj hprepare
    exact ⟨⟨⟨operation, hoperation, rfl, hcell.symm⟩, .inr ⟨rfl, operation.lookup, rfl⟩⟩, hcell.symm⟩

/-- The operations on named objects, in the order in which they are prepared. -/
def named_operations (manifest : Manifest) : List Operation :=
  (sortedBy Operation.order manifest.operations).filter (·.resource ≠ .egressmatrixcell)

def cell_operations (manifest : Manifest) : List Operation :=
  (sortedBy Operation.order manifest.operations).filter (·.resource = .egressmatrixcell)

theorem mem_named_operations {operation : Operation} :
    operation ∈ named_operations manifest ↔
      operation ∈ manifest.operations ∧ operation.resource ≠ .egressmatrixcell := by
  rw [named_operations, List.mem_filter, mem_sortedBy, decide_eq_true_eq]

theorem mem_cell_operations_of {operation : Operation} :
    operation ∈ cell_operations manifest ↔
      operation ∈ manifest.operations ∧ operation.resource = .egressmatrixcell := by
  rw [cell_operations, List.mem_filter, mem_sortedBy, decide_eq_true_eq]

/-- A preflight prepares every operation. -/
theorem prepared_of_preflight {prepared : Prepared}
    (hpreflight : server.answers (preflight environment manifest) = .ok prepared) :
    ∃ named cells, prepared.actions = named ++ cells ∧
      List.Forall₂ (fun operation action => ∃ existing,
          server.answers (prepare_named environment manifest operation) = .ok (action, existing))
        (named_operations manifest) named ∧
      List.Forall₂ (fun operation action => server.answers (prepare_cell environment manifest
          (known_after server ⟨[], []⟩ (named_operations manifest)) operation) = .ok action)
        (cell_operations manifest) cells := by
  simp only [Server.answers, preflight, Query.answer_bind, Query.answer_collect, Query.answer_pure,
    bind_eq_ok_iff, Except.ok.injEq] at hpreflight
  obtain ⟨_, _, _, _, ⟨named, known⟩, hnamed, cells, hcells, rfl⟩ := hpreflight
  obtain ⟨hall, rfl⟩ := prepared_of_all hnamed
  exact ⟨named, cells, rfl, hall, mapM_eq_ok_iff.mp hcells⟩

theorem planned_of_preflight {prepared : Prepared}
    (hpreflight : server.answers (preflight environment manifest) = .ok prepared) :
    ∀ action ∈ prepared.actions, Planned environment.platform manifest server action := by
  obtain ⟨named, cells, hactions, hnamed, hcells⟩ := prepared_of_preflight hpreflight
  intro action haction
  rw [hactions] at haction
  obtain haction | haction := List.mem_append.mp haction
  · obtain ⟨operation, hoperation, existing, hprepare⟩ := exists_of_forall₂ hnamed.flip haction
    exact (planned_of_named (mem_named_operations.mp hoperation).1 hprepare).1
  · obtain ⟨operation, hoperation, hprepare⟩ := exists_of_forall₂ hcells.flip haction
    obtain ⟨hmem, hcell⟩ := mem_cell_operations_of.mp hoperation
    exact (planned_of_cell hmem hcell hprepare).1

/-- Preparing writes nothing. -/
theorem prepare_triple {writes : List Write} {prepared : Option Prepared} {journal : List Item} :
    Triple (At server writes prepared journal) (prepare environment manifest)
      (fun _ s => ∃ found, server.answers (preflight environment manifest) = .ok found ∧
        journal = [] ∧ At server writes (some found) journal s)
      (fun _ => At server writes prepared journal) := by
  refine Triple.read_bind fun found => Triple.of_pre fun s hs => ?_
  obtain ⟨hat, rfl⟩ := hs
  refine (Triple.lift_bind (fun _ _ h => h) fun _ hempty => ?_ :
    Triple (At server writes prepared journal) _ _ _).weaken (fun _ ht => ht ▸ hat) (fun _ _ ht => ht)
    fun _ _ ht => ht
  rw [raise_if_eq_ok, Bool.not_eq_false', List.isEmpty_iff, hat.2.2.2] at hempty
  refine ask_bind (fun _ _ h => h) fun found hfound => ?_
  refine Triple.bind (fun _ => At server writes (some found) journal) (Triple.modify fun t ht => ?_) fun _ => ?_
  · obtain ⟨hserver, hwrites, -, hjournal⟩ := ht
    exact ⟨hserver, hwrites, rfl, hjournal⟩
  · exact Triple.pure fun t ht => ⟨found, hfound, hempty, ht⟩

/-- No other operation has the identifier of an operation. -/
theorem operation_of_find {document : Value} (hvalid : _validate_manifest document = .ok manifest)
    {operation found : Operation} (hoperation : operation ∈ manifest.operations)
    (hfind : manifest.operations.find? (fun candidate =>
      candidate.operation_id.equals (.str operation.operation_id.toStr)) = some found) :
    found = operation := by
  have hequal := List.find?_some hfind
  have hid : found.operation_id = .str operation.operation_id.toStr :=
    Value.equals_str_right_iff.mp hequal
  have hsame : found.operation_id.toStr = operation.operation_id.toStr := by
    rw [hid]
    rfl
  have hinjective := List.inj_on_of_nodup_map (pairwise_apart_iff.mp (apart_of_validate hvalid)).1
  exact hinjective (List.mem_of_find?_eq_some hfind) hoperation hsame

/-- A deferred cell is classified against the server of its turn. -/
theorem resolve_triple {document : Value} (hvalid : _validate_manifest document = .ok manifest)
    {platform : Platform} {first : Server} {writes : List Write} {prepared : Option Prepared}
    {journal : List Item} {applied : List (String × Result)} {action : Action} {lookup : Fields}
    (hplanned : Planned platform manifest first action) (hcell : action.resource = .egressmatrixcell) :
    Triple (At server writes prepared journal) (resolve environment manifest applied action lookup)
      (fun found s => At server writes prepared journal s ∧ found.resource = .egressmatrixcell ∧
        found.operation_id = action.operation_id ∧
        Classified environment.platform manifest server found.resource found.desired found.kind)
      (fun _ => At server writes prepared journal) := by
  obtain ⟨operation, hoperation, hid, hresource⟩ := hplanned.operation
  rw [hcell] at hresource
  unfold resolve
  refine Triple.lift_bind (fun _ _ hs => hs) fun refs _ => ?_
  refine Triple.lift_bind (fun _ _ hs => hs) fun source_id _ => ?_
  refine Triple.lift_bind (fun _ _ hs => hs) fun destination_id _ => ?_
  refine Triple.lift_bind (fun _ _ hs => hs) fun sgacl_ids _ => ?_
  refine Triple.lift_bind (fun _ _ hs => hs) fun found hfound => ?_
  have hsame : found = operation := by
    rw [hid] at hfound
    split at hfound
    · rename_i candidate hfind
      obtain rfl := Except.ok.inj hfound
      exact operation_of_find hvalid hoperation hfind
    · cases hfound
  subst hsame
  refine ask_bind (fun _ _ hs => hs) fun existing hfind => ?_
  have hobject := object_of_find_one hfind
  refine Triple.lift (fun classified s hclassify hs => ?_) fun _ _ _ hs => hs
  rw [hresource] at hobject
  obtain ⟨hid', hresource', hdesired, hkind⟩ := classified_of_classify hobject hclassify
  refine ⟨hs, hresource'.trans hresource.symm, hid'.trans hid.symm, ?_⟩
  rw [hresource', hdesired]
  exact hkind

end Preflight

end orchestrator.ise
