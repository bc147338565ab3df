import SdaOrchestrator.Ise.Rollback

open python effects Program

namespace orchestrator.ise

open orchestrator.store (Platform)

/-! ## Objects of others -/

/-- An object that does not carry the marker of the manifest. -/
def Foreign (manifest : Manifest) (first : Server) (resource : Resource) (id : String) : Prop :=
  ∃ fields, first.object resource id = some fields ∧ _owned manifest fields = false

/-- An action that changes an object does not change a foreign one. -/
def Spares (manifest : Manifest) (first : Server) (action : Action) : Prop :=
  ∀ id snapshot pre_hash, action.kind = .update id snapshot pre_hash →
    ¬Foreign manifest first action.resource id

/-- Foreign objects stand as they stood, and no request under their identifier was sent. -/
structure Untouched (manifest : Manifest) (first server : Server) (writes : List Write) : Prop where
  object : ∀ resource id, Foreign manifest first resource id →
    server.object resource id = first.object resource id
  put : ∀ resource id, Foreign manifest first resource id → ∀ body, .put resource id body ∉ writes
  delete : ∀ resource id, Foreign manifest first resource id → .delete resource id ∉ writes

/-- Nothing that the adapter remembers leads to a foreign object. -/
structure Framed (platform : Platform) (manifest : Manifest) (first : Server) (s : State) : Prop where
  untouched : Untouched manifest first s.server s.writes
  prepared : ∀ found, s._prepared = some found → ∀ action ∈ found.actions,
    (∃ server, Planned platform manifest server action) ∧ Spares manifest first action
  journal : ∀ operation_id resource id snapshot pre_hash post_hash,
    .update operation_id resource id snapshot pre_hash post_hash ∈ s._journal →
      ¬Foreign manifest first resource id

section Frame

variable {environment : Environment} {manifest : Manifest} {first server after : Server}
  {writes sent : List Write} {entered : List Item} {action : Action} {item : Item}

/-- An object that is owned where it stands is not foreign. -/
theorem Untouched.not_foreign (h : Untouched manifest first server writes) {resource : Resource} {id : String}
    {fields : Fields} (hobject : server.object resource id = some fields) (howned : _owned manifest fields) :
    ¬Foreign manifest first resource id := by
  intro hforeign
  have hsame := h.object resource id hforeign
  obtain ⟨found, hfound, hnot⟩ := hforeign
  rw [hobject, hfound] at hsame
  obtain rfl := Option.some.inj hsame
  rw [howned] at hnot
  cases hnot

theorem Untouched.spares (h : Untouched manifest first server writes)
    (hclassified : Classified environment.platform manifest server action.resource action.desired action.kind) :
    Spares manifest first action := by
  intro id snapshot pre_hash hkind
  rw [hkind] at hclassified
  cases hclassified with
  | update hobject howned _ _ => exact h.not_foreign hobject howned

/-- A request that stays away from foreign objects. -/
theorem Untouched.step (h : Untouched manifest first server writes)
    (hobject : ∀ resource id, Foreign manifest first resource id →
      after.object resource id = server.object resource id)
    (hput : ∀ resource id body, .put resource id body ∈ sent → ¬Foreign manifest first resource id)
    (hdelete : ∀ resource id, .delete resource id ∈ sent → ¬Foreign manifest first resource id) :
    Untouched manifest first after (writes ++ sent) where
  object resource id hforeign := (hobject resource id hforeign).trans (h.object resource id hforeign)
  put resource id hforeign body hmem := by
    obtain hmem | hmem := List.mem_append.mp hmem
    · exact h.put resource id hforeign body hmem
    · exact hput resource id body hmem hforeign
  delete resource id hforeign hmem := by
    obtain hmem | hmem := List.mem_append.mp hmem
    · exact h.delete resource id hforeign hmem
    · exact hdelete resource id hmem hforeign

/-- The request of an action that spares foreign objects. -/
theorem Spares.request (hspares : Spares manifest first action) :
    (∀ resource id body, .put resource id body ∈ [action.request] → ¬Foreign manifest first resource id) ∧
      ∀ resource id, .delete resource id ∉ [action.request] := by
  obtain ⟨operation_id, resource, desired, kind⟩ := action
  cases kind with
  | update key snapshot pre_hash =>
    refine ⟨fun other id body hmem => ?_, fun other id hmem => ?_⟩
    · obtain ⟨rfl, rfl, -⟩ := Write.put.inj (List.mem_singleton.mp hmem)
      exact hspares id snapshot pre_hash rfl
    · cases List.mem_singleton.mp hmem
  | _ =>
    refine ⟨fun other id body hmem => ?_, fun other id hmem => ?_⟩ <;> cases List.mem_singleton.mp hmem

theorem Untouched.attempted {platform : Platform} (h : Untouched manifest first server writes)
    (hspares : Spares manifest first action)
    (hattempted : Attempted platform server action after sent entered) :
    Untouched manifest first after (writes ++ sent) := by
  obtain ⟨hput, hdelete⟩ := hspares.request
  cases hattempted with
  | unchanged => exact h.step (fun _ _ _ => rfl) (fun _ _ _ hmem => nomatch hmem) fun _ _ hmem => nomatch hmem
  | idle _ hsent =>
    obtain rfl | rfl := hsent
    · exact h.step (fun _ _ _ => rfl) (fun _ _ _ hmem => nomatch hmem) fun _ _ hmem => nomatch hmem
    · exact h.step (fun _ _ _ => rfl) hput fun resource id hmem => absurd hmem (hdelete resource id)
  | effective heffect =>
    refine h.step (fun other id hforeign => ?_) hput fun resource id hmem => absurd hmem (hdelete resource id)
    cases heffect with
    | create _ habsent _ =>
      rw [Server.object_store, if_neg]
      rintro ⟨rfl, rfl⟩
      have hsame := h.object _ _ hforeign
      obtain ⟨fields, hfields, -⟩ := hforeign
      rw [habsent, hfields] at hsame
      cases hsame
    | update _ _ =>
      rw [Server.object_store, if_neg]
      rintro ⟨rfl, rfl⟩
      exact hspares _ _ _ rfl hforeign

/-- The entries of an action are about its own object. -/
theorem Attempted.not_foreign {platform : Platform} (hspares : Spares manifest first action)
    (hattempted : Attempted platform server action after sent entered) {operation_id id pre_hash : String}
    {resource : Resource} {snapshot : Fields} {post_hash : Option String}
    (hitem : .update operation_id resource id snapshot pre_hash post_hash ∈ entered) :
    ¬Foreign manifest first resource id := by
  cases hattempted with
  | unchanged => cases hitem
  | idle hidle _ =>
    obtain rfl := List.mem_singleton.mp hitem
    cases hidle with
    | update _ _ => exact hspares _ _ _ rfl
  | effective heffect =>
    obtain rfl := List.mem_singleton.mp hitem
    cases heffect with
    | update _ _ => exact hspares _ _ _ rfl

theorem Framed.attempted {platform : Platform} {s t : State} (h : Framed platform manifest first s)
    (hspares : Spares manifest first action)
    (hattempted : Attempted platform s.server action after sent entered)
    (hat : At after (s.writes ++ sent) s._prepared (s._journal ++ entered) t) :
    Framed platform manifest first t := by
  obtain ⟨hserver, hwrites, hprepared, hjournal⟩ := hat
  constructor
  · rw [hserver, hwrites]
    exact h.untouched.attempted hspares hattempted
  · rw [hprepared]
    exact h.prepared
  · rw [hjournal]
    intro operation_id resource id snapshot pre_hash post_hash hitem
    obtain hitem | hitem := List.mem_append.mp hitem
    · exact h.journal _ _ _ _ _ _ hitem
    · exact hattempted.not_foreign hspares hitem

/-- The requests that read change nothing. -/
theorem Framed.of_at {platform : Platform} {s t : State} (h : Framed platform manifest first s)
    (hat : At s.server s.writes s._prepared s._journal t) : Framed platform manifest first t := by
  obtain ⟨hserver, hwrites, hprepared, hjournal⟩ := hat
  exact ⟨by rw [hserver, hwrites]; exact h.untouched, hprepared ▸ h.prepared, hjournal ▸ h.journal⟩

theorem apply_action_framed {s₀ : State} (h : Framed environment.platform manifest first s₀)
    (hspares : Spares manifest first action) :
    Triple (At s₀.server s₀.writes s₀._prepared s₀._journal) (_apply_action environment manifest action)
      (fun _ => Framed environment.platform manifest first)
      (fun _ => Framed environment.platform manifest first) := by
  refine (apply_action_triple action).weaken (fun _ hs => hs) (fun result s hs => ?_) fun _ s hs => ?_
  · obtain ⟨after, sent, entered, hperformed, hat⟩ := hs
    exact h.attempted hspares hperformed.attempted.1 hat
  · obtain ⟨after, sent, entered, hattempted, hat⟩ := hs
    exact h.attempted hspares hattempted hat

theorem apply_cell_framed {document : Value} (hvalid : _validate_manifest document = .ok manifest)
    {applied : List (String × Result)} {platform : Platform} {s₀ : State}
    (hplanned : Planned platform manifest server action) (hspares : Spares manifest first action)
    (hcell : action.resource = .egressmatrixcell) (h : Framed environment.platform manifest first s₀) :
    Triple (At s₀.server s₀.writes s₀._prepared s₀._journal) (apply_cell environment manifest applied action)
      (fun _ => Framed environment.platform manifest first)
      (fun _ => Framed environment.platform manifest first) := by
  unfold apply_cell
  split
  · refine Triple.bind _ ((resolve_triple hvalid hplanned hcell).weaken (fun _ hs => hs) (fun _ _ hs => hs)
      fun _ s hs => h.of_at hs) fun found => Triple.of_pre fun s hs => ?_
    obtain ⟨hat, -, -, hnow⟩ := hs
    exact (apply_action_framed h (h.untouched.spares hnow)).weaken (fun t ht => ht ▸ hat)
      (fun _ _ ht => ht) fun _ _ ht => ht
  · exact apply_action_framed h hspares

theorem apply_framed {document : Value} (hvalid : _validate_manifest document = .ok manifest) :
    Keeps (Framed environment.platform manifest first) (apply environment manifest) := by
  refine Triple.read_bind fun read => ?_
  cases read with
  | none => exact Triple.raise fun _ hs => hs.1
  | some found =>
    refine Triple.of_pre fun s hs => ?_
    have hactions := hs.1.prepared found hs.2
    have hframed := hs.1
    suffices hkeeps : Keeps (Framed environment.platform manifest first) (do
        let journal ← Program.read State._journal
        Program.lift (raise_if (!journal.isEmpty) (IseErsError "ISE transaction already contains changes"))
        let applied ← Program.collect (found.actions.filter (·.resource ≠ .egressmatrixcell))
          (apply_named environment manifest)
        let cells ← Program.collect (found.actions.filter (·.resource = .egressmatrixcell))
          (apply_cell environment manifest applied)
        let operations := applied.map Prod.snd ++ cells
        let journal ← Program.read State._journal
        return {
          prepared_hash := found.prepared_hash
          changed_count := journal.length
          noop_count := operations.countP (·.action = "noop")
          operations } : Adapter Applied) from
      hkeeps.weaken (fun t ht => ht ▸ hframed) (fun _ _ ht => ht) fun _ _ ht => ht
    refine Keeps.bind Keeps.read fun journal => Keeps.lift_bind fun _ => Keeps.bind ?_ fun applied =>
      Keeps.bind ?_ fun cells => Keeps.bind Keeps.read fun _ => Keeps.pure
    · refine Triple.collect (fun _ _ => Framed environment.platform manifest first)
        fun done _ action rest hsplit => ?_
      have hmem : action ∈ found.actions.filter (·.resource ≠ .egressmatrixcell) :=
        hsplit ▸ List.mem_append_right _ List.mem_cons_self
      have hspares := (hactions action (List.mem_of_mem_filter hmem)).2
      exact Keeps.bind (triple_of_at fun s hs => apply_action_framed hs hspares) fun _ =>
        Keeps.lift_bind fun _ => Keeps.pure
    · refine Triple.collect (fun _ _ => Framed environment.platform manifest first)
        fun done _ action rest hsplit => triple_of_at fun s hs => ?_
      have hmem : action ∈ found.actions.filter (·.resource = .egressmatrixcell) :=
        hsplit ▸ List.mem_append_right _ List.mem_cons_self
      rw [List.mem_filter, decide_eq_true_eq] at hmem
      obtain ⟨⟨server, hplanned⟩, hspares⟩ := hactions action hmem.1
      exact apply_cell_framed hvalid hplanned hspares hmem.2 hs

theorem prepare_framed : Keeps (Framed environment.platform manifest first) (prepare environment manifest) := by
  refine triple_of_at fun s hs => prepare_triple.weaken (fun _ ht => ht) (fun _ t ht => ?_) fun _ t ht => hs.of_at ht
  obtain ⟨found, hfound, -, hserver, hwrites, hprepared, hjournal⟩ := ht
  refine ⟨by rw [hserver, hwrites]; exact hs.untouched, fun other hother action haction => ?_,
    hjournal ▸ hs.journal⟩
  rw [hprepared] at hother
  obtain rfl := Option.some.inj hother
  have hplanned := planned_of_preflight hfound action haction
  refine ⟨⟨s.server, hplanned⟩, ?_⟩
  obtain hclassified | ⟨-, lookup, hdeferred⟩ := hplanned.kind
  · exact hs.untouched.spares hclassified
  · intro id snapshot pre_hash hkind
    rw [hdeferred] at hkind
    cases hkind

/-- An entry is undone on an object that is owned, or on the one it updated. -/
theorem Untouched.halted (h : Untouched manifest first server writes)
    (hitem : ∀ operation_id resource id snapshot pre_hash post_hash,
      item = .update operation_id resource id snapshot pre_hash post_hash → ¬Foreign manifest first resource id)
    (hhalted : Halted manifest server item after sent) : Untouched manifest first after (writes ++ sent) := by
  cases hhalted with
  | unchanged => exact h.step (fun _ _ _ => rfl) (fun _ _ _ hmem => nomatch hmem) fun _ _ hmem => nomatch hmem
  | @delete _ id resource _ _ _ current _ hobject howned hafter =>
    have hspared := h.not_foreign hobject howned
    refine h.step (fun other key hforeign => ?_) (fun _ _ _ hmem => ?_) fun other key hmem => ?_
    · obtain rfl | rfl := hafter
      · rfl
      · rw [Server.object_remove, if_neg]
        rintro ⟨rfl, rfl⟩
        exact hspared hforeign
    · cases List.mem_singleton.mp hmem
    · obtain ⟨rfl, rfl⟩ := Write.delete.inj (List.mem_singleton.mp hmem)
      exact hspared
  | @put _ id _ resource _ snapshot _ hafter =>
    have hspared := hitem _ _ _ _ _ _ rfl
    refine h.step (fun other key hforeign => ?_) (fun other key body hmem => ?_) fun _ _ hmem => ?_
    · obtain rfl | rfl := hafter
      · rfl
      · rw [Server.object_store, if_neg]
        rintro ⟨rfl, rfl⟩
        exact hspared hforeign
    · obtain ⟨rfl, rfl, -⟩ := Write.put.inj (List.mem_singleton.mp hmem)
      exact hspared
    · cases List.mem_singleton.mp hmem

theorem undo_framed (hitem : ∀ operation_id resource id snapshot pre_hash post_hash,
      item = .update operation_id resource id snapshot pre_hash post_hash → ¬Foreign manifest first resource id) :
    Keeps (Framed environment.platform manifest first) (undo environment manifest item) := by
  have hleft {s t : State} {after : Server} {sent : List Write}
      (hs : Framed environment.platform manifest first s) (hhalted : Halted manifest s.server item after sent)
      (hat : At after (s.writes ++ sent) s._prepared s._journal t) :
      Framed environment.platform manifest first t := by
    obtain ⟨hserver, hwrites, hprepared, hjournal⟩ := hat
    refine ⟨?_, hprepared ▸ hs.prepared, hjournal ▸ hs.journal⟩
    rw [hserver, hwrites]
    exact hs.untouched.halted hitem hhalted
  refine triple_of_at fun s hs => (undo_triple item).weaken (fun _ ht => ht) (fun _ t ht => ?_) fun _ t ht => ?_
  · obtain ⟨after, sent, hundid, hat⟩ := ht
    exact hleft hs hundid.halted hat
  · obtain ⟨after, sent, hhalted, hat⟩ := ht
    exact hleft hs hhalted hat

theorem rollback_framed : Keeps (Framed environment.platform manifest first) (rollback environment manifest) := by
  refine Triple.read_bind fun journal => Triple.of_pre fun s hs => ?_
  obtain ⟨hframed, rfl⟩ := hs
  suffices hkeeps : Keeps (Framed environment.platform manifest first) (do
      let outcomes ← Program.collect s._journal.reverse fun item => (undo environment manifest item).attempt
      Program.lift (raise_if (outcomes.any fun outcome => !outcome.isOk)
        (IseRollbackError "ISE rollback failed for one or more resources"))
      Program.modify fun s => { s with _journal := [] }
      return outcomes.filterMap Except.toOption : Adapter (List Undone)) from
    hkeeps.weaken (fun t ht => ht ▸ hframed) (fun _ _ ht => ht) fun _ _ ht => ht
  refine Keeps.bind ?_ fun outcomes => Keeps.lift_bind fun _ => Keeps.bind ?_ fun _ => Keeps.pure
  · refine Triple.collect (fun _ _ => Framed environment.platform manifest first)
      fun done _ item rest hsplit => Keeps.attempt (undo_framed ?_)
    have hmem : item ∈ s._journal.reverse := hsplit ▸ List.mem_append_right _ List.mem_cons_self
    rintro operation_id resource id snapshot pre_hash post_hash rfl
    exact hframed.journal _ _ _ _ _ _ (List.mem_reverse.mp hmem)
  · exact Triple.modify fun t ht => ⟨ht.untouched, ht.prepared, fun _ _ _ _ _ _ hmem => nomatch hmem⟩

end Frame

/-! ## Collisions -/

/-- The groups of a cell exist under these identifiers. -/
def Paired (server : Server) (operation : Operation) (source_id destination_id : String) : Prop :=
  (∃ fields, server.object .sgt source_id = some fields ∧
    has_text "name" (operation.lookup_text "source_sgt_name") fields) ∧
  ∃ fields, server.object .sgt destination_id = some fields ∧
    has_text "name" (operation.lookup_text "destination_sgt_name") fields

/-- A cell of others stands on the pair of an operation. -/
def ForeignCell (manifest : Manifest) (server : Server) (operation : Operation) : Prop :=
  operation.resource = .egressmatrixcell ∧ ∃ source_id destination_id id fields,
    Paired server operation source_id destination_id ∧
    server.object .egressmatrixcell id = some fields ∧ _owned manifest fields = false ∧
    has_text "sourceSgtId" source_id fields ∧ has_text "destinationSgtId" destination_id fields

/-- An object of others stands where an operation wants one of its own. -/
inductive Collides (manifest : Manifest) (server : Server) (operation : Operation) : Prop where
  | name {id : String} {fields : Fields} (hnamed : operation.resource ≠ .egressmatrixcell)
    (hobject : server.object operation.resource id = some fields) (hforeign : _owned manifest fields = false)
    (hname : has_text "name" (operation.lookup_text "name") fields)
  | value {id : String} {fields : Fields} {value : Int} (hsgt : operation.resource = .sgt)
    (hplanned : assoc.lookup "value" operation.desired = some (.int value))
    (hobject : server.object .sgt id = some fields) (hforeign : _owned manifest fields = false)
    (htext : has_text "value" (toString value) fields)
    (hvalue : ((assoc.lookup "value" fields).getD (.int (-1))).toInt = .ok value)
  | cell (hcell : ForeignCell manifest server operation)

/-- The access lists that a cell refers to exist. -/
def Listed (server : Server) (operation : Operation) : Prop :=
  ∀ ref ∈ operation.sgacl_name_refs, ∃ id fields,
    server.object .sgacl id = some fields ∧ has_text "name" ref.toStr fields

section Collisions

variable {environment : Environment} {manifest : Manifest} {server : Server} {operation : Operation}
  {action : Action} {existing : Option Fields}

theorem classify_of_named
    (hprepare : server.answers (prepare_named environment manifest operation) = .ok (action, existing)) :
    server.answers (_find_by_name operation.resource (operation.lookup_text "name")) = .ok existing ∧
      (operation.resource = .sgt → server.answers (check_value operation.desired existing) = .ok ()) ∧
      _classify environment.platform manifest operation operation.desired existing = .ok action := by
  simp only [Server.answers, prepare_named, Query.answer_bind, bind_eq_ok_iff] at hprepare
  obtain ⟨found, hfind, hrest⟩ := hprepare
  split at hrest
  all_goals
    simp only [Query.answer_bind, Query.answer_lift, Query.answer_pure, bind_eq_ok_iff, Except.ok.injEq,
      Prod.mk.injEq] at hrest
  · obtain ⟨_, hcheck, _, hclassify, rfl, rfl⟩ := hrest
    exact ⟨hfind, fun _ => hcheck, hclassify⟩
  · obtain ⟨_, hclassify, rfl, rfl⟩ := hrest
    exact ⟨hfind, fun hsgt => absurd hsgt ‹_›, hclassify⟩

/-- A group whose value an object of others has is not prepared. -/
theorem not_prepared_of_value {id : String} {fields : Fields} {value : Int}
    (hsgt : operation.resource = .sgt)
    (hplanned : assoc.lookup "value" operation.desired = some (.int value))
    (hobject : server.object .sgt id = some fields) (hforeign : _owned manifest fields = false)
    (htext : has_text "value" (toString value) fields)
    (hvalue : ((assoc.lookup "value" fields).getD (.int (-1))).toInt = .ok value) :
    server.answers (prepare_named environment manifest operation) ≠ .ok (action, existing) := by
  intro hprepare
  obtain ⟨hfind, hcheck, hclassify⟩ := classify_of_named hprepare
  have hchecked := hcheck hsgt
  simp only [Server.answers, check_value, hplanned, Value.toInt, Query.answer_bind, Query.answer_lift,
    bind_eq_ok_iff, Except.ok.injEq, exists_eq_left', raise_if_eq_ok] at hchecked
  obtain ⟨by_value, hby_value, hsame⟩ := hchecked
  have hfound : Found server .sgt [("value", toString value)] (fun candidate => do
      return (← ((assoc.lookup "value" candidate).getD (.int (-1))).toInt) = value) id fields := by
    refine ⟨hobject, List.forall_mem_singleton.mpr htext, ?_⟩
    simp only [hvalue]
    exact decide_eq_true rfl
  obtain rfl := find_one_of_found hby_value hfound
  cases existing with
  | none => cases hsame
  | some found =>
    simp only [Option.any_some, Option.all_some, decide_eq_false_iff_not, not_not] at hsame
    have hother := object_of_find_one hfind found rfl
    rw [hsgt, ← hsame, Server.id_of_eq hobject, hobject] at hother
    obtain rfl := Option.some.inj hother
    rw [owned_of_classify hclassify] at hforeign
    cases hforeign

/-- The identifier of an object that exists under a planned name is known. -/
theorem id_of_known {named : List Action} {resource : Resource} {name id : String} {fields : Fields}
    (hresource : resource ≠ .egressmatrixcell) (hname : name ∈ names resource manifest.operations)
    (hprepared : List.Forall₂ (fun operation action => ∃ existing,
        server.answers (prepare_named environment manifest operation) = .ok (action, existing))
      (named_operations manifest) named)
    (hobject : server.object resource id = some fields) (htext : has_text "name" name fields) :
    Known.id? ((known_after server ⟨[], []⟩ (named_operations manifest)).ids resource) name = some id := by
  obtain ⟨operation, hoperation, hkind, rfl⟩ := mem_names.mp hname
  have hmem : operation ∈ named_operations manifest :=
    mem_named_operations.mpr ⟨hoperation, hkind.trans_ne hresource⟩
  have hplanned : operation.lookup_text "name" ∈ names resource (named_operations manifest) :=
    mem_names.mpr ⟨operation, hmem, hkind, rfl⟩
  obtain ⟨action, -, existing, hprepare⟩ := exists_of_forall₂ hprepared hmem
  have hfind := (classify_of_named hprepare).1
  rw [hkind] at hfind
  have hfound := find_one_of_found hfind (found_name_iff.mpr ⟨hobject, htext⟩)
  subst hfound
  obtain ⟨⟨-, hread⟩, -⟩ := find_one_some_iff.mp hfind
  have hreadable := (hread (id, fields) (mem_matching_iff.mpr
    ⟨hobject, List.forall_mem_singleton.mpr htext⟩)).1
  rw [Known.id?, lookup_known hresource fun operation hmem => (mem_named_operations.mp hmem).2,
    if_pos hplanned, named_object_of_ok hfind, Option.map_some, Server.id_of_eq hobject, Option.some_or,
    Option.filter_some, if_pos (decide_eq_true (ne_empty_of_readable hreadable))]

theorem exists_mapM_of_forall {α β : Type} {f : α → Option β} {items : List α}
    (hall : ∀ x ∈ items, ∃ y, f x = some y) : ∃ ys, items.mapM f = some ys := by
  induction items with
  | nil => exact ⟨[], rfl⟩
  | cons x rest ih =>
    obtain ⟨hfirst, hrest⟩ := List.forall_mem_cons.mp hall
    obtain ⟨y, hy⟩ := hfirst
    obtain ⟨ys, hys⟩ := ih hrest
    exact ⟨y :: ys, by simp [List.mapM_cons, hy, hys]⟩

/-- A cell whose groups and access lists exist is not prepared where one of others stands. -/
theorem not_prepared_of_cell {document : Value} (hvalid : _validate_manifest document = .ok manifest)
    (hoperation : operation ∈ manifest.operations) (hforeign : ForeignCell manifest server operation)
    (hlisted : Listed server operation) {named : List Action}
    (hprepared : List.Forall₂ (fun operation action => ∃ existing,
        server.answers (prepare_named environment manifest operation) = .ok (action, existing))
      (named_operations manifest) named) :
    server.answers (prepare_cell environment manifest
      (known_after server ⟨[], []⟩ (named_operations manifest)) operation) ≠ .ok action := by
  intro hprepare
  obtain ⟨hcell, source_id, destination_id, id, fields, ⟨hsource, hdestination⟩, hobject, hnot, hsame⟩ := hforeign
  obtain ⟨source, hsource, hsource_name⟩ := hsource
  obtain ⟨destination, hdestination, hdestination_name⟩ := hdestination
  obtain ⟨hsource_planned, hdestination_planned, hrefs⟩ := references_of_validate hvalid hoperation hcell
  have hsource_id := id_of_known (by decide) hsource_planned hprepared hsource hsource_name
  have hdestination_id := id_of_known (by decide) hdestination_planned hprepared hdestination hdestination_name
  have hsgacls : ∃ ids, operation.sgacl_name_refs.mapM (fun name => Known.id?
      (known_after server ⟨[], []⟩ (named_operations manifest)).sgacls name.toStr) = some ids := by
    refine exists_mapM_of_forall fun ref href => ?_
    obtain ⟨name, rfl, hplanned⟩ := hrefs ref href
    obtain ⟨id, fields, hobject, hname⟩ := hlisted _ href
    exact ⟨id, id_of_known (by decide) hplanned hprepared hobject hname⟩
  obtain ⟨sgacl_ids, hsgacl_ids⟩ := hsgacls
  simp only [Known.ids] at hsource_id hdestination_id
  simp only [Server.answers, prepare_cell, hsource_id, hdestination_id, hsgacl_ids, Query.answer_bind,
    Query.answer_lift, bind_eq_ok_iff] at hprepare
  obtain ⟨existing, hfind, hclassify⟩ := hprepare
  obtain rfl := find_one_of_found hfind (found_cell_iff.mpr ⟨hobject, hsame⟩)
  rw [owned_of_classify hclassify] at hnot
  cases hnot

/-- The preflight raises where an operation collides. -/
theorem not_prepared_of_collides {document : Value} (hvalid : _validate_manifest document = .ok manifest)
    (hoperation : operation ∈ manifest.operations) (hcollides : Collides manifest server operation)
    (hlisted : ForeignCell manifest server operation → Listed server operation) {prepared : Prepared} :
    server.answers (preflight environment manifest) ≠ .ok prepared := by
  intro hpreflight
  obtain ⟨named, cells, -, hnamed, hcells⟩ := prepared_of_preflight hpreflight
  have hmem (hresource : operation.resource ≠ .egressmatrixcell) :
      ∃ action ∈ named, ∃ existing,
        server.answers (prepare_named environment manifest operation) = .ok (action, existing) :=
    exists_of_forall₂ hnamed (mem_named_operations.mpr ⟨hoperation, hresource⟩)
  cases hcollides with
  | name hresource hobject hforeign hname =>
    obtain ⟨action, -, existing, hprepare⟩ := hmem hresource
    obtain ⟨hfind, -, hclassify⟩ := classify_of_named hprepare
    obtain rfl := find_one_of_found hfind (found_name_iff.mpr ⟨hobject, hname⟩)
    rw [owned_of_classify hclassify] at hforeign
    cases hforeign
  | value hsgt hplanned hobject hforeign htext hvalue =>
    obtain ⟨action, -, existing, hprepare⟩ := hmem (by rw [hsgt]; decide)
    exact not_prepared_of_value hsgt hplanned hobject hforeign htext hvalue hprepare
  | cell hforeign =>
    have hcell := mem_cell_operations_of.mpr ⟨hoperation, hforeign.1⟩
    obtain ⟨action, -, hprepare⟩ := exists_of_forall₂ hcells hcell
    exact not_prepared_of_cell hvalid hoperation hforeign (hlisted hforeign) hnamed hprepare

end Collisions

/-! ## Runs of one adapter -/

inductive Command where
  | prepare | apply | rollback

/-- One call. Its exception is caught, and what it did before stays done. -/
def Command.run (environment : Environment) (manifest : Manifest) : Command → Adapter Unit
  | .prepare => do
    let _ ← (ise.prepare environment manifest).attempt
  | .apply => do
    let _ ← (ise.apply environment manifest).attempt
  | .rollback => do
    let _ ← (ise.rollback environment manifest).attempt

/-- Calls of one adapter in any order. -/
def execute (environment : Environment) (manifest : Manifest) (commands : List Command) : Adapter Unit :=
  Program.each commands (Command.run environment manifest)

/-- The state after the calls of a connected adapter. -/
def final (environment : Environment) (manifest : Manifest) (first : Server) (commands : List Command) :
    State :=
  (execute environment manifest commands (.start first)).2

/-- No call sends a request that changes an object of others. Where an operation
collides with one, no prepare returns and no request that writes is sent. -/
structure OwnershipFrame (environment : Environment) (manifest : Manifest) (first : Server)
    (commands : List Command) : Prop where
  untouched : Untouched manifest first (final environment manifest first commands).server
    (final environment manifest first commands).writes
  unprepared : (∃ operation ∈ manifest.operations, Collides manifest first operation) →
    (final environment manifest first commands)._prepared = none
  unwritten : (∃ operation ∈ manifest.operations, Collides manifest first operation) →
    (final environment manifest first commands).writes = []

section Runs

variable {environment : Environment} {manifest : Manifest} {first : Server} {document : Value}

theorem command_framed (hvalid : _validate_manifest document = .ok manifest) (command : Command) :
    Keeps (Framed environment.platform manifest first) (command.run environment manifest) := by
  cases command with
  | prepare => exact Keeps.bind (Keeps.attempt prepare_framed) fun _ => Keeps.pure
  | apply => exact Keeps.bind (Keeps.attempt (apply_framed hvalid)) fun _ => Keeps.pure
  | rollback => exact Keeps.bind (Keeps.attempt rollback_framed) fun _ => Keeps.pure

theorem framed_start (platform : Platform) : Framed platform manifest first (.start first) where
  untouched := ⟨fun _ _ _ => rfl, fun _ _ _ _ hmem => (List.not_mem_nil hmem).elim,
    fun _ _ _ hmem => (List.not_mem_nil hmem).elim⟩
  prepared := fun _ hnone => nomatch hnone
  journal := fun _ _ _ _ _ _ hmem => (List.not_mem_nil hmem).elim

/-- Objects of others stand untouched after any calls. -/
theorem execute_untouched (hvalid : _validate_manifest document = .ok manifest) (commands : List Command) :
    Untouched manifest first (final environment manifest first commands).server
      (final environment manifest first commands).writes :=
  (Triple.final (Keeps.each fun command => command_framed hvalid command)
    (framed_start environment.platform)).untouched

/-- Where the preflight raises, no call changes anything. -/
theorem command_idle
    (hpreflight : ∀ prepared, first.answers (preflight environment manifest) ≠ .ok prepared)
    (command : Command) : Keeps (At first [] none []) (command.run environment manifest) := by
  cases command with
  | prepare =>
    refine Keeps.bind (Triple.attempt (prepare_triple.weaken (fun _ hs => hs) (fun _ _ hs => ?_)
      fun _ _ hs => hs)) fun _ => Keeps.pure
    obtain ⟨prepared, hprepared, -⟩ := hs
    exact absurd hprepared (hpreflight prepared)
  | apply =>
    refine Keeps.bind (Keeps.attempt ?_) fun _ => Keeps.pure
    refine Triple.read_bind fun prepared => ?_
    cases prepared with
    | none => exact Triple.raise fun _ hs => hs.1
    | some prepared => exact fun s hs => nomatch hs.1.2.2.1.symm.trans hs.2
  | rollback =>
    refine Keeps.bind (Keeps.attempt ?_) fun _ => Keeps.pure
    refine Triple.read_bind fun journal => ?_
    cases journal with
    | nil =>
      refine Triple.bind (fun _ => At first [] none []) (Triple.pure fun _ hs => hs.1) fun outcomes => ?_
      refine Keeps.lift_bind fun _ => Keeps.bind (Triple.modify fun s hs => ?_) fun _ => Keeps.pure
      exact ⟨hs.1, hs.2.1, hs.2.2.1, rfl⟩
    | cons item rest => exact fun s hs => nomatch hs.1.2.2.2.symm.trans hs.2

end Runs

/-! ## A cell of others behind a missing access list -/

def lab_foreign_document : Value := lab_document [
  lab_sgt_operation "CORP" 1000, lab_sgt_operation "VOICE" 2000, lab_sgacl_operation "WEB",
  lab_cell_operation "cell-CORP-VOICE" "CORP" "VOICE" "WEB"]

/-- Both groups are owned; the cell on their pair is not. -/
def lab_foreign_server : Server :=
  ((lab_empty_server.store .sgt "sgt-1" (lab_sgt "CORP" (lab_marker ++ " group") 1000)).store
    .sgt "sgt-2" (lab_sgt "VOICE" (lab_marker ++ " group") 2000)).store .egressmatrixcell "cell-1" [
      ("name", .str "CORP-VOICE"),
      ("description", .str "kept by hand"),
      ("sourceSgtId", .str "sgt-1"),
      ("destinationSgtId", .str "sgt-2"),
      ("matrixCellStatus", .str "ENABLED"),
      ("defaultRule", .str "NONE"),
      ("sgacls", .list [])]

def lab_listed_server : Server := lab_foreign_server.store .sgacl "sgacl-1" (lab_sgacl "WEB")

/-- `ForeignCell`, computed. -/
def foreign_cell (manifest : Manifest) (server : Server) (operation : Operation) : Bool :=
  operation.resource = .egressmatrixcell && (server.objects .sgt).any fun source =>
    has_text "name" (operation.lookup_text "source_sgt_name") source.2 &&
      (server.objects .sgt).any fun destination =>
        has_text "name" (operation.lookup_text "destination_sgt_name") destination.2 &&
          (server.objects .egressmatrixcell).any fun cell =>
            !_owned manifest cell.2 && has_text "sourceSgtId" source.1 cell.2 &&
              has_text "destinationSgtId" destination.1 cell.2

theorem foreignCell_of_foreign_cell {manifest : Manifest} {server : Server} {operation : Operation}
    (h : foreign_cell manifest server operation) : ForeignCell manifest server operation := by
  simp only [foreign_cell, Bool.and_eq_true, List.any_eq_true, decide_eq_true_eq, Bool.not_eq_true'] at h
  obtain ⟨hcell, ⟨source_id, source⟩, hsource, hsource_name, ⟨destination_id, destination⟩, hdestination,
    hdestination_name, ⟨id, fields⟩, hobject, ⟨hforeign, hsource_id⟩, hdestination_id⟩ := h
  exact ⟨hcell, source_id, destination_id, id, fields,
    ⟨⟨source, Server.mem_objects_iff.mp hsource, hsource_name⟩,
      ⟨destination, Server.mem_objects_iff.mp hdestination, hdestination_name⟩⟩,
    Server.mem_objects_iff.mp hobject, hforeign, hsource_id, hdestination_id⟩

/-- `Listed`, computed. -/
def listed (server : Server) (operation : Operation) : Bool :=
  operation.sgacl_name_refs.all fun ref =>
    (server.objects .sgacl).any fun entry => has_text "name" ref.toStr entry.2

theorem listed_of_listed {server : Server} {operation : Operation} (h : listed server operation) :
    Listed server operation := by
  intro ref href
  obtain ⟨⟨id, fields⟩, hmem, hname⟩ := List.any_eq_true.mp (List.all_eq_true.mp h ref href)
  exact ⟨id, fields, Server.mem_objects_iff.mp hmem, hname⟩

theorem exists_collides {manifest : Manifest} {server : Server}
    (h : manifest.operations.any (foreign_cell manifest server)) :
    ∃ operation ∈ manifest.operations, Collides manifest server operation := by
  obtain ⟨operation, hoperation, hforeign⟩ := List.any_eq_true.mp h
  exact ⟨operation, hoperation, .cell (foreignCell_of_foreign_cell hforeign)⟩

end orchestrator.ise
