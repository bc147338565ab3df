import SdaOrchestrator.Ise.Lookups

open python effects Program

namespace orchestrator.ise

open orchestrator.store (Platform)

/-! ## The session step by step -/

/-- The state but for the number of requests sent. -/
def At (server : Server) (writes : List Write) (prepared : Option Prepared) (journal : List Item)
    (s : State) : Prop :=
  s.server = server ∧ s.writes = writes ∧ s._prepared = prepared ∧ s._journal = journal

theorem at_self (s : State) : At s.server s.writes s._prepared s._journal s := ⟨rfl, rfl, rfl, rfl⟩

/-- The number of requests sent before decides nothing that is proved of a program. -/
theorem triple_of_at {α : Type} {pre : State → Prop} {m : Adapter α} {post : α → State → Prop}
    {raised : Raised → State → Prop}
    (h : ∀ s, pre s → Triple (At s.server s.writes s._prepared s._journal) m post raised) :
    Triple pre m post raised :=
  fun s hs => h s hs s (at_self s)

section Session

variable {environment : Environment} {server : Server} {writes : List Write}
  {prepared : Option Prepared} {journal : List Item} {α β : Type}
  {post : β → State → Prop} {raised : Raised → State → Prop}

theorem ask_triple (query : Ask α) :
    Triple (At server writes prepared journal) (environment.ask query)
      (fun a s => At server writes prepared journal s ∧ server.answers query = .ok a)
      (fun _ => At server writes prepared journal) := by
  refine Query.triple_run (fun request s hs => ?_) query
  have hnext : At server writes prepared journal { s with sent := s.sent + 1 } := hs
  rw [Environment.read]
  cases environment.outcome s.sent with
  | done => exact ⟨hnext, by rw [hs.1]⟩
  | misplaced => exact ⟨hnext, by rw [hs.1]⟩
  | refused => exact hnext
  | lost => exact hnext

/-- A query first: its answer is known to the rest. -/
theorem ask_bind {query : Ask α} {f : α → Adapter β}
    (herror : ∀ e s, At server writes prepared journal s → raised e s)
    (hf : ∀ a, server.answers query = .ok a → Triple (At server writes prepared journal) (f a) post raised) :
    Triple (At server writes prepared journal) (environment.ask query >>= f) post raised := by
  refine Triple.bind _ ((ask_triple query).weaken (fun _ hs => hs) (fun _ _ hs => hs) herror) fun a => ?_
  exact Triple.of_pre fun s hs => (hf a hs.2).weaken (fun _ ht => ht ▸ hs.1) (fun _ _ ht => ht) fun _ _ ht => ht

/-- A request that writes first. -/
theorem request_bind {request : Write} {f : Option String → Adapter β}
    (hunsent : ∀ e s, At server writes prepared journal s → raised e s)
    (hidle : ∀ e s, At server (writes ++ [request]) prepared journal s → raised e s)
    (hlost : ∀ e s fresh_id after, server.accept fresh_id request = some after →
      At after (writes ++ [request]) prepared journal s → raised e s)
    (hf : ∀ location fresh_id after, server.accept fresh_id request = some after →
      location = none ∨ location = some fresh_id →
      Triple (At after (writes ++ [request]) prepared journal) (f location) post raised) :
    Triple (At server writes prepared journal) (_request environment request >>= f) post raised := by
  refine Triple.bind (fun location s => ∃ fresh_id after, server.accept fresh_id request = some after ∧
    (location = none ∨ location = some fresh_id) ∧ At after (writes ++ [request]) prepared journal s)
    ?_ fun location => Triple.of_pre fun s hs => ?_
  · refine Triple.lift_bind hunsent fun _ _ s hs => ?_
    obtain ⟨rfl, rfl, rfl, rfl⟩ := hs
    rw [Environment.write]
    cases hserver : s.server.accept (environment.fresh_id s.sent) request with
    | none =>
      cases environment.outcome s.sent <;> exact hidle _ _ ⟨rfl, rfl, rfl, rfl⟩
    | some after =>
      cases environment.outcome s.sent with
      | refused => exact hidle _ _ ⟨rfl, rfl, rfl, rfl⟩
      | lost => exact hlost _ _ _ _ hserver ⟨rfl, rfl, rfl, rfl⟩
      | misplaced => exact ⟨_, _, hserver, .inl rfl, rfl, rfl, rfl, rfl⟩
      | done => exact ⟨_, _, hserver, .inr rfl, rfl, rfl, rfl, rfl⟩
  · obtain ⟨fresh_id, after, hserver, hlocation, hat⟩ := hs
    exact (hf location fresh_id after hserver hlocation).weaken (fun _ ht => ht ▸ hat)
      (fun _ _ ht => ht) fun _ _ ht => ht

theorem enter_bind {item : Item} {f : Unit → Adapter β}
    (hf : Triple (At server writes prepared (journal ++ [item])) (f ()) post raised) :
    Triple (At server writes prepared journal) (enter item >>= f) post raised := by
  refine Triple.bind (fun _ => At server writes prepared (journal ++ [item])) (Triple.modify fun s hs => ?_)
    fun _ => hf
  obtain ⟨rfl, rfl, rfl, rfl⟩ := hs
  exact ⟨rfl, rfl, rfl, rfl⟩

theorem amend_bind {old item : Item} {f : Unit → Adapter β}
    (hf : Triple (At server writes prepared (journal ++ [item])) (f ()) post raised) :
    Triple (At server writes prepared (journal ++ [old])) (amend item >>= f) post raised := by
  refine Triple.bind (fun _ => At server writes prepared (journal ++ [item])) (Triple.modify fun s hs => ?_)
    fun _ => hf
  obtain ⟨rfl, rfl, rfl, hjournal⟩ := hs
  refine ⟨rfl, rfl, rfl, ?_⟩
  rw [hjournal, List.dropLast_concat]

end Session

/-! ## What an action does -/

/-- The request by which an action changes the server. -/
def Action.request (action : Action) : Write :=
  match action.kind with
  | .update resource_id _ _ =>
    .put action.resource resource_id (_body action.resource (assoc.set "id" (.str resource_id) action.desired))
  | _ => .post action.resource (_body action.resource action.desired)

/-- The entry of a request without effect. -/
inductive Idle (platform : Platform) (server : Server) : Action → Item → Prop where
  | create {operation_id : String} {resource : Resource} {desired : Fields}
    (hlookup : server.answers (_lookup_for_action resource desired) = .ok none) :
    Idle platform server ⟨operation_id, resource, desired, .create⟩
      (.create operation_id resource none desired none)
  | update {operation_id id pre_hash : String} {resource : Resource} {desired snapshot before : Fields}
    (hobject : server.object resource id = some before)
    (hhash : _state_hash platform resource before = .ok pre_hash) :
    Idle platform server ⟨operation_id, resource, desired, .update id snapshot pre_hash⟩
      (.update operation_id resource id snapshot pre_hash none)

/-- The entry of a request that took effect on the object under an identifier, and
the server after it. -/
inductive Effective (platform : Platform) (server : Server) :
    Action → Item → String → Server → Prop where
  | create {operation_id id : String} {resource : Resource} {desired : Fields}
    {resource_id post_hash : Option String}
    (hlookup : server.answers (_lookup_for_action resource desired) = .ok none)
    (habsent : server.object resource id = none)
    (hid : resource_id = none ∨ resource_id = some id ∧ id ≠ "") :
    Effective platform server ⟨operation_id, resource, desired, .create⟩
      (.create operation_id resource resource_id desired post_hash) id
      (server.store resource id (_body resource desired))
  | update {operation_id id pre_hash : String} {resource : Resource} {desired snapshot before : Fields}
    {post_hash : Option String}
    (hobject : server.object resource id = some before)
    (hhash : _state_hash platform resource before = .ok pre_hash) :
    Effective platform server ⟨operation_id, resource, desired, .update id snapshot pre_hash⟩
      (.update operation_id resource id snapshot pre_hash post_hash) id
      (server.store resource id (_body resource (assoc.set "id" (.str id) desired)))

/-- What an action leaves behind wherever it stops: the server, what it sent and
what it entered. -/
inductive Attempted (platform : Platform) (server : Server) (action : Action) :
    Server → List Write → List Item → Prop where
  | unchanged : Attempted platform server action server [] []
  | idle {item : Item} {sent : List Write} (hidle : Idle platform server action item)
    (hsent : sent = [] ∨ sent = [action.request]) : Attempted platform server action server sent [item]
  | effective {item : Item} {id : String} {after : Server}
    (heffect : Effective platform server action item id after) :
    Attempted platform server action after [action.request] [item]

/-- What an action that returns did. -/
inductive Performed (platform : Platform) (server : Server) :
    Action → Result → Server → List Write → List Item → Prop where
  | noop {operation_id id pre_hash : String} {resource : Resource} {desired snapshot current : Fields}
    (hobject : server.object resource id = some current)
    (hhash : _state_hash platform resource current = .ok pre_hash) :
    Performed platform server ⟨operation_id, resource, desired, .noop id snapshot pre_hash⟩
      ⟨operation_id, resource, "noop", id, none, pre_hash⟩ server [] []
  | create {operation_id id post_hash : String} {resource : Resource} {desired : Fields}
    (hlookup : server.answers (_lookup_for_action resource desired) = .ok none)
    (habsent : server.object resource id = none) (hreadable : readable id)
    (halike : alike resource (stored_as resource id desired) desired = .ok true) :
    Performed platform server ⟨operation_id, resource, desired, .create⟩
      ⟨operation_id, resource, "create", id, none, post_hash⟩
      (server.store resource id (_body resource desired)) [.post resource (_body resource desired)]
      [.create operation_id resource (some id) desired (some post_hash)]
  | update {operation_id id pre_hash post_hash : String} {resource : Resource}
    {desired snapshot before : Fields}
    (hobject : server.object resource id = some before)
    (hhash : _state_hash platform resource before = .ok pre_hash) (hreadable : readable id)
    (halike : alike resource (stored_as resource id (assoc.set "id" (.str id) desired)) desired = .ok true) :
    Performed platform server ⟨operation_id, resource, desired, .update id snapshot pre_hash⟩
      ⟨operation_id, resource, "update", id, some pre_hash, post_hash⟩
      (server.store resource id (_body resource (assoc.set "id" (.str id) desired)))
      [.put resource id (_body resource (assoc.set "id" (.str id) desired))]
      [.update operation_id resource id snapshot pre_hash (some post_hash)]

theorem ne_empty_of_readable {id : String} (hreadable : readable id) : id ≠ "" := by
  rintro rfl
  exact absurd hreadable (by decide)

/-- The entry knows what it is to undo. -/
def Item.settled : Item → Bool
  | .create _ _ resource_id _ _ => resource_id.isSome
  | .update _ _ _ _ _ post_hash => post_hash.isSome

theorem Performed.attempted {platform : Platform} {server after : Server} {action : Action} {result : Result}
    {sent : List Write} {items : List Item} (h : Performed platform server action result after sent items) :
    Attempted platform server action after sent items ∧ ∀ item ∈ items, item.settled := by
  cases h with
  | noop hobject hhash => exact ⟨.unchanged, by simp⟩
  | create hlookup habsent hreadable _ =>
    refine ⟨.effective (.create hlookup habsent (.inr ⟨rfl, ?_⟩)), by simp [Item.settled]⟩
    exact ne_empty_of_readable hreadable
  | update hobject hhash _ _ => exact ⟨.effective (.update hobject hhash), by simp [Item.settled]⟩

section Actions

variable {environment : Environment} {manifest : Manifest} {server : Server} {writes : List Write}
  {prepared : Option Prepared} {journal : List Item} {resource : Resource} {id operation_id : String}
  {desired : Fields}

/-- The state in which an action stopped. -/
def Stopped (platform : Platform) (server : Server) (writes : List Write) (prepared : Option Prepared)
    (journal : List Item) (action : Action) (s : State) : Prop :=
  ∃ after sent items, Attempted platform server action after sent items ∧
    At after (writes ++ sent) prepared (journal ++ items) s

theorem Stopped.unchanged {platform : Platform} {action : Action} {s : State}
    (h : At server writes prepared journal s) :
    Stopped platform server writes prepared journal action s :=
  ⟨server, [], [], .unchanged, by rwa [List.append_nil, List.append_nil]⟩

theorem read_back_eq_ok {exception : Raised} {current : Fields} {hash : String} :
    server.answers (read_back environment resource id exception) = .ok (current, hash) ↔
      readable id ∧ server.object resource id = some current ∧
        _state_hash environment.platform resource current = .ok hash := by
  simp only [Server.answers, read_back, Query.answer_bind, bind_eq_ok_iff]
  constructor
  · rintro ⟨found, hget, hrest⟩
    obtain ⟨hreadable, rfl⟩ := get_by_id_eq_ok.mp hget
    cases hobject : server.object resource id with
    | none =>
      rw [hobject] at hrest
      cases hrest
    | some found =>
      rw [hobject] at hrest
      simp only [Query.answer_bind, Query.answer_lift, Query.answer_pure, bind_eq_ok_iff, Except.ok.injEq,
        Prod.mk.injEq] at hrest
      obtain ⟨_, hhash, rfl, rfl⟩ := hrest
      exact ⟨hreadable, rfl, hhash⟩
  · rintro ⟨hreadable, hobject, hhash⟩
    refine ⟨_, get_by_id_eq_ok.mpr ⟨hreadable, rfl⟩, ?_⟩
    rw [hobject]
    simp only [Query.answer_bind, Query.answer_lift, Query.answer_pure, bind_eq_ok_iff, Except.ok.injEq]
    exact ⟨hash, hhash, rfl⟩

theorem check_unchanged_eq_ok {pre_hash : String} :
    server.answers (check_unchanged environment resource id pre_hash) = .ok () ↔
      readable id ∧ ∃ current, server.object resource id = some current ∧
        _state_hash environment.platform resource current = .ok pre_hash := by
  simp only [Server.answers, check_unchanged, Query.answer_bind, bind_eq_ok_iff]
  constructor
  · rintro ⟨found, hget, hrest⟩
    obtain ⟨hreadable, rfl⟩ := get_by_id_eq_ok.mp hget
    cases hobject : server.object resource id with
    | none =>
      rw [hobject] at hrest
      cases hrest
    | some found =>
      rw [hobject] at hrest
      simp only [Query.answer_bind, Query.answer_lift, bind_eq_ok_iff, raise_if_eq_ok,
        decide_eq_false_iff_not, not_not] at hrest
      obtain ⟨_, hhash, rfl⟩ := hrest
      exact ⟨hreadable, _, rfl, hhash⟩
  · rintro ⟨hreadable, current, hobject, hhash⟩
    refine ⟨_, get_by_id_eq_ok.mpr ⟨hreadable, rfl⟩, ?_⟩
    rw [hobject]
    simp only [Query.answer_bind, Query.answer_lift, bind_eq_ok_iff, raise_if_eq_ok,
      decide_eq_false_iff_not, not_not]
    exact ⟨pre_hash, hhash, rfl⟩

/-- What is recovered after a creation is the object that was created. -/
theorem recover_created {recovered : String × String}
    (hrecover : (server.store resource id (_body resource desired)).answers
      (recover environment manifest resource desired) = .ok (some recovered)) :
    some recovered.1 = some id ∧ id ≠ "" := by
  simp only [Server.answers, recover, Query.answer_bind, bind_eq_ok_iff] at hrecover
  obtain ⟨found, hlookup, hrest⟩ := hrecover
  have hfound := lookup_created hlookup
  subst hfound
  simp only at hrest
  split at hrest
  · simp only [Query.answer_bind, Query.answer_lift, bind_eq_ok_iff] at hrest
    obtain ⟨same, _, hrest⟩ := hrest
    split at hrest
    · simp only [Query.answer_bind, Query.answer_lift, Query.answer_pure, bind_eq_ok_iff, Except.ok.injEq,
        Option.some.injEq] at hrest
      obtain ⟨_, _, rfl⟩ := hrest
      have hobject : (server.store resource id (_body resource desired)).object resource id =
          some (stored_as resource id desired) := by
        rw [Server.object_store, if_pos ⟨rfl, rfl⟩, stored_as]
      have hid := Server.id_of_eq hobject
      exact ⟨congrArg some hid, ne_empty_of_readable (hid ▸ readable_of_lookup hlookup)⟩
    · cases hrest
  · cases hrest

theorem location_id_eq_ok {location : Option String} {resource_id fresh_id : String}
    (hlocation : location = none ∨ location = some fresh_id)
    (hid : _location_id location = .ok resource_id) : resource_id = fresh_id ∧ resource_id ≠ "" := by
  obtain rfl | rfl := hlocation
  · cases hid
  · simp only [_location_id, raise_if_bind_eq_ok_iff, pure_eq_ok_iff, Bool.not_eq_false'] at hid
    obtain ⟨hsafe, rfl⟩ := hid
    refine ⟨rfl, ?_⟩
    rintro rfl
    exact absurd hsafe (by decide)

theorem apply_create_triple :
    Triple (At server writes prepared journal)
      (apply_create environment manifest operation_id resource desired)
      (fun result s => ∃ after sent items, Performed environment.platform server
          ⟨operation_id, resource, desired, .create⟩ result after sent items ∧
        At after (writes ++ sent) prepared (journal ++ items) s)
      (fun _ => Stopped environment.platform server writes prepared journal
        ⟨operation_id, resource, desired, .create⟩) := by
  unfold apply_create
  refine ask_bind (fun _ _ hs => .unchanged hs) fun found hlookup => ?_
  refine Triple.lift_bind (fun _ _ hs => .unchanged hs) fun _ hnone => ?_
  rw [raise_if_eq_ok, Option.isSome_eq_false_iff, Option.isNone_iff_eq_none] at hnone
  subst hnone
  have hidle : Idle environment.platform server ⟨operation_id, resource, desired, .create⟩
      (.create operation_id resource none desired none) := .create hlookup
  refine enter_bind (request_bind (fun _ s hs => ⟨_, _, _, .idle hidle (.inl rfl), ?_⟩)
    (fun _ s hs => ⟨_, _, _, .idle hidle (.inr rfl), hs⟩) (fun _ s id after haccept hs => ?_)
    fun location id after haccept hlocation => ?_)
  · rwa [List.append_nil]
  all_goals
    simp only [Server.accept, Option.ite_none_left_eq_some, Option.not_isSome_iff_eq_none,
      Option.some.injEq] at haccept
    obtain ⟨habsent, rfl⟩ := haccept
  · exact ⟨_, _, _, .effective (.create hlookup habsent (.inl rfl)), hs⟩
  -- from here on the object exists under `id`
  have hstop (resource_id post_hash : Option String)
      (hid : resource_id = none ∨ resource_id = some id ∧ id ≠ "")
      (s : State) (hs : At (server.store resource id (_body resource desired))
        (writes ++ [.post resource (_body resource desired)]) prepared
        (journal ++ [.create operation_id resource resource_id desired post_hash]) s) :
      Stopped environment.platform server writes prepared journal
        ⟨operation_id, resource, desired, .create⟩ s :=
    ⟨_, _, _, .effective (.create hlookup habsent hid), hs⟩
  cases hid : _location_id location with
  | error exception =>
    refine ask_bind (fun _ s hs => hstop _ _ (.inl rfl) s hs) fun recovered hrecover => ?_
    cases recovered with
    | none => exact Triple.raise fun s hs => hstop _ _ (.inl rfl) s hs
    | some recovered =>
      exact amend_bind (Triple.raise fun s hs => hstop _ _ (.inr (recover_created hrecover)) s hs)
  | ok resource_id =>
    obtain ⟨rfl, hne⟩ := location_id_eq_ok hlocation hid
    have hstop (post_hash : Option String) := hstop (some resource_id) post_hash (.inr ⟨rfl, hne⟩)
    refine amend_bind (ask_bind (fun _ s hs => hstop _ s hs) fun back hback => ?_)
    obtain ⟨current, post_hash⟩ := back
    obtain ⟨hreadable, hcurrent, -⟩ := read_back_eq_ok.mp hback
    rw [Server.object_store, if_pos ⟨rfl, rfl⟩] at hcurrent
    obtain rfl := Option.some.inj hcurrent
    refine amend_bind (Triple.lift_bind (fun _ s hs => hstop _ s hs) fun same halike => ?_)
    refine Triple.lift_bind (fun _ s hs => hstop _ s hs) fun _ hsame => ?_
    rw [raise_if_eq_ok, Bool.not_eq_false'] at hsame
    subst hsame
    exact Triple.pure fun s hs => ⟨_, _, _, .create hlookup habsent hreadable halike, hs⟩

theorem apply_update_triple {snapshot : Fields} {pre_hash : String} :
    Triple (At server writes prepared journal)
      (apply_update environment operation_id resource desired id snapshot pre_hash)
      (fun result s => ∃ after sent items, Performed environment.platform server
          ⟨operation_id, resource, desired, .update id snapshot pre_hash⟩ result after sent items ∧
        At after (writes ++ sent) prepared (journal ++ items) s)
      (fun _ => Stopped environment.platform server writes prepared journal
        ⟨operation_id, resource, desired, .update id snapshot pre_hash⟩) := by
  unfold apply_update
  refine ask_bind (fun _ _ hs => .unchanged hs) fun _ hcheck => ?_
  obtain ⟨-, before, hobject, hhash⟩ := check_unchanged_eq_ok.mp hcheck
  have hidle : Idle environment.platform server ⟨operation_id, resource, desired, .update id snapshot pre_hash⟩
      (.update operation_id resource id snapshot pre_hash none) := .update hobject hhash
  refine enter_bind (request_bind (fun _ s hs => ⟨_, _, _, .idle hidle (.inl rfl), ?_⟩)
    (fun _ s hs => ⟨_, _, _, .idle hidle (.inr rfl), hs⟩) (fun _ s _ after haccept hs => ?_)
    fun location _ after haccept _ => ?_)
  · rwa [List.append_nil]
  all_goals
    simp only [Server.accept, hobject, Option.isSome_some, if_true, Option.some.injEq] at haccept
    subst haccept
  · exact ⟨_, _, _, .effective (.update hobject hhash), hs⟩
  have hstop (post_hash : Option String) (s : State)
      (hs : At (server.store resource id (_body resource (assoc.set "id" (.str id) desired)))
        (writes ++ [.put resource id (_body resource (assoc.set "id" (.str id) desired))]) prepared
        (journal ++ [.update operation_id resource id snapshot pre_hash post_hash]) s) :
      Stopped environment.platform server writes prepared journal
        ⟨operation_id, resource, desired, .update id snapshot pre_hash⟩ s :=
    ⟨_, _, _, .effective (.update hobject hhash), hs⟩
  refine ask_bind (fun _ s hs => hstop _ s hs) fun back hback => ?_
  obtain ⟨current, post_hash⟩ := back
  obtain ⟨hreadable, hcurrent, -⟩ := read_back_eq_ok.mp hback
  rw [Server.object_store, if_pos ⟨rfl, rfl⟩] at hcurrent
  obtain rfl := Option.some.inj hcurrent
  refine amend_bind (Triple.lift_bind (fun _ s hs => hstop _ s hs) fun same halike => ?_)
  refine Triple.lift_bind (fun _ s hs => hstop _ s hs) fun _ hsame => ?_
  rw [raise_if_eq_ok, Bool.not_eq_false'] at hsame
  subst hsame
  exact Triple.pure fun s hs => ⟨_, _, _, .update hobject hhash hreadable halike, hs⟩

/-- Every action either performs what it is for or stops on its way. -/
theorem apply_action_triple (action : Action) :
    Triple (At server writes prepared journal) (_apply_action environment manifest action)
      (fun result s => ∃ after sent items,
        Performed environment.platform server action result after sent items ∧
        At after (writes ++ sent) prepared (journal ++ items) s)
      (fun _ => Stopped environment.platform server writes prepared journal action) := by
  obtain ⟨operation_id, resource, desired, kind⟩ := action
  cases kind with
  | create => exact apply_create_triple
  | update id snapshot pre_hash => exact apply_update_triple
  | deferred lookup => exact Triple.raise fun _ hs => .unchanged hs
  | noop id snapshot pre_hash =>
    refine ask_bind (fun _ _ hs => .unchanged hs) fun _ hcheck => ?_
    obtain ⟨-, current, hobject, hhash⟩ := check_unchanged_eq_ok.mp hcheck
    refine Triple.pure fun s hs => ⟨server, [], [], .noop hobject hhash, ?_⟩
    rwa [List.append_nil, List.append_nil]

end Actions

/-! ## What undoing an entry does -/

/-- What undoing an entry did once it returns. -/
inductive Undid (platform : Platform) (manifest : Manifest) (server : Server) :
    Item → Server → List Write → Prop where
  | already_absent {operation_id : String} {resource : Resource} {resource_id post_hash : Option String}
    {desired : Fields} (habsent : server.answers (created_object resource resource_id desired) = .ok none) :
    Undid platform manifest server (.create operation_id resource resource_id desired post_hash) server []
  | deleted {operation_id id : String} {resource : Resource} {resource_id post_hash : Option String}
    {desired current : Fields}
    (hcreated : server.answers (created_object resource resource_id desired) = .ok (some current))
    (hobject : server.object resource id = some current) (howned : _owned manifest current) :
    Undid platform manifest server (.create operation_id resource resource_id desired post_hash)
      (server.remove resource id) [.delete resource id]
  | already_restored {operation_id id pre_hash : String} {resource : Resource} {post_hash : Option String}
    {snapshot current : Fields} (hobject : server.object resource id = some current)
    (hhash : _state_hash platform resource current = .ok pre_hash) :
    Undid platform manifest server (.update operation_id resource id snapshot pre_hash post_hash) server []
  | restored {operation_id id pre_hash current_hash : String} {resource : Resource}
    {snapshot current : Fields} (hobject : server.object resource id = some current)
    (hcurrent : _state_hash platform resource current = .ok current_hash) (hne : current_hash ≠ pre_hash)
    (hrestored : _state_hash platform resource (stored_as resource id snapshot) = .ok pre_hash) :
    Undid platform manifest server (.update operation_id resource id snapshot pre_hash (some current_hash))
      (server.store resource id (_body resource snapshot)) [.put resource id (_body resource snapshot)]

/-- What undoing an entry leaves behind wherever it stops. -/
inductive Halted (manifest : Manifest) (server : Server) : Item → Server → List Write → Prop where
  | unchanged {item : Item} : Halted manifest server item server []
  | delete {operation_id id : String} {resource : Resource} {resource_id post_hash : Option String}
    {desired current : Fields} {after : Server} (hobject : server.object resource id = some current)
    (howned : _owned manifest current) (hafter : after = server ∨ after = server.remove resource id) :
    Halted manifest server (.create operation_id resource resource_id desired post_hash) after
      [.delete resource id]
  | put {operation_id id pre_hash : String} {resource : Resource} {post_hash : Option String}
    {snapshot : Fields} {after : Server}
    (hafter : after = server ∨ after = server.store resource id (_body resource snapshot)) :
    Halted manifest server (.update operation_id resource id snapshot pre_hash post_hash) after
      [.put resource id (_body resource snapshot)]

theorem Undid.halted {platform : Platform} {manifest : Manifest} {server after : Server} {item : Item}
    {sent : List Write} (h : Undid platform manifest server item after sent) :
    Halted manifest server item after sent := by
  cases h with
  | already_absent _ => exact .unchanged
  | deleted _ hobject howned => exact .delete hobject howned (.inr rfl)
  | already_restored _ _ => exact .unchanged
  | restored _ _ _ _ => exact .put (.inr rfl)

section Undo

variable {environment : Environment} {manifest : Manifest} {server : Server} {writes : List Write}
  {prepared : Option Prepared} {journal : List Item} {resource : Resource} {id operation_id : String}
  {desired : Fields}

/-- The object of an entry is one that the server keeps. -/
theorem object_of_created {resource_id : Option String} {current : Fields}
    (hcreated : server.answers (created_object resource resource_id desired) = .ok (some current)) :
    server.object resource (id_of current) = some current := by
  rw [created_object] at hcreated
  cases hid : resource_id.filter (· ≠ "") with
  | none =>
    rw [hid] at hcreated
    obtain ⟨id, hobject, -⟩ := target_of_some hcreated
    rw [Server.id_of_eq hobject, hobject]
  | some id =>
    rw [hid] at hcreated
    have hobject := (get_by_id_eq_ok.mp hcreated).2.symm
    rw [Server.id_of_eq hobject, hobject]

/-- The state in which undoing an entry stopped. -/
def Left (manifest : Manifest) (server : Server) (writes : List Write) (prepared : Option Prepared)
    (journal : List Item) (item : Item) (s : State) : Prop :=
  ∃ after sent, Halted manifest server item after sent ∧ At after (writes ++ sent) prepared journal s

theorem Left.unchanged {item : Item} {s : State} (h : At server writes prepared journal s) :
    Left manifest server writes prepared journal item s :=
  ⟨server, [], .unchanged, by rwa [List.append_nil]⟩

theorem undo_create_triple {resource_id post_hash : Option String} :
    Triple (At server writes prepared journal)
      (undo_create environment manifest operation_id resource resource_id desired post_hash)
      (fun _ s => ∃ after sent, Undid environment.platform manifest server
          (.create operation_id resource resource_id desired post_hash) after sent ∧
        At after (writes ++ sent) prepared journal s)
      (fun _ => Left manifest server writes prepared journal
        (.create operation_id resource resource_id desired post_hash)) := by
  unfold undo_create
  refine ask_bind (fun _ _ hs => .unchanged hs) fun found hfound => ?_
  cases found with
  | none =>
    refine Triple.pure fun s hs => ⟨server, [], .already_absent hfound, ?_⟩
    rwa [List.append_nil]
  | some current =>
    refine Triple.lift_bind (fun _ _ hs => .unchanged hs) fun _ hcheck => ?_
    have hobject := object_of_created hfound
    have howned : _owned manifest current := by
      unfold check_created at hcheck
      split at hcheck
      · simp only [bind_eq_ok_iff, raise_if_eq_ok, Bool.not_eq_false', exists_const] at hcheck
        obtain ⟨_, _, _, howned, _⟩ := hcheck
        exact howned
      · simp only [raise_if_bind_eq_ok_iff, Bool.not_eq_false'] at hcheck
        exact hcheck.1
    refine request_bind (fun _ _ hs => .unchanged hs)
      (fun _ s hs => ⟨_, _, .delete hobject howned (.inl rfl), hs⟩)
      (fun _ s _ after haccept hs => ⟨_, _, .delete hobject howned (.inr ?_), hs⟩)
      fun location _ after haccept _ => ?_
    · exact (Option.some.inj haccept).symm
    obtain rfl := Option.some.inj haccept
    have hstop (s : State) (hs : At (server.remove resource (id_of current))
        (writes ++ [.delete resource (id_of current)]) prepared journal s) :
        Left manifest server writes prepared journal
          (.create operation_id resource resource_id desired post_hash) s :=
      ⟨_, _, .delete hobject howned (.inr rfl), hs⟩
    refine ask_bind (fun _ s hs => hstop s hs) fun left _ => ?_
    refine Triple.lift_bind (fun _ s hs => hstop s hs) fun _ _ => ?_
    exact Triple.pure fun s hs => ⟨_, _, .deleted hfound hobject howned, hs⟩

theorem undo_update_triple {snapshot : Fields} {pre_hash : String} {post_hash : Option String} :
    Triple (At server writes prepared journal)
      (undo_update environment operation_id resource id snapshot pre_hash post_hash)
      (fun _ s => ∃ after sent, Undid environment.platform manifest server
          (.update operation_id resource id snapshot pre_hash post_hash) after sent ∧
        At after (writes ++ sent) prepared journal s)
      (fun _ => Left manifest server writes prepared journal
        (.update operation_id resource id snapshot pre_hash post_hash)) := by
  unfold undo_update
  refine ask_bind (fun _ _ hs => .unchanged hs) fun back hback => ?_
  obtain ⟨current, current_hash⟩ := back
  obtain ⟨-, hobject, hcurrent⟩ := read_back_eq_ok.mp hback
  refine Triple.ite (fun heq => ?_) fun hne => ?_
  · refine Triple.pure fun s hs => ⟨server, [], .already_restored hobject (heq ▸ hcurrent), ?_⟩
    rwa [List.append_nil]
  · refine Triple.lift_bind (fun _ _ hs => .unchanged hs) fun _ hcheck => ?_
    have hpost : post_hash = some current_hash := by
      rw [check_updated, raise_if_eq_ok, decide_eq_false_iff_not, not_not, Option.filter_eq_some_iff] at hcheck
      exact hcheck.1
    subst hpost
    refine request_bind (fun _ _ hs => .unchanged hs)
      (fun _ s hs => ⟨_, _, .put (.inl rfl), hs⟩)
      (fun _ s _ after haccept hs => ⟨_, _, .put (.inr ?_), hs⟩)
      fun location _ after haccept _ => ?_
    all_goals
      simp only [Server.accept, hobject, Option.isSome_some, if_true, Option.some.injEq] at haccept
    · exact haccept.symm
    subst haccept
    have hstop (s : State) (hs : At (server.store resource id (_body resource snapshot))
        (writes ++ [.put resource id (_body resource snapshot)]) prepared journal s) :
        Left manifest server writes prepared journal
          (.update operation_id resource id snapshot pre_hash (some current_hash)) s :=
      ⟨_, _, .put (.inr rfl), hs⟩
    refine ask_bind (fun _ s hs => hstop s hs) fun back hback => ?_
    obtain ⟨restored, restored_hash⟩ := back
    obtain ⟨-, hrestored, hhash⟩ := read_back_eq_ok.mp hback
    rw [Server.object_store, if_pos ⟨rfl, rfl⟩] at hrestored
    obtain rfl := Option.some.inj hrestored
    refine Triple.lift_bind (fun _ s hs => hstop s hs) fun _ hsame => ?_
    rw [raise_if_eq_ok, decide_eq_false_iff_not, not_not] at hsame
    subst hsame
    exact Triple.pure fun s hs => ⟨_, _, .restored hobject hcurrent hne hhash, hs⟩

/-- Every entry is either undone or left on its way. -/
theorem undo_triple (item : Item) :
    Triple (At server writes prepared journal) (undo environment manifest item)
      (fun _ s => ∃ after sent, Undid environment.platform manifest server item after sent ∧
        At after (writes ++ sent) prepared journal s)
      (fun _ => Left manifest server writes prepared journal item) := by
  cases item with
  | create operation_id resource resource_id desired post_hash => exact undo_create_triple
  | update operation_id resource id snapshot pre_hash post_hash => exact undo_update_triple

end Undo

end orchestrator.ise
