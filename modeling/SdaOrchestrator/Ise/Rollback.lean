import SdaOrchestrator.Ise.Lab
import SdaOrchestrator.Ise.Prepared

open python effects Program

namespace orchestrator.ise

open orchestrator.store (Platform cpython)

/-! ## Objects that are the same for a transaction -/

/-- Both objects are missing, or they agree on the mutable fields of their kind. -/
def Same (resource : Resource) : Option Fields → Option Fields → Prop :=
  Option.Rel fun fields other =>
    ∀ key ∈ resource.mutable_keys, assoc.lookup key fields = assoc.lookup key other

/-- Both objects are missing, or they have one state hash. -/
def SameHash (platform : Platform) (resource : Resource) : Option Fields → Option Fields → Prop :=
  Option.Rel fun fields other => _state_hash platform resource fields = _state_hash platform resource other

/-- A state that stood at the server in the run, or that was sent to it. -/
def Stood (first : Server) (writes : List Write) (resource : Resource) (fields : Fields) : Prop :=
  (∃ id, first.object resource id = some fields) ∨ .post resource fields ∈ writes ∨
    ∃ id, .put resource id fields ∈ writes

/-- The state hash tells the states of the run apart. -/
def Separates (platform : Platform) (first : Server) (writes : List Write) : Prop :=
  ∀ resource fields other, Stood first writes resource fields → Stood first writes resource other →
    ∀ value another, _comparable resource fields = .ok value → _comparable resource other = .ok another →
      platform.sha256_json value = platform.sha256_json another → value.equals another

section Relations

variable {platform : Platform} {first : Server} {writes sent : List Write} {resource : Resource}
  {fields : Fields}

theorem SameHash.refl (object : Option Fields) : SameHash platform resource object object := by
  cases object with
  | none => exact .none
  | some fields => exact .some rfl

theorem Same.refl (object : Option Fields) : Same resource object object := by
  cases object with
  | none => exact .none
  | some fields => exact .some fun _ _ => rfl

theorem Stood.append (hstood : Stood first writes resource fields) :
    Stood first (writes ++ sent) resource fields := by
  obtain hinitial | hpost | ⟨id, hput⟩ := hstood
  · exact .inl hinitial
  · exact .inr (.inl (List.mem_append_left _ hpost))
  · exact .inr (.inr ⟨id, List.mem_append_left _ hput⟩)

theorem Separates.of_append (hseparates : Separates platform first (writes ++ sent)) :
    Separates platform first writes :=
  fun resource fields other hfields hother => hseparates resource fields other hfields.append hother.append

end Relations

/-! ## The entries of a transaction -/

/-- An action that changes an object knows the state in which the transaction found it. -/
def Fits (platform : Platform) (first server : Server) (keys : List (Resource × String))
    (writes : List Write) (action : Action) : Prop :=
  ∀ id snapshot pre_hash, action.kind = .update id snapshot pre_hash →
    ∃ existing, (∃ fields, Stood first writes action.resource fields ∧
        _comparable action.resource existing = _comparable action.resource fields) ∧
      _state_hash platform action.resource existing = .ok pre_hash ∧
      alike action.resource existing action.desired = .ok false ∧
      snapshot = _mutable action.resource existing ∧
      ((action.resource, id) ∉ keys → server.object action.resource id = some existing)

/-- The journal, the objects and requests behind it, and the server that they led to. -/
inductive Chain (platform : Platform) (first : Server) :
    List Item → List (Resource × String) → List Write → Server → Prop where
  | nil : Chain platform first [] [] [] first
  | idle {items : List Item} {keys : List (Resource × String)} {writes sent : List Write} {server : Server}
    {action : Action} {item : Item} (h : Chain platform first items keys writes server)
    (hidle : Idle platform server action item) :
    Chain platform first (items ++ [item]) keys (writes ++ sent) server
  | effective {items : List Item} {keys : List (Resource × String)} {writes : List Write}
    {server after : Server} {action : Action} {item : Item} {id : String}
    (h : Chain platform first items keys writes server)
    (hfits : Fits platform first server keys writes action)
    (heffect : Effective platform server action item id after) :
    Chain platform first (items ++ [item]) (keys ++ [(action.resource, id)]) (writes ++ [action.request]) after

section Chain

variable {platform : Platform} {first server after : Server} {items : List Item}
  {keys : List (Resource × String)} {writes sent : List Write} {action : Action} {item : Item}
  {id : String} {resource : Resource} {fields : Fields}

theorem Effective.object_eq (heffect : Effective platform server action item id after)
    {other : Resource} {key : String} (hne : (other, key) ≠ (action.resource, id)) :
    after.object other key = server.object other key := by
  cases heffect with
  | create _ _ _ => rw [Server.object_store, if_neg fun h => hne (Prod.ext h.1 h.2)]
  | update _ _ => rw [Server.object_store, if_neg fun h => hne (Prod.ext h.1 h.2)]

/-- What an entry left at the server compares as what its request sent and as the
desired object. -/
theorem Effective.left (heffect : Effective platform server action item id after) :
    ∃ body sent, after.object action.resource id = some body ∧
      (action.request = .post action.resource sent ∨ action.request = .put action.resource id sent) ∧
      _comparable action.resource body = _comparable action.resource sent ∧
      _comparable action.resource body = _comparable action.resource action.desired := by
  cases heffect with
  | @create _ _ resource desired =>
    refine ⟨stored_as resource id desired, _body resource desired, ?_, .inl rfl, ?_, comparable_stored_as⟩
    · rw [Server.object_store, if_pos ⟨rfl, rfl⟩, stored_as]
    · rw [comparable_stored_as, comparable_body]
  | @update _ _ _ resource desired =>
    refine ⟨stored_as resource id (assoc.set "id" (.str id) desired), _, ?_, .inr rfl, ?_, ?_⟩
    · rw [Server.object_store, if_pos ⟨rfl, rfl⟩, stored_as]
    · rw [comparable_stored_as, comparable_body]
    · rw [comparable_stored_as, comparable_set_id]

/-- Objects that no entry touched are as the transaction found them. -/
theorem Chain.object_eq (h : Chain platform first items keys writes server)
    (hkey : (resource, id) ∉ keys) : server.object resource id = first.object resource id := by
  induction h with
  | nil => rfl
  | idle _ _ ih => exact ih hkey
  | effective _ _ heffect ih =>
    rw [List.mem_append, List.mem_singleton, not_or] at hkey
    rw [heffect.object_eq hkey.2, ih hkey.1]

/-- Every object at the server compares as one that stood there or was sent. -/
theorem Chain.stood (h : Chain platform first items keys writes server)
    (hobject : server.object resource id = some fields) :
    ∃ other, Stood first writes resource other ∧ _comparable resource fields = _comparable resource other := by
  induction h generalizing resource id fields with
  | nil => exact ⟨fields, .inl ⟨id, hobject⟩, rfl⟩
  | idle _ _ ih =>
    obtain ⟨other, hother, heq⟩ := ih hobject
    exact ⟨other, hother.append, heq⟩
  | @effective items keys writes server after action item key _ _ heffect ih =>
    by_cases hkey : (resource, id) = (action.resource, key)
    · obtain ⟨rfl, rfl⟩ := Prod.mk.inj hkey
      obtain ⟨body, other, hbody, hrequest, heq, -⟩ := heffect.left
      rw [hbody] at hobject
      obtain rfl := Option.some.inj hobject
      refine ⟨other, .inr ?_, heq⟩
      obtain hpost | hput := hrequest
      · exact .inl (List.mem_append_right _ (List.mem_singleton.mpr hpost.symm))
      · exact .inr ⟨id, List.mem_append_right _ (List.mem_singleton.mpr hput.symm)⟩
    · rw [heffect.object_eq hkey] at hobject
      obtain ⟨other, hother, heq⟩ := ih hobject
      exact ⟨other, hother.append, heq⟩

/-- An object that an entry touched was not there before, or it was sent under its
identifier. -/
theorem Chain.put_of_mem (h : Chain platform first items keys writes server)
    (hkey : (resource, id) ∈ keys) :
    first.object resource id = none ∨ ∃ body, .put resource id body ∈ writes := by
  induction h with
  | nil => cases hkey
  | idle _ _ ih =>
    obtain hnone | ⟨body, hbody⟩ := ih hkey
    · exact .inl hnone
    · exact .inr ⟨body, List.mem_append_left _ hbody⟩
  | @effective items keys writes server after action item key h _ heffect ih =>
    by_cases hmem : (resource, id) ∈ keys
    · obtain hnone | ⟨body, hbody⟩ := ih hmem
      · exact .inl hnone
      · exact .inr ⟨body, List.mem_append_left _ hbody⟩
    · rw [List.mem_append, List.mem_singleton] at hkey
      obtain ⟨rfl, rfl⟩ := Prod.mk.inj (hkey.resolve_left hmem)
      cases heffect with
      | create _ habsent _ => exact .inl (h.object_eq hmem ▸ habsent)
      | update _ _ => exact .inr ⟨_, List.mem_append_right _ (List.mem_singleton_self _)⟩

/-- An update changes the state hash of its object. -/
theorem Fits.hash_ne (hfits : Fits platform first server keys writes action)
    (heffect : Effective platform server action item id after)
    (hseparates : Separates platform first (writes ++ [action.request])) {snapshot : Fields}
    {pre_hash : String} (hkind : action.kind = .update id snapshot pre_hash) {body : Fields}
    (hbody : after.object action.resource id = some body) :
    _state_hash platform action.resource body ≠ .ok pre_hash := by
  intro hhash
  obtain ⟨existing, ⟨fields, hstood, hfields⟩, hpre, halike, -, -⟩ := hfits id snapshot pre_hash hkind
  obtain ⟨found, sent, hfound, hrequest, hsent, hdesired⟩ := heffect.left
  obtain rfl := Option.some.inj (hfound.symm.trans hbody)
  have hstood' : Stood first (writes ++ [action.request]) action.resource sent := by
    obtain hpost | hput := hrequest
    · exact .inr (.inl (List.mem_append_right _ (List.mem_singleton.mpr hpost.symm)))
    · exact .inr (.inr ⟨id, List.mem_append_right _ (List.mem_singleton.mpr hput.symm)⟩)
  simp only [_state_hash, alike, bind_eq_ok_iff, pure_eq_ok_iff] at hpre hhash halike
  obtain ⟨value, hvalue, rfl⟩ := hpre
  obtain ⟨another, hanother, hsame⟩ := hhash
  obtain ⟨_, hvalue', _, hanother', hne⟩ := halike
  obtain rfl := Except.ok.inj (hvalue.symm.trans hvalue')
  obtain rfl := Except.ok.inj ((hdesired ▸ hanother).symm.trans hanother')
  have hequal := hseparates action.resource fields sent hstood.append hstood' value another
    (hfields ▸ hvalue) (hsent ▸ hanother) hsame.symm
  rw [hequal] at hne
  cases hne

theorem Chain.concat (h : Chain platform first (items ++ [item]) keys writes after) :
    (∃ earlier sent action, Chain platform first items keys earlier after ∧
      Idle platform after action item ∧ writes = earlier ++ sent) ∨
    ∃ others earlier server action id, Chain platform first items others earlier server ∧
      Fits platform first server others earlier action ∧ Effective platform server action item id after ∧
      keys = others ++ [(action.resource, id)] ∧ writes = earlier ++ [action.request] := by
  generalize hitems : items ++ [item] = entered at h
  cases h with
  | nil => exact absurd hitems (List.append_ne_nil_of_right_ne_nil _ (List.cons_ne_nil _ _))
  | @idle others _ _ _ _ _ _ hchain hidle =>
    obtain ⟨rfl, hitem⟩ := List.append_inj' hitems rfl
    obtain rfl := List.singleton_inj.mp hitem
    exact .inl ⟨_, _, _, hchain, hidle, rfl⟩
  | effective hchain hfits heffect =>
    obtain ⟨rfl, hitem⟩ := List.append_inj' hitems rfl
    obtain rfl := List.singleton_inj.mp hitem
    exact .inr ⟨_, _, _, _, _, hchain, hfits, heffect, rfl, rfl⟩

end Chain

/-! ## Undoing the entries from the last to the first -/

/-- The server once all but the first entries are undone. It agrees in its hashes with
the server that these led to; the objects that they did not touch are restored, and those
that no entry touched are untouched. -/
structure Unwound (platform : Platform) (first : Server) (touched : List (Resource × String))
    (items : List Item) (keys : List (Resource × String)) (writes : List Write)
    (before server : Server) : Prop where
  chain : Chain platform first items keys writes before
  separates : Separates platform first writes
  exact : before = server ∨ ∀ item ∈ items, item.settled
  same_hash : ∀ resource id, SameHash platform resource (before.object resource id) (server.object resource id)
  restored : ∀ resource id, (resource, id) ∉ keys →
    Same resource (first.object resource id) (server.object resource id)
  untouched : ∀ resource id, (resource, id) ∉ touched →
    server.object resource id = first.object resource id
  known : ∀ key ∈ keys, key ∈ touched

section Unwound

variable {platform : Platform} {manifest : Manifest} {first before server after : Server}
  {touched keys : List (Resource × String)} {items : List Item} {item : Item}
  {writes earlier sent : List Write} {action : Action} {id : String}

/-- An entry whose request had no effect is undone without a request. -/
theorem Unwound.undo_idle (h : Unwound platform first touched (items ++ [item]) keys writes before server)
    (hsettled : ∀ item ∈ items, item.settled) (hchain : Chain platform first items keys earlier before)
    (hidle : Idle platform before action item) (hwrites : writes = earlier ++ sent)
    {requests : List Write} (hundid : Undid platform manifest server item after requests) :
    Unwound platform first touched items keys earlier before after := by
  -- an idle entry is the last one
  have hexact : before = server := by
    refine h.exact.resolve_right fun hall => ?_
    have hitem := hall item (List.mem_append_right _ (List.mem_singleton_self _))
    cases hidle with
    | create _ => cases hitem
    | update _ _ => cases hitem
  subst hexact
  have hafter : after = before := by
    cases hidle with
    | create hlookup =>
      cases hundid with
      | already_absent _ => rfl
      | deleted hcreated _ _ => cases hlookup.symm.trans hcreated
    | update hobject hhash =>
      cases hundid with
      | already_restored _ _ => rfl
  subst hafter
  exact {
    chain := hchain
    separates := (hwrites ▸ h.separates).of_append
    exact := .inr hsettled
    same_hash := h.same_hash
    restored := h.restored
    untouched := h.untouched
    known := h.known }

/-- A snapshot that is sent back restores its object. -/
theorem same_snapshot {resource : Resource} {existing : Fields}
    (hobject : server.object resource id = some existing) :
    Same resource (some existing) (some (stored_as resource id (_mutable resource existing))) := by
  refine .some fun key hkey => ?_
  by_cases hid : key = "id"
  · rw [hid, server.id_of_object hobject, stored_as, assoc.lookup_set, if_pos rfl]
  · rw [lookup_stored_as hkey hid, lookup_mutable, if_pos hkey]

/-- Undoing an entry is a matter of the one object that it touched. -/
theorem Unwound.of_object {left : Server}
    (h : Unwound platform first touched (items ++ [item]) (keys ++ [(action.resource, id)]) writes left server)
    (hsettled : ∀ item ∈ items, item.settled) (hchain : Chain platform first items keys earlier before)
    (heffect : Effective platform before action item id left) (hwrites : writes = earlier ++ [action.request])
    (hother : ∀ other key, (other, key) ≠ (action.resource, id) →
      after.object other key = server.object other key)
    (hhash : SameHash platform action.resource (before.object action.resource id)
      (after.object action.resource id))
    (hrestored : (action.resource, id) ∉ keys →
      Same action.resource (first.object action.resource id) (after.object action.resource id)) :
    Unwound platform first touched items keys earlier before after where
  chain := hchain
  separates := (hwrites ▸ h.separates).of_append
  exact := .inr hsettled
  same_hash resource key := by
    by_cases hkey : (resource, key) = (action.resource, id)
    · obtain ⟨rfl, rfl⟩ := Prod.mk.inj hkey
      exact hhash
    · rw [hother resource key hkey, ← heffect.object_eq hkey]
      exact h.same_hash resource key
  restored resource key hmem := by
    by_cases hkey : (resource, key) = (action.resource, id)
    · obtain ⟨rfl, rfl⟩ := Prod.mk.inj hkey
      exact hrestored hmem
    · rw [hother resource key hkey]
      refine h.restored resource key fun hkeys => ?_
      obtain hkeys | hkeys := List.mem_append.mp hkeys
      · exact hmem hkeys
      · exact hkey (List.mem_singleton.mp hkeys)
  untouched resource key hmem := by
    have hkey : (resource, key) ≠ (action.resource, id) := fun heq =>
      hmem (heq ▸ h.known _ (List.mem_append_right _ (List.mem_singleton_self _)))
    rw [hother resource key hkey, h.untouched resource key hmem]
  known key hkey := h.known key (List.mem_append_left _ hkey)

theorem Unwound.undo_effective {left : Server}
    (h : Unwound platform first touched (items ++ [item]) (keys ++ [(action.resource, id)]) writes left server)
    (hsettled : ∀ item ∈ items, item.settled) (hchain : Chain platform first items keys earlier before)
    (hfits : Fits platform first before keys earlier action)
    (heffect : Effective platform before action item id left) (hwrites : writes = earlier ++ [action.request])
    {requests : List Write} (hundid : Undid platform manifest server item after requests) :
    Unwound platform first touched items keys earlier before after := by
  have hsame := h.same_hash action.resource id
  have hlast (hunsettled : item.settled = false) : left = server := by
    refine h.exact.resolve_right fun hall => ?_
    have hitem := hall item (List.mem_append_right _ (List.mem_singleton_self _))
    rw [hunsettled] at hitem
    cases hitem
  cases heffect with
  | @create _ _ resource desired resource_id post_hash hlookup habsent hid =>
    have hleft : (before.store resource id (_body resource desired)).object resource id =
        some (stored_as resource id desired) := by
      rw [Server.object_store, if_pos ⟨rfl, rfl⟩, stored_as]
    -- the lookup of the entry leads to the object that it created
    have hcreated {found : Option Fields}
        (hfound : server.answers (created_object resource resource_id desired) = .ok found) :
        found = server.object resource id ∧ found.isSome := by
      obtain rfl | ⟨rfl, hne⟩ := hid
      · obtain rfl := hlast rfl
        rw [lookup_created hfound, hleft]
        exact ⟨rfl, rfl⟩
      · rw [created_object, Option.filter_some, if_pos (decide_eq_true hne)] at hfound
        have heq := (get_by_id_eq_ok.mp hfound).2
        refine ⟨heq, ?_⟩
        rw [hleft] at hsame
        rw [heq]
        cases hobject : server.object resource id with
        | none =>
          rw [hobject] at hsame
          cases hsame
        | some fields => rfl
    cases hundid with
    | already_absent hnone => cases (hcreated hnone).2
    | @deleted _ key _ _ _ _ current hfound hobject _ =>
      have hcurrent := (hcreated hfound).1.symm
      obtain rfl : key = id := (Server.id_of_eq hobject).symm.trans (Server.id_of_eq hcurrent)
      refine h.of_object hsettled hchain (.create hlookup habsent hid) hwrites (fun other key' hne => ?_) ?_
        fun hmem => ?_
      · rw [Server.object_remove, if_neg fun heq => hne (Prod.ext heq.1 heq.2)]
      · rw [habsent, Server.object_remove, if_pos ⟨rfl, rfl⟩]
        exact .none
      · rw [← hchain.object_eq hmem, habsent, Server.object_remove, if_pos ⟨rfl, rfl⟩]
        exact .none
  | @update operation_id _ pre_hash resource desired snapshot found post_hash hobject hhash =>
    have heffect : Effective platform before ⟨operation_id, resource, desired, .update id snapshot pre_hash⟩
        (.update operation_id resource id snapshot pre_hash post_hash) id _ := .update hobject hhash
    cases hundid with
    | already_restored hcurrent hrestored =>
      exfalso
      obtain ⟨body, _, hbody, -⟩ := heffect.left
      rw [hbody, hcurrent] at hsame
      cases hsame with
      | some heq => exact hfits.hash_ne heffect (hwrites ▸ h.separates) rfl hbody (heq.trans hrestored)
    | restored hcurrent _ _ hrestored =>
      refine h.of_object hsettled hchain heffect hwrites (fun other key' hne => ?_) ?_ fun hmem => ?_
      · rw [Server.object_store, if_neg fun heq => hne (Prod.ext heq.1 heq.2)]
      · rw [hobject, Server.object_store, if_pos ⟨rfl, rfl⟩]
        exact .some (hhash.trans hrestored.symm)
      · obtain ⟨existing, -, -, -, hsnapshot, hexisting⟩ := hfits _ _ _ rfl
        have hsnapshot : snapshot = _mutable resource existing := hsnapshot
        have hrestored := same_snapshot (hexisting hmem)
        rw [← hsnapshot] at hrestored
        rw [← hchain.object_eq hmem, hexisting hmem, Server.object_store, if_pos ⟨rfl, rfl⟩]
        exact hrestored

/-- One step of the rollback. -/
theorem Unwound.undo (h : Unwound platform first touched (items ++ [item]) keys writes before server)
    (hsettled : ∀ item ∈ items, item.settled) {requests : List Write}
    (hundid : Undid platform manifest server item after requests) :
    ∃ keys writes before, Unwound platform first touched items keys writes before after := by
  obtain ⟨earlier, sent, action, hchain, hidle, hwrites⟩ |
    ⟨others, earlier, found, action, id, hchain, hfits, heffect, rfl, hwrites⟩ := h.chain.concat
  · exact ⟨_, _, _, h.undo_idle hsettled hchain hidle hwrites hundid⟩
  · exact ⟨_, _, _, h.undo_effective hsettled hchain hfits heffect hwrites hundid⟩

end Unwound

/-! ## The journal of a run of actions -/

section Apply

variable {environment : Environment} {manifest : Manifest} {first server : Server} {writes : List Write}
  {prepared : Option Prepared} {journal items : List Item} {keys : List (Resource × String)}
  {action : Action}

/-- An action that was classified when the transaction began fits wherever it comes. -/
theorem Classified.fits {platform : Platform}
    (hclassified : Classified platform manifest first action.resource action.desired action.kind)
    (hchain : Chain platform first items keys writes server) :
    Fits platform first server keys writes action := by
  intro id snapshot pre_hash hkind
  rw [hkind] at hclassified
  cases hclassified with
  | @update _ _ existing hobject howned hhash halike =>
    exact ⟨existing, ⟨existing, .inl ⟨id, hobject⟩, rfl⟩, hhash, halike, rfl,
      fun hkey => (hchain.object_eq hkey).trans hobject⟩

/-- An action that is classified when its turn comes fits there. -/
theorem Classified.fits_now {platform : Platform}
    (hclassified : Classified platform manifest server action.resource action.desired action.kind)
    (hchain : Chain platform first items keys writes server) :
    Fits platform first server keys writes action := by
  intro id snapshot pre_hash hkind
  rw [hkind] at hclassified
  cases hclassified with
  | @update _ _ existing hobject howned hhash halike =>
    obtain ⟨other, hstood, hsame⟩ := hchain.stood hobject
    exact ⟨existing, ⟨other, hstood, hsame⟩, hhash, halike, rfl, fun _ => hobject⟩

/-- The journal records what was done so far, and it can be undone entry by entry. -/
structure Recorded (platform : Platform) (first : Server) (s : State) : Prop where
  chain : Separates platform first s.writes →
    ∃ keys, Chain platform first s._journal keys s.writes s.server
  settled : ∀ item ∈ s._journal.dropLast, item.settled

/-- The actions so far are done. -/
structure Progress (platform : Platform) (first : Server) (prepared : Option Prepared) (s : State) :
    Prop where
  prepared : s._prepared = prepared
  chain : Separates platform first s.writes →
    ∃ keys, Chain platform first s._journal keys s.writes s.server
  settled : ∀ item ∈ s._journal, item.settled

theorem Progress.recorded {platform : Platform} {s : State} (h : Progress platform first prepared s) :
    Recorded platform first s :=
  ⟨h.chain, fun item hitem => h.settled item (List.mem_of_mem_dropLast hitem)⟩

/-- The chain goes on with whatever an action left behind. -/
theorem Chain.attempted {platform : Platform} {after : Server} {sent : List Write} {entered : List Item}
    (hchain : Chain platform first journal keys writes server)
    (hfits : Fits platform first server keys writes action)
    (hattempted : Attempted platform server action after sent entered) :
    ∃ keys, Chain platform first (journal ++ entered) keys (writes ++ sent) after := by
  cases hattempted with
  | unchanged =>
    rw [List.append_nil, List.append_nil]
    exact ⟨keys, hchain⟩
  | idle hidle _ => exact ⟨keys, hchain.idle hidle⟩
  | effective heffect => exact ⟨_, hchain.effective hfits heffect⟩

theorem apply_action_progress {s₀ : State} (hprogress : Progress environment.platform first prepared s₀)
    (hfits : ∀ keys, Chain environment.platform first s₀._journal keys s₀.writes s₀.server →
      Fits environment.platform first s₀.server keys s₀.writes action) :
    Triple (At s₀.server s₀.writes s₀._prepared s₀._journal) (_apply_action environment manifest action)
      (fun _ => Progress environment.platform first prepared)
      (fun _ => Recorded environment.platform first) := by
  have hchain {after : Server} {sent : List Write} {entered : List Item}
      (hattempted : Attempted environment.platform s₀.server action after sent entered)
      (hseparates : Separates environment.platform first (s₀.writes ++ sent)) :
      ∃ keys, Chain environment.platform first (s₀._journal ++ entered) keys (s₀.writes ++ sent) after := by
    obtain ⟨keys, hchain⟩ := hprogress.chain hseparates.of_append
    exact hchain.attempted (hfits keys hchain) hattempted
  refine (apply_action_triple action).weaken (fun _ hs => hs) (fun result s hs => ?_) fun _ s hs => ?_
  · obtain ⟨after, sent, entered, hperformed, rfl, hwrites, hprepared, hjournal⟩ := hs
    obtain ⟨hattempted, hsettled⟩ := hperformed.attempted
    refine ⟨hprepared.trans hprogress.prepared, fun hseparates => ?_, ?_⟩
    · rw [hwrites] at hseparates ⊢
      rw [hjournal]
      exact hchain hattempted hseparates
    · rw [hjournal, List.forall_mem_append]
      exact ⟨hprogress.settled, hsettled⟩
  · obtain ⟨after, sent, entered, hattempted, hserver, hwrites, hprepared, hjournal⟩ := hs
    refine ⟨fun hseparates => ?_, ?_⟩
    · rw [hwrites] at hseparates ⊢
      rw [hjournal, hserver]
      exact hchain hattempted hseparates
    · rw [hjournal]
      cases hattempted with
      | unchanged =>
        rw [List.append_nil]
        exact hprogress.recorded.settled
      | idle _ _ =>
        rw [List.dropLast_concat]
        exact hprogress.settled
      | effective _ =>
        rw [List.dropLast_concat]
        exact hprogress.settled

theorem apply_cell_progress {document : Value} (hvalid : _validate_manifest document = .ok manifest)
    {applied : List (String × Result)} {s₀ : State}
    (hplanned : Planned environment.platform manifest first action) (hcell : action.resource = .egressmatrixcell)
    (hprogress : Progress environment.platform first prepared s₀) :
    Triple (At s₀.server s₀.writes s₀._prepared s₀._journal) (apply_cell environment manifest applied action)
      (fun _ => Progress environment.platform first prepared)
      (fun _ => Recorded environment.platform first) := by
  have hclassified (hkind : ∀ lookup, action.kind ≠ .deferred lookup) :
      Classified environment.platform manifest first action.resource action.desired action.kind :=
    hplanned.kind.resolve_right fun ⟨_, lookup, hdeferred⟩ => hkind lookup hdeferred
  unfold apply_cell
  split
  · refine Triple.bind _ ((resolve_triple hvalid hplanned hcell).weaken (fun _ hs => hs) (fun _ _ hs => hs)
      fun _ s hs => ?_) fun found => Triple.of_pre fun s hs => ?_
    · obtain ⟨hserver, hwrites, hprepared, hjournal⟩ := hs
      refine ⟨?_, ?_⟩
      · rw [hserver, hwrites, hjournal]
        exact hprogress.chain
      · rw [hjournal]
        exact hprogress.recorded.settled
    · obtain ⟨hat, -, -, hnow⟩ := hs
      refine (apply_action_progress hprogress fun keys hchain => ?_).weaken (fun t ht => ht ▸ hat)
        (fun _ _ ht => ht) fun _ _ ht => ht
      exact hnow.fits_now hchain
  · rename_i hkind
    exact apply_action_progress hprogress fun keys hchain => (hclassified hkind).fits hchain

theorem apply_named_progress {s₀ : State} (hprogress : Progress environment.platform first prepared s₀)
    (hplanned : Planned environment.platform manifest first action) (hnamed : action.resource ≠ .egressmatrixcell) :
    Triple (At s₀.server s₀.writes s₀._prepared s₀._journal) (apply_named environment manifest action)
      (fun _ => Progress environment.platform first prepared)
      (fun _ => Recorded environment.platform first) := by
  have hclassified := hplanned.kind.resolve_right fun hdeferred => hnamed hdeferred.1
  refine Triple.bind _ (apply_action_progress hprogress fun keys hchain => hclassified.fits hchain) fun _ => ?_
  exact Triple.lift_bind (fun _ _ hs => hs.recorded) fun _ _ => Triple.pure fun _ hs => hs

/-- Wherever the actions stop, the journal records what was done. -/
theorem apply_recorded {document : Value} (hvalid : _validate_manifest document = .ok manifest)
    (hplanned : ∀ found, prepared = some found →
      ∀ action ∈ found.actions, Planned environment.platform manifest first action) :
    Triple (At first [] prepared []) (apply environment manifest)
      (fun _ => Recorded environment.platform first) (fun _ => Recorded environment.platform first) := by
  have hstart (s : State) (hs : At first [] prepared [] s) : Progress environment.platform first prepared s := by
    obtain ⟨hserver, hwrites, hprepared, hjournal⟩ := hs
    refine ⟨hprepared, fun _ => ?_, ?_⟩
    · rw [hserver, hwrites, hjournal]
      exact ⟨[], .nil⟩
    · rw [hjournal]
      exact fun _ hitem => absurd hitem List.not_mem_nil
  suffices hrun : Triple (Progress environment.platform first prepared) (apply environment manifest)
      (fun _ => Recorded environment.platform first) (fun _ => Recorded environment.platform first) from
    hrun.weaken hstart (fun _ _ hs => hs) fun _ _ hs => hs
  refine Triple.read_bind fun read => Triple.of_pre fun s hs => ?_
  obtain ⟨hprogress, rfl⟩ := hs
  have hgoal {m : Adapter Applied} (hm : Triple (Progress environment.platform first prepared) m
      (fun _ => Recorded environment.platform first) fun _ => Recorded environment.platform first) :
      Triple (fun t => t = s) m
        (fun _ => Recorded environment.platform first) fun _ => Recorded environment.platform first :=
    hm.weaken (fun t ht => ht ▸ hprogress) (fun _ _ hs => hs) fun _ _ hs => hs
  cases hread : s._prepared with
  | none => exact hgoal (Triple.raise fun _ hs => hs.recorded)
  | some found =>
    refine hgoal ?_
    have hactions := hplanned found (hprogress.prepared.symm.trans hread)
    refine Triple.read_bind fun journal => ?_
    refine Triple.lift_bind (fun _ _ hs => hs.1.recorded) fun _ _ => ?_
    refine Triple.bind (fun _ => Progress environment.platform first prepared) ?_ fun applied => ?_
    · refine (Triple.collect (fun _ _ => Progress environment.platform first prepared)
        fun done _ action rest hsplit => triple_of_at fun s hs => ?_).weaken (fun _ hs => hs.1)
        (fun _ _ hs => hs) fun _ _ hs => hs
      have hmem : action ∈ found.actions.filter (·.resource ≠ .egressmatrixcell) :=
        hsplit ▸ List.mem_append_right _ List.mem_cons_self
      rw [List.mem_filter, decide_eq_true_eq] at hmem
      exact apply_named_progress hs (hactions action hmem.1) hmem.2
    refine Triple.bind (fun _ => Progress environment.platform first prepared) ?_ fun cells => ?_
    · refine Triple.collect (fun _ _ => Progress environment.platform first prepared)
        fun done _ action rest hsplit => triple_of_at fun s hs => ?_
      have hmem : action ∈ found.actions.filter (·.resource = .egressmatrixcell) :=
        hsplit ▸ List.mem_append_right _ List.mem_cons_self
      rw [List.mem_filter, decide_eq_true_eq] at hmem
      exact apply_cell_progress hvalid (hactions action hmem.1) hmem.2 hs
    refine Triple.read_bind fun _ => Triple.pure fun _ hs => hs.1.recorded

end Apply

/-! ## The rollback of a journal -/

section Rollback

variable {environment : Environment} {manifest : Manifest} {first : Server}
  {touched : List (Resource × String)}

theorem undo_writes {sent : List Write} (item : Item) :
    Keeps (fun s => ∃ more, s.writes = sent ++ more) (undo environment manifest item) := by
  refine triple_of_at fun s hs => (undo_triple item).weaken (fun _ ht => ht) (fun _ t ht => ?_) fun _ t ht => ?_
  all_goals
    obtain ⟨more, hmore⟩ := hs
    obtain ⟨_, requests, -, -, hwrites, -⟩ := ht
    rw [hmore, List.append_assoc] at hwrites
    exact ⟨_, hwrites⟩

theorem rollback_writes {sent : List Write} :
    Keeps (fun s => ∃ more, s.writes = sent ++ more) (rollback environment manifest) := by
  refine Keeps.bind Keeps.read fun journal => ?_
  refine Keeps.bind (Keeps.collect fun item => Keeps.attempt (undo_writes item)) fun outcomes => ?_
  refine Keeps.lift_bind fun _ => Keeps.bind (Triple.modify fun s hs => hs) fun _ => Keeps.pure

/-- A rollback that returns has undone every entry. -/
theorem rollback_triple {s₀ : State} {keys : List (Resource × String)} {writes : List Write}
    (hstart : Unwound environment.platform first touched s₀._journal keys writes s₀.server s₀.server)
    (hsettled : ∀ item ∈ s₀._journal.dropLast, item.settled) :
    Triple (fun s => s = s₀) (rollback environment manifest)
      (fun _ s => ∃ keys writes before,
        Unwound environment.platform first touched [] keys writes before s.server)
      (fun _ _ => True) := by
  refine Triple.read_bind fun journal => Triple.of_pre fun s hs => ?_
  obtain ⟨rfl, rfl⟩ := hs
  -- what is undone so far, if no entry failed
  let inv (done : List Item) (outcomes : List (Except Raised Undone)) (t : State) : Prop :=
    (∀ outcome ∈ outcomes, outcome.isOk) → ∀ rest, s._journal.reverse = done ++ rest →
      ∃ keys writes before,
        Unwound environment.platform first touched rest.reverse keys writes before t.server
  refine Triple.bind (fun outcomes => inv s._journal.reverse outcomes) ?_ fun outcomes => ?_
  · refine (Triple.collect inv fun done outcomes item rest _ => Triple.attempt (triple_of_at fun t ht => ?_)).weaken
      (fun t ht => ?_) (fun _ _ ht => ht) fun _ _ ht => ht
    · refine (undo_triple item).weaken (fun _ hu => hu) (fun _ u hu hall left hsplit => ?_) fun exception u _ hall => ?_
      · obtain ⟨after, sent, hundid, hserver, -⟩ := hu
        rw [List.append_assoc, List.singleton_append] at hsplit
        obtain ⟨keys, writes, before, hunwound⟩ := ht
          (fun outcome houtcome => hall outcome (List.mem_append_left _ houtcome)) (item :: left) hsplit
        rw [List.reverse_cons] at hunwound
        have hjournal : s._journal = left.reverse ++ item :: done.reverse := by
          rw [← List.reverse_reverse s._journal, hsplit, List.reverse_append, List.reverse_cons,
            List.append_assoc, List.singleton_append]
        have hleft : ∀ item ∈ left.reverse, item.settled := by
          intro other hother
          refine hsettled other ?_
          rw [hjournal, List.dropLast_append_of_ne_nil (List.cons_ne_nil _ _)]
          exact List.mem_append_left _ hother
        rw [hserver]
        exact hunwound.undo hleft hundid
      · cases hall _ (List.mem_append_right _ (List.mem_singleton_self _))
    · subst ht
      intro _ rest hrest
      rw [List.nil_append] at hrest
      rw [← hrest, List.reverse_reverse]
      exact ⟨_, _, _, hstart⟩
  · refine Triple.lift_bind (fun _ _ _ => trivial) fun _ hfailures => ?_
    rw [raise_if_eq_ok, List.any_eq_false] at hfailures
    refine Triple.bind (fun _ t => ∃ keys writes before,
      Unwound environment.platform first touched [] keys writes before t.server)
      (Triple.modify fun t ht => ?_) fun _ => Triple.pure fun _ ht => ht
    exact ht (fun outcome houtcome => by simpa using hfailures outcome houtcome) [] (List.append_nil _).symm

/-- A transaction that is rolled back wherever it stopped. -/
def transact (environment : Environment) (manifest : Manifest) : Adapter (List Undone) := do
  let _ ← (prepare environment manifest).attempt
  let _ ← (apply environment manifest).attempt
  rollback environment manifest

/-- A connected adapter that has done nothing yet. -/
def State.start (server : Server) : State := ⟨server, 0, [], none, []⟩

/-- The journal of a transaction, wherever it stopped, is one that can be unwound. -/
theorem Chain.unwound {platform : Platform} {server : Server} {items : List Item}
    {keys : List (Resource × String)} {writes : List Write}
    (hchain : Chain platform first items keys writes server) (hseparates : Separates platform first writes) :
    Unwound platform first keys items keys writes server server where
  chain := hchain
  separates := hseparates
  exact := .inl rfl
  same_hash _ _ := .refl _
  restored _ _ hkey := hchain.object_eq hkey ▸ .refl _
  untouched _ _ hkey := hchain.object_eq hkey
  known _ hkey := hkey

theorem Chain.keys_nil {platform : Platform} {server : Server} {keys : List (Resource × String)}
    {writes : List Write} (h : Chain platform first [] keys writes server) : keys = [] := by
  generalize hitems : ([] : List Item) = items at h
  cases h with
  | nil => rfl
  | idle _ _ => exact absurd hitems.symm (List.append_ne_nil_of_right_ne_nil _ (List.cons_ne_nil _ _))
  | effective _ _ _ => exact absurd hitems.symm (List.append_ne_nil_of_right_ne_nil _ (List.cons_ne_nil _ _))

/-- The server is as the transaction first observed it: the mutable fields of every
object agree, and an object that was sent nothing is the same. -/
def Restored (first : Server) (writes : List Write) (server : Server) : Prop :=
  ∀ resource id, Same resource (first.object resource id) (server.object resource id) ∧
    ((∀ body, .put resource id body ∉ writes) → server.object resource id = first.object resource id)

theorem restored_of_recorded {s₀ : State} (hrecorded : Recorded environment.platform first s₀) :
    Triple (fun s => s = s₀) (rollback environment manifest)
      (fun _ s => Separates environment.platform first s.writes → Restored first s.writes s.server)
      (fun _ _ => True) := by
  intro s hs
  subst hs
  have hwrites := @rollback_writes environment manifest s.writes s ⟨[], (List.append_nil s.writes).symm⟩
  rcases hrun : rollback environment manifest s with ⟨exception | evidence, t⟩
  · trivial
  intro hseparates
  rw [hrun] at hwrites
  obtain ⟨more, hmore⟩ := hwrites
  obtain ⟨touched, hchain⟩ := hrecorded.chain (hmore ▸ hseparates).of_append
  have hstart := hchain.unwound (hmore ▸ hseparates).of_append
  have hend := @rollback_triple environment manifest first touched s _ _ hstart hrecorded.settled s rfl
  rw [hrun] at hend
  obtain ⟨keys, writes, before, hunwound⟩ := hend
  have hkeys := hunwound.chain.keys_nil
  subst hkeys
  refine fun resource id => ⟨hunwound.restored resource id List.not_mem_nil, fun hput => ?_⟩
  have hsame := hunwound.restored resource id List.not_mem_nil
  by_cases hmem : (resource, id) ∈ touched
  · obtain hnone | ⟨body, hbody⟩ := hchain.put_of_mem hmem
    · rw [hnone] at hsame ⊢
      cases hobject : t.server.object resource id with
      | none => rfl
      | some fields =>
        rw [hobject] at hsame
        cases hsame
    · exact absurd (hmore ▸ List.mem_append_left more hbody) (hput body)
  · exact hunwound.untouched resource id hmem

end Rollback

/-! ## A transaction that stops at its last request -/

def Write.body? (resource : Resource) : Write → Option Fields
  | .post kind body => if kind = resource then some body else none
  | .put kind _ body => if kind = resource then some body else none
  | .delete _ _ => none

/-- The states of one kind that stood or were sent. -/
def states (first : Server) (writes : List Write) (resource : Resource) : List Fields :=
  (first.objects resource).map Prod.snd ++ writes.filterMap (Write.body? resource)

theorem mem_states {first : Server} {writes : List Write} {resource : Resource} {fields : Fields}
    (hstood : Stood first writes resource fields) : fields ∈ states first writes resource := by
  rw [states, List.mem_append, List.mem_map, List.mem_filterMap]
  obtain ⟨id, hobject⟩ | hpost | ⟨id, hput⟩ := hstood
  · exact .inl ⟨(id, fields), Server.mem_objects_iff.mpr hobject, rfl⟩
  · exact .inr ⟨_, hpost, if_pos rfl⟩
  · exact .inr ⟨_, hput, if_pos rfl⟩

def tells_apart (platform : Platform) (resource : Resource) (fields other : Fields) : Bool :=
  match _comparable resource fields, _comparable resource other with
  | .ok value, .ok another =>
    value.equals another || platform.sha256_json value ≠ platform.sha256_json another
  | _, _ => true

theorem separates_of_tells_apart {platform : Platform} {first : Server} {writes : List Write}
    (hall : [Resource.sgt, .sgacl, .egressmatrixcell].all fun resource =>
      (states first writes resource).all fun fields =>
        (states first writes resource).all fun other => tells_apart platform resource fields other) :
    Separates platform first writes := by
  intro resource fields other hfields hother value another hvalue hanother hsame
  have hresource : resource ∈ [Resource.sgt, .sgacl, .egressmatrixcell] := by cases resource <;> decide
  have htells := List.all_eq_true.mp (List.all_eq_true.mp (List.all_eq_true.mp hall _ hresource) _
    (mem_states hfields)) _ (mem_states hother)
  simpa [tells_apart, hvalue, hanother, hsame] using htells

def lab_rollback_document : Value :=
  lab_document [lab_sgt_operation "CORP" 1000, lab_sgt_operation "VOICE" 2000]

def lab_rollback_server : Server :=
  lab_empty_server.store .sgt "sgt-1" (lab_sgt "CORP" (lab_marker ++ " old") 1000)

/-- The answer to the last request, which creates the second group, names no usable
location. -/
def lab_rollback_environment : Environment :=
  lab_environment fun sent => if sent = 16 then .misplaced else .done

def lab_rollback_run : Except Raised (List Undone) × State :=
  transact lab_rollback_environment (lab_manifest lab_rollback_document) (.start lab_rollback_server)

end orchestrator.ise
