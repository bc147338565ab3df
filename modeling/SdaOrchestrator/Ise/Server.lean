import SdaOrchestrator.Ise.Manifest
import SdaOrchestrator.Lib.Query
import SdaOrchestrator.Store.Platform

open python effects

namespace orchestrator.ise

open orchestrator.store (Platform)

abbrev Fields := List (String × Value)

/-! ## The objects that the server keeps -/

/-- The objects of every kind under their identifiers. -/
structure Server where
  objects : Resource → List (String × Fields)
  deployment : Value
  keyed : ∀ resource, ((objects resource).map Prod.fst).Nodup
  identified : ∀ resource, ∀ entry ∈ objects resource,
    assoc.lookup "id" entry.2 = some (.str entry.1)

namespace Server

variable {server : Server} {resource other : Resource} {id key : String} {fields found : Fields}

def object (server : Server) (resource : Resource) (id : String) : Option Fields :=
  assoc.lookup id (server.objects resource)

theorem mem_objects_iff :
    (id, fields) ∈ server.objects resource ↔ server.object resource id = some fields :=
  ⟨assoc.lookup_of_mem (server.keyed resource), assoc.lookup_mem⟩

/-- An object says its own identifier. -/
theorem id_of_object (hobject : server.object resource id = some fields) :
    assoc.lookup "id" fields = some (.str id) :=
  server.identified resource _ (mem_objects_iff.mpr hobject)

/-- The server with other objects of one kind. -/
def replace (server : Server) (resource : Resource) (entries : List (String × Fields))
    (hkeyed : (entries.map Prod.fst).Nodup)
    (hidentified : ∀ entry ∈ entries, assoc.lookup "id" entry.2 = some (.str entry.1)) : Server where
  objects kind := if kind = resource then entries else server.objects kind
  deployment := server.deployment
  keyed kind := by
    split
    · exact hkeyed
    · exact server.keyed kind
  identified kind := by
    split
    · exact hidentified
    · exact server.identified kind

/-- An object is kept with the fields it is sent and the identifier it has. -/
def store (server : Server) (resource : Resource) (id : String) (body : Fields) : Server :=
  server.replace resource (assoc.set id (assoc.set "id" (.str id) body) (server.objects resource))
    (assoc.keys_set_nodup (server.keyed resource)) (by
      intro entry hentry
      have hlookup := assoc.lookup_of_mem (assoc.keys_set_nodup (server.keyed resource)) hentry
      rw [assoc.lookup_set] at hlookup
      split at hlookup
      · rename_i heq
        rw [← Option.some.inj hlookup, assoc.lookup_set, if_pos rfl, heq]
      · exact id_of_object hlookup)

def remove (server : Server) (resource : Resource) (id : String) : Server :=
  have hkeyed : ((assoc.erase id (server.objects resource)).map Prod.fst).Nodup := by
    rw [assoc.keys_erase]
    exact (server.keyed resource).filter _
  server.replace resource (assoc.erase id (server.objects resource)) hkeyed (by
    intro entry hentry
    have hlookup := assoc.lookup_of_mem hkeyed hentry
    rw [assoc.lookup_erase] at hlookup
    split at hlookup
    · cases hlookup
    · exact id_of_object hlookup)

theorem object_store (body : Fields) :
    (server.store resource id body).object other key =
      if other = resource ∧ key = id then some (assoc.set "id" (.str id) body)
      else server.object other key := by
  by_cases hkind : other = resource
  · subst hkind
    simp only [object, store, replace, if_true, true_and, assoc.lookup_set, eq_comm]
  · simp only [object, store, replace, hkind, if_false, false_and]

theorem object_remove : (server.remove resource id).object other key =
    if other = resource ∧ key = id then none else server.object other key := by
  by_cases hkind : other = resource
  · subst hkind
    simp only [object, remove, replace, if_true, true_and, assoc.lookup_erase, eq_comm]
  · simp only [object, remove, replace, hkind, if_false, false_and]

end Server

/-! ## The requests -/

/-- A request that reads. The filters of a search compare the texts of fields. -/
inductive Read where
  | deployment
  | search (resource : Resource) (filters : List (String × String))
  | get (resource : Resource) (id : String)

structure SearchResult where
  total : Nat
  resources : List Fields

abbrev Read.Answer : Read → Type
  | deployment => Value
  | search _ _ => SearchResult
  | get _ _ => Option Fields

/-- A request that writes; the body is the object under the root of its kind. -/
inductive Write where
  | post (resource : Resource) (body : Fields)
  | put (resource : Resource) (id : String) (body : Fields)
  | delete (resource : Resource) (id : String)

namespace Server

def matching (server : Server) (resource : Resource) (filters : List (String × String)) :
    List (String × Fields) :=
  (server.objects resource).filter fun entry =>
    filters.all fun filter => Value.optStr (assoc.lookup filter.1 entry.2) = filter.2

/-- What a search says about an object. -/
def summary (entry : String × Fields) : Fields :=
  [("id", .str entry.1), ("name", (assoc.lookup "name" entry.2).getD (.str ""))]

def reply (server : Server) : (read : Read) → read.Answer
  | .deployment => server.deployment
  | .search resource filters =>
    let found := server.matching resource filters
    ⟨found.length, found.map summary⟩
  | .get resource id => server.object resource id

/-- What a request that is accepted makes of the objects. A new object takes an
identifier that is not in use. -/
def accept (server : Server) (fresh_id : String) : Write → Option Server
  | .post resource body =>
    if (server.object resource fresh_id).isSome then none else some (server.store resource fresh_id body)
  | .put resource id body =>
    if (server.object resource id).isSome then some (server.store resource id body) else none
  | .delete resource id => some (server.remove resource id)

end Server

/-! ## The session -/

/-- What becomes of a request: it is answered; it has no effect; its effect stays and
its answer is lost; it is answered, but no location of the answer can be used. -/
inductive Outcome where
  | done | refused | lost | misplaced
  deriving DecidableEq

/-- What comes from outside: the outcome of every request and the identifier of every
new object, by the number of requests sent before. -/
structure Environment where
  platform : Platform
  lower : String → String
  outcome : Nat → Outcome
  fresh_id : Nat → String

inductive Kind where
  | create
  | noop (resource_id : String) (snapshot : Fields) (pre_hash : String)
  | update (resource_id : String) (snapshot : Fields) (pre_hash : String)
  | deferred (lookup : Fields)

/-- A prepared action. -/
structure Action where
  operation_id : String
  resource : Resource
  desired : Fields
  kind : Kind

structure Prepared where
  actions : List Action
  prepared_hash : String
  default_policy : String

/-- An entry of the journal. -/
inductive Item where
  | create (operation_id : String) (resource : Resource) (resource_id : Option String)
      (desired : Fields) (post_hash : Option String)
  | update (operation_id : String) (resource : Resource) (resource_id : String)
      (snapshot : Fields) (pre_hash : String) (post_hash : Option String)

/-- The server and the adapter. `writes` are the requests that write, oldest first. -/
structure State where
  server : Server
  sent : Nat
  writes : List Write
  _prepared : Option Prepared
  _journal : List Item

abbrev Ask := Query Read Read.Answer Raised
abbrev Adapter := Program State Raised

def transport_failed : Raised := IseErsError "ISE request transport failed"

namespace Environment

/-- Send a request that reads. -/
def read (environment : Environment) (request : Read) : Adapter request.Answer := fun s =>
  let next := { s with sent := s.sent + 1 }
  match environment.outcome s.sent with
  | .done | .misplaced => (.ok (s.server.reply request), next)
  | .refused | .lost => (.error transport_failed, next)

/-- Send a request that writes; returns the identifier that the location of the answer ends in. -/
def write (environment : Environment) (request : Write) : Adapter (Option String) := fun s =>
  let fresh_id := environment.fresh_id s.sent
  let next := { s with sent := s.sent + 1, writes := s.writes ++ [request] }
  match environment.outcome s.sent, s.server.accept fresh_id request with
  | .refused, _ => (.error transport_failed, next)
  | _, none => (.error (IseErsError "ISE returned an unexpected HTTP status"), next)
  | .lost, some server => (.error transport_failed, { next with server })
  | .misplaced, some server => (.ok none, { next with server })
  | .done, some server => (.ok (some fresh_id), { next with server })

/-- The requests of a query one after the other. -/
def ask {α : Type} (environment : Environment) (query : Ask α) : Adapter α := query.run environment.read

end Environment

end orchestrator.ise
