import Mathlib.Data.Prod.Lex
import SdaOrchestrator.Ise.Server

open python effects

namespace orchestrator.ise

open orchestrator.store (Platform)

/-! ## Reading objects -/

/-- `str(object["id"])` of an object that was read. -/
def id_of (object : Fields) : String := ((assoc.lookup "id" object).getD (.str "")).toStr

/-- `str(fields[key])`. -/
def text_at (fields : Fields) (key : String) : Py String :=
  match assoc.lookup key fields with
  | some value => .ok value.toStr
  | none => .error (KeyError key)

/-- The path that ends in an identifier climbs nowhere. -/
def safe_path (id : String) : Py Unit :=
  raise_if (contains ".." id) (IseManifestError "Unsafe ISE API path")

def _root (root : Fields) : Py Fields := do
  raise_if (!is_safe_id (id_of root)) (IseErsError "ISE resource returned an unsafe identifier")
  return root

def _search (resource : Resource) (filters : List (String × String)) : Ask (List Fields) := do
  let search ← Query.fetch (Read.search resource filters)
  Query.lift (raise_if (100 < search.total)
    (IsePreflightError "ISE filtered lookup exceeded the bounded result limit"))
  return search.resources

def _get_by_id (resource : Resource) (resource_id : String) : Ask (Option Fields) := do
  Query.lift (raise_if (!is_safe_id resource_id) (IseManifestError "Unsafe ISE resource identifier"))
  Query.lift (safe_path resource_id)
  match ← Query.fetch (Read.get resource resource_id) with
  | none => return none
  | some root => return some (← Query.lift (_root root))

/-- The object that a summary names, if it matches exactly. -/
def exact_candidate (resource : Resource) (exact : Fields → Py Bool) (summary : Fields) :
    Ask (Option Fields) := do
  match ← _get_by_id resource (id_of summary) with
  | none => return none
  | some candidate => return if ← Query.lift (exact candidate) then some candidate else none

def find_exact (resource : Resource) (filters : List (String × String)) (exact : Fields → Py Bool) :
    Ask (List Fields) := do
  let summaries ← _search resource filters
  let candidates ← Query.collect summaries (exact_candidate resource exact)
  return candidates.filterMap fun candidate => candidate

/-- At most one object matches exactly. -/
def find_one (resource : Resource) (filters : List (String × String)) (exact : Fields → Py Bool)
    (message : String) : Ask (Option Fields) := do
  let found ← find_exact resource filters exact
  Query.lift (raise_if (1 < found.length) (IseCollisionError message))
  return found.head?

/-- `str(object.get(key)) == text`. -/
def has_text (key text : String) (object : Fields) : Bool :=
  Value.optStr (assoc.lookup key object) = text

def _find_by_name (resource : Resource) (name : String) : Ask (Option Fields) :=
  find_one resource [("name", name)] (fun candidate => pure (has_text "name" name candidate))
    "ISE lookup returned duplicate exact names"

def _find_sgt_by_value (value : Int) : Ask (Option Fields) :=
  find_one .sgt [("value", toString value)]
    (fun candidate => do
      return (← ((assoc.lookup "value" candidate).getD (.int (-1))).toInt) = value)
    "ISE lookup returned duplicate exact SGT values"

def _find_cell (source_id destination_id : String) : Ask (Option Fields) :=
  find_one .egressmatrixcell [("sourceSgtId", source_id), ("destinationSgtId", destination_id)]
    (fun candidate => pure
      (has_text "sourceSgtId" source_id candidate && has_text "destinationSgtId" destination_id candidate))
    "ISE lookup returned duplicate SGT-pair cells"

/-! ## Comparing objects -/

def _mutable (resource : Resource) (value : Fields) : Fields :=
  resource.mutable_keys.filterMap fun key => (assoc.lookup key value).map (key, ·)

def _comparable (resource : Resource) (value : Fields) : Py Value := do
  let result := resource.compare_keys.map fun key => (key, (assoc.lookup key value).getD .null)
  match resource, assoc.lookup "value" result with
  | .sgt, some found =>
    if found.isNull then return .dict result
    return .dict (assoc.set "value" (.int (← found.toInt)) result)
  | _, _ => return .dict result

/-- `_comparable(resource, value) == _comparable(resource, other)`. -/
def alike (resource : Resource) (value other : Fields) : Py Bool := do
  return (← _comparable resource value).equals (← _comparable resource other)

def _state_hash (platform : Platform) (resource : Resource) (value : Fields) : Py String := do
  return platform.sha256_json (← _comparable resource value)

def _owned (manifest : Manifest) (value : Fields) : Bool :=
  contains manifest.ownership_marker ((assoc.lookup "description" value).getD (.str "")).toStr

def _classify (platform : Platform) (manifest : Manifest) (operation : Operation) (desired : Fields)
    (existing : Option Fields) : Py Action := do
  let action := Action.mk operation.operation_id.toStr operation.resource desired
  match existing with
  | none => return action .create
  | some existing =>
    raise_if (!_owned manifest existing)
      (IseCollisionError ("ISE " ++ operation.resource.text ++ " collision is not owned by this orchestrator"))
    let snapshot := _mutable operation.resource existing
    let pre_hash ← _state_hash platform operation.resource existing
    return action (if ← alike operation.resource existing desired then .noop (id_of existing) snapshot pre_hash
      else .update (id_of existing) snapshot pre_hash)

/-! ## The preflight -/

mutual

/-- `_mapping_records(value)`. -/
def _mapping_records : Value → List Fields
  | .list items => records_of_items items
  | .dict entries =>
    entries :: ((assoc.distinct (records_of_entries entries)).map Prod.snd).flatten
  | _ => []

def records_of_items : List Value → List Fields
  | [] => []
  | item :: rest => _mapping_records item ++ records_of_items rest

def records_of_entries : List (String × Value) → List (String × List Fields)
  | [] => []
  | (key, value) :: rest => (key, _mapping_records value) :: records_of_entries rest

end

/-- `"PrimaryAdmin" in record.get("roles")`. -/
def is_primary (record : Fields) : Bool :=
  match assoc.lookup "roles" record with
  | some (.list roles) => roles.any fun role => role.equals (.str "PrimaryAdmin")
  | _ => false

section Preflight

variable (environment : Environment) (manifest : Manifest)

def identifiers (record : Fields) : List String :=
  (["hostname", "fqdn", "ipAddress", "ipaddress", "name"].filterMap fun key =>
    (assoc.lookup key record).filter Value.truthy).map fun value => environment.lower value.toStr

def _verify_primary_pan : Ask Unit := do
  let body ← Query.fetch Read.deployment
  Query.lift (raise_if (!body.isMapping) (IseErsError "ISE returned a non-object JSON response"))
  let aliases := [environment.lower manifest.write_node_id, environment.lower manifest.write_node_address,
    manifest.api_hostname].filter (· ≠ "")
  let found := (_mapping_records body).filter fun record =>
    is_primary record && aliases.any (· ∈ identifiers environment record)
  Query.lift (raise_if (found.length ≠ 1)
    (IsePreflightError "Configured ISE write node is not the unique PrimaryAdmin"))

/-- `sorted(_DEFAULT_POLICY_NAMES)`. -/
def default_policy_names : List String := ["ANY ANY", "ANY-ANY", "ANY_ANY"]

/-- `text.upper()` of ASCII letters; no other character has one of the compared
letters as its upper case. -/
def upper (text : String) : String := String.ofList ((chars text).map Char.toUpper)

def is_default_policy (candidate : Fields) : Bool :=
  upper ((assoc.lookup "name" candidate).getD (.str "")).toStr ∈ default_policy_names

/-- Returns the hash of the default cell. -/
def _verify_default_deny : Ask String := do
  let found ← Query.collect default_policy_names fun name =>
    find_exact .egressmatrixcell [("name", name)] fun candidate => pure (is_default_policy candidate)
  let unique := found.flatten.foldl (fun matched candidate => assoc.set (id_of candidate) candidate matched) []
  match unique with
  | [(_, default_cell)] =>
    Query.lift (raise_if (!has_text "matrixCellStatus" "ENABLED" default_cell)
      (IsePreflightError "ISE ANY-ANY default egress policy is not enabled"))
    Query.lift (raise_if
      (!has_text "defaultRule" "DENY_IP" default_cell && !has_text "defaultRule" "DENY_IP_LOG" default_cell)
      (IsePreflightError "ISE ANY-ANY default egress policy is not deny"))
    Query.lift (_state_hash environment.platform .egressmatrixcell default_cell)
  | _ => Query.raise (IsePreflightError "ISE ANY-ANY default egress policy was not uniquely identified")

namespace Operation

def priority (operation : Operation) : Nat :=
  match operation.resource with
  | .sgt => 0
  | .sgacl => 1
  | .egressmatrixcell => 2

/-- The order in which operations are prepared. -/
def order (operation : Operation) : Nat ×ₗ String := toLex (operation.priority, operation.operation_id.toStr)

end Operation

/-- The identifiers of the named objects that exist. -/
structure Known where
  sgts : List (String × String)
  sgacls : List (String × String)

def Known.add (known : Known) (resource : Resource) (name : String) (existing : Option Fields) : Known :=
  match existing, resource with
  | none, _ => known
  | some existing, .sgt => { known with sgts := assoc.set name (id_of existing) known.sgts }
  | some existing, _ => { known with sgacls := assoc.set name (id_of existing) known.sgacls }

/-- The group of the desired value is the existing one, if there is one. -/
def check_value (desired : Fields) (existing : Option Fields) : Ask Unit := do
  let value ← Query.lift (match assoc.lookup "value" desired with
    | some value => value.toInt
    | none => .error (KeyError "value"))
  let by_value ← _find_sgt_by_value value
  Query.lift (raise_if (by_value.any fun found => existing.all fun existing => id_of found ≠ id_of existing)
    (IseCollisionError "ISE SGT value is already assigned to another object"))

def prepare_named (operation : Operation) : Ask (Action × Option Fields) := do
  let existing ← _find_by_name operation.resource (operation.lookup_text "name")
  if operation.resource = .sgt then check_value operation.desired existing
  let action ← Query.lift (_classify environment.platform manifest operation operation.desired existing)
  return (action, existing)

/-- The named objects one after the other. -/
def prepare_all_named (known : Known) : List Operation → Ask (List Action × Known)
  | [] => return ([], known)
  | operation :: rest => do
    let (action, existing) ← prepare_named environment manifest operation
    let (actions, known) ←
      prepare_all_named (known.add operation.resource (operation.lookup_text "name") existing) rest
    return (action :: actions, known)

/-- The desired cell with the identifiers of its groups and access lists. -/
def resolved (desired : Fields) (source_id destination_id : String) (sgacl_ids : List String) : Fields :=
  assoc.set "sgacls" (.list (sgacl_ids.map .str)) (assoc.set "destinationSgtId" (.str destination_id)
    (assoc.set "sourceSgtId" (.str source_id) (assoc.erase "sgacl_name_refs" desired)))

/-- `known.get(name)`, where an empty identifier counts as none. -/
def Known.id? (known : List (String × String)) (name : String) : Option String :=
  (assoc.lookup name known).filter (· ≠ "")

def prepare_cell (known : Known) (operation : Operation) : Ask Action := do
  let source_id := Known.id? known.sgts (operation.lookup_text "source_sgt_name")
  let destination_id := Known.id? known.sgts (operation.lookup_text "destination_sgt_name")
  let sgacl_ids := operation.sgacl_name_refs.mapM fun name => Known.id? known.sgacls name.toStr
  match source_id, destination_id, sgacl_ids with
  | some source_id, some destination_id, some sgacl_ids =>
    let existing ← _find_cell source_id destination_id
    Query.lift (_classify environment.platform manifest operation
      (resolved operation.desired source_id destination_id sgacl_ids) existing)
  | _, _, _ =>
    return ⟨operation.operation_id.toStr, .egressmatrixcell, operation.desired, .deferred operation.lookup⟩

namespace Kind

def text : Kind → String
  | create => "create"
  | noop _ _ _ => "noop"
  | update _ _ _ => "update"
  | deferred _ => "deferred"

def pre_hash : Kind → Option String
  | noop _ _ pre_hash => some pre_hash
  | update _ _ pre_hash => some pre_hash
  | _ => none

end Kind

def Action.summary (action : Action) : Value := .dict [
  ("operation_id", .str action.operation_id),
  ("resource", .str action.resource.text),
  ("action", .str action.kind.text),
  ("pre_hash", .ofOption action.kind.pre_hash)]

/-- Every check and classification that precedes the first write. -/
def preflight : Ask Prepared := do
  _verify_primary_pan environment manifest
  let default_policy ← _verify_default_deny environment
  let operations := sortedBy Operation.order manifest.operations
  let (named, known) ← prepare_all_named environment manifest ⟨[], []⟩
    (operations.filter (·.resource ≠ .egressmatrixcell))
  let cells ← Query.collect (operations.filter (·.resource = .egressmatrixcell))
    (prepare_cell environment manifest known)
  let actions := named ++ cells
  return {
    actions
    prepared_hash := environment.platform.sha256_json (.list (actions.map Action.summary))
    default_policy }

/-- The evidence of a preflight. -/
structure Preflight where
  prepared_hash : String
  action_counts : List (String × Nat)
  default_policy : String

def prepare : Adapter Preflight := do
  let journal ← Program.read State._journal
  Program.lift (raise_if (!journal.isEmpty)
    (IseErsError "ISE adapter cannot prepare with an active journal"))
  let prepared ← environment.ask (preflight environment manifest)
  Program.modify fun s => { s with _prepared := some prepared }
  return {
    prepared_hash := prepared.prepared_hash
    action_counts := ["create", "update", "noop", "deferred"].map fun name =>
      (name, prepared.actions.countP (·.kind.text = name))
    default_policy := prepared.default_policy }

end Preflight

/-! ## Applying the actions -/

section Apply

variable (environment : Environment) (manifest : Manifest)

def _body (resource : Resource) (desired : Fields) : Fields := _mutable resource desired

/-- A request that writes under an identifier has a safe path. -/
def _request (request : Write) : Adapter (Option String) := do
  Program.lift (match request with
    | .post _ _ => pure ()
    | .put _ id _ => safe_path id
    | .delete _ id => safe_path id)
  environment.write request

def _location_id (location : Option String) : Py String :=
  match location with
  | none => .error (IseVerificationError "ISE create returned an unexpected Location")
  | some resource_id => do
    raise_if (!is_safe_id resource_id) (IseVerificationError "ISE create returned an unsafe resource ID")
    return resource_id

def _lookup_for_action (resource : Resource) (desired : Fields) : Ask (Option Fields) := do
  if resource = .egressmatrixcell then
    let source_id ← Query.lift (text_at desired "sourceSgtId")
    let destination_id ← Query.lift (text_at desired "destinationSgtId")
    _find_cell source_id destination_id
  else
    let name ← Query.lift (text_at desired "name")
    _find_by_name resource name

/-- `self._journal.append(item)`. -/
def enter (item : Item) : Adapter Unit :=
  Program.modify fun s => { s with _journal := s._journal ++ [item] }

/-- The last entry of the journal becomes `item`. -/
def amend (item : Item) : Adapter Unit :=
  Program.modify fun s => { s with _journal := s._journal.dropLast ++ [item] }

/-- What an action did. -/
structure Result where
  operation_id : String
  resource : Resource
  action : String
  resource_id : String
  pre_hash : Option String
  post_hash : String

/-- The object is still the one that was classified. -/
def check_unchanged (resource : Resource) (resource_id pre_hash : String) : Ask Unit := do
  let changed := IseCollisionError "ISE object changed after preflight"
  match ← _get_by_id resource resource_id with
  | none => Query.raise changed
  | some current =>
    let hash ← Query.lift (_state_hash environment.platform resource current)
    Query.lift (raise_if (hash ≠ pre_hash) changed)

/-- An object as it is read back, with its hash. -/
def read_back (resource : Resource) (resource_id : String) (exception : Raised) : Ask (Fields × String) := do
  match ← _get_by_id resource resource_id with
  | none => Query.raise exception
  | some current => return (current, ← Query.lift (_state_hash environment.platform resource current))

/-- The object that a request created although its location cannot be used. -/
def recover (resource : Resource) (desired : Fields) : Ask (Option (String × String)) := do
  match ← _lookup_for_action resource desired with
  | none => return none
  | some recovered =>
    if _owned manifest recovered then
      if ← Query.lift (alike resource recovered desired) then
        return some (id_of recovered, ← Query.lift (_state_hash environment.platform resource recovered))
      else return none
    else return none

def apply_create (operation_id : String) (resource : Resource) (desired : Fields) : Adapter Result := do
  let found ← environment.ask (_lookup_for_action resource desired)
  Program.lift (raise_if found.isSome (IseCollisionError "ISE object appeared after preflight"))
  enter (.create operation_id resource none desired none)
  let location ← _request environment (.post resource (_body resource desired))
  match _location_id location with
  | .error exception => do
    match ← environment.ask (recover environment manifest resource desired) with
    | none => Program.raise exception
    | some (resource_id, post_hash) => do
      amend (.create operation_id resource (some resource_id) desired (some post_hash))
      Program.raise exception
  | .ok resource_id => do
    amend (.create operation_id resource (some resource_id) desired none)
    let (current, post_hash) ← environment.ask (read_back environment resource resource_id
      (IseVerificationError "ISE create verification could not read the object"))
    amend (.create operation_id resource (some resource_id) desired (some post_hash))
    let same ← Program.lift (alike resource current desired)
    Program.lift (raise_if (!same) (IseVerificationError "ISE create verification failed"))
    return ⟨operation_id, resource, "create", resource_id, none, post_hash⟩

def apply_update (operation_id : String) (resource : Resource) (desired : Fields) (resource_id : String)
    (snapshot : Fields) (pre_hash : String) : Adapter Result := do
  environment.ask (check_unchanged environment resource resource_id pre_hash)
  let update := assoc.set "id" (.str resource_id) desired
  enter (.update operation_id resource resource_id snapshot pre_hash none)
  let _ ← _request environment (.put resource resource_id (_body resource update))
  let (current, post_hash) ← environment.ask (read_back environment resource resource_id
    (IseVerificationError "ISE update verification could not read the object"))
  amend (.update operation_id resource resource_id snapshot pre_hash (some post_hash))
  let same ← Program.lift (alike resource current desired)
  Program.lift (raise_if (!same) (IseVerificationError "ISE update verification failed"))
  return ⟨operation_id, resource, "update", resource_id, some pre_hash, post_hash⟩

def _apply_action (action : Action) : Adapter Result :=
  match action.kind with
  | .noop resource_id _ pre_hash => do
    environment.ask (check_unchanged environment action.resource resource_id pre_hash)
    return ⟨action.operation_id, action.resource, "noop", resource_id, none, pre_hash⟩
  | .create => apply_create environment manifest action.operation_id action.resource action.desired
  | .update resource_id snapshot pre_hash =>
    apply_update environment action.operation_id action.resource action.desired resource_id snapshot pre_hash
  | .deferred _ => Program.raise (IseManifestError "Unknown prepared ISE action")

/-- The identifiers of the objects of one kind by their names. -/
def ids (resource : Resource) (applied : List (String × Result)) : List (String × String) :=
  (applied.filter (·.2.resource = resource)).foldl
    (fun found entry => assoc.set entry.1 entry.2.resource_id found) []

/-- `ids[resource][name]`. -/
def id_at (resource : Resource) (applied : List (String × Result)) (name : String) : Py String :=
  match assoc.lookup name (ids resource applied) with
  | some id => .ok id
  | none => .error (KeyError name)

def apply_named (action : Action) : Adapter (String × Result) := do
  let result ← _apply_action environment manifest action
  return (← Program.lift (text_at action.desired "name"), result)

/-- A cell that was deferred is classified once its groups and access lists exist. -/
def resolve (applied : List (String × Result)) (action : Action) (lookup : Fields) : Adapter Action := do
  let refs ← Program.lift (match assoc.lookup "sgacl_name_refs" action.desired with
    | some refs => refs.elements
    | none => .error (KeyError "sgacl_name_refs"))
  let source_id ← Program.lift (do id_at .sgt applied (← text_at lookup "source_sgt_name"))
  let destination_id ← Program.lift (do id_at .sgt applied (← text_at lookup "destination_sgt_name"))
  let sgacl_ids ← Program.lift (refs.mapM fun name => id_at .sgacl applied name.toStr)
  let operation ← Program.lift (match manifest.operations.find? fun operation =>
        operation.operation_id.equals (.str action.operation_id) with
    | some operation => .ok operation
    | none => .error ⟨"StopIteration", ""⟩)
  let existing ← environment.ask (_find_cell source_id destination_id)
  Program.lift (_classify environment.platform manifest operation
    (resolved action.desired source_id destination_id sgacl_ids) existing)

def apply_cell (applied : List (String × Result)) (action : Action) : Adapter Result :=
  match action.kind with
  | .deferred lookup => do
    let action ← resolve environment manifest applied action lookup
    _apply_action environment manifest action
  | _ => _apply_action environment manifest action

/-- The evidence of the applied actions. -/
structure Applied where
  prepared_hash : String
  changed_count : Nat
  noop_count : Nat
  operations : List Result

def apply : Adapter Applied := do
  match ← Program.read State._prepared with
  | none => Program.raise (IseErsError "ISE preflight prepare must complete before apply")
  | some prepared => do
    let journal ← Program.read State._journal
    Program.lift (raise_if (!journal.isEmpty) (IseErsError "ISE transaction already contains changes"))
    let applied ← Program.collect (prepared.actions.filter (·.resource ≠ .egressmatrixcell))
      (apply_named environment manifest)
    let cells ← Program.collect (prepared.actions.filter (·.resource = .egressmatrixcell))
      (apply_cell environment manifest applied)
    let operations := applied.map Prod.snd ++ cells
    let journal ← Program.read State._journal
    return {
      prepared_hash := prepared.prepared_hash
      changed_count := journal.length
      noop_count := operations.countP (·.action = "noop")
      operations }

end Apply

/-! ## Rolling back -/

section Rollback

variable (environment : Environment) (manifest : Manifest)

/-- What became of an entry; `already` is the flag of one that needed no request. -/
structure Undone where
  operation_id : String
  resource : Resource
  action : String
  already : Option String

/-- The object of an entry that creates. -/
def created_object (resource : Resource) (resource_id : Option String) (desired : Fields) :
    Ask (Option Fields) :=
  match resource_id.filter (· ≠ "") with
  | some resource_id => _get_by_id resource resource_id
  | none => _lookup_for_action resource desired

/-- The object is still what the transaction created. -/
def check_created (resource : Resource) (current desired : Fields) (post_hash : Option String) : Py Unit := do
  match post_hash.filter (· ≠ "") with
  | some post_hash =>
    let hash ← _state_hash environment.platform resource current
    raise_if (hash ≠ post_hash) (IseRollbackError "ISE object changed after apply; refusing rollback")
  | none => pure ()
  raise_if (!_owned manifest current) (IseRollbackError "ISE created object lost its ownership marker")
  let same ← alike resource current desired
  raise_if (!same) (IseRollbackError "ISE created object no longer matches the transaction")

def undo_create (operation_id : String) (resource : Resource) (resource_id : Option String)
    (desired : Fields) (post_hash : Option String) : Adapter Undone := do
  match ← environment.ask (created_object resource resource_id desired) with
  | none => return ⟨operation_id, resource, "create", some "already_absent"⟩
  | some current => do
    Program.lift (check_created environment manifest resource current desired post_hash)
    let _ ← _request environment (.delete resource (id_of current))
    let left ← environment.ask (_get_by_id resource (id_of current))
    Program.lift (raise_if left.isSome
      (IseRollbackError "ISE create rollback deletion was not verified"))
    return ⟨operation_id, resource, "create", none⟩

/-- The object is still what the transaction made of it. -/
def check_updated (current_hash : String) (post_hash : Option String) : Py Unit :=
  raise_if ((post_hash.filter (· ≠ "")) ≠ some current_hash)
    (IseRollbackError "ISE object changed after apply; refusing rollback")

def undo_update (operation_id : String) (resource : Resource) (resource_id : String) (snapshot : Fields)
    (pre_hash : String) (post_hash : Option String) : Adapter Undone := do
  let (_, current_hash) ← environment.ask (read_back environment resource resource_id
    (IseRollbackError "ISE updated object disappeared before rollback"))
  if current_hash = pre_hash then return ⟨operation_id, resource, "update", some "already_restored"⟩
  else do
    Program.lift (check_updated current_hash post_hash)
    let _ ← _request environment (.put resource resource_id (_body resource snapshot))
    let unverified := IseRollbackError "ISE update rollback was not verified"
    let (_, restored_hash) ← environment.ask (read_back environment resource resource_id unverified)
    Program.lift (raise_if (restored_hash ≠ pre_hash) unverified)
    return ⟨operation_id, resource, "update", none⟩

def undo (item : Item) : Adapter Undone :=
  match item with
  | .create operation_id resource resource_id desired post_hash =>
    undo_create environment manifest operation_id resource resource_id desired post_hash
  | .update operation_id resource resource_id snapshot pre_hash post_hash =>
    undo_update environment operation_id resource resource_id snapshot pre_hash post_hash

/-- The journal from its end; an entry that cannot be undone does not stop the others. -/
def rollback : Adapter (List Undone) := do
  let journal ← Program.read State._journal
  let outcomes ← Program.collect journal.reverse fun item => (undo environment manifest item).attempt
  Program.lift (raise_if (outcomes.any fun outcome => !outcome.isOk)
    (IseRollbackError "ISE rollback failed for one or more resources"))
  Program.modify fun s => { s with _journal := [] }
  return outcomes.filterMap Except.toOption

end Rollback

end orchestrator.ise
