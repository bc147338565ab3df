import SdaOrchestrator.Lib.Equality
import SdaOrchestrator.Lib.IpAddress
import SdaOrchestrator.Lib.Url

open python ipaddress regex

namespace orchestrator.ise

def IseErsError (message : String) : Raised := ⟨"IseErsError", message⟩
def IseManifestError (message : String) : Raised := ⟨"IseManifestError", message⟩
def IsePreflightError (message : String) : Raised := ⟨"IsePreflightError", message⟩
def IseCollisionError (message : String) : Raised := ⟨"IseCollisionError", message⟩
def IseVerificationError (message : String) : Raised := ⟨"IseVerificationError", message⟩
def IseRollbackError (message : String) : Raised := ⟨"IseRollbackError", message⟩

/-! ## The kinds of objects -/

inductive Resource where
  | sgt | sgacl | egressmatrixcell
  deriving DecidableEq

namespace Resource

def text : Resource → String
  | sgt => "sgt"
  | sgacl => "sgacl"
  | egressmatrixcell => "egressmatrixcell"

/-- `_RESOURCE_SPECS.get(text)`. -/
def ofText (text : String) : Option Resource :=
  [sgt, sgacl, egressmatrixcell].find? (·.text = text)

def path : Resource → String := text

def root : Resource → String
  | sgt => "Sgt"
  | sgacl => "Sgacl"
  | egressmatrixcell => "EgressMatrixCell"

def strategy : Resource → String
  | egressmatrixcell => "upsert_owned_by_sgt_pair"
  | _ => "upsert_owned_by_name"

def mutable_keys : Resource → List String
  | sgt => ["id", "name", "description", "value", "propogateToApic", "defaultSGACLs"]
  | sgacl => ["id", "name", "description", "aclcontent", "ipVersion", "modelledContent"]
  | egressmatrixcell => ["id", "name", "description", "sourceSgtId", "destinationSgtId",
      "matrixCellStatus", "defaultRule", "sgacls"]

def compare_keys : Resource → List String
  | sgt => ["name", "description", "value", "propogateToApic"]
  | sgacl => ["name", "description", "aclcontent", "ipVersion"]
  | egressmatrixcell => ["description", "sourceSgtId", "destinationSgtId", "matrixCellStatus",
      "defaultRule", "sgacls"]

end Resource

/-! ## Texts -/

def safe_text (longest : Nat) (text : String) : Bool :=
  1 ≤ len text ∧ len text ≤ longest ∧ (chars text).all (alphanumericOr "_.:-")

/-- `_SAFE_ID.fullmatch(text)`. -/
def is_safe_id (text : String) : Bool := safe_text 160 text

/-- `_SAFE_NAME.fullmatch(text)`. -/
def is_safe_name (text : String) : Bool := safe_text 128 text

/-- `str(value or "")`. -/
def text_or_empty (value : Option Value) : String :=
  match value with
  | some value => if value.truthy then value.toStr else ""
  | none => ""

def _nonempty_text (value : Option Value) (label : String) : Py String := do
  let rendered := text_or_empty value
  raise_if (rendered = "" || '\r' ∈ chars rendered || '\x00' ∈ chars rendered)
    (IseManifestError (label ++ " is empty or invalid"))
  return rendered

mutual

/-- `_strings(value)`. -/
def _strings : Value → List String
  | .str text => [text]
  | .list items => strings_of_items items
  | .dict entries => ((assoc.distinct (strings_of_entries entries)).map Prod.snd).flatten
  | _ => []

def strings_of_items : List Value → List String
  | [] => []
  | item :: rest => _strings item ++ strings_of_items rest

def strings_of_entries : List (String × Value) → List (String × List String)
  | [] => []
  | (key, value) :: rest => (key, _strings value) :: strings_of_entries rest

end

/-! ## The operations -/

/-- An accepted operation. -/
structure Operation where
  operation_id : Value
  resource : Resource
  lookup : List (String × Value)
  desired : List (String × Value)

namespace Operation

/-- `str(operation["lookup"][key])`. -/
def lookup_text (operation : Operation) (key : String) : String :=
  Value.optStr (assoc.lookup key operation.lookup)

/-- `operation["desired"]["sgacl_name_refs"]`. -/
def sgacl_name_refs (operation : Operation) : List Value :=
  match assoc.lookup "sgacl_name_refs" operation.desired with
  | some (.list refs) => refs
  | _ => []

end Operation

/-- The names of the accepted operations on a kind of objects. -/
def names (resource : Resource) (operations : List Operation) : List String :=
  (operations.filter (·.resource = resource)).map (·.lookup_text "name")

def is_bool : Option Value → Bool
  | some (.bool _) => true
  | _ => false

def is_str (text : String) : Option Value → Bool
  | some (.str value) => value = text
  | _ => false

/-- The checks of a security group. -/
def _validate_sgt (desired : List (String × Value)) : Py Unit := do
  raise_if (match assoc.lookup "value" desired with
      | some (.int value) => ¬(1 ≤ value ∧ value ≤ 65535)
      | _ => true)
    (IseManifestError "ISE SGT value must be an integer in 1..65535")
  raise_if (!is_bool (assoc.lookup "propogateToApic" desired))
    (IseManifestError "ISE SGT APIC propagation flag must be boolean")

def _validate_sgacl (desired : List (String × Value)) : Py Unit :=
  raise_if (!is_str "IPV4" (assoc.lookup "ipVersion" desired) ||
      match assoc.lookup "aclcontent" desired with
      | some (.str content) => content = "" || '\r' ∈ chars content || '\x00' ∈ chars content
      | _ => true)
    (IseManifestError "ISE SGACL desired state is invalid")

/-- A named object is looked up under the name that it is to have. -/
def _validate_named (done : List Operation) (resource : Resource)
    (lookup desired : List (String × Value)) : Py Unit := do
  let name ← _nonempty_text (assoc.lookup "name" lookup) "ISE resource name"
  raise_if
    (!is_safe_name name || name ≠ ((assoc.lookup "name" desired).getD (.str "")).toStr ||
      name ∈ names resource done)
    (IseManifestError "ISE resource names must be unique and lookup-bound")
  if resource = .sgt then _validate_sgt desired else _validate_sgacl desired

def is_container : Value → Bool
  | .list _ => true
  | .dict _ => true
  | _ => false

def _validate_cell (lookup desired : List (String × Value)) : Py Unit := do
  let source_name ← _nonempty_text (assoc.lookup "source_sgt_name" lookup) "source SGT name"
  let destination_name ←
    _nonempty_text (assoc.lookup "destination_sgt_name" lookup) "destination SGT name"
  raise_if (!is_safe_name source_name || !is_safe_name destination_name || source_name = destination_name)
    (IseManifestError "Egress matrix SGT pair is invalid")
  match assoc.lookup "sgacl_name_refs" desired with
  | some (.list (first :: rest)) =>
    raise_if ((first :: rest).any is_container) (TypeError "unhashable type")
    raise_if (¬ (first :: rest).Pairwise fun ref other => ref.equals other = false)
      (IseManifestError "Egress matrix cell requires unique SGACL name references")
    raise_if (!(first :: rest).all fun ref => is_safe_name ref.toStr)
      (IseManifestError "Egress matrix cell SGACL reference is invalid")
  | _ => .error (IseManifestError "Egress matrix cell requires unique SGACL name references")
  raise_if
    (!is_str "ENABLED" (assoc.lookup "matrixCellStatus" desired) ||
      !is_str "NONE" (assoc.lookup "defaultRule" desired))
    (IseManifestError "Egress matrix cell must be enabled with explicit SGACLs")

/-- The checks of the kind of an operation. -/
def _validate_kind (done : List Operation) (resource : Resource)
    (lookup desired : List (String × Value)) : Py Unit :=
  if resource = .egressmatrixcell then _validate_cell lookup desired
  else _validate_named done resource lookup desired

def _validate_operation (marker : String) (done : List Operation) (operation : Value) :
    Py Operation := do
  match operation with
  | .dict fields =>
    let operation_id ← _nonempty_text (assoc.lookup "operation_id" fields) "operation ID"
    raise_if
      (!is_safe_name operation_id || operation_id ∈ done.map (·.operation_id.toStr))
      (IseManifestError "ISE operation IDs must be unique")
    match Resource.ofText ((assoc.lookup "resource" fields).getD (.str "")).toStr with
    | none => .error (IseManifestError "Unsupported ISE resource")
    | some resource =>
      raise_if (!is_str resource.strategy (assoc.lookup "strategy" fields))
        (IseManifestError "ISE operation strategy does not match its resource")
      raise_if (!is_str "fail_if_unmanaged" (assoc.lookup "collision_policy" fields))
        (IseManifestError "ISE collision policy must fail closed")
      match assoc.lookup "desired" fields, assoc.lookup "lookup" fields with
      | some (.dict desired), some (.dict lookup) =>
        let description ←
          _nonempty_text (assoc.lookup "description" desired) "ISE resource description"
        raise_if ('\n' ∈ chars description || !contains marker description)
          (IseManifestError "Every desired ISE object must carry the ownership marker")
        raise_if ((_strings (.dict desired)).any fun text =>
            contains "secret://" text || contains "<secret:" text)
          (IseManifestError "ISE desired state cannot contain secret references")
        _validate_kind done resource lookup desired
        return {
          operation_id := (assoc.lookup "operation_id" fields).getD .null
          resource
          lookup
          desired }
      | _, _ => .error (IseManifestError "ISE operation requires lookup and desired objects")
  | _ => .error (IseManifestError "ISE operation must be an object")

/-- The operations one after the other, each against those before it. -/
def _validate_operations (marker : String) (done : List Operation) : List Value → Py (List Operation)
  | [] => return done
  | operation :: rest => do
    let accepted ← _validate_operation marker done operation
    _validate_operations marker (done ++ [accepted]) rest

/-- A text that is one of the names. -/
def is_planned (names : List String) : Option Value → Bool
  | some (.str name) => name ∈ names
  | _ => false

/-- The groups and access lists that a cell refers to are planned. -/
def _validate_references (operations : List Operation) (operation : Operation) : Py Unit := do
  if operation.resource = .egressmatrixcell then
    let sgts := names .sgt operations
    raise_if (!is_planned sgts (assoc.lookup "source_sgt_name" operation.lookup))
      (IseManifestError "Egress cell source does not reference a planned SGT")
    raise_if (!is_planned sgts (assoc.lookup "destination_sgt_name" operation.lookup))
      (IseManifestError "Egress cell destination does not reference a planned SGT")
    raise_if (!operation.sgacl_name_refs.all fun ref => is_planned (names .sgacl operations) (some ref))
      (IseManifestError "Egress cell references an unplanned SGACL")
  else return ()

/-! ## The manifest -/

/-- What an accepted manifest says. -/
structure Manifest where
  base_origin : String
  api_hostname : String
  write_node_id : String
  write_node_address : String
  ownership_marker : String
  operations : List Operation

def expected_preconditions : List String := ["ers_read_write_enabled", "write_node_is_primary_pan",
  "trusted_tls_chain", "default_egress_matrix_is_deny"]

/-- The origin of the API and its host. -/
def _validate_origin (text : String) : Py (String × String) := do
  let parsed ← url.urlparse text
  let truthy (part : Option (List Char)) : Bool := part.any (· ≠ [])
  raise_if
    (parsed.scheme ≠ ['h', 't', 't', 'p', 's'] || parsed.hostname.isNone ||
      truthy (parsed.userinfo.map Prod.fst) || truthy (parsed.userinfo.bind Prod.snd) ||
      parsed.query ≠ [] || parsed.fragment ≠ [] || (parsed.path ≠ [] && parsed.path ≠ ['/']))
    (IseManifestError "ISE API base URL must be an origin-only HTTPS URL")
  let invalid := IseManifestError "ISE API base URL port is invalid"
  match parsed.port with
  | .error _ => .error invalid
  | .ok port => raise_if (port.any fun value => value < 1 || 65535 < value) invalid
  return (String.ofList (parsed.scheme ++ [':', '/', '/'] ++ parsed.netloc),
    String.ofList (parsed.hostname.getD []))

/-- The contract on ownership; returns the marker. -/
def _validate_ownership (manifest : Value) : Py String := do
  let ownership := match ← manifest.get "ownership" with
    | some value => if value.truthy then value else .dict []
    | none => .dict []
  let marker ← _nonempty_text (← ownership.get "marker") "ownership marker"
  raise_if ('\n' ∈ chars marker) (IseManifestError "Ownership marker cannot contain line breaks")
  raise_if (!is_str "fail" (← ownership.get "unmanaged_collision"))
    (IseManifestError "ISE unmanaged collisions must fail")
  raise_if
    (!is_str "new_owned_resources_only_during_verified_rollback" (← ownership.get "delete_policy"))
    (IseManifestError "ISE deletion policy is unsupported")
  raise_if
    (!is_str "restore_prechange_snapshots_and_delete_only_new_owned_resources"
      (← manifest.get "rollback"))
    (IseManifestError "ISE rollback contract is unsupported")
  return marker

def _validate_preconditions (manifest : Value) : Py Unit := do
  let preconditions ← match ← manifest.get "preconditions" with
    | some value => if value.truthy then value.elements else pure []
    | none => pure []
  raise_if
    (preconditions.length ≠ 4 ||
      !expected_preconditions.all fun name => preconditions.any fun item => item.equals (.str name))
    (IseManifestError "ISE precondition contract is incomplete")
  raise_if (!is_str "auto" (← manifest.get "csrf_mode")) (IseManifestError "ISE CSRF mode must be auto")

def _validate_manifest (manifest : Value) : Py Manifest := do
  raise_if (!is_str "cisco_ise_ers" (← manifest.get "type"))
    (IseManifestError "Unsupported external-system type")
  raise_if (!is_str "1.0" (← manifest.get "executor_contract_version"))
    (IseManifestError "Unsupported ISE executor contract version")
  raise_if (match ← manifest.get "contains_secret_values" with | some (.bool flag) => flag | _ => true)
    (IseManifestError "ISE manifest must assert that it contains no secret values")
  raise_if (match ← manifest.get "tls_verify" with | some (.bool flag) => !flag | _ => true)
    (IseManifestError "ISE TLS verification cannot be disabled")
  let (base_origin, api_hostname) ←
    _validate_origin (← manifest.getD "api_base_url" (.str "")).toStr
  raise_if (!startswith (← manifest.getD "credential_ref" (.str "")).toStr "secret://")
    (IseManifestError "ISE credentials must use a secret:// reference")
  let write_node_id ← _nonempty_text (← manifest.get "write_node_id") "ISE write-node ID"
  raise_if (!is_safe_name write_node_id) (IseManifestError "ISE write-node ID is invalid")
  let write_node_address := (← manifest.getD "write_node_address" (.str "")).toStr
  raise_if (ipv4_address? (chars write_node_address)).isNone
    (IseManifestError "ISE write-node address must be IPv4")
  let ownership_marker ← _validate_ownership manifest
  _validate_preconditions manifest
  match ← manifest.get "operations" with
  | some (.list operations) =>
    raise_if (operations.length < 1 || 10000 < operations.length)
      (IseManifestError "ISE manifest requires operations")
    let accepted ← _validate_operations ownership_marker [] operations
    accepted.forM (_validate_references accepted)
    return {
      base_origin
      api_hostname
      write_node_id
      write_node_address
      ownership_marker
      operations := accepted }
  | _ => .error (IseManifestError "ISE manifest requires operations")

end orchestrator.ise
