import SdaOrchestrator.Ise.Adapter
import SdaOrchestrator.Store.Cpython

open python effects

namespace orchestrator.ise

open orchestrator.store (cpython)

/-! A manifest, a server and an environment on which the transaction is evaluated. -/

def lab_marker : String := "managed-by:meraki-dynamic-sda"

def lab_document (operations : List Value) : Value := .dict [
  ("type", .str "cisco_ise_ers"),
  ("executor_contract_version", .str "1.0"),
  ("contains_secret_values", .bool false),
  ("write_node_id", .str "ise-01"),
  ("write_node_address", .str "192.0.2.10"),
  ("api_base_url", .str "https://ise-01.example.test"),
  ("credential_ref", .str "secret://test/ise"),
  ("tls_verify", .bool true),
  ("csrf_mode", .str "auto"),
  ("ownership", .dict [
    ("marker", .str lab_marker),
    ("unmanaged_collision", .str "fail"),
    ("delete_policy", .str "new_owned_resources_only_during_verified_rollback")]),
  ("preconditions", .list [.str "ers_read_write_enabled", .str "write_node_is_primary_pan",
    .str "trusted_tls_chain", .str "default_egress_matrix_is_deny"]),
  ("operations", .list operations),
  ("rollback", .str "restore_prechange_snapshots_and_delete_only_new_owned_resources")]

def lab_operation (operation_id resource strategy : String) (lookup desired : Fields) : Value := .dict [
  ("operation_id", .str operation_id),
  ("resource", .str resource),
  ("strategy", .str strategy),
  ("collision_policy", .str "fail_if_unmanaged"),
  ("lookup", .dict lookup),
  ("desired", .dict desired)]

def lab_sgt (name description : String) (value : Int) : Fields := [
  ("name", .str name),
  ("description", .str description),
  ("value", .int value),
  ("propogateToApic", .bool false)]

def lab_sgt_operation (name : String) (value : Int) : Value :=
  lab_operation ("sgt-" ++ name) "sgt" "upsert_owned_by_name" [("name", .str name)]
    (lab_sgt name (lab_marker ++ " group") value)

def lab_sgacl (name : String) : Fields := [
  ("name", .str name),
  ("description", .str (lab_marker ++ " contract")),
  ("ipVersion", .str "IPV4"),
  ("aclcontent", .str "permit ip")]

def lab_sgacl_operation (name : String) : Value :=
  lab_operation ("sgacl-" ++ name) "sgacl" "upsert_owned_by_name" [("name", .str name)] (lab_sgacl name)

def lab_cell_operation (operation_id source destination sgacl : String) : Value :=
  lab_operation operation_id "egressmatrixcell" "upsert_owned_by_sgt_pair"
    [("source_sgt_name", .str source), ("destination_sgt_name", .str destination)]
    [("description", .str (lab_marker ++ " cell")), ("matrixCellStatus", .str "ENABLED"),
      ("defaultRule", .str "NONE"), ("sgacl_name_refs", .list [.str sgacl])]

/-- What `_validate_manifest` makes of a document that it accepts. -/
def lab_manifest (document : Value) : Manifest :=
  match _validate_manifest document with
  | .ok manifest => manifest
  | .error _ => ⟨"", "", "", "", "", []⟩

theorem lab_manifest_valid {document : Value} (haccepted : (_validate_manifest document).isOk) :
    _validate_manifest document = .ok (lab_manifest document) := by
  obtain ⟨manifest, hmanifest⟩ := isOk_iff.mp haccepted
  rw [lab_manifest, hmanifest]

def lab_deployment : Value := .dict [("response", .list [.dict [
  ("hostname", .str "ise-01.example.test"),
  ("ipAddress", .str "192.0.2.10"),
  ("roles", .list [.str "PrimaryAdmin"])]])]

/-- A server with nothing but its default cell. -/
def lab_empty_server : Server where
  objects
    | .egressmatrixcell => [("default-cell", [
        ("id", .str "default-cell"),
        ("name", .str "ANY-ANY"),
        ("description", .str "ISE default egress policy"),
        ("sourceSgtId", .str "any"),
        ("destinationSgtId", .str "any"),
        ("matrixCellStatus", .str "ENABLED"),
        ("defaultRule", .str "DENY_IP"),
        ("sgacls", .list [])])]
    | _ => []
  deployment := lab_deployment
  keyed resource := by cases resource <;> decide
  identified resource := by cases resource <;> simp [assoc.lookup_cons]

/-- Requests are answered but for those with another outcome; new objects are numbered. -/
def lab_environment (outcome : Nat → Outcome) : Environment where
  platform := cpython
  lower text := String.ofList ((chars text).map Char.toLower)
  outcome := outcome
  fresh_id sent := "object-" ++ toString sent

end orchestrator.ise
