import SdaOrchestrator.Api.UnquotedScalars
import SdaOrchestrator.Lib.Equality
import SdaOrchestrator.Store.Platform

open python regex orchestrator.store

namespace orchestrator.auth

def AuthenticationConfigError (message : String) : Raised := ⟨"AuthenticationConfigError", message⟩

/-- The roles of `ALLOWED_ROLES`. -/
inductive Role where
  | viewer
  | planner
  | approver
  | operator
  | auditor
  deriving DecidableEq, Repr

def Role.text : Role → String
  | .viewer => "viewer"
  | .planner => "planner"
  | .approver => "approver"
  | .operator => "operator"
  | .auditor => "auditor"

def ALLOWED_ROLES : List Role := [.viewer, .planner, .approver, .operator, .auditor]

/-- `TOKEN_DIGEST.fullmatch(text)`. -/
def TOKEN_DIGEST (text : String) : Bool := api.between 64 64 api.hexadecimal (chars text)

/-- `ACTOR.fullmatch(text)`. -/
def ACTOR (text : String) : Bool := api.between 1 128 (alphanumericOr "_.:@-") (chars text)

/-- Who a token stands for, with at least one role. -/
structure Principal where
  actor : String
  roles : List Role
  actor_ok : ACTOR actor = true
  roles_ok : roles ≠ []

/-- A token too short or of several lines has no digest. -/
def token_sha256 (platform : Platform) (token : String) : String :=
  if len token < 32 || contains "\n" token || contains "\r" token then "" else platform.sha256 (chars token)

/-! ## The token file -/

def S_IFMT : Nat := 0o170000
def S_IFREG : Nat := 0o100000
def S_IRWXG : Nat := 0o070
def S_IRWXO : Nat := 0o007

/-- A file as the operating system shows it. -/
structure TokenFile where
  st_mode : Nat
  read_text : Option String

/-- The role of a text, if it is allowed. -/
def Role.of_text (role : String) : Option Role := ALLOWED_ROLES.find? (·.text = role)

/-- A principal of the file. -/
def read_principal (raw_principal : Value) : Py Principal := do
  raise_if (!raw_principal.isMapping) (AuthenticationConfigError "Token identity principal is invalid")
  let actor := (← raw_principal.getD "actor" (.str "")).toStr
  let roles ← raw_principal.get "roles"
  if hactor : ACTOR actor = true then
    match roles with
    | some (.list (first :: rest)) =>
      let normalized_roles := sortedSet ((first :: rest).map Value.toStr)
      let roles := normalized_roles.filterMap Role.of_text
      if hroles : roles ≠ [] ∧ roles.length = normalized_roles.length then
        return { actor, roles, actor_ok := hactor, roles_ok := hroles.1 }
      else .error (AuthenticationConfigError "Token identity contains an unsupported role")
    | _ => .error (AuthenticationConfigError "Token identity roles are invalid")
  else .error (AuthenticationConfigError "Token identity actor is invalid")

/-- An entry of the identities of the file. -/
def read_identity (entry : String × Value) : Py (String × Principal) := do
  raise_if (!TOKEN_DIGEST entry.1) (AuthenticationConfigError "Token identity digest is invalid")
  return (entry.1, ← read_principal entry.2)

/-- The principals of a token file by the digests of their tokens; `nt` is a system without file modes. -/
def load_hashed_token_identities (parse_float : List Char → ℚ × String) (nt : Bool) (file : Option TokenFile) :
    Py (List (String × Principal)) := do
  let details ← match file with
    | some details => Except.ok details
    | none => .error (AuthenticationConfigError "Token identity file is unavailable")
  raise_if (details.st_mode &&& S_IFMT ≠ S_IFREG)
    (AuthenticationConfigError "Token identity path must be a regular file")
  raise_if (!nt && details.st_mode &&& (S_IRWXG ||| S_IRWXO) ≠ 0)
    (AuthenticationConfigError "Token identity file must not be accessible by group or other")
  let document ← match details.read_text.bind fun text => json.loads parse_float (chars text) with
    | some document => Except.ok document
    | none => .error (AuthenticationConfigError "Token identity file is invalid")
  match document with
  | .dict entries =>
    raise_if (!(assoc.lookup "version" entries).any (·.equals (.int 1)))
      (AuthenticationConfigError "Token identity file version is unsupported")
    match assoc.lookup "identities" entries with
    | some (.dict (first :: rest)) => (assoc.distinct (first :: rest)).mapM read_identity
    | _ => .error (AuthenticationConfigError "Token identity file has no identities")
  | _ => .error (AuthenticationConfigError "Token identity file version is unsupported")

/-- The principal of a bearer token: every configured digest is compared. -/
def match_hashed_principal (platform : Platform) (supplied_token : String)
    (identities : List (String × Principal)) : Option Principal :=
  let supplied_digest := token_sha256 platform supplied_token
  if supplied_digest = "" then none
  else
    identities.foldl (fun matched entry => if supplied_digest = entry.1 then some entry.2 else matched) none

end orchestrator.auth
