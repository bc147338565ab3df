import SdaOrchestrator.Lib.Query
import SdaOrchestrator.Lib.Regex
import SdaOrchestrator.Store.Platform

open python effects regex regex.Regex

namespace orchestrator.adapters

open orchestrator.store (Platform)

def AdapterError (message : String) : Raised := ⟨"AdapterError", message⟩
def ConfigurationRejectedError (message : String) : Raised := ⟨"ConfigurationRejectedError", message⟩

/-! ## Texts of a device -/

/-- `text.lower()`, except that letters outside ASCII whose lower case is outside ASCII
stay as they are. -/
def lower (text : String) : String :=
  String.ofList ((chars text).flatMap fun c =>
    if c.toNat = 0x212a then ['k']
    else if c.toNat = 0x130 then ['i', Char.ofNat 0x307]
    else [c.toLower])

/-- The letter that `re.IGNORECASE` takes a character for. -/
def ignore_case (c : Char) : Char :=
  if c.toNat = 0x212a then 'k'
  else if c.toNat = 0x17f then 's'
  else if c.toNat = 0x130 ∨ c.toNat = 0x131 then 'i'
  else c.toLower

/-- The characters of a lower case text, in any case. -/
def literal_ignoring_case (text : String) : Regex :=
  text.toList.foldr (fun c rest => .seq (.oneOf fun d => ignore_case d == c) rest) .epsilon

/-- `\s*`. -/
def spaces : Regex := .star (.oneOf isSpace)

/-- Any text. -/
def anything : Regex := .star (.oneOf fun _ => true)

/-- `re.search` for `^...` with `re.MULTILINE`: the match starts at the start of a line. -/
def search_from_line_start (pattern : Regex) (text : String) : Bool :=
  fullmatch (concat [optional (.seq anything (literal "\n")), pattern, anything]) text

/-- `re.search` for `^...$` with `re.MULTILINE`: the match also ends at the end of a line. -/
def search_lines (pattern : Regex) (text : String) : Bool :=
  fullmatch (concat [
    optional (.seq anything (literal "\n")), pattern, optional (.seq (literal "\n") anything)]) text

def SAFE_SHOW : Regex := concat [literal "show ", plus (.oneOf (alphanumericOr "_.:/|,() ^$-"))]

def SAFE_RUN_ID : Regex := plus (.oneOf (alphanumericOr "_-"))

def SAFE_CHECKPOINT : Regex :=
  concat [literal "flash:sda-", plus (.oneOf (alphanumericOr "_-")), literal ".cfg"]

def CLI_ERROR : Regex :=
  concat [
    literal "%", spaces,
    anyOf [
      literal_ignoring_case "invalid input", literal_ignoring_case "incomplete command",
      literal_ignoring_case "ambiguous command", literal_ignoring_case "error",
      literal_ignoring_case "failed"]]

def NO_CONFIG_DIFFERENCES : Regex :=
  concat [spaces, optional (literal "!"), spaces, literal_ignoring_case "no changes were found", spaces]

/-! ## The adapter -/

/-- What the adapter sends over its connection. -/
inductive Sent where
  | send_command (command : String)
  | send_command_timing (command : String)
  | send_config_set (commands : List String)

/-- What the adapter does, given the texts that the device answers. -/
abbrev Session := Query Sent (fun _ => String) Raised

/-- `hashlib.sha256(text.encode("utf-8")).hexdigest()`. -/
def text_hash (platform : Platform) (text : String) : Value := .str (platform.sha256 (chars text))

/-- `_require_connection()`: the connection is open. -/
def _require_connection (connection : Bool) : Session Unit :=
  Query.lift (raise_if (!connection) (AdapterError "Device connection is not open"))

def run_show (platform : Platform) (connection : Bool) (command : String) : Session Value := do
  Query.lift (raise_if (!SAFE_SHOW.fullmatch command || contains "\n" command || contains "\r" command)
    (ConfigurationRejectedError "Only bounded show commands are allowed"))
  _require_connection connection
  let output ← Query.fetch (.send_command command)
  return .dict [
    ("command", .str command), ("output", .str output), ("output_hash", text_hash platform output)]

/-- The file on the flash of a device that holds the checkpoint of a run. -/
def checkpoint_file (run_id : String) : String := "sda-" ++ take 40 run_id ++ ".cfg"

/-- The copy, confirmed when the device asks for its destination. -/
def copy_running_config (filename : String) : Session String := do
  let response ← Query.fetch (.send_command_timing ("copy running-config flash:" ++ filename))
  if contains "destination filename" (lower response) then
    let confirmation ← Query.fetch (.send_command_timing "")
    return response ++ confirmation
  else return response

def create_checkpoint (platform : Platform) (connection : Bool) (run_id : String) : Session Value := do
  Query.lift (raise_if (!SAFE_RUN_ID.fullmatch run_id) (ConfigurationRejectedError "Unsafe run ID"))
  _require_connection connection
  let filename := checkpoint_file run_id
  let response ← copy_running_config filename
  let verification ← Query.fetch (.send_command ("dir flash:" ++ filename))
  Query.lift (raise_if (!contains (lower filename) (lower verification))
    (AdapterError "Checkpoint file was not found after copy"))
  return .dict [
    ("checkpoint", .str ("flash:" ++ filename)),
    ("copy_output_hash", text_hash platform response),
    ("verified", .bool true)]

/-- One command of a block, as it is sent. -/
def bounded_command (command : String) : Py Unit := do
  raise_if (contains "\n" command || contains "\r" command)
    (ConfigurationRejectedError "Embedded line breaks are forbidden")
  raise_if (contains "<secret:" command) (ConfigurationRejectedError "Unresolved secret placeholder")

def apply_block (platform : Platform) (connection : Bool) (commands : List String) : Session Value := do
  Query.lift (raise_if commands.isEmpty (ConfigurationRejectedError "Configuration block is empty"))
  Query.lift (commands.forM bounded_command)
  _require_connection connection
  let output ← Query.fetch (.send_config_set commands)
  Query.lift (raise_if (search_from_line_start CLI_ERROR output)
    (AdapterError "IOS XE rejected one or more configuration commands"))
  return .dict [
    ("command_count", .int commands.length),
    ("command_hash", text_hash platform (join "\n" commands)),
    ("output_hash", text_hash platform output)]

def rollback (platform : Platform) (connection : Bool) (checkpoint : String) : Session Value := do
  Query.lift (raise_if (!SAFE_CHECKPOINT.fullmatch checkpoint)
    (ConfigurationRejectedError "Checkpoint path is not managed by this service"))
  _require_connection connection
  let output ← Query.fetch (.send_command_timing ("configure replace " ++ checkpoint ++ " force"))
  Query.lift (raise_if (search_from_line_start CLI_ERROR output)
    (AdapterError "IOS XE configure-replace rollback failed"))
  let verification ← Query.fetch
    (.send_command ("show archive config differences " ++ checkpoint ++ " system:running-config"))
  Query.lift (raise_if
    (search_from_line_start CLI_ERROR verification || !search_lines NO_CONFIG_DIFFERENCES verification)
    (AdapterError "Rollback verification found configuration differences"))
  return .dict [
    ("checkpoint", .str checkpoint),
    ("output_hash", text_hash platform output),
    ("verification_output_hash", text_hash platform verification),
    ("verified", .bool true)]

end orchestrator.adapters
