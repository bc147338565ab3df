import SdaOrchestrator.Lib.Loops
import SdaOrchestrator.Lib.Regex
import SdaOrchestrator.Intent.Document
import SdaOrchestrator.Intent.Issues
import SdaOrchestrator.Store.Tables

open python ipaddress regex orchestrator.store

namespace orchestrator.renderer

open orchestrator.intent

def RenderError (message : String) : Raised := ⟨"RenderError", message⟩

def StopIteration : Raised := ⟨"StopIteration", ""⟩

/-! ## Loops that may raise -/

section Loops

variable {α β : Type}

/-- The blocks of a loop that appends some in every round. -/
def collect (items : List α) (body : α → Py (List β)) : Py (List β) := do
  return (← items.mapM body).flatten

theorem mem_of_collect {items : List α} {body : α → Py (List β)} {results : List β}
    (hok : collect items body = .ok results) {result : β} (hresult : result ∈ results) :
    ∃ item ∈ items, ∃ found, body item = .ok found ∧ result ∈ found := by
  simp only [collect, bind_eq_ok_iff, pure_eq_ok_iff] at hok
  obtain ⟨nested, hnested, rfl⟩ := hok
  obtain ⟨found, hfound, hmem⟩ := List.mem_flatten.mp hresult
  obtain ⟨item, hitem, hbody⟩ := mem_of_mapM hnested hfound
  exact ⟨item, hitem, found, hbody, hmem⟩

theorem exists_of_collect {items : List α} {body : α → Py (List β)} {results : List β}
    (hok : collect items body = .ok results) {item : α} (hitem : item ∈ items) :
    ∃ found, body item = .ok found ∧ ∀ result ∈ found, result ∈ results := by
  simp only [collect, bind_eq_ok_iff, pure_eq_ok_iff] at hok
  obtain ⟨nested, hnested, rfl⟩ := hok
  obtain ⟨found, hfound, hbody⟩ := exists_of_mapM hnested hitem
  exact ⟨found, hbody, fun result hresult => List.mem_flatten.mpr ⟨found, hfound, hresult⟩⟩

theorem collect_eq_flatMap {items : List α} {body : α → Py (List β)} {g : α → List β}
    {results : List β} (hok : collect items body = .ok results)
    (hbody : ∀ item found, body item = .ok found → found = g item) :
    results = items.flatMap g := by
  simp only [collect, bind_eq_ok_iff, pure_eq_ok_iff] at hok
  obtain ⟨nested, hnested, rfl⟩ := hok
  rw [eq_map_of_mapM hnested hbody, List.flatMap_def]

end Loops

/-! ## Safe texts -/

/-- `SAFE_TEXT` and `SAFE_TOKEN`, which has no space. -/
def safe_text (spaces : Bool) (text : String) : Bool :=
  text ≠ "" && (chars text).all (alphanumericOr (if spaces then "_.:/ -" else "_.:/-"))

/-- `_safe(value, label, spaces)` of a text. -/
def _safe (value label : String) (spaces : Bool) : Py String := do
  raise_if (!safe_text spaces value) (RenderError ("Unsafe value for " ++ label))
  return value

@[simp] theorem safe_eq_ok_iff {value label rendered : String} {spaces : Bool} :
    _safe value label spaces = .ok rendered ↔ safe_text spaces value ∧ value = rendered := by
  simp only [_safe, bind_eq_ok_iff, raise_if_eq_ok, pure_eq_ok_iff, Bool.not_eq_false', exists_const]

/-- `_safe(value, label)`. -/
def safe (value label : String) : Py String := _safe value label false

/-- `_safe(value, label, True)`. -/
def safe_spaced (value label : String) : Py String := _safe value label true

@[simp] theorem safe_token_eq_ok_iff {value label rendered : String} :
    safe value label = .ok rendered ↔ safe_text false value ∧ value = rendered :=
  safe_eq_ok_iff

@[simp] theorem safe_spaced_eq_ok_iff {value label rendered : String} :
    safe_spaced value label = .ok rendered ↔ safe_text true value ∧ value = rendered :=
  safe_eq_ok_iff

/-- `text.upper()` of hexadecimal digits. -/
def upper (text : String) : String := String.ofList ((chars text).map Char.toUpper)

/-- `sha256_json(str(value))[:12].upper()`. -/
def short_digest (platform : Platform) (value : String) : String :=
  upper (take 12 (platform.sha256_json (.str value)))

/-- `_policy_name(kind, value)`; every kind is a safe text. -/
def _policy_name (platform : Platform) (kind value : String) : String :=
  s!"SDA-{kind}-" ++ short_digest platform value

private def three_digits (octet : Nat) : String :=
  let digits := chars (toString octet)
  String.ofList (List.replicate (3 - digits.length) '0' ++ digits)

/-- `_isis_net(loopback_ip, area)`. -/
def _isis_net (loopback_ip : IPv4Address) (area : String) : Py String := do
  let digits := chars (join "" (loopback_ip.octets.map three_digits))
  let part (start : Nat) : String := String.ofList ((digits.drop start).take 4)
  let system_id := part 0 ++ "." ++ part 4 ++ "." ++ part 8
  return (← safe area "IS-IS area") ++ "." ++ system_id ++ ".00"

/-- `ip_network(str(text))`. -/
def network_of (text : String) : Py IPv4Network :=
  match ip_network text with
  | .ipv4 network => .ok network
  | _ => .error (ValueError (reprText text ++ " does not appear to be an IPv4 network"))

@[simp] theorem network_of_eq_ok_iff {text : String} {network : IPv4Network} :
    network_of text = .ok network ↔ ipv4_network (some text) = some network := by
  simp only [network_of, ipv4_network, Option.bind_some]
  cases ip_network text <;> simp

/-! ## Blocks -/

/-- A configuration block. -/
structure Block where
  block_id : String
  owned_resource_key : Option String
  commands : List String
  command_hash : String
  secret_refs : List String

def Block.document (block : Block) : Value :=
  .dict (field "block_id" (.str block.block_id) ++
    optional "owned_resource_key" block.owned_resource_key .str ++
    field "commands" (texts block.commands) ++ field "command_hash" (.str block.command_hash) ++
    field "secret_refs" (texts block.secret_refs))

/-- `_block(block_id, commands, secret_refs)`. -/
def _block (platform : Platform) (block_id : String) (commands secret_refs : List String) : Block :=
  let filtered := commands.filter (· ≠ "")
  { block_id
    owned_resource_key := none
    commands := filtered
    command_hash := platform.sha256_json (texts filtered)
    secret_refs := sortedSet secret_refs }

/-- `_block(block_id, commands)`. -/
def plain_block (platform : Platform) (block_id : String) (commands : List String) : Block :=
  _block platform block_id commands []

/-- `_device_roles(intent, role)`. -/
def _device_roles (intent : FabricIntent) (role : Role) : List Device :=
  sortedBy (·.id) (intent.devices.filter (role ∈ ·.roles))

/-- `{str(item["id"]): item for item in intent["devices"]}`. -/
def devices_by_id (devices : List Device) : List (String × Device) :=
  dict_of (devices.map fun device => (device.id, device))

/-- `text.replace(old, new)` of single characters. -/
def replace (old new : Char) (text : String) : String :=
  String.ofList ((chars text).map fun c => if c = old then new else c)

end orchestrator.renderer
