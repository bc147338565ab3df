import Mathlib.Data.List.TakeWhile
import SdaOrchestrator.Lib.Python
import SdaOrchestrator.Lib.Regex

/-! What `urllib.parse.urlparse` reads off a text. A host that is not ASCII and the
content of a bracketed host are taken as they are. -/

open python regex

namespace url

/-- `text.partition(separator)`: what stands before and, if there is one, after the first separator. -/
def partition (separator : Char) (text : List Char) : List Char × Option (List Char) :=
  match text.dropWhile (· ≠ separator) with
  | [] => (text, none)
  | _ :: rest => (text.takeWhile (· ≠ separator), some rest)

/-- `text.rpartition(separator)`, from the end. -/
def rpartition (separator : Char) (text : List Char) : Option (List Char) × List Char :=
  match partition separator text.reverse with
  | (last, none) => (none, last.reverse)
  | (last, some first) => (some first.reverse, last.reverse)

theorem partition_of_not_mem {separator : Char} {text : List Char} (h : separator ∉ text) :
    partition separator text = (text, none) := by
  have hdrop : text.dropWhile (· ≠ separator) = [] := by
    rw [List.dropWhile_eq_nil_iff]
    intro c hc
    exact decide_eq_true fun heq => h (heq ▸ hc)
  rw [partition, hdrop]

theorem partition_append {separator : Char} {first rest : List Char} (h : separator ∉ first) :
    partition separator (first ++ separator :: rest) = (first, some rest) := by
  have hall : ∀ c ∈ first, decide (c ≠ separator) = true :=
    fun c hc => decide_eq_true fun heq => h (heq ▸ hc)
  rw [partition, List.dropWhile_append_of_pos hall, List.takeWhile_append_of_pos hall]
  simp

theorem rpartition_of_not_mem {separator : Char} {text : List Char} (h : separator ∉ text) :
    rpartition separator text = (none, text) := by
  rw [rpartition, partition_of_not_mem (mt List.mem_reverse.mp h)]
  simp only [List.reverse_reverse]

structure ParseResult where
  scheme : List Char
  netloc : List Char
  path : List Char
  query : List Char
  fragment : List Char

private def scheme_char (c : Char) : Bool := alphanumericOr "+-." c

/-- The schemes whose last path segment may carry parameters. -/
private def uses_params : List String := ["", "ftp", "hdl", "prospero", "http", "imap", "https",
  "shttp", "rtsp", "rtsps", "rtspu", "sip", "sips", "mms", "sftp", "tel"]

/-- The scheme of a text and the rest. -/
def split_scheme (text : List Char) : List Char × List Char :=
  match partition ':' text with
  | (scheme, some rest) =>
    match scheme with
    | first :: _ =>
      if isAsciiLetter first && scheme.all scheme_char then (scheme.map Char.toLower, rest)
      else ([], text)
    | [] => ([], text)
  | (_, none) => ([], text)

/-- The network location of what follows the scheme, and the rest. -/
def split_netloc : List Char → List Char × List Char
  | '/' :: '/' :: rest =>
    let delimiter (c : Char) : Bool := c = '/' || c = '?' || c = '#'
    (rest.takeWhile (!delimiter ·), rest.dropWhile (!delimiter ·))
  | rest => ([], rest)

/-- The path without the parameters of its last segment. -/
def split_params (path : List Char) : List Char :=
  match rpartition '/' path with
  | (none, segment) => (partition ';' segment).1
  | (some first, segment) => first ++ '/' :: (partition ';' segment).1

/-- `urlparse(text)`. -/
def urlparse (text : String) : Py ParseResult := do
  let stripped := (chars text).dropWhile fun c => c.toNat ≤ 32
  let (scheme, rest) := split_scheme (stripped.filter fun c => c ≠ '\t' ∧ c ≠ '\r' ∧ c ≠ '\n')
  let (netloc, rest) := split_netloc rest
  raise_if (('[' ∈ netloc) ≠ (']' ∈ netloc)) (ValueError "Invalid IPv6 URL")
  let (rest, fragment) := partition '#' rest
  let (path, query) := partition '?' rest
  return {
    scheme
    netloc
    path := if String.ofList scheme ∈ uses_params then split_params path else path
    query := query.getD []
    fragment := fragment.getD [] }

namespace ParseResult

/-- `parsed.username` and `parsed.password`. -/
def userinfo (parsed : ParseResult) : Option (List Char × Option (List Char)) :=
  (rpartition '@' parsed.netloc).1.map (partition ':')

/-- The host and the port of the network location. -/
def hostinfo (parsed : ParseResult) : List Char × Option (List Char) :=
  let host := (rpartition '@' parsed.netloc).2
  match partition '[' host with
  | (_, some bracketed) =>
    let (name, rest) := partition ']' bracketed
    (name, (partition ':' (rest.getD [])).2)
  | (_, none) => partition ':' host

/-- `parsed.hostname`. -/
def hostname (parsed : ParseResult) : Option (List Char) :=
  match parsed.hostinfo.1 with
  | [] => none
  | name => some (name.map Char.toLower)

/-- `parsed.port`. -/
def port (parsed : ParseResult) : Py (Option Nat) :=
  match parsed.hostinfo.2 with
  | none => .ok none
  | some digits =>
    let value := digits.foldl (fun total c => total * 10 + (c.toNat - '0'.toNat)) 0
    if digits.isEmpty || !digits.all isAsciiDigit then
      .error (ValueError "Port could not be cast to integer value")
    else if 65535 < value then .error (ValueError "Port out of range 0-65535")
    else .ok (some value)

end ParseResult

end url
