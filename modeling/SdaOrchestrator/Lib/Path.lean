import SdaOrchestrator.Lib.Python

/-! POSIX paths and the files behind them. -/

namespace python

/-- `PurePosixPath`. -/
structure Path where
  root : String
  parts : List String
  deriving DecidableEq

/-- What stands between the slashes of a text. -/
def splitSlashes : List Char → List (List Char)
  | [] => [[]]
  | c :: rest =>
    if c = '/' then [] :: splitSlashes rest
    else
      match splitSlashes rest with
      | first :: others => (c :: first) :: others
      | [] => [[c]]

namespace Path

/-- `Path(text)`. -/
def of_text (text : String) : Path where
  root :=
    if startswith text "//" && !startswith text "///" then "//"
    else if startswith text "/" then "/"
    else ""
  parts := ((splitSlashes (chars text)).map String.ofList).filter fun part => part ≠ "" ∧ part ≠ "."

/-- `path / other`. -/
def join (path other : Path) : Path :=
  if other.root ≠ "" then other else ⟨path.root, path.parts ++ other.parts⟩

/-- `path.relative_to(other)` raises nothing. -/
def is_relative_to (path other : Path) : Bool :=
  path.root = other.root && other.parts.isPrefixOf path.parts

/-- The path leads into a directory. -/
def Inside (directory path : Path) : Prop :=
  path.root = directory.root ∧ directory.parts <+: path.parts

theorem is_relative_to_iff {path other : Path} : path.is_relative_to other ↔ other.Inside path := by
  simp [is_relative_to, Inside]

example : (of_text "/srv/registry").join (of_text "reports/./a.json") = of_text "/srv/registry/reports/a.json" := by
  decide

end Path

/-- What a program reads of the files. -/
structure Filesystem where
  resolve : Path → Py Path
  is_file : Path → Bool
  read_bytes : Path → Py (List UInt8)

end python
