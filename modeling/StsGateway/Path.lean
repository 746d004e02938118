import StsGateway.Rust

namespace StsGateway

/-! `std::path` on Unix, as far as the gateway derives paths with it. -/

/-- A path by its components. Rust parses a path into the same list, so two
texts with equal components are the same path. -/
structure PathBuf where
  absolute : Bool
  components : List String
deriving DecidableEq, Repr

namespace PathBuf

def splitSlash : List Char → List (List Char)
  | [] => [[]]
  | letter :: rest =>
      if letter = '/' then [] :: splitSlash rest
      else match splitSlash rest with
        | [] => [[letter]]
        | part :: parts => (letter :: part) :: parts

/-- Repeated slashes and `.` name nothing, except that a leading `.` stays. -/
def new (text : String) : PathBuf :=
  let parts := (splitSlash text.toList).map String.ofList
  { absolute := text.toList.head? == some '/'
    components := (parts.take 1).filter (· ≠ "") ++
      (parts.drop 1).filter fun part => part ≠ "" ∧ part ≠ "." }

/-- Joining an absolute path replaces the base. -/
def join (path other : PathBuf) : PathBuf :=
  if other.absolute then other
  else { path with components := path.components ++ other.components.filter (· ≠ ".") }

def fileName (path : PathBuf) : Option String :=
  path.components.getLast?.filter fun name => name ≠ "." ∧ name ≠ ".."

/-- The name up to its last dot; a name whose only dot comes first has no extension. -/
def fileStem (name : String) : String :=
  match (name.toList.reverse.dropWhile (· ≠ '.')).tail.reverse with
  | [] => name
  | stem => String.ofList stem

def withExtension (path : PathBuf) (extension : String) : PathBuf :=
  match path.fileName with
  | none => path
  | some name =>
      { path with components := path.components.dropLast ++ [fileStem name ++ "." ++ extension] }

end PathBuf

def endsWith (text suffix : String) : Bool := suffix.toList.isSuffixOf text.toList

/-- `str::replace` of one character, as `replace(" ", "_")` uses it. -/
def replaceChar (text : String) (old new : Char) : String :=
  String.ofList (text.toList.map fun letter => if letter = old then new else letter)

example : PathBuf.new "./testing//db/./data.db" = ⟨false, [".", "testing", "db", "data.db"]⟩ := by
  decide

example : (PathBuf.new "backup/gw:2022-04-01T10:00:00.5+02:00.db").withExtension "db.zst" =
    PathBuf.new "backup/gw:2022-04-01T10:00:00.5+02:00.db.zst" := by decide

end StsGateway
