import ComponentScan.Error.Io

/-!
# Files

What a program sees of the files around it: for each path a file with its bytes, a directory with
the names in it, or an error.
-/

namespace ComponentScan

inductive FileEntry where
  | file (bytes : ByteArray)
  | directory (names : List String)

/-- What stands at each path. -/
abbrev Files := String → Except IoError FileEntry

namespace Files

/-- The text of a file. -/
def readText (files : Files) (path : String) : Except IoError String := do
  match ← files path with
  | .directory _ => throw .isADirectory
  | .file bytes =>
    match String.fromUTF8? bytes with
    | some text => return text
    | none => throw .notText

/-- The size that is stated for a directory. -/
def directorySize : Nat := 4096

/-- The size of a file in bytes. -/
def size (files : Files) (path : String) : Except IoError Nat := do
  match ← files path with
  | .directory _ => return directorySize
  | .file bytes => return bytes.size

/-- The names in a directory. -/
def list (files : Files) (path : String) : Except IoError (List String) := do
  match ← files path with
  | .directory names => return names
  | .file _ => throw .notADirectory

/-- The path of a name in a directory. -/
def join (dir name : String) : String :=
  if dir.isEmpty || dir.endsWith "/" then dir ++ name else dir ++ "/" ++ name

/-- The root or the single dot that a path starts with, and what stands behind it. -/
def splitStart : List Char → List Char × List Char
  | '/' :: rest => (['/'], rest)
  | ['.'] => (['.'], [])
  | '.' :: '/' :: rest => (['.'], '/' :: rest)
  | path => ([], path)

/-- The names without those at the end that name nothing: empty ones and single dots. -/
def dropIdle (names : List (List Char)) : List (List Char) :=
  (names.reverse.dropWhile fun name => name == [] || name == ['.']).reverse

/-- The path without its last name, as it is written: slashes and dots in front of that name stay.
A path without a name lies in no directory. -/
def parent (path : String) : String :=
  let (start, rest) := splitStart path.toList
  match dropIdle (rest.splitOn '/') with
  | [] => ""
  | names => String.ofList (start ++ ['/'].intercalate (dropIdle names.dropLast))

/-- What stands behind the last dot of a file name. A dot in front of a name does not count. -/
def extension? (name : String) : Option String :=
  match name.toList.splitOn '.' with
  | [] | [_] | [[], _] => none
  | pieces => pieces.getLast?.map String.ofList

end Files

end ComponentScan
