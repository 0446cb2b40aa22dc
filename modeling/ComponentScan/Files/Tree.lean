import ComponentScan.Files.Basic

/-!
# File trees

Files that are held in memory, found by relative paths. Directories are those that are named and
those that names of files lie in. Every part of a path but the last has to be a directory, and the
last one too if a slash follows it.
-/

namespace ComponentScan

structure FileTree where
  files : List (List String × ByteArray) := []
  directories : List (List String) := []

namespace FileTree

def empty : FileTree := {}

/-- The parts of a name. -/
def parts (name : String) : List String :=
  (name.toList.splitOn '/').map String.ofList

def addFile (t : FileTree) (name : String) (bytes : ByteArray) : FileTree :=
  { t with files := t.files ++ [((parts name).filter (· ≠ ""), bytes)] }

def addDirectory (t : FileTree) (name : String) : FileTree :=
  { t with directories := t.directories ++ [(parts name).filter (· ≠ "")] }

/-- All paths that are named. -/
def named (t : FileTree) : List (List String) :=
  t.files.map (·.1) ++ t.directories

def isDirectory (t : FileTree) (path : List String) : Bool :=
  path.isEmpty || t.directories.contains path ||
    t.named.any fun p => p.length > path.length && path.isPrefixOf p

/-- The names in a directory. -/
def namesIn (t : FileTree) (path : List String) : List String :=
  (t.named.filterMap fun p =>
    if path.isPrefixOf p then (p.drop path.length).head? else none).eraseDups

/-- The path that parts lead to from a directory, which stands last part first. -/
def walk (t : FileTree) : List String → List String → Except IoError (List String)
  | at_, [] => .ok at_
  | at_, part :: rest =>
    if !t.isDirectory at_.reverse then
      .error (if (t.files.lookup at_.reverse).isSome then .notADirectory else .notFound)
    else if part = "" ∨ part = "." then t.walk at_ rest
    else if part = ".." then t.walk at_.tail rest
    else t.walk (part :: at_) rest

/-- What stands at a path. -/
def entry (t : FileTree) : Files := fun path =>
  if path = "" ∨ path.startsWith "/" then .error .notFound
  else
    match t.walk [] (parts path) with
    | .error e => .error e
    | .ok at_ =>
      let path := at_.reverse
      match t.files.lookup path with
      | some bytes => .ok (.file bytes)
      | none => if t.isDirectory path then .ok (.directory (t.namesIn path)) else .error .notFound

end FileTree

end ComponentScan
