import ComponentScan.Text.Folding

/-!
# Paths

A path is read through one view, the list of its segments: the names between the slashes.
Normalization keeps exactly the segments that name something, so two spellings of a path
normalize alike when their segments agree. The empty path is the scan root.
-/

namespace ComponentScan.Path

/-! ## Segments -/

/-- The non-empty names between the slashes of a path. -/
def names (path : List Char) : List (List Char) :=
  (path.splitOn '/').filter (· ≠ [])

/-- The path with the given names. -/
def ofNames (names : List (List Char)) : List Char :=
  ['/'].intercalate names

/-- The non-empty names between the slashes of a path. -/
def segments (path : String) : List String :=
  (names path.toList).map String.ofList

/-- The path with the given segments. -/
def ofSegments (segments : List String) : String :=
  String.ofList (ofNames (segments.map String.toList))

/-! ## Normalization -/

/-- A backslash separates like a slash. -/
def slash (c : Char) : Char :=
  if c = '\\' then '/' else c

/-- The segments of a path that survive normalization: backslashes separate too, and a segment
`.` names nothing. -/
def properNames (path : List Char) : List (List Char) :=
  (names (path.map slash)).filter (· ≠ ['.'])

def normalizeChars (path : List Char) : List Char :=
  ofNames (properNames path)

/-- The path with single slashes between its proper segments. Case is kept. -/
def normalize (path : String) : String :=
  String.ofList (normalizeChars path.toList)

/-- The last segment of a normalized path, or the empty text for the scan root. -/
def fileName (path : String) : String :=
  (segments path).getLastD ""

/-! ## Subtrees -/

/-- What follows `front` in a text that starts with it. -/
def after? : List Char → List Char → Option (List Char)
  | [], cs => some cs
  | _ :: _, [] => none
  | d :: ds, c :: cs => if d = c then after? ds cs else none

/-- Whether `path` is `dir` or lies below it. Every path lies below the scan root. -/
def within (path dir : String) : Bool :=
  dir.isEmpty ||
    match after? dir.toList path.toList with
    | none => false
    | some rest => rest.isEmpty || rest.head? == some '/'

/-- The path seen from `root`; a path that does not lie below `root` is kept. -/
def relativeTo (path root : String) : String :=
  if root.isEmpty then path
  else
    match after? root.toList path.toList with
    | some ('/' :: rest) => String.ofList rest
    | _ => path

end ComponentScan.Path
