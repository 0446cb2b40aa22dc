import ComponentScan.Glob.Listing
import ComponentScan.Path
import ComponentScan.Text.Replace

/-!
# Anchor patterns

The file a component is recognised by, named by the last segments of its path. A star stands for
any text inside a segment; every other character, also those with a role in globs, stands for
itself. Anchors are matched against normalized, folded paths.
-/

namespace ComponentScan

/-- A compiled anchor. -/
inductive AnchorPattern where
  /-- An anchor without stars, folded. -/
  | literal (anchor : String)
  /-- An anchor with stars: a text every match contains, and the glob that decides. -/
  | wildcard (filter : String) (glob : Glob)
  deriving Repr

namespace AnchorPattern

/-- The longest of the pieces, measured in bytes; of several the last one. -/
def longest (pieces : List (List Char)) : List Char :=
  pieces.foldl (fun best p => if (Glob.bytes best).length ≤ (Glob.bytes p).length then p else best)
    []

/-- The glob of a folded anchor: at any depth, and without roles for other characters than the
star. A comma has no role in a single glob. -/
def globText (anchor : List Char) : String :=
  String.ofList (['*', '*', '/'] ++ Glob.wrap ['?', '[', ']', '\x7b', '\x7d'] anchor)

/-- Compiles an anchor. Two stars in a row are refused elsewhere. -/
def compile (anchor : String) : Except EngineError AnchorPattern := do
  let folded := Text.foldChars anchor.toList
  if folded.contains '*' then
    let glob ← Glob.compile (globText folded)
    return .wildcard (String.ofList (longest (folded.splitOn '*'))) glob
  else return .literal (String.ofList folded)

/-- A text that every matching path contains. -/
def filter : AnchorPattern → String
  | .literal anchor => anchor
  | .wildcard filter _ => filter

/-- Whether a text ends in `anchor` at a segment boundary. -/
def endsAtBoundary (anchor path : List Char) : Bool :=
  match Path.after? anchor.reverse path.reverse with
  | none => false
  | some before => before.isEmpty || before.head? == some '/'

/-- Whether a normalized, folded path satisfies the anchor. -/
def accepts (p : AnchorPattern) (path : String) : Bool :=
  match p with
  | .literal anchor => endsAtBoundary anchor.toList path.toList
  | .wildcard filter glob => Text.contains path filter && glob.accepts path

end AnchorPattern

end ComponentScan
