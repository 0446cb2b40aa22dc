import ComponentScan.Glob.Match

/-!
# Globs

A glob together with the text it was written as.
-/

namespace ComponentScan

/-- A compiled glob. -/
structure Glob where
  /-- The glob as written. -/
  text : String
  tokens : List Glob.Token
  deriving Repr

namespace Glob

/-- Compiles a glob. -/
def parse (text : String) : Except GlobError Glob :=
  (readTokens text.toList).map fun ts => { text, tokens := ts }

/-- Whether a path matches. -/
def accepts (g : Glob) (path : String) : Bool :=
  matchesBytes g.tokens (bytes path.toList)

end Glob

end ComponentScan
