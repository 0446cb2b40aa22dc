import ComponentScan.Suffix.Pattern

/-!
# The suffix cache

Suffixes are compiled when they are first asked for and kept under the text they were asked for
with. A cache never changes an answer.
-/

namespace ComponentScan

/-- Compiled suffixes by their text, in the order in which they were asked for. -/
structure SuffixCache where
  entries : List (String × SuffixPattern) := []
  deriving Repr, DecidableEq

namespace SuffixCache

def empty : SuffixCache := {}

def size (c : SuffixCache) : Nat := c.entries.length

def isEmpty (c : SuffixCache) : Bool := c.entries.isEmpty

def find? (c : SuffixCache) (suffix : String) : Option SuffixPattern :=
  c.entries.lookup suffix

/-- Whether a folded path has a suffix, and the cache after the question. -/
def ask (c : SuffixCache) (suffix path : String) : Bool × SuffixCache :=
  match c.find? suffix with
  | some p => (p.accepts path.toList, c)
  | none =>
    let p := SuffixPattern.compile suffix
    (p.accepts path.toList, ⟨c.entries ++ [(suffix, p)]⟩)

end SuffixCache

end ComponentScan
