/-!
# Glob errors

The reasons for which a text is no glob.
-/

namespace ComponentScan

/-- Why a text is no glob. -/
inductive GlobError where
  /-- A character class without its closing bracket. -/
  | unclosedClass
  /-- A range of a character class that ends before it starts. -/
  | invalidRange (first last : Char)
  /-- A closing brace outside of any group. -/
  | unopenedGroup
  /-- A group without its closing brace. -/
  | unclosedGroup
  /-- A backslash with nothing after it. -/
  | danglingEscape
  deriving Repr, DecidableEq

namespace GlobError

/-- The reason in words. -/
def reason : GlobError → String
  | unclosedClass => "unclosed character class; missing ']'"
  | invalidRange first last =>
    "invalid range; '" ++ String.singleton first ++ "' > '" ++ String.singleton last ++ "'"
  | unopenedGroup => "unopened alternate group; missing '\x7b' (maybe escape '\x7d' with '[\x7d]'?)"
  | unclosedGroup => "unclosed alternate group; missing '\x7d' (maybe escape '\x7b' with '[\x7b]'?)"
  | danglingEscape => "dangling '\\'"

/-- The message for a glob that was refused. -/
def message (e : GlobError) (glob : String) : String :=
  "error parsing glob '" ++ glob ++ "': " ++ e.reason

end GlobError

end ComponentScan
