import ComponentScan.Error.Engine
import ComponentScan.Glob.Basic
import ComponentScan.Text.Blank

/-!
# Glob lists

Globs in one text, separated by commas. A comma between brackets or braces does not separate. A
list without globs accepts nothing.
-/

namespace ComponentScan

/-! ## Separating -/

namespace Glob

/-- Where a separator scan stands. -/
inductive SplitState where
  /-- Outside of any character class, inside this many braces. -/
  | outside (braces : Nat)
  /-- Behind an opening bracket, where a closing one stands for itself. -/
  | opened (braces : Nat)
  /-- Inside a character class. -/
  | inside (braces : Nat)
  deriving Repr, DecidableEq

/-- The state after a character that does not separate. -/
def SplitState.next : SplitState → Char → SplitState
  | opened braces, _ => inside braces
  | inside braces, c => if c = ']' then outside braces else inside braces
  | outside braces, c =>
    if c = '[' then opened braces
    else if c = '\x7b' then outside (braces + 1)
    else if c = '\x7d' then outside (braces - 1)
    else outside braces

/-- The pieces of a text between its separating commas. -/
def splitFrom (st : SplitState) : List Char → List (List Char)
  | [] => [[]]
  | c :: cs =>
    if c = ',' ∧ st = .outside 0 then [] :: splitFrom st cs
    else
      match splitFrom (st.next c) cs with
      | [] => [[c]]
      | piece :: pieces => (c :: piece) :: pieces

/-- The pieces of a text between its separating commas. -/
def splitList (csv : List Char) : List (List Char) :=
  splitFrom (.outside 0) csv

/-! ## Escaping -/

/-- Wraps each of the characters `special` in a character class of its own. -/
def wrap (special : List Char) (cs : List Char) : List Char :=
  cs.flatMap fun c => if special.contains c then ['[', c, ']'] else [c]

/-- The glob list with one glob, in which every character but a backslash stands for itself. -/
def escape (text : String) : String :=
  String.ofList (wrap ['*', '?', '[', ']', '\x7b', '\x7d', ','] text.toList)

/-- Compiles a glob for the engine. -/
def compile (text : String) : Except EngineError Glob :=
  match Glob.parse text with
  | .ok g => .ok g
  | .error e => .error (.invalidPattern text (e.message text))

end Glob

/-! ## Lists -/

/-- A list of compiled globs. -/
structure GlobList where
  globs : List Glob
  deriving Repr

namespace GlobList

/-- The texts of the globs in a list: without blanks around them or slashes in front, and without
empty entries. -/
def entries (csv : String) : List String :=
  ((Glob.splitList csv.toList).map fun piece =>
    String.ofList ((Text.trimChars piece).dropWhile (· = '/'))).filter (· ≠ "")

/-- Compiles a list; the first glob that is none is the error. The limits of the engine that joins
the globs into one set are left aside: a list it refuses as a whole, say for groups nested more than
250 deep, is taken here. -/
def parse (csv : String) : Except EngineError GlobList :=
  return ⟨← (entries csv).mapM Glob.compile⟩

def patterns (l : GlobList) : List String :=
  l.globs.map Glob.text

def isEmpty (l : GlobList) : Bool :=
  l.globs.isEmpty

/-- Whether one of the globs accepts the path. -/
def accepts (l : GlobList) (path : String) : Bool :=
  l.globs.any (·.accepts path)

end GlobList

end ComponentScan
