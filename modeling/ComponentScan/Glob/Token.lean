import ComponentScan.Glob.Lexeme

/-!
# Glob tokens

What a glob asks of a path, part by part. Two stars mean whole directories only where they fill a
segment: in front of the glob, between slashes, or after the last slash. Elsewhere they are two
single stars.
-/

namespace ComponentScan.Glob

/-- A part of a glob. -/
inductive Token where
  | literal (c : Char)
  /-- One byte other than a slash. -/
  | any
  /-- Any text without a slash. -/
  | run
  /-- Any directories in front, or none: `**/` at the start. -/
  | leadingDirs
  /-- Everything below: `/**` at the end. -/
  | allBelow
  /-- Any directories in between, or none: `/**/`. -/
  | innerDirs
  /-- One byte of a character class. -/
  | oneOf (negated : Bool) (ranges : List (Char × Char))
  /-- One of several branches. A group without branches stands for the empty text. -/
  | group (branches : List (List Token))
  deriving Repr

/-- Whether a token stands for the empty text by its form. -/
def Token.isVoid : Token → Bool
  | .group [] => true
  | _ => false

/-- The group with the given branches. A branch that is empty by its form is no branch. -/
def Token.ofBranches (branches : List (List Token)) : Token :=
  .group (branches.filter fun b => !b.all Token.isVoid)

/-- The tokens read so far: those of the branch at hand, and those around it. -/
structure Nesting where
  /-- The tokens of the branch at hand, the last one first. -/
  branch : List Token := []
  /-- For each open group, the innermost first: its finished branches, the last one first, and
  the branch it stands in. -/
  enclosing : List (List (List Token) × List Token) := []

namespace Nesting

def push (n : Nesting) (t : Token) : Nesting :=
  { n with branch := t :: n.branch }

/-- Turns the slash before two stars into what the stars make of it. -/
def retouch (n : Nesting) (t : Token) : Nesting :=
  match n.branch with
  | .leadingDirs :: _ | .allBelow :: _ => n
  | _ :: branch => { n with branch := t :: branch }
  | [] => n.push t

def openGroup (n : Nesting) : Nesting :=
  { branch := [], enclosing := ([], n.branch) :: n.enclosing }

/-- Ends the branch at hand. Outside of any group a comma stands for itself. -/
def comma (n : Nesting) : Nesting :=
  match n.enclosing with
  | [] => n.push (.literal ',')
  | (done, outer) :: rest =>
    { branch := [], enclosing := (n.branch.reverse :: done, outer) :: rest }

def closeGroup (n : Nesting) : Except GlobError Nesting :=
  match n.enclosing with
  | [] => .error .unopenedGroup
  | (done, outer) :: rest =>
    .ok { branch := Token.ofBranches (n.branch.reverse :: done).reverse :: outer
          enclosing := rest }

/-- Whether two stars after the character `before` may stand for directories, given that the
branch at hand is not empty. -/
def mayRecurse (n : Nesting) (before : Option Char) : Bool :=
  before == some '/' || (!n.enclosing.isEmpty && (before == some ',' || before == some '\x7b'))

end Nesting

/-- Reads lexemes after the character `before`. -/
def tokensFrom (before : Option Char) (n : Nesting) : List Lexeme → Except GlobError (List Token)
  | [] => if n.enclosing.isEmpty then .ok n.branch.reverse else .error .unclosedGroup
  | .star :: .star :: .char '/' :: ls =>
    if n.branch.isEmpty then tokensFrom (some '/') (n.push .leadingDirs) ls
    else if n.mayRecurse before then tokensFrom (some '/') (n.retouch .innerDirs) ls
    else tokensFrom (some '/') (((n.push .run).push .run).push (.literal '/')) ls
  | .star :: .star :: ls =>
    let plain := (n.push .run).push .run
    let ends := ls.isEmpty ||
      (!n.enclosing.isEmpty && (ls.head? == some .comma || ls.head? == some .closeBrace))
    let n :=
      if n.branch.isEmpty then if ls.isEmpty then n.push .leadingDirs else plain
      else if n.mayRecurse before && ends then n.retouch .allBelow
      else plain
    tokensFrom (some '*') n ls
  | l :: ls =>
    let before := l.lastChar
    match l with
    | .char c | .escaped c => tokensFrom before (n.push (.literal c)) ls
    | .question => tokensFrom before (n.push .any) ls
    | .star => tokensFrom before (n.push .run) ls
    | .openBrace => tokensFrom before n.openGroup ls
    | .comma => tokensFrom before n.comma ls
    | .closeBrace =>
      match n.closeGroup with
      | .ok n => tokensFrom before n ls
      | .error e => .error e
    | .oneOf negated ranges => tokensFrom before (n.push (.oneOf negated ranges)) ls
    | .fault e => .error e

/-- The tokens of a glob, or why the text is none. -/
def readTokens (glob : List Char) : Except GlobError (List Token) :=
  tokensFrom none {} (lex glob)

end ComponentScan.Glob
