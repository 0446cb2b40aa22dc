import ComponentScan.Text.Folding
import ComponentScan.Text.Marks

/-!
# Suffix patterns

The ends of the paths a contributor is interested in. A suffix without stars is the end of a path
as it stands. A suffix with stars matches from the start of a segment to the end of the path.
-/

namespace ComponentScan

open Text

namespace Suffix

/-- A part of a suffix with stars. -/
inductive Piece where
  | literal (c : Char)
  /-- Any text without a slash: `*`. -/
  | run
  /-- Any text on one line: `**`. -/
  | anything
  /-- Any directories on one line, or none: `**` with a slash after it. -/
  | dirs
  deriving Repr, DecidableEq

/-- The pieces of a text, read from left to right. -/
def pieces : List Char → List Piece
  | '*' :: '*' :: '/' :: cs => .dirs :: pieces cs
  | '*' :: '*' :: cs => .anything :: pieces cs
  | '*' :: cs => .run :: pieces cs
  | c :: cs => .literal c :: pieces cs
  | [] => []

/-- The rests a piece can leave. -/
def Piece.rests : Piece → List Char → List (List Char)
  | .literal c, s => rest (· == ·) [c] s
  | .run, s => runs (· != '/') s
  | .anything, s => runs (· != '\n') s
  | .dirs, s => s :: runsPast (· != '\n') '/' s

/-- The rests that pieces in a row can leave. -/
def seqRests : List Piece → List Char → List (List Char)
  | [], s => [s]
  | p :: ps, s => (p.rests s).flatMap (seqRests ps)

/-- The rests of a text of which a piece can leave a marked rest. -/
def Piece.marks : Piece → List Char → List Bool → List Bool
  | .literal c, s, ms => restMarks (· == ·) [c] s ms
  | .run, s, ms => runMarks (· != '/') s ms
  | .anything, s, ms => runMarks (· != '\n') s ms
  | .dirs, s, ms => eitherMarks ms (pastMarks (· != '\n') '/' s ms)

/-- The rests of a text of which pieces in a row can leave a marked rest. -/
def seqMarks : List Piece → List Char → List Bool → List Bool
  | [], _, ms => ms
  | p :: ps, s, ms => p.marks s (seqMarks ps s ms)

theorem Piece.marks_marks (q : List Char → Bool) (s : List Char) (p : Piece) :
    p.marks s (Text.marks q s) = Text.marks (fun r => (p.rests r).any q) s := by
  cases p with
  | literal c => exact restMarks_marks ..
  | run => exact runMarks_marks ..
  | anything => exact runMarks_marks ..
  | dirs =>
    rw [Piece.marks, pastMarks_marks, eitherMarks_marks]
    rfl

theorem seqMarks_marks (q : List Char → Bool) (s : List Char) (ps : List Piece) :
    seqMarks ps s (marks q s) = marks (fun r => (seqRests ps r).any q) s := by
  induction ps with
  | nil => simp [seqMarks, seqRests]
  | cons p ps ih =>
    rw [seqMarks, ih, Piece.marks_marks]
    simp only [seqRests, List.any_flatMap]

end Suffix

/-- A compiled suffix. -/
inductive SuffixPattern where
  /-- The end of a path as it stands. -/
  | ending (text : List Char)
  /-- A suffix with stars. -/
  | wild (pieces : List Suffix.Piece)
  deriving Repr, DecidableEq

namespace SuffixPattern

/-- Compiles a suffix, whose case does not matter. -/
def compile (suffix : String) : SuffixPattern :=
  let folded := foldChars suffix.toList
  if folded.contains '*' then wild (Suffix.pieces folded) else ending folded

/-- The text itself and what follows each of its slashes. -/
def segmentStarts (path : List Char) : List (List Char) :=
  path :: runsPast (fun _ => true) '/' path

/-- Whether a text or what follows one of its slashes is marked. -/
def segmentMarked (path : List Char) (ms : List Bool) : Bool :=
  firstMark ms || firstMark (pastMarks (fun _ => true) '/' path ms)

/-- Whether a folded path has the suffix. -/
def accepts : SuffixPattern → List Char → Bool
  | ending text, path => text.isSuffixOf path
  | wild ps, path =>
    segmentMarked path (Suffix.seqMarks ps path (marks List.isEmpty path))

/-- A suffix with stars is met by a path if its pieces can leave nothing from the start of one of
the segments. -/
theorem accepts_wild_iff {ps : List Suffix.Piece} {path : List Char} :
    (wild ps).accepts path = true ↔ ∃ s ∈ segmentStarts path, [] ∈ Suffix.seqRests ps s := by
  rw [accepts, Suffix.seqMarks_marks, segmentMarked, pastMarks_marks, firstMark_marks,
    firstMark_marks]
  simp [segmentStarts]

/-! ## As a regular expression -/

/-- Characters with a role in regular expressions. -/
def regexRoles : List Char :=
  ['\\', '.', '+', '*', '?', '(', ')', '|', '[', ']', '\x7b', '\x7d', '^', '$', '#', '&', '-', '~']

/-- A character that stands for itself. -/
def regexChar (c : Char) : List Char :=
  if regexRoles.contains c then ['\\', c] else [c]

def regexPiece : Suffix.Piece → List Char
  | .literal c => regexChar c
  | .run => "[^/]*".toList
  | .anything => ".*".toList
  | .dirs => "(?:.*/)?".toList

/-- The regular expression, to be searched for in a path, that a suffix stands for. -/
def regex : SuffixPattern → String
  | ending text => String.ofList (text.flatMap regexChar ++ ['$'])
  | wild ps => String.ofList ("(?:^|/)".toList ++ ps.flatMap regexPiece ++ ['$'])

end SuffixPattern

end ComponentScan
