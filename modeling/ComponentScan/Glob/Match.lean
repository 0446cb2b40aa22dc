import ComponentScan.Glob.Token
import ComponentScan.Text.Marks

/-!
# Glob matching

A glob is matched against the bytes of a path. The case of ASCII letters does not matter; every
other byte stands for itself, so a question mark or a character class takes one byte even of a
character that has several. A path is matched in one pass for each token; the passes agree with
the rests that the tokens can leave of the path (`matchesBytes_iff`).
-/

namespace ComponentScan.Glob

open ComponentScan.Text

/-! ## Bytes -/

/-- The UTF-8 form of a text. -/
def bytes (cs : List Char) : List UInt8 :=
  cs.flatMap String.utf8EncodeChar

/-- The byte of a slash. -/
def slashByte : UInt8 := 0x2F

/-- The other case of an ASCII letter; any other byte is kept. -/
def otherCase (b : UInt8) : UInt8 :=
  if 0x41 ≤ b ∧ b ≤ 0x5A then b + 0x20
  else if 0x61 ≤ b ∧ b ≤ 0x7A then b - 0x20
  else b

/-- Equality of bytes up to the case of ASCII letters. -/
def sameByte (a b : UInt8) : Bool :=
  a == b || otherCase a == b

/-! ## Character classes -/

/-- The byte ranges of a class range. Only the last byte of its first character and the first
byte of its last character span a range; their other bytes are members on their own. -/
def byteRanges (range : Char × Char) : List (UInt8 × UInt8) :=
  let single (b : UInt8) := (b, b)
  let first := String.utf8EncodeChar range.1
  let last := String.utf8EncodeChar range.2
  if range.1 = range.2 then first.map single
  else
    first.dropLast.map single ++ [(first.getLastD 0, last.headD 0)] ++ last.tail.map single

/-- Whether a byte is a member of a class that is not negated. -/
def inClass (ranges : List (Char × Char)) (b : UInt8) : Bool :=
  ranges.any fun r => (byteRanges r).any fun s =>
    (s.1 ≤ b && b ≤ s.2) || (s.1 ≤ otherCase b && otherCase b ≤ s.2)

/-! ## Rests -/

mutual

/-- The rests a token can leave. -/
def Token.rests : Token → List UInt8 → List (List UInt8)
  | .literal c, s => rest sameByte (String.utf8EncodeChar c) s
  | .any, s => single (· != slashByte) s
  | .run, s => runs (· != slashByte) s
  | .leadingDirs, s => s :: runsPast (fun _ => true) slashByte s
  | .allBelow, s => (single (· == slashByte) s).flatMap (runs fun _ => true)
  | .innerDirs, s =>
    (single (· == slashByte) s).flatMap fun r => r :: runsPast (fun _ => true) slashByte r
  | .oneOf negated ranges, s => single (fun b => inClass ranges b != negated) s
  | .group [], s => [s]
  | .group (b :: bs), s => branchRests (b :: bs) s

/-- The rests that tokens in a row can leave. -/
def seqRests : List Token → List UInt8 → List (List UInt8)
  | [], s => [s]
  | t :: ts, s => (t.rests s).flatMap (seqRests ts)

/-- The rests that any of the branches can leave. -/
def branchRests : List (List Token) → List UInt8 → List (List UInt8)
  | [], _ => []
  | b :: bs, s => seqRests b s ++ branchRests bs s

end

/-! ## Marks -/

mutual

/-- The rests of a text of which a token can leave a marked rest. -/
def Token.marks : Token → List UInt8 → List Bool → List Bool
  | .literal c, s, ms => restMarks sameByte (String.utf8EncodeChar c) s ms
  | .any, s, ms => singleMarks (· != slashByte) s ms
  | .run, s, ms => runMarks (· != slashByte) s ms
  | .leadingDirs, s, ms => eitherMarks ms (pastMarks (fun _ => true) slashByte s ms)
  | .allBelow, s, ms => singleMarks (· == slashByte) s (runMarks (fun _ => true) s ms)
  | .innerDirs, s, ms =>
    singleMarks (· == slashByte) s (eitherMarks ms (pastMarks (fun _ => true) slashByte s ms))
  | .oneOf negated ranges, s, ms => singleMarks (fun b => inClass ranges b != negated) s ms
  | .group [], _, ms => ms
  | .group (b :: bs), s, ms => branchMarks (b :: bs) s ms

/-- The rests of a text of which tokens in a row can leave a marked rest. -/
def seqMarks : List Token → List UInt8 → List Bool → List Bool
  | [], _, ms => ms
  | t :: ts, s, ms => t.marks s (seqMarks ts s ms)

/-- The rests of a text of which any of the branches can leave a marked rest. -/
def branchMarks : List (List Token) → List UInt8 → List Bool → List Bool
  | [], _, ms => noMarks ms
  | b :: bs, s, ms => eitherMarks (seqMarks b s ms) (branchMarks bs s ms)

end

mutual

theorem Token.marks_marks (q : List UInt8 → Bool) (s : List UInt8) :
    ∀ t : Token, t.marks s (Text.marks q s) = Text.marks (fun r => (t.rests r).any q) s
  | .literal c => restMarks_marks ..
  | .any => singleMarks_marks ..
  | .run => runMarks_marks ..
  | .leadingDirs => by
    rw [Token.marks, pastMarks_marks, eitherMarks_marks]
    rfl
  | .allBelow => by
    rw [Token.marks, runMarks_marks, singleMarks_marks]
    simp only [Token.rests, List.any_flatMap]
  | .innerDirs => by
    rw [Token.marks, pastMarks_marks, eitherMarks_marks, singleMarks_marks]
    simp only [Token.rests, List.any_flatMap, List.any_cons]
  | .oneOf _ _ => singleMarks_marks ..
  | .group [] => by simp [Token.marks, Token.rests]
  | .group (b :: bs) => by
    rw [Token.marks, branchMarks_marks q s (b :: bs)]
    rfl

theorem seqMarks_marks (q : List UInt8 → Bool) (s : List UInt8) :
    ∀ ts : List Token, seqMarks ts s (marks q s) = marks (fun r => (seqRests ts r).any q) s
  | [] => by simp [seqMarks, seqRests]
  | t :: ts => by
    rw [seqMarks, seqMarks_marks q s ts, Token.marks_marks _ s t]
    simp only [seqRests, List.any_flatMap]

theorem branchMarks_marks (q : List UInt8 → Bool) (s : List UInt8) :
    ∀ bs : List (List Token),
      branchMarks bs s (marks q s) = marks (fun r => (branchRests bs r).any q) s
  | [] => by simpa [branchMarks, branchRests] using noMarks_marks q s
  | b :: bs => by
    rw [branchMarks, seqMarks_marks q s b, branchMarks_marks q s bs, eitherMarks_marks]
    simp only [branchRests, List.any_append]

end

/-! ## Whole texts -/

/-- Whether tokens can leave nothing of a text. Most texts are told apart by the literals in
front, so the marks are made only behind them. -/
def leavesNothing : List Token → List UInt8 → Bool
  | .literal c :: ts, s => (rest sameByte (String.utf8EncodeChar c) s).any (leavesNothing ts)
  | ts, s => firstMark (seqMarks ts s (marks List.isEmpty s))

theorem leavesNothing_iff (ts : List Token) (s : List UInt8) :
    leavesNothing ts s = true ↔ [] ∈ seqRests ts s := by
  induction ts generalizing s with
  | nil => simp [leavesNothing, seqMarks_marks]
  | cons t ts ih =>
    cases t with
    | literal c => simp [leavesNothing, seqRests, Token.rests, ih]
    | _ => simp [leavesNothing, seqMarks_marks]

/-- Whether tokens match a whole text. Two stars alone match every text. -/
def matchesBytes : List Token → List UInt8 → Bool
  | [.leadingDirs], _ => true
  | ts, s => leavesNothing ts s

/-- Apart from two stars alone, tokens match the texts of which they can leave nothing. -/
theorem matchesBytes_iff {ts : List Token} {s : List UInt8} :
    matchesBytes ts s = true ↔ ts = [.leadingDirs] ∨ [] ∈ seqRests ts s := by
  unfold matchesBytes
  split
  · simp
  · rename_i h
    have hne : ts ≠ [.leadingDirs] := fun e => h e
    simp [leavesNothing_iff, hne]

end ComponentScan.Glob
