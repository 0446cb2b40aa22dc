import ComponentScan.Suffix.Pattern
import ComponentScan.Proofs.Text.Regex

/-!
# The expression of a suffix

The regular expression that a suffix stands for is always well formed (`read?_regex`), and a search
for it in a path finds it in the paths that the suffix accepts (`accepts_iff_foundIn`).
-/

namespace ComponentScan

open Text

namespace Suffix

/-! ## What pieces stand for -/

/-- The texts a piece stands for. -/
def Piece.Covers : Piece → List Char → Prop
  | .literal c, u => u = [c]
  | .run, u => '/' ∉ u
  | .anything, u => '\n' ∉ u
  | .dirs, u => u = [] ∨ ∃ v, u = v ++ ['/'] ∧ '\n' ∉ v

theorem Piece.mem_rests_iff {p : Piece} {s r : List Char} :
    r ∈ p.rests s ↔ ∃ u, s = u ++ r ∧ p.Covers u := by
  cases p with
  | literal c =>
    cases s with
    | nil => simp [rests, rest, Covers]
    | cons b s => simp [rests, rest, Covers, @eq_comm Char b c, @eq_comm _ s r]
  | run => simp [rests, mem_runs, Covers, List.forall_mem_ne']
  | anything => simp [rests, mem_runs, Covers, List.forall_mem_ne']
  | dirs =>
    simp only [rests, List.mem_cons, mem_runsPast, bne_iff_ne, List.forall_mem_ne', Covers]
    constructor
    · rintro (rfl | ⟨v, rfl, hv⟩)
      · exact ⟨[], rfl, .inl rfl⟩
      · exact ⟨v ++ ['/'], by simp, .inr ⟨v, rfl, hv⟩⟩
    · rintro ⟨_, rfl, rfl | ⟨v, rfl, hv⟩⟩
      · exact .inl rfl
      · exact .inr ⟨v, by simp, hv⟩

@[simp]
theorem nil_mem_seqRests_nil {s : List Char} : [] ∈ seqRests [] s ↔ s = [] := by
  simp [seqRests, eq_comm]

theorem nil_mem_seqRests_cons {p : Piece} {ps : List Piece} {s : List Char} :
    [] ∈ seqRests (p :: ps) s ↔ ∃ u v, s = u ++ v ∧ p.Covers u ∧ [] ∈ seqRests ps v := by
  simp only [seqRests, List.mem_flatMap, Piece.mem_rests_iff]
  constructor
  · rintro ⟨v, ⟨u, rfl, hu⟩, hv⟩
    exact ⟨u, v, rfl, hu, hv⟩
  · rintro ⟨u, v, rfl, hu, hv⟩
    exact ⟨v, ⟨u, rfl, hu⟩, hv⟩

theorem nil_mem_seqRests_literals {text s : List Char} :
    [] ∈ seqRests (text.map .literal) s ↔ s = text := by
  induction text generalizing s with
  | nil => simp
  | cons c text ih => simp [nil_mem_seqRests_cons, Piece.Covers, ih]

/-! ## What their expressions take -/

def Piece.expression : Piece → Regex
  | .literal c => .char c
  | .run => .many (.noneOf '/')
  | .anything => .many (.noneOf '\n')
  | .dirs => .maybe (.seq [.many (.noneOf '\n'), .char '/'])

theorem Piece.takes_expression_iff {p : Piece} {front u back : List Char} :
    p.expression.Takes front u back ↔ p.Covers u := by
  cases p with
  | literal c => exact Regex.takes_char_iff
  | run => exact Regex.takes_many_noneOf_iff
  | anything => exact Regex.takes_many_noneOf_iff
  | dirs => simp [expression, Covers, Regex.seq, Regex.takes_cat_iff]

/-- The expression for pieces in a row, up to the end of a text. -/
def rowExpression (ps : List Piece) : Regex :=
  .seq (ps.map Piece.expression ++ [.textEnd])

theorem takes_rowExpression_iff {ps : List Piece} {front s back : List Char} :
    (rowExpression ps).Takes front s back ↔ back = [] ∧ [] ∈ seqRests ps s := by
  induction ps generalizing front s with
  | nil => simp [rowExpression, and_comm]
  | cons p ps ih =>
    have hcons : rowExpression (p :: ps) = .cat p.expression (rowExpression ps) := rfl
    rw [hcons, Regex.takes_cat_iff, nil_mem_seqRests_cons]
    simp only [Piece.takes_expression_iff, ih]
    constructor
    · rintro ⟨u, v, rfl, hu, rfl, hv⟩
      exact ⟨rfl, u, v, rfl, hu, hv⟩
    · rintro ⟨rfl, u, v, rfl, hu, hv⟩
      exact ⟨u, v, rfl, hu, rfl, hv⟩

end Suffix

namespace SuffixPattern

/-- The expression for the place where a segment starts. -/
def segmentStart : Regex :=
  .either (.seq [.textStart]) (.seq [.char '/'])

theorem takes_segmentStart_iff {front u back : List Char} :
    segmentStart.Takes front u back ↔ front = [] ∧ u = [] ∨ u = ['/'] := by
  simp [segmentStart]

def expression : SuffixPattern → Regex
  | ending text => Suffix.rowExpression (text.map .literal)
  | wild ps => .cat segmentStart (Suffix.rowExpression ps)

theorem mem_segmentStarts_iff {path s : List Char} :
    s ∈ segmentStarts path ↔ s = path ∨ ∃ front, path = front ++ '/' :: s := by
  simp [segmentStarts, mem_runsPast]

theorem accepts_ending_iff {text path : List Char} :
    (ending text).accepts path = true ↔ text <:+ path := by
  simp [accepts]

/-- A suffix accepts a path if its expression is found in the path. -/
theorem accepts_iff_foundIn {p : SuffixPattern} {path : List Char} :
    p.accepts path = true ↔ p.expression.FoundIn path := by
  cases p with
  | ending text =>
    simp only [accepts_ending_iff, Regex.FoundIn, expression, Suffix.takes_rowExpression_iff,
      Suffix.nil_mem_seqRests_literals]
    constructor
    · rintro ⟨front, rfl⟩
      exact ⟨front, text, [], by simp, rfl, rfl⟩
    · rintro ⟨front, _, _, rfl, rfl, rfl⟩
      exact ⟨front, by simp⟩
  | wild ps =>
    simp only [accepts_wild_iff, mem_segmentStarts_iff, Regex.FoundIn, expression,
      Regex.takes_cat_iff, takes_segmentStart_iff, Suffix.takes_rowExpression_iff]
    constructor
    · rintro ⟨s, rfl | ⟨front, rfl⟩, hs⟩
      · exact ⟨[], s, [], by simp, [], s, rfl, .inl ⟨rfl, rfl⟩, rfl, hs⟩
      · exact ⟨front, '/' :: s, [], by simp, ['/'], s, rfl, .inr rfl, rfl, hs⟩
    · rintro ⟨front, _, _, rfl, _, s, rfl, ⟨rfl, rfl⟩ | rfl, rfl, hs⟩
      · exact ⟨s, .inl (by simp), hs⟩
      · exact ⟨s, .inr ⟨front, by simp⟩, hs⟩

/-! ## The text of the expression -/

theorem escapable_of_regexRoles {c : Char} (hc : c ∈ regexRoles) : Regex.escapable c = true := by
  have hall : regexRoles.all Regex.escapable = true := by decide
  exact List.all_eq_true.1 hall c hc

theorem syntaxChars_subset_regexRoles : Regex.syntaxChars ⊆ regexRoles := by
  decide

theorem readFrom_regexChar (c : Char) (cs : List Char) (g : Regex.Group)
    (outer : List Regex.Group) :
    Regex.readFrom (regexChar c ++ cs) g outer = Regex.readFrom cs (g.add (.char c)) outer := by
  rw [regexChar]
  by_cases hc : c ∈ regexRoles
  · rw [if_pos (by simpa using hc)]
    exact Regex.readFrom_escaped (escapable_of_regexRoles hc)
  · rw [if_neg (by simpa using hc)]
    exact Regex.readFrom_plain fun h => hc (syntaxChars_subset_regexRoles h)

theorem readFrom_regexPiece (p : Suffix.Piece) (cs : List Char) (g : Regex.Group)
    (outer : List Regex.Group) :
    Regex.readFrom (regexPiece p ++ cs) g outer = Regex.readFrom cs (g.add p.expression) outer := by
  cases p with
  | literal c => exact readFrom_regexChar c cs g outer
  | run => rfl
  | anything => rfl
  | dirs => rfl

/-- Pieces are read behind any items, up to the end of the expression. -/
theorem readFrom_regexPieces (ps : List Suffix.Piece) (items : List Regex) :
    Regex.readFrom (ps.flatMap regexPiece ++ ['$']) ⟨none, items⟩ [] =
      some (.seq (items.reverse ++ (ps.map Suffix.Piece.expression ++ [.textEnd]))) := by
  induction ps generalizing items with
  | nil => simp [Regex.readFrom, Regex.Group.add, Regex.Group.regex]
  | cons p ps ih =>
    rw [List.flatMap_cons, List.append_assoc, readFrom_regexPiece]
    exact (ih (p.expression :: items)).trans (by simp)

/-- The expression of a suffix is well formed. -/
theorem read?_regex (p : SuffixPattern) : Regex.read? p.regex.toList = some p.expression := by
  cases p with
  | ending text =>
    -- a suffix without stars is written like pieces that are all literal
    have htext : text.flatMap regexChar = (text.map Suffix.Piece.literal).flatMap regexPiece := by
      rw [List.flatMap_map]
      rfl
    have hregex : (ending text).regex.toList =
        (text.map Suffix.Piece.literal).flatMap regexPiece ++ ['$'] := by
      rw [← htext]
      exact String.toList_ofList
    rw [hregex]
    exact readFrom_regexPieces _ []
  | wild ps =>
    have hstart (cs : List Char) : Regex.read? ("(?:^|/)".toList ++ cs) =
        Regex.readFrom cs ⟨none, [segmentStart]⟩ [] := rfl
    have hregex : (wild ps).regex.toList = "(?:^|/)".toList ++ (ps.flatMap regexPiece ++ ['$']) :=
      String.toList_ofList.trans (List.append_assoc ..)
    rw [hregex, hstart]
    exact readFrom_regexPieces ps [segmentStart]

end SuffixPattern

end ComponentScan
