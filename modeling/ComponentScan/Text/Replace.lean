/-!
# Searching and replacing

Occurrences of one text inside another, from left to right and without overlap.
-/

namespace ComponentScan.Text

/-- Whether `part` stands somewhere in the text. -/
def occursIn (part : List Char) : List Char → Bool
  | [] => part.isEmpty
  | c :: cs => part.isPrefixOf (c :: cs) || occursIn part cs

/-- Whether `part` stands somewhere in `s`. -/
def contains (s part : String) : Bool :=
  occursIn part.toList s.toList

/-- Replaces the occurrences of a text, of which the first `skip` characters at hand are the
remainder of one that has been replaced already. -/
def replaceFrom (old new : List Char) : Nat → List Char → List Char
  | _, [] => []
  | skip + 1, _ :: cs => replaceFrom old new skip cs
  | 0, c :: cs =>
    if old.isPrefixOf (c :: cs) then new ++ replaceFrom old new (old.length - 1) cs
    else c :: replaceFrom old new 0 cs

/-- Replaces every occurrence of the non-empty text `old` by `new`. -/
def replace (s old new : String) : String :=
  String.ofList (replaceFrom old.toList new.toList 0 s.toList)

end ComponentScan.Text
