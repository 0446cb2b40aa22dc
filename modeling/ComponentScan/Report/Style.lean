import ComponentScan.Text.Replace

/-!
# Styled text

Text for a terminal. A style is a list of codes between an escape character and a closing one; a
text that ends a style itself has the style renewed behind it.
-/

namespace ComponentScan

inductive Style where
  | plain
  | bold
  | dimmed
  | red
  | green
  | yellow
  | boldRed
  | boldGreen
  deriving Repr, DecidableEq

namespace Style

/-- The codes of a style. -/
def codes : Style → String
  | plain => ""
  | bold => "1"
  | dimmed => "2"
  | red => "31"
  | green => "32"
  | yellow => "33"
  | boldRed => "1;31"
  | boldGreen => "1;32"

/-- What turns a style on. -/
def start (s : Style) : String := "\x1b[" ++ s.codes ++ "m"

/-- What turns every style off. -/
def reset : String := "\x1b[0m"

/-- A text filled up with spaces to a width, counted in characters. -/
def padded (width : Nat) (text : String) : String :=
  text ++ String.ofList (List.replicate (width - text.length) ' ')

/-- A text of the given width in a style, if colours are on. -/
def applyWide (s : Style) (colors : Bool) (width : Nat) (text : String) : String :=
  if colors && s != plain then
    s.start ++ padded width (Text.replace text reset (reset ++ s.start)) ++ reset
  else padded width text

/-- A text in a style, if colours are on. -/
def apply (s : Style) (colors : Bool) (text : String) : String :=
  s.applyWide colors 0 text

/-- Whether colours are on: forced by `CLICOLOR_FORCE`, else ruled out by `NO_COLOR`, else on for
a terminal unless `CLICOLOR` rules them out. The value `0` says no. -/
def colorsFor (env : List (String × String)) (isTerminal : Bool) : Bool :=
  let setting (name : String) : Option Bool := (env.lookup name).map (· != "0")
  if setting "CLICOLOR_FORCE" = some true then true
  else if (setting "NO_COLOR").isSome then false
  else (setting "CLICOLOR").getD true && isTerminal

end Style

end ComponentScan
