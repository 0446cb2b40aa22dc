import ComponentScan.Json.Write
import ComponentScan.Report.Style

/-!
# Reports

What a command has to say. A report is shown to a reader as lines of text, in colours or without,
or to a program as JSON.
-/

namespace ComponentScan

structure Report where
  /-- The report as text, in colours or without. -/
  text : Bool → String
  json : Json

/-- To whom a report is shown. -/
inductive OutputFormat where
  | text
  | json
  deriving Repr, DecidableEq

def OutputFormat.name : OutputFormat → String
  | text => "text"
  | json => "json"

namespace Report

/-- A line of text. -/
def line (parts : List String) : String := String.join parts ++ "\n"

/-- The report as it is printed. -/
def render (r : Report) (format : OutputFormat) (colors : Bool) : String :=
  match format with
  | .text => r.text colors
  | .json => r.json.pretty ++ "\n"

end Report

end ComponentScan
