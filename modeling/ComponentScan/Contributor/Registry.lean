import ComponentScan.Contributor.Basic
import ComponentScan.Journal.Basic
import ComponentScan.Text.Quoted

/-!
# Contributor registries

Contributors by phase and suffix. Phases ascend; inside a phase a group stands where its suffix
was first declared and holds its contributors in the order of registration.
-/

namespace ComponentScan

/-- The contributors that share a suffix. -/
structure SuffixGroup where
  suffix : String
  contributors : List Contributor

/-- Contributors by phase and suffix. -/
structure Registry where
  /-- The groups of each phase, by ascending phase. -/
  phases : List (Nat × List SuffixGroup) := []
  /-- The ids of the contributors, in the order of registration. -/
  ids : List String := []

namespace Contributor

/-- The suffixes a contributor is registered under. -/
def registeredSuffixes (c : Contributor) : List String :=
  (c.suffixes.map fun s => Text.fold (Text.trim s)).filter (· ≠ "")

end Contributor

namespace Registry

def empty : Registry := {}

def size (r : Registry) : Nat := r.ids.length

def isEmpty (r : Registry) : Bool := r.ids.isEmpty

/-- Adds a contributor to the group of a suffix, which is made if there is none. -/
def addToGroup (c : Contributor) (suffix : String) : List SuffixGroup → List SuffixGroup
  | [] => [⟨suffix, [c]⟩]
  | g :: rest =>
    if g.suffix = suffix then ⟨g.suffix, g.contributors ++ [c]⟩ :: rest
    else g :: addToGroup c suffix rest

/-- Adds a contributor to the groups of all its suffixes. -/
def addToGroups (c : Contributor) (groups : List SuffixGroup) : List SuffixGroup :=
  c.registeredSuffixes.foldl (fun gs suffix => addToGroup c suffix gs) groups

/-- Adds a contributor to the groups of its phase. -/
def addToPhases (c : Contributor) :
    List (Nat × List SuffixGroup) → List (Nat × List SuffixGroup)
  | [] => [(c.phase, addToGroups c [])]
  | (phase, groups) :: rest =>
    if c.phase < phase then (c.phase, addToGroups c []) :: (phase, groups) :: rest
    else if c.phase = phase then (phase, addToGroups c groups) :: rest
    else (phase, groups) :: addToPhases c rest

/-- Registers a contributor. One without suffixes is left out. -/
def register (r : Registry) (c : Contributor) : Registry :=
  if c.registeredSuffixes = [] then r
  else ⟨addToPhases c r.phases, r.ids ++ [c.id]⟩

/-- Registers contributors one after the other. -/
def registerAll (r : Registry) (cs : List Contributor) : Registry :=
  cs.foldl register r

/-- The notices of registering contributors. -/
def journal (cs : List Contributor) : Journal :=
  { notices := (cs.filter (·.registeredSuffixes = [])).map fun c =>
      .contributorWithoutSuffixes c.id }

/-- The registry in words. -/
def display (r : Registry) : String :=
  "ContributorRegistry \x7b phases: " ++ Text.bracketed (r.phases.map fun p => toString p.1) ++
    ", contributors: " ++ Text.bracketed (r.ids.map Text.quoted) ++ " \x7d"

end Registry

end ComponentScan
