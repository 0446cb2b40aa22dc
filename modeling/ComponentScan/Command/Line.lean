import ComponentScan.Command.Usage

/-!
# Command lines

The arguments that are given at each level of a command line. The value of an argument is looked
at when the next argument begins or its level ends; the levels end from the inside out.
-/

namespace ComponentScan

/-- What has been given at a level. -/
structure GivenLevel where
  level : Level
  /-- The arguments with their values, in their order. -/
  given : List (Argument × String) := []
  /-- An argument whose value is still to come or to be looked at. -/
  pending : Option (Argument × Option String) := none
  /-- Whether only arguments given by their position may follow. -/
  onlyPositional : Bool := false
  deriving Repr, DecidableEq

namespace GivenLevel

def has (g : GivenLevel) (a : Argument) : Bool :=
  g.given.any (·.1 == a)

/-- Gives an argument a value. -/
def add (g : GivenLevel) (a : Argument) (value : String) : Except UsageError GivenLevel :=
  if !a.mayRepeat && g.has a then .error .repeatedArgument
  else if !a.accepts value then .error .invalidValue
  else .ok { g with given := g.given ++ [(a, value)] }

/-- Looks at the value of the argument that is pending. -/
def settle (g : GivenLevel) : Except UsageError GivenLevel :=
  match g.pending with
  | none => .ok g
  | some (_, none) => .error .invalidValue
  | some (a, some value) => { g with pending := none }.add a value

/-- Whether the value of an argument is still to come. -/
def awaitsValue (g : GivenLevel) : Bool :=
  g.pending.any (·.2.isNone)

/-- Begins an argument, to which a value may be attached. -/
def begin (g : GivenLevel) (a : Argument) (attached : Option String) :
    Except UsageError GivenLevel := do
  match a.takesValue, attached with
  | true, some value => (← g.settle).add a value
  | true, none => return { ← g.settle with pending := some (a, none) }
  | false, some _ => throw .unneededValue
  | false, none =>
    let g ← g.settle
    match a with
    | .help => throw .displayHelp
    | .version => throw .displayVersion
    | a => g.add a ""

/-- Reads an option by its long name. -/
def readLong (g : GivenLevel) (body : List Char) : Except UsageError GivenLevel :=
  let name := body.takeWhile (· != '=')
  let attached := match body.dropWhile (· != '=') with
    | [] => none
    | _ :: value => some (String.ofList value)
  match g.level.options.lookup (String.ofList name) with
  | none => .error .unknownArgument
  | some a => g.begin a attached

/-- Reads an option by its letter. -/
def readLetter (g : GivenLevel) (letter : Char) (rest : List Char) :
    Except UsageError GivenLevel :=
  match g.level.letters.lookup letter with
  | none => .error .unknownArgument
  | some a =>
    if !a.takesValue then g.begin a none
    else
      match rest with
      | [] => g.begin a none
      | '=' :: value => g.begin a (some (String.ofList value))
      | value => g.begin a (some (String.ofList value))

/-- Reads an argument that is no option. -/
def readPlain (g : GivenLevel) (arg : String) : Except UsageError GivenLevel :=
  match g.pending, g.onlyPositional with
  | some (a, none), false => .ok { g with pending := some (a, some arg) }
  | _, _ =>
    match g.level.positional? with
    | some a =>
      if g.has a ∨ g.pending.any (·.1 == a) then .error .unknownArgument
      else do return { ← g.settle with pending := some (a, some arg) }
    | none =>
      if g.level.commands.isEmpty then .error .unknownArgument
      else if g.onlyPositional ∧ (g.level.commands.lookup arg).isSome then .error .unknownArgument
      else .error .unknownCommand

/-- Reads an argument that is no command. -/
def read (g : GivenLevel) (arg : String) : Except UsageError GivenLevel :=
  if g.onlyPositional then g.readPlain arg
  else
    match arg.toList with
    | ['-', '-'] => .ok { g with onlyPositional := true }
    | '-' :: '-' :: body => g.readLong body
    | '-' :: letter :: rest => g.readLetter letter rest
    | _ => g.readPlain arg

/-- Ends a level at which no command follows. -/
def finish (g : GivenLevel) : Except UsageError GivenLevel := do
  let g ← g.settle
  if !g.level.commands.isEmpty then
    throw (if g.given.isEmpty then .helpOnMissingCommand else .missingCommand)
  if g.level = .scan ∧ !g.has .inventory then throw .missingArgument
  return g

/-- Whether a level begins, or help on levels is asked for. -/
def isCommand (g : GivenLevel) (arg : String) : Bool :=
  !g.onlyPositional && !g.awaitsValue && !g.level.commands.isEmpty &&
    ((g.level.commands.lookup arg).isSome || arg == "help")

end GivenLevel

/-- A whole command line: its last level, and everything that is given at any level, the outer
levels first. -/
structure CommandLine where
  level : Level
  given : List (Argument × String)
  deriving Repr, DecidableEq

namespace CommandLine

/-- Ends the levels around the last one. -/
def unwind (last : GivenLevel) (outer : List GivenLevel) : Except UsageError CommandLine := do
  let around ← outer.mapM GivenLevel.settle
  return ⟨last.level, (around.reverse.flatMap (·.given)) ++ last.given⟩

/-- Reads arguments at a level inside others, the innermost of them first. -/
def read (g : GivenLevel) (outer : List GivenLevel) : List String → Except UsageError CommandLine
  | [] => do unwind (← g.finish) outer
  | arg :: rest =>
    if g.isCommand arg then
      match g.level.commands.lookup arg with
      | some l => read { level := l } (g :: outer) rest
      | none =>
        .error (if (g.level.follow rest).isSome then .displayHelp else .unknownCommand)
    else do read (← g.read arg) outer rest

/-- The command line that a list of arguments is. -/
def ofArguments (args : List String) : Except UsageError CommandLine :=
  read { level := .root } [] args

/-- The value of an argument; of several the last one. -/
def value? (l : CommandLine) (a : Argument) : Option String :=
  ((l.given.filter (·.1 == a)).getLast?).map (·.2)

/-- All values of an argument. -/
def values (l : CommandLine) (a : Argument) : List String :=
  (l.given.filter (·.1 == a)).map (·.2)

end CommandLine

end ComponentScan
