import BlockScript.Settings

/-!
Arguments of the command line. A subcommand `compile` or `check` is required; `-v` may stand before
and after it. Options have a long and mostly a short form, short ones can be written together, and
`--` ends them. Nothing may be given twice, and no value is empty.
-/
namespace BlockScript

inductive Command where
  | compile (input : Text) (target : Target) (output : Option Text)
  | check (input : Text)
  deriving DecidableEq, Repr

def Command.input : Command → Text
  | compile input _ _ => input
  | check input => input

structure Invocation where
  command : Command
  configuration : Option Text
  verbose : Bool
  deriving DecidableEq, Repr

inductive Request where
  | run (invocation : Invocation)
  | version
  | help
  | misuse
  deriving DecidableEq, Repr

namespace Arguments

inductive Subcommand where
  | compile | check
  deriving DecidableEq, Repr

inductive ValueOption where
  | target | output | configuration
  deriving DecidableEq, Repr

inductive Switch where
  | verbose | help | version
  | value (option : ValueOption)
  deriving DecidableEq, Repr

/-- Reading stops early: at a request that needs nothing further, or at a mistake. -/
abbrev Reading := Except Request

structure Given where
  verbose : Bool := false
  input : Option Text := none
  target : Option Target := none
  output : Option Text := none
  configuration : Option Text := none

def takes : Option Subcommand → Switch → Bool
  | _, .verbose | _, .help => true
  | level, .version => level = none
  | level, .value .configuration => level ≠ none
  | level, .value _ => level = some .compile

def shortSwitch? : Char → Option Switch
  | 'v' => some .verbose
  | 'h' => some .help
  | 'V' => some .version
  | 't' => some (.value .target)
  | 'o' => some (.value .output)
  | 'c' => some (.value .configuration)
  | _ => none

def longSwitches : List (Text × Switch) :=
  [("verbose", .verbose), ("help", .help), ("version", .version), ("target", .value .target),
   ("output", .value .output), ("config", .value .configuration)]

def once {α : Type} (old : Option α) (new : α) : Reading (Option α) :=
  if old.isSome then throw .misuse else return some new

def Given.setValue (g : Given) (option : ValueOption) (value : Text) : Reading Given := do
  if value = [] then throw .misuse
  match option with
  | .target =>
      match Target.ofText? value with
      | some target => return { g with target := ← once g.target target }
      | none => throw .misuse
  | .output => return { g with output := ← once g.output value }
  | .configuration => return { g with configuration := ← once g.configuration value }

def Given.setInput (g : Given) (value : Text) : Reading Given := do
  if value = [] then throw .misuse
  return { g with input := ← once g.input value }

def Given.turnOn (g : Given) : Switch → Reading (Given × Option ValueOption)
  | .verbose => if g.verbose then throw .misuse else return ({ g with verbose := true }, none)
  | .help => throw .help
  | .version => throw .version
  | .value option => return (g, some option)

/-- Short switches written together. The rest of the argument is the value of the first that takes
    one, with or without `=`. -/
def readCluster (level : Option Subcommand) (g : Given) :
    Text → Reading (Given × Option ValueOption)
  | [] => return (g, none)
  | c :: rest => do
      match (shortSwitch? c).filter (takes level) with
      | none => throw .misuse
      | some (.value option) =>
          if rest = [] then return (g, some option)
          else return (← g.setValue option ((Text.after? "=" rest).getD rest), none)
      | some switch => do
          let (g, _) ← g.turnOn switch
          readCluster level g rest

def readLong (level : Option Subcommand) (g : Given) (body : Text) :
    Reading (Given × Option ValueOption) := do
  let name := body.takeWhile (· ≠ '=')
  match (longSwitches.lookup name).filter (takes level), body.drop name.length with
  | none, _ => throw .misuse
  | some switch, [] => g.turnOn switch
  | some (.value option), _ :: value => return (← g.setValue option value, none)
  | some _, _ :: _ => throw .misuse

def readSwitches (level : Option Subcommand) (g : Given) :
    Text → Reading (Given × Option ValueOption)
  | '-' :: '-' :: body => readLong level g body
  | '-' :: body => readCluster level g body
  | _ => throw .misuse

def isSwitch (arg : Text) : Bool := arg.head? = some '-' && arg ≠ "-"

/-- Arguments of a subcommand. `waiting` is the option that the next one is the value of. -/
def readGiven (command : Subcommand) (waiting : Option ValueOption) (g : Given) :
    List Text → Reading Given
  | [] => if waiting = none then return g else throw .misuse
  | arg :: rest => do
      match waiting with
      | some option =>
          if isSwitch arg then throw .misuse
          else readGiven command none (← g.setValue option arg) rest
      | none =>
          if arg = "--" then rest.foldlM Given.setInput g
          else if isSwitch arg then
            let (g, waiting) ← readSwitches (some command) g arg
            readGiven command waiting g rest
          else readGiven command none (← g.setInput arg) rest

def Given.toInvocation (g : Given) (command : Subcommand) (outer : Bool) : Reading Invocation :=
  match command, g.input, g.target with
  | .compile, some input, some target =>
      return ⟨.compile input target g.output, g.configuration, outer || g.verbose⟩
  | .check, some input, _ => return ⟨.check input, g.configuration, outer || g.verbose⟩
  | _, _, _ => throw .misuse

def subcommand? (word : Text) : Option Subcommand :=
  if word = "compile" then some .compile
  else if word = "check" then some .check
  else none

def readHelp : List Text → Request
  | [] => .help
  | [topic] => if (subcommand? topic).isSome || topic = "help" then .help else .misuse
  | _ => .misuse

def readAll (g : Given) : List Text → Reading Invocation
  | [] => throw .misuse
  | arg :: rest => do
      if arg = "--" then throw .misuse
      else if isSwitch arg then
        let (g, _) ← readSwitches none g arg
        readAll g rest
      else if arg = "help" then throw (readHelp rest)
      else
        match subcommand? arg with
        | none => throw .misuse
        | some command => (← readGiven command none {} rest).toInvocation command g.verbose

end Arguments

def Request.read (args : List Text) : Request :=
  match Arguments.readAll {} args with
  | .ok invocation => .run invocation
  | .error request => request

end BlockScript
