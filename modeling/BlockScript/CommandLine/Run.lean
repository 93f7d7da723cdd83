import BlockScript.CommandLine.Arguments
import BlockScript.CommandLine.Files
import BlockScript.Report

/-!
What an invocation does. It reads and writes through a `Disk`, so the same run acts on real files
and on a table of files; the reader of settings files and the renderer of reports are handed to it.
A file is written only as the last act of a compilation.
-/
namespace BlockScript

structure Disk (m : Type → Type) where
  read : Text → m (Except FileError Text)
  write : Text → Text → m (Except FileError Unit)

/-- A table of files as a disk; a write that fails changes nothing. -/
def Disk.ofFiles : Disk (StateM Files) where
  read path := return (← get).read path
  write path text := do
    match (← get).write path text with
    | .ok files =>
        set files
        return .ok ()
    | .error error => return .error error

/-- What the command line leaves to libraries. -/
structure Libraries where
  readSettings : Text → Except ConfigurationError Settings
  report : Failure → (source filename : Text) → Text

def Libraries.standard : Libraries := ⟨Settings.read, Failure.report⟩

structure Outcome where
  code : Nat
  stdout : Text
  stderr : Text
  deriving DecidableEq, Repr

structure Printed where
  out : Text := []
  err : Text := []

abbrev Console (m : Type → Type) := StateT Printed m

namespace CommandLine

variable {m : Type → Type} [Monad m] (libraries : Libraries)

def say (text : Text) : Console m Unit := modify fun p => { p with out := p.out ++ text ++ "\n" }

def note (verbose : Bool) (text : Text) : Console m Unit := if verbose then say text else pure ()

def complain (text : Text) : Console m Unit :=
  modify fun p => { p with err := p.err ++ text ++ "\n" }

/-- A failure without a line ends with a line end of its own. -/
def report (failure : Failure) (source filename : Text) : Console m Unit :=
  match failure.line with
  | none => complain failure.message
  | some _ => modify fun p => { p with err := p.err ++ libraries.report failure source filename }

def quotedName (path : Text) : Text := "'" ++ path ++ "'"

def bytes (text : Text) : Text := Text.ofNat (Text.utf8Length text) ++ " bytes"

def lineCount (source : Text) : Text := Text.ofNat (Text.lines source).length ++ " lines"

def loadSettings (disk : Disk m) (verbose : Bool) :
    Option Text → Console m (Except Failure Settings)
  | none => return .ok {}
  | some path => do
      note verbose (" Config: " ++ path)
      match ← disk.read path with
      | .error error => return .error (.file error)
      | .ok text => return (libraries.readSettings text).mapError .configuration

def readSource (disk : Disk m) (verbose : Bool) (input : Text) : Console m (Option Text) := do
  match ← disk.read input with
  | .error error =>
      complain ("Error reading file " ++ quotedName input ++ ": " ++ error.message)
      return none
  | .ok source =>
      note verbose (" Source: " ++ bytes source ++ ", " ++ lineCount source)
      return some source

def defaultOutput (target : Target) (input : Text) : Text :=
  (fileStem input).getD "output" ++ "." ++ ((({} : Settings).backend target).extension)

def writeOutput (disk : Disk m) (path text : Text) : Console m Bool := do
  match ← disk.write path text with
  | .ok () =>
      say ("Generated: " ++ path ++ " (" ++ bytes text ++ ")")
      return true
  | .error error =>
      complain ("Error writing " ++ quotedName path ++ ": " ++ error.message)
      return false

def compile (disk : Disk m) (settings : Settings) (verbose : Bool) (input : Text)
    (target : Target) (output : Option Text) : Console m Bool := do
  match ← readSource disk verbose input with
  | none => return false
  | some source =>
      note verbose (" Compiling: " ++ input ++ " -> " ++ target.name)
      match settings.compileSource target source with
      | .ok text => writeOutput disk (output.getD (defaultOutput target input)) text
      | .error fault =>
          report libraries (.program fault) source input
          return false

def checkTarget (settings : Settings) (verbose : Bool) (input source : Text) (target : Target) :
    Console m Bool := do
  match settings.compileSource target source with
  | .ok text =>
      note verbose (" " ++ target.name ++ ": " ++ bytes text)
      return true
  | .error fault =>
      report libraries (.program fault) source input
      return false

def check (disk : Disk m) (settings : Settings) (verbose : Bool) (input : Text) :
    Console m Bool := do
  match ← readSource disk verbose input with
  | none => return false
  | some source =>
      let results ← Target.all.mapM (checkTarget libraries settings verbose input source)
      if results.all id then
        say ("OK: " ++ lineCount source ++ " checked")
        return true
      else return false

def invoke (disk : Disk m) (i : Invocation) : Console m Bool := do
  match ← loadSettings libraries disk i.verbose i.configuration with
  | .error failure =>
      complain ("Error: " ++ failure.message)
      return false
  | .ok settings =>
      let succeeded ← match i.command with
        | .compile input target output =>
            compile libraries disk settings i.verbose input target output
        | .check input => check libraries disk settings i.verbose input
      if succeeded then return true
      else
        note i.verbose (" Failed: " ++ i.command.input)
        return false

def execute (disk : Disk m) (i : Invocation) : m Outcome := do
  let (succeeded, printed) ← invoke libraries disk i {}
  return ⟨if succeeded then 0 else 1, printed.out, printed.err⟩

def usage : Text :=
  "Usage: algorithmic compile <INPUT> -t <algo|cpp> [-o <OUTPUT>] [-c <CONFIG>] [-v]\n" ++
  "       algorithmic check <INPUT> [-c <CONFIG>] [-v]\n"

def versionLine : Text := "algorithmic 0.1.0\n"

def run (disk : Disk m) (args : List Text) : m Outcome :=
  match Request.read args with
  | .misuse => return ⟨2, [], usage⟩
  | .help => return ⟨0, usage, []⟩
  | .version => return ⟨0, versionLine, []⟩
  | .run invocation => execute .standard disk invocation

end CommandLine
end BlockScript
