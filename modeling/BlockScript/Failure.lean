import BlockScript.SettingsFile.Decode

/-!
Everything that can go wrong outside a program too: settings and files. Only a fault in the program
has a line.
-/
namespace BlockScript

inductive ConfigurationError where
  | unknownTarget (text : Text)
  /-- The text is no document at all. -/
  | malformed
  | misfit (problem : SettingsFile.Problem) (excerpt : SettingsFile.Excerpt)
  | described (message : Text)
  deriving DecidableEq, Repr

def ConfigurationError.message : ConfigurationError → Text
  | unknownTarget text => "unknown target '" ++ text ++ "'"
  | malformed => "failed to parse configuration"
  | misfit problem excerpt =>
      "failed to parse configuration: TOML parse error at line " ++ Text.ofNat excerpt.line ++
        ", column " ++ Text.ofNat excerpt.column ++ "\n" ++ excerpt.render ++
        problem.message ++ "\n"
  | described message => message

inductive FileError where
  | notFound | isDirectory | notDirectory | nameTooLong | notText
  | described (message : Text)
  deriving DecidableEq, Repr

def FileError.message : FileError → Text
  | notFound => "No such file or directory (os error 2)"
  | isDirectory => "Is a directory (os error 21)"
  | notDirectory => "Not a directory (os error 20)"
  | nameTooLong => "File name too long (os error 36)"
  | notText => "stream did not contain valid UTF-8"
  | described message => message

inductive Failure where
  | program (fault : Fault)
  | configuration (error : ConfigurationError)
  | file (error : FileError)
  deriving DecidableEq, Repr

namespace Failure

def line : Failure → Option Nat
  | program fault => some fault.line
  | configuration _ | file _ => none

def category : Failure → Category
  | program fault => fault.category
  | configuration _ => .configuration
  | file _ => .io

def detail : Failure → Text
  | program fault => fault.detail
  | configuration error => error.message
  | file error => error.message

def message : Failure → Text
  | program fault => fault.message
  | configuration error => "Configuration error: " ++ error.message
  | file error => "IO error: " ++ error.message

end Failure

def Target.read (text : Text) : Except ConfigurationError Target :=
  match Target.ofText? text with
  | some target => .ok target
  | none => .error (.unknownTarget text)

def Settings.read (source : Text) : Except ConfigurationError Settings :=
  match SettingsFile.document? source with
  | none => .error .malformed
  | some document =>
    match SettingsFile.settingsOf document with
    | .ok settings => .ok settings
    | .error misfit => .error (.misfit misfit.problem (.ofSpan source misfit.span))

end BlockScript
