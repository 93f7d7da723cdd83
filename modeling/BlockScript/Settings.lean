import BlockScript.Compile
import BlockScript.CPlusPlus
import BlockScript.Pseudocode
import BlockScript.Text.Lines

/-!
Settings of both targets, and compilation of a source text under them.
-/
namespace BlockScript

inductive Target where
  | pseudocode | cpp
  deriving DecidableEq, Repr

namespace Target

def name : Target → Text
  | pseudocode => "algorithmic"
  | cpp => "cpp"

def all : List Target := [pseudocode, cpp]

def ofText? (text : Text) : Option Target :=
  let word := text.toAsciiLower
  if word = "algo" || word = "algorithmic" then some pseudocode
  else if word = "cpp" || word = "c++" then some cpp
  else none

end Target

structure Settings where
  indent : Text := "\t"
  pointers : Bool := false
  structKeyword : Bool := true
  importNamespace : Bool := false
  namespaceName : Text := "std"
  pseudocodeTypes : TypeTable := .french
  cppTypes : TypeTable := .cpp

namespace Settings

def pseudocode (s : Settings) : Pseudocode where
  types := s.pseudocodeTypes
  indent := s.indent
  pointers := s.pointers

def cpp (s : Settings) : CPlusPlus where
  types := s.cppTypes
  indent := s.indent
  structKeyword := s.structKeyword
  importNamespace := s.importNamespace
  namespaceName := s.namespaceName

def backend (s : Settings) : Target → Backend
  | .pseudocode => s.pseudocode.backend
  | .cpp => s.cpp.backend

/-- Equality up to the order of the type tables. -/
def agrees (s t : Settings) : Bool :=
  s.indent == t.indent && s.pointers == t.pointers && s.structKeyword == t.structKeyword &&
  s.importNamespace == t.importNamespace && s.namespaceName == t.namespaceName &&
  s.pseudocodeTypes.agrees t.pseudocodeTypes && s.cppTypes.agrees t.cppTypes

def isDefault (s : Settings) : Bool := s.agrees {}

def compileSource (s : Settings) (target : Target) (source : Text) : Except Fault Text :=
  (s.backend target).compile source.lines

end Settings
end BlockScript
