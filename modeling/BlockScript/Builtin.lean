import BlockScript.Text.Replace

/-!
Functions that a program may call without defining them, and the sentinel `(ENDL)` for an end of
line inside printed text. A target gives each function its own name; calls are recognised by the
spelling up to and including the opening parenthesis.
-/
namespace BlockScript

inductive Builtin where
  | power | squareRoot | random | length
  deriving DecidableEq, Repr

def endOfLineMark : Text := "(ENDL)"

namespace Builtin

def all : List Builtin := [power, squareRoot, random, length]

def sourceNames : Builtin → List Text
  | power => ["puissance("]
  | squareRoot => ["racine("]
  | random => ["aleatoire(", "alea("]
  | length => ["longueur("]

def usedIn (b : Builtin) (text : Text) : Bool := b.sourceNames.any fun name => name.occursIn text

/-- Every source spelling with the function it names, in the order of replacement. -/
def spellings : List (Builtin × Text) := all.flatMap fun b => b.sourceNames.map (b, ·)

end Builtin

structure NativeNames where
  endOfLine : Text
  call : Builtin → Text

namespace NativeNames

def replaceCall (n : NativeNames) (text : Text) (spelling : Builtin × Text) : Text :=
  if spelling.2 = n.call spelling.1 then text
  else Text.replaceAll spelling.2 (n.call spelling.1) text

end NativeNames

/-- The sentinel first, then the functions one after the other. -/
def substitute (n : NativeNames) (text : Text) : Text :=
  Builtin.spellings.foldl n.replaceCall (Text.replaceAll endOfLineMark n.endOfLine text)

end BlockScript
