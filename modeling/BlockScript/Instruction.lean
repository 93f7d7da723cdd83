import BlockScript.Text.Basic

/-!
A line of the notation. There is no quoting: the line is cut at every U+0020, the first token
names the instruction and the others are its operands. Two spaces in a row enclose an empty token.
-/
namespace BlockScript

def tokenize (line : Text) : List Text := line.splitOn ' '

structure Instruction where
  name : Text
  params : List Text
  line : Nat
  deriving DecidableEq, Repr

namespace Instruction

def ofTokens (tokens : List Text) (line : Nat) : Instruction := ⟨tokens.headD [], tokens.tail, line⟩

def tokens (i : Instruction) : List Text := i.name :: i.params

def rest (i : Instruction) : Text := Text.join " " i.params

end Instruction

structure SourceLine where
  text : Text
  index : Nat
  deriving DecidableEq, Repr

namespace SourceLine

def instruction (l : SourceLine) : Instruction := .ofTokens (tokenize l.text) l.index

/-- Numbers the lines from 1 and drops every carriage return at their ends. -/
def number (lines : List Text) : List SourceLine :=
  (lines.zipIdx 1).map fun (text, index) => ⟨text.dropEndWhile (· == '\r'), index⟩

end SourceLine
end BlockScript
