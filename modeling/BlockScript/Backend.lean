import BlockScript.Context
import BlockScript.Fault
import BlockScript.Instruction
import BlockScript.Keyword
import BlockScript.TypeTable

/-!
What a target language supplies. A line is resolved against the keywords and type keywords of the
backend, and the backend writes it; nesting of blocks is the same for all and not its concern.
-/
namespace BlockScript

inductive Resolution where
  | keyword (k : Keyword)
  | declaration
  | assignment
  | passThrough
  deriving DecidableEq, Repr

namespace Resolution

def isDelimiter : Resolution → Bool
  | keyword k => k.isDelimiter
  | _ => false

/-- Levels of indentation: the open blocks, less one on the line that opens or continues one. -/
def indentDepth (r : Resolution) (stack : FrameStack) : Nat :=
  if r.isDelimiter then stack.depth - 1 else stack.depth

end Resolution

structure Rendering where
  /-- `none` leaves the line as it is. -/
  lines : Option (List Text)
  definitions : List Text := []
  returnCode : Option Text := none
  deriving DecidableEq, Repr

namespace Rendering

def ofLine (text : Text) : Rendering := { lines := some [text] }
def ofLines (lines : List Text) : Rendering := { lines := some lines }
def nothing : Rendering := ofLines []
def unchanged : Rendering := { lines := none }
def define (definitions : List Text) : Rendering := { lines := some [], definitions }

end Rendering

def Context.write (ctx : Context) (r : Rendering) : Context :=
  { ctx with
    current := r.lines.getD ctx.current
    definitions := ctx.definitions ++ r.definitions
    returnCode := r.returnCode.getD ctx.returnCode }

structure Backend where
  language : Text
  extension : Text
  keywords : List Keyword
  types : TypeTable
  /-- Name of the function that the target itself adds around the body. -/
  entryPoint : Option Text
  /-- A structural line, given the block that it closed. -/
  render : Keyword → Instruction → Option Frame → Except Cause Rendering
  declare : List Text → Except Cause (List Text)
  assign : List Text → Except Cause (List Text)
  /-- Indents and completes the lines that a line wrote. -/
  finish : Resolution → FrameStack → List Text → List Text
  assemble : Text → Context → Text

namespace Backend

def isTypeKeyword (b : Backend) (word : Text) : Bool :=
  let base := word.dropEndWhile (· == '*')
  base ≠ [] && b.types.contains base

def keyword? (b : Backend) (word : Text) : Option Keyword :=
  (Keyword.ofText? word).filter fun k => k ∈ b.keywords

def isAssignment (i : Instruction) : Bool := i.params.head?.any fun op => op.endsWith (· == '=')

/-- Keywords come before type keywords, and these before assignments. -/
def resolve (b : Backend) (i : Instruction) : Resolution :=
  match b.keyword? i.name with
  | some k => .keyword k
  | none =>
    if b.isTypeKeyword i.name then .declaration
    else if isAssignment i then .assignment
    else .passThrough

end Backend

def phrase (head rest : Text) : Text := if rest = [] then head else head ++ " " ++ rest

def bracketed (dim : Text) : Text := "[" ++ dim ++ "]"

end BlockScript
