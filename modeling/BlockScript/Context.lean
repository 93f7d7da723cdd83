import BlockScript.FrameStack

/-!
State of one compilation: the open blocks, the output of the line at hand, and the finished lines.
Lines inside a function are kept apart from the body of the program.
-/
namespace BlockScript

structure Context where
  stack : FrameStack := []
  closed : Option Frame := none
  /-- Output of the line at hand, before it is indented. -/
  current : List Text := []
  body : List Text := []
  /-- Finished lines of functions, an empty one after each function. -/
  hoisted : List Text := []
  /-- Structures, and the constants that a target keeps with them. -/
  definitions : List Text := []
  returnCode : Text := "0"
  deriving DecidableEq, Repr

namespace Context

def beginLine (ctx : Context) (text : Text) : Context :=
  { ctx with closed := none, current := [text] }

def setLines (ctx : Context) (lines : List Text) : Context := { ctx with current := lines }
def setLine (ctx : Context) (text : Text) : Context := ctx.setLines [text]
def pushLine (ctx : Context) (text : Text) : Context := ctx.setLines (ctx.current ++ [text])
def prependLine (ctx : Context) (text : Text) : Context := ctx.setLines (text :: ctx.current)
def clearLine (ctx : Context) : Context := ctx.setLines []

def pending (ctx : Context) : List Text := ctx.current.filter (· ≠ [])

def closesFunction (ctx : Context) : Bool := ctx.closed.any Frame.isFunction

/-- Finished lines belong to a function: inside one, or on the line that closes one. -/
def relocating (ctx : Context) : Bool := ctx.stack.inFunction || ctx.closesFunction

def commit (ctx : Context) (lines : List Text) : Context :=
  if ctx.relocating then
    { ctx with hoisted := ctx.hoisted ++ lines ++ if ctx.closesFunction then [[]] else [] }
  else { ctx with body := ctx.body ++ lines }

end Context
end BlockScript
