import BlockScript.Text.Basic

/-!
Open blocks, innermost first. The depth decides indentation, the innermost frame decides what a
closing line writes.
-/
namespace BlockScript

/-- `fx` is a function with a value, `proc` one without; `vars` is the section of local
    variables. -/
inductive Frame where
  | forLoop | whileLoop | ifBlock | switch | case | default | fx | proc | struct | vars
  deriving DecidableEq, Repr

namespace Frame

def all : List Frame :=
  [forLoop, whileLoop, ifBlock, switch, case, default, fx, proc, struct, vars]

def name : Frame → Text
  | forLoop => "for"
  | whileLoop => "while"
  | ifBlock => "if"
  | switch => "switch"
  | case => "case"
  | default => "default"
  | fx => "fx"
  | proc => "proc"
  | struct => "struct"
  | vars => "vars"

def isFunction : Frame → Bool
  | fx | proc => true
  | _ => false

theorem mem_all (f : Frame) : f ∈ all := by cases f <;> decide

end Frame

structure OpenFrame where
  frame : Frame
  line : Nat
  deriving DecidableEq, Repr

abbrev FrameStack := List OpenFrame

namespace FrameStack

def push (s : FrameStack) (frame : Frame) (line : Nat) : FrameStack := ⟨frame, line⟩ :: s

def top (s : FrameStack) : Option Frame := s.head?.map (·.frame)

def depth (s : FrameStack) : Nat := s.length

def holds (s : FrameStack) (frame : Frame) : Bool := s.any (·.frame == frame)

def enclosingFunction (s : FrameStack) : Option Frame := (s.map (·.frame)).find? Frame.isFunction

def inFunction (s : FrameStack) : Bool := s.enclosingFunction.isSome

end FrameStack
end BlockScript
