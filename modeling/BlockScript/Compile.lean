import BlockScript.Backend
import BlockScript.ValueType

/-!
The run over the lines of a program. A structural line first acts on the open blocks and is then
rendered; the first line that fails ends the run. What a line does to the blocks is decided in two
steps: its operands give an action, and the action is applied to the stack.
-/
namespace BlockScript

inductive BlockAction where
  | plain
  | opens (frame : Frame)
  | opensBranch (frame : Frame) (refusal : StructuralFault)
  /-- Ends the section of local variables, if that is innermost. -/
  | startsBody
  | closes
  | returns
  deriving DecidableEq, Repr

namespace BlockAction

def functionFrame (returnToken : Text) : Frame := if returnToken = "void" then .proc else .fx

def ofFunction (entryPoint : Option Text) (params : List Text) : Except Cause BlockAction :=
  match trimTrailingEmpty params with
  | returnToken :: name :: _ =>
      if entryPoint = some name then .error (.reservedName name)
      else .ok (opens (functionFrame returnToken))
  | _ => .error (.argument .functionName)

def ofLine (entryPoint : Option Text) (k : Keyword) (params : List Text) :
    Except Cause BlockAction :=
  match k with
  | .forLoop =>
      if params.length < 3 then .error (.argument .loopBounds) else .ok (opens .forLoop)
  | .whileLoop => .ok (opens .whileLoop)
  | .ifBlock => .ok (opens .ifBlock)
  | .switch => .ok (opens .switch)
  | .case => .ok (opensBranch .case .caseOutsideSwitch)
  | .default => .ok (opensBranch .default .defaultOutsideSwitch)
  | .vars => .ok (opens .vars)
  | .fxStart => .ok startsBody
  | .fx => ofFunction entryPoint params
  | .close => .ok closes
  | .returnValue => .ok returns
  | _ => .ok plain

def apply (line : Nat) (stack : FrameStack) :
    BlockAction → Except StructuralFault (FrameStack × Option Frame)
  | plain => .ok (stack, none)
  | opens frame => .ok (stack.push frame line, none)
  | opensBranch frame refusal =>
      if stack.holds .switch then .ok (stack.push frame line, none) else .error refusal
  | startsBody => .ok (if stack.top = some .vars then stack.tail else stack, none)
  | closes =>
      match stack with
      | [] => .error .stackUnderflow
      | innermost :: rest => .ok (rest, some innermost.frame)
  | returns =>
      match stack.enclosingFunction with
      | some .fx => .ok (stack, none)
      | some _ => .error .returnInProcedure
      | none => .error .returnOutsideFunction

end BlockAction

/-- A step of a compilation. A failed step leaves a context too. -/
abbrev Emit := EStateM Fault Context

def Emit.change (line : Nat) (f : Context → Except Cause Context) : Emit Unit := fun ctx =>
  match f ctx with
  | .ok after => .ok () after
  | .error cause => .error ⟨cause, line⟩ ctx

theorem Emit.change_eq_error_iff {line : Nat} {f : Context → Except Cause Context}
    {ctx after : Context} {fault : Fault} :
    Emit.change line f ctx = .error fault after ↔
      after = ctx ∧ ∃ cause, f ctx = .error cause ∧ fault = ⟨cause, line⟩ := by
  unfold Emit.change
  split
  · simp_all
  · simp_all
    constructor <;> (rintro ⟨rfl, rfl⟩; simp)

namespace Backend

def blockEffect (b : Backend) (k : Keyword) (i : Instruction) (stack : FrameStack) :
    Except Cause (FrameStack × Option Frame) := do
  let action ← BlockAction.ofLine b.entryPoint k i.params
  (action.apply i.line stack).mapError .structural

def enterBlock (b : Backend) (k : Keyword) (i : Instruction) : Emit Unit :=
  Emit.change i.line fun ctx => do
    let (stack, closed) ← b.blockEffect k i ctx.stack
    return { ctx with stack, closed := closed.or ctx.closed }

def instruction (b : Backend) (k : Keyword) (i : Instruction) : Emit Unit :=
  Emit.change i.line fun ctx => return ctx.write (← b.render k i ctx.closed)

def defineVar (b : Backend) (tokens : List Text) (line : Nat) : Emit Unit :=
  Emit.change line fun ctx => return ctx.setLines (← b.declare tokens)

def assignVar (b : Backend) (tokens : List Text) (line : Nat) : Emit Unit :=
  Emit.change line fun ctx => return ctx.setLines (← b.assign tokens)

def finishLine (b : Backend) (r : Resolution) (ctx : Context) : Context :=
  ctx.clearLine.commit (b.finish r ctx.stack ctx.pending)

def renderLine (b : Backend) (i : Instruction) : Resolution → Emit Unit
  | .keyword k => do
      b.enterBlock k i
      b.instruction k i
  | .declaration => b.defineVar i.tokens i.line
  | .assignment => b.assignVar i.tokens i.line
  | .passThrough => pure ()

def step (b : Backend) (l : SourceLine) : Emit Unit := do
  let r := b.resolve l.instruction
  modify (·.beginLine l.text)
  b.renderLine l.instruction r
  modify (b.finishLine r)

theorem step_eq (b : Backend) (l : SourceLine) (ctx : Context) :
    b.step l ctx =
      match b.renderLine l.instruction (b.resolve l.instruction) (ctx.beginLine l.text) with
      | .ok _ after => .ok () (b.finishLine (b.resolve l.instruction) after)
      | .error fault after => .error fault after := by
  show EStateM.bind (b.renderLine l.instruction (b.resolve l.instruction)) _
    (ctx.beginLine l.text) = _
  unfold EStateM.bind
  cases b.renderLine l.instruction (b.resolve l.instruction) (ctx.beginLine l.text) <;> rfl

def run (b : Backend) (lines : List SourceLine) : Emit Unit := lines.forM b.step

theorem run_cons (b : Backend) (l : SourceLine) (rest : List SourceLine) (ctx : Context) :
    b.run (l :: rest) ctx =
      match b.step l ctx with
      | .ok _ after => b.run rest after
      | .error fault after => .error fault after := by
  show EStateM.bind (b.step l) (fun _ => b.run rest) ctx = _
  unfold EStateM.bind
  cases b.step l ctx <;> rfl

theorem run_append (b : Backend) (first rest : List SourceLine) (ctx : Context) :
    b.run (first ++ rest) ctx =
      match b.run first ctx with
      | .ok _ after => b.run rest after
      | .error fault after => .error fault after := by
  induction first generalizing ctx with
  | nil => rfl
  | cons l first ih =>
    rw [List.cons_append, run_cons, run_cons]
    cases b.step l ctx <;> simp [ih]

def conclude (b : Backend) (lines : List Text) (ctx : Context) : Except Fault Text :=
  match ctx.stack with
  | [] => .ok (b.assemble (Text.join "\n" lines) ctx)
  | innermost :: _ => .error ⟨.structural (.unclosedBlock innermost.frame), innermost.line⟩

def compile (b : Backend) (lines : List Text) : Except Fault Text :=
  match b.run (SourceLine.number lines) {} with
  | .ok _ ctx => b.conclude lines ctx
  | .error fault _ => .error fault

/-- The state after each line up to the first that fails. -/
def trace (b : Backend) (ctx : Context) : List SourceLine → List (Resolution × Context)
  | [] => []
  | l :: rest =>
      match b.step l ctx with
      | .ok _ ctx => (b.resolve l.instruction, ctx) :: trace b ctx rest
      | .error _ _ => []

end Backend
end BlockScript
