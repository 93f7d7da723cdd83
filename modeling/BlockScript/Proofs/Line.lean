import BlockScript.Compile
import BlockScript.Proofs.Outcome

/-!
One line of a program taken apart: its action on the open blocks, what it writes, and the context
that it leaves. A step of the compilation succeeds and fails exactly as these say.
-/
namespace BlockScript

def verdict : EStateM.Result Fault Context Unit → Except Fault Context
  | .ok _ ctx => .ok ctx
  | .error fault _ => .error fault

theorem verdict_eq_ok_iff {r : EStateM.Result Fault Context Unit} {ctx : Context} :
    verdict r = .ok ctx ↔ r = .ok () ctx := by
  cases r <;> simp [verdict]

namespace Backend

def action (b : Backend) (l : SourceLine) : Except Cause BlockAction :=
  match b.resolve l.instruction with
  | .keyword k => BlockAction.ofLine b.entryPoint k l.instruction.params
  | _ => .ok .plain

def written (b : Backend) (l : SourceLine) (closed : Option Frame) : Except Cause Rendering :=
  match b.resolve l.instruction with
  | .keyword k => b.render k l.instruction closed
  | .declaration => (b.declare l.instruction.tokens).map .ofLines
  | .assignment => (b.assign l.instruction.tokens).map .ofLines
  | .passThrough => .ok .unchanged

/-- The lines of a function, from the one that opens it to the one that closes it. -/
def relocates (stack : FrameStack) (closed : Option Frame) : Bool :=
  stack.inFunction || closed.any Frame.isFunction

def emitted (b : Backend) (l : SourceLine) (stack : FrameStack) (r : Rendering) : List Text :=
  b.finish (b.resolve l.instruction) stack ((r.lines.getD [l.text]).filter (· ≠ []))

def settle (b : Backend) (l : SourceLine) (ctx : Context) (stack : FrameStack)
    (closed : Option Frame) (r : Rendering) : Context where
  stack := stack
  closed := closed
  current := []
  body := if relocates stack closed then ctx.body else ctx.body ++ b.emitted l stack r
  hoisted :=
    if relocates stack closed then
      ctx.hoisted ++ b.emitted l stack r ++ if closed.any Frame.isFunction then [[]] else []
    else ctx.hoisted
  definitions := ctx.definitions ++ r.definitions
  returnCode := r.returnCode.getD ctx.returnCode

def outcome (b : Backend) (l : SourceLine) (ctx : Context) : Except Cause Context := do
  let action ← b.action l
  let (stack, closed) ← (action.apply l.index ctx.stack).mapError .structural
  let r ← b.written l closed
  return b.settle l ctx stack closed r

def rendered (b : Backend) (l : SourceLine) (ctx : Context) : Except Cause Context := do
  let action ← b.action l
  let (stack, closed) ← (action.apply l.index ctx.stack).mapError .structural
  let r ← b.written l closed
  return { ctx with stack, closed, current := [l.text] }.write r

theorem finishLine_write (b : Backend) (l : SourceLine) (ctx : Context) (stack : FrameStack)
    (closed : Option Frame) (r : Rendering) :
    b.finishLine (b.resolve l.instruction)
      ({ ctx with stack, closed, current := [l.text] }.write r) =
      b.settle l ctx stack closed r := by
  unfold finishLine Context.commit settle
  have same : ({ ctx with stack, closed, current := [l.text] }.write r).clearLine.relocating =
      relocates stack closed := rfl
  rw [same]
  cases relocates stack closed <;> rfl

theorem outcome_eq_rendered (b : Backend) (l : SourceLine) (ctx : Context) :
    b.outcome l ctx = (b.rendered l ctx).map (b.finishLine (b.resolve l.instruction)) := by
  unfold outcome rendered
  cases b.action l with
  | error cause => rfl
  | ok action =>
    cases applies : action.apply l.index ctx.stack with
    | error fault => simp only [bind, Except.bind, applies, mapError_error, Except.map]
    | ok blocks =>
      simp only [bind, Except.bind, applies, mapError_ok]
      cases b.written l blocks.2 with
      | error cause => rfl
      | ok r => exact congrArg Except.ok (b.finishLine_write l ctx blocks.1 blocks.2 r).symm

theorem setLines_beginLine (ctx : Context) (text : Text) (lines : List Text) :
    (ctx.beginLine text).setLines lines =
      { ctx with closed := none, current := [text] }.write (.ofLines lines) := by
  simp [Context.write, Context.setLines, Context.beginLine, Rendering.ofLines]

theorem verdict_renderLine (b : Backend) (l : SourceLine) (ctx : Context) :
    verdict (b.renderLine l.instruction (b.resolve l.instruction) (ctx.beginLine l.text)) =
      (b.rendered l ctx).mapError (Fault.mk · l.index) := by
  have line : l.instruction.line = l.index := rfl
  have stack : (ctx.beginLine l.text).stack = ctx.stack := rfl
  have closed : (ctx.beginLine l.text).closed = none := rfl
  unfold rendered action written
  cases b.resolve l.instruction with
  | keyword k =>
    simp only [renderLine, enterBlock, instruction, bind, EStateM.bind, Emit.change, blockEffect,
      line, stack, closed]
    cases BlockAction.ofLine b.entryPoint k l.instruction.params with
    | error cause => rfl
    | ok action =>
      simp only [Except.bind]
      cases action.apply l.index ctx.stack with
      | error fault => rfl
      | ok blocks =>
        simp only [mapError_ok, pure, Except.pure, Option.or_none]
        cases b.render k l.instruction blocks.2 <;> rfl
  | declaration =>
    simp only [renderLine, defineVar, Emit.change, bind, Except.bind, BlockAction.apply, line]
    cases b.declare l.instruction.tokens with
    | error cause => rfl
    | ok lines => exact congrArg Except.ok (setLines_beginLine ctx l.text lines)
  | assignment =>
    simp only [renderLine, assignVar, Emit.change, bind, Except.bind, BlockAction.apply, line]
    cases b.assign l.instruction.tokens with
    | error cause => rfl
    | ok lines => exact congrArg Except.ok (setLines_beginLine ctx l.text lines)
  | passThrough =>
    simp [renderLine, BlockAction.apply, bind, Except.bind, pure, Except.pure, EStateM.pure,
      verdict, Context.write, Context.beginLine, Rendering.unchanged]

theorem verdict_step (b : Backend) (l : SourceLine) (ctx : Context) :
    verdict (b.step l ctx) = (b.outcome l ctx).mapError (Fault.mk · l.index) := by
  have whole := verdict_renderLine b l ctx
  rw [step_eq, outcome_eq_rendered]
  cases h : b.rendered l ctx with
  | error cause =>
    rw [h] at whole
    cases r : b.renderLine l.instruction (b.resolve l.instruction) (ctx.beginLine l.text) with
    | ok _ mid =>
      rw [r] at whole
      cases whole
    | error fault mid =>
      rw [r] at whole
      exact whole
  | ok mid =>
    rw [h, mapError_ok, verdict_eq_ok_iff] at whole
    rw [whole]
    rfl

theorem step_eq_ok_iff {b : Backend} {l : SourceLine} {ctx after : Context} :
    b.step l ctx = .ok () after ↔ b.outcome l ctx = .ok after := by
  rw [← verdict_eq_ok_iff, verdict_step, mapError_eq_ok_iff]

theorem action_of_keyword {b : Backend} {l : SourceLine} {k : Keyword}
    (h : b.resolve l.instruction = .keyword k) :
    b.action l = BlockAction.ofLine b.entryPoint k l.instruction.params := by
  unfold action
  rw [h]

theorem written_of_keyword {b : Backend} {l : SourceLine} {k : Keyword}
    (h : b.resolve l.instruction = .keyword k) (closed : Option Frame) :
    b.written l closed = b.render k l.instruction closed := by
  unfold written
  rw [h]

theorem action_eq (b : Backend) (l : SourceLine) :
    b.action l =
      match b.keyword? l.instruction.name with
      | some k => BlockAction.ofLine b.entryPoint k l.instruction.params
      | none => .ok .plain := by
  unfold action resolve
  cases b.keyword? l.instruction.name with
  | some k => rfl
  | none =>
    by_cases declares : b.isTypeKeyword l.instruction.name = true
    · simp [declares]
    · by_cases assigns : isAssignment l.instruction = true <;> simp [declares, assigns]

/-- All that a line can do: it acts on the blocks, then it writes. -/
theorem outcome_eq_ok_iff {b : Backend} {l : SourceLine} {ctx after : Context} :
    b.outcome l ctx = .ok after ↔
      ∃ action, b.action l = .ok action ∧
        ∃ stack closed, action.apply l.index ctx.stack = .ok (stack, closed) ∧
          ∃ r, b.written l closed = .ok r ∧ after = b.settle l ctx stack closed r := by
  unfold outcome
  simp only [bind_eq_ok_iff, mapError_eq_ok_iff, Prod.exists, pure, Except.pure, Except.ok.injEq,
    @eq_comm Context after]

/-- All that can be wrong with a line: what it says, or where it stands. -/
theorem outcome_eq_error_iff {b : Backend} {l : SourceLine} {ctx : Context} {cause : Cause} :
    b.outcome l ctx = .error cause ↔
      b.action l = .error cause ∨
      ∃ action, b.action l = .ok action ∧
        ((∃ fault, action.apply l.index ctx.stack = .error fault ∧ cause = .structural fault) ∨
          ∃ stack closed, action.apply l.index ctx.stack = .ok (stack, closed) ∧
            b.written l closed = .error cause) := by
  unfold outcome
  simp only [bind_eq_error_iff, mapError_eq_error_iff, mapError_eq_ok_iff, Prod.exists, pure,
    Except.pure, reduceCtorEq, and_false, exists_false, or_false]

end Backend
end BlockScript
