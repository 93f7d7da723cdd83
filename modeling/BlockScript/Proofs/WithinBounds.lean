import BlockScript.Proofs.PartialOperations
import BlockScript.Proofs.FirstFault

/-!
A whole compilation by position. The checks stand in other functions than the operations that rely
on them: the action of a line asks for the operands that its rendering takes, and a line is resolved
as an assignment only if its operator ends with the sign. Line by line the compilation by position
comes to what the compilation does, so no partial operation in it is without a result.
-/
namespace BlockScript
open Guarded

namespace BlockAction

def indexedFunction (entryPoint : Option Text) (params : List Text) : Guarded BlockAction := do
  match ← indexedTrim params with
  | returnToken :: name :: _ =>
      if entryPoint = some name then total (.error (.reservedName name))
      else return opens (functionFrame returnToken)
  | _ => total (.error (.argument .functionName))

def indexed (entryPoint : Option Text) (k : Keyword) (params : List Text) : Guarded BlockAction :=
  match k with
  | .fx => indexedFunction entryPoint params
  | _ => total (ofLine entryPoint k params)

theorem indexed_eq (entryPoint : Option Text) (k : Keyword) (params : List Text) :
    indexed entryPoint k params = total (ofLine entryPoint k params) := by
  cases k with
  | fx =>
    show indexedFunction entryPoint params = total (ofFunction entryPoint params)
    unfold indexedFunction ofFunction
    rw [indexedTrim_eq, pure_bind]
    match trimTrailingEmpty params with
    | [] | [_] => rfl
    | returnToken :: name :: _ =>
      dsimp only
      split <;> rfl
  | _ => rfl

end BlockAction

structure IndexedRenderers where
  render : Keyword → Instruction → Option Frame → Guarded Rendering
  declare : List Text → Guarded (List Text)
  assign : List Text → Guarded (List Text)

def Pseudocode.indexed (p : Pseudocode) : IndexedRenderers where
  render := p.indexedRender
  declare := p.indexedDeclare
  assign := p.indexedAssign

def CPlusPlus.indexed (c : CPlusPlus) : IndexedRenderers where
  render := c.indexedRender
  declare := c.indexedDeclare
  assign tokens := return [assignment tokens]

def Settings.indexed (s : Settings) : Target → IndexedRenderers
  | .pseudocode => s.pseudocode.indexed
  | .cpp => s.cpp.indexed

namespace Backend

variable (b : Backend) (x : IndexedRenderers)

def indexedRendered (l : SourceLine) (ctx : Context) : Guarded Context := do
  let i ← Instruction.indexed (tokenize l.text) l.index
  let ctx := ctx.beginLine l.text
  match b.resolve i with
  | .keyword k =>
      let action ← BlockAction.indexed b.entryPoint k i.params
      let (stack, closed) ← total ((action.apply i.line ctx.stack).mapError .structural)
      let ctx := { ctx with stack, closed := closed.or ctx.closed }
      return ctx.write (← x.render k i ctx.closed)
  | .declaration => return ctx.setLines (← x.declare i.tokens)
  | .assignment => return ctx.setLines (← x.assign i.tokens)
  | .passThrough => return ctx

def indexedLine (l : SourceLine) (ctx : Context) : Guarded Context :=
  b.finishLine (b.resolve l.instruction) <$> b.indexedRendered x l ctx

def indexedRun : List SourceLine → Context → Option (Except Fault Context)
  | [], ctx => some (.ok ctx)
  | l :: rest, ctx =>
      match b.indexedLine x l ctx with
      | none => none
      | some (.error cause) => some (.error ⟨cause, l.index⟩)
      | some (.ok after) => indexedRun rest after

def indexedCompile (lines : List Text) : Option (Except Fault Text) :=
  (b.indexedRun x (SourceLine.number lines) {}).map (· >>= b.conclude lines)

/-- Behind the checks of the dispatcher no partial operation lacks a result, and what is written is
    what the target writes. -/
structure WithinBounds : Prop where
  render : ∀ {k i a}, BlockAction.ofLine b.entryPoint k i.params = .ok a →
    ∀ closed, x.render k i closed = total (b.render k i closed)
  declare : ∀ keyword rest, x.declare (keyword :: rest) = total (b.declare (keyword :: rest))
  assign : ∀ name rest, (∀ op, rest.head? = some op → op.endsWith (· == '=') = true) →
    x.assign (name :: rest) = total (b.assign (name :: rest))

theorem withinBounds_backend (s : Settings) (target : Target) :
    (s.backend target).WithinBounds (s.indexed target) := by
  cases target with
  | pseudocode =>
    exact ⟨s.pseudocode.indexedRender_eq, s.pseudocode.indexedDeclare_eq,
      fun _ _ signed => s.pseudocode.indexedAssign_eq signed⟩
  | cpp => exact ⟨s.cpp.indexedRender_eq, s.cpp.indexedDeclare_eq, fun _ _ _ => rfl⟩

variable {b x}

theorem beginLine_eq_write (ctx : Context) (text : Text) :
    ctx.beginLine text = { ctx with closed := none, current := [text] }.write .unchanged := by
  simp [Context.write, Context.beginLine, Rendering.unchanged]

namespace WithinBounds

theorem rendered (h : b.WithinBounds x) (l : SourceLine) (ctx : Context) :
    b.indexedRendered x l ctx = total (b.rendered l ctx) := by
  have instruction : Instruction.ofTokens (tokenize l.text) l.index = l.instruction := rfl
  have closed : (ctx.beginLine l.text).closed = none := rfl
  unfold indexedRendered Backend.rendered action written
  simp only [Instruction.indexed_eq, pure_bind, instruction, closed, Option.or_none]
  cases resolved : b.resolve l.instruction with
  | keyword k =>
    simp only [BlockAction.indexed_eq, total_bind]
    cases acts : BlockAction.ofLine b.entryPoint k l.instruction.params with
    | error cause => rfl
    | ok action =>
      simp only [total_ok, pure_bind]
      congr 1
      funext blocks
      rw [h.render acts]
      rfl
  | declaration =>
    have written := h.declare l.instruction.name l.instruction.params
    simp only [Instruction.tokens, written]
    cases b.declare (l.instruction.name :: l.instruction.params) with
    | error cause => rfl
    | ok lines => exact congrArg (total <| .ok ·) (setLines_beginLine ctx l.text lines)
  | assignment =>
    have signed : ∀ op, l.instruction.params.head? = some op → op.endsWith (· == '=') = true := by
      intro op first
      simpa [isAssignment, first] using isAssignment_of_resolve resolved
    have written := h.assign l.instruction.name l.instruction.params signed
    simp only [Instruction.tokens, written]
    cases b.assign (l.instruction.name :: l.instruction.params) with
    | error cause => rfl
    | ok lines => exact congrArg (total <| .ok ·) (setLines_beginLine ctx l.text lines)
  | passThrough => exact congrArg (total <| .ok ·) (beginLine_eq_write ctx l.text)

theorem line (h : b.WithinBounds x) (l : SourceLine) (ctx : Context) :
    b.indexedLine x l ctx = total (b.outcome l ctx) := by
  rw [indexedLine, h.rendered, outcome_eq_rendered]
  exact (total_map _ _).symm

theorem run (h : b.WithinBounds x) (lines : List SourceLine) (ctx : Context) :
    b.indexedRun x lines ctx = some (b.reach lines ctx) := by
  induction lines generalizing ctx with
  | nil => rfl
  | cons l rest ih =>
    rw [indexedRun, h.line, reach_cons]
    cases b.outcome l ctx with
    | error cause => rfl
    | ok after => exact ih after

theorem compile (h : b.WithinBounds x) (lines : List Text) :
    b.indexedCompile x lines = some (b.compile lines) := by
  rw [indexedCompile, h.run, compile_eq]
  rfl

end WithinBounds

theorem outcome_ne_missingOperand (sound : b.SelfContained) {l : SourceLine} {ctx : Context}
    {cause : Cause} (h : b.outcome l ctx = .error cause) : cause ≠ .missingOperand := by
  rintro rfl
  have foreign : Cause.missingOperand.category ∉ Category.ofLine := by decide
  rcases outcome_eq_error_iff.mp h with h | ⟨a, acts, ⟨fault, _, same⟩ | ⟨_, closed, _, h⟩⟩
  · exact foreign (category_of_failsWith (b.action_failsWith l) h)
  · cases same
  · exact foreign (category_of_failsWith (sound.written_failsWith acts closed) h)

theorem compile_ne_missingOperand (sound : b.SelfContained) (lines : List Text) (n : Nat) :
    b.compile lines ≠ .error ⟨.missingOperand, n⟩ := by
  intro h
  have early := reach_of_compile h nofun
  obtain ⟨_, _, _, _, _, _, fails, _⟩ := exists_of_reach_eq_error early
  exact outcome_ne_missingOperand sound fails rfl

end Backend

/-- A compilation that takes every operand by its position and cuts texts at bytes comes to what the
    compilation does: it never asks for a position outside of a list, cuts a text within a character
    or strips an operator of anything but its sign. -/
theorem Settings.compile_within_bounds (s : Settings) (target : Target) (lines : List Text) :
    (s.backend target).indexedCompile (s.indexed target) lines =
        some ((s.backend target).compile lines) ∧
      ∀ n, (s.backend target).compile lines ≠ .error ⟨.missingOperand, n⟩ :=
  ⟨(Backend.withinBounds_backend s target).compile lines,
    Backend.compile_ne_missingOperand (Backend.selfContained_backend s target) lines⟩

example : ({} : Pseudocode).indexedRender .forLoop ⟨"for", ["i", "0"], 1⟩ none = none := rfl

end BlockScript
