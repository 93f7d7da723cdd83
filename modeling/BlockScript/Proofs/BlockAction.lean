import BlockScript.Proofs.BlockGrammar
import BlockScript.Proofs.Line

/-!
What the actions of lines do to the frames of the open blocks, and which symbol of the block grammar
each line is.
-/
namespace BlockScript
open BlockGrammar

namespace FrameStack

def frames (s : FrameStack) : List Frame := s.map (·.frame)

theorem frames_eq_nil_iff {s : FrameStack} : frames s = [] ↔ s = [] := List.map_eq_nil_iff

theorem top_eq_head? (s : FrameStack) : s.top = (frames s).head? := by
  simp [top, frames]

theorem holds_iff {s : FrameStack} {f : Frame} : s.holds f = true ↔ f ∈ frames s := by
  simp [holds, frames]

theorem inFunction_cons (f : OpenFrame) (rest : FrameStack) :
    inFunction (f :: rest) = (f.frame.isFunction || inFunction rest) := by
  unfold inFunction enclosingFunction
  rw [List.map_cons, List.find?_cons]
  cases f.frame.isFunction <;> rfl

theorem inFunction_iff {stack : FrameStack} :
    stack.inFunction = true ↔ ∃ f ∈ frames stack, f.isFunction = true := by
  rw [inFunction, enclosingFunction, List.find?_isSome]
  rfl

end FrameStack

theorem trimTrailingEmpty_isPrefix (tokens : List Text) : trimTrailingEmpty tokens <+: tokens := by
  unfold trimTrailingEmpty
  rw [← List.reverse_suffix, List.reverse_reverse]
  exact List.dropWhile_suffix _

namespace BlockAction

variable {entryPoint : Option Text} {params : List Text} {a : BlockAction}

theorem ofLine_forLoop (entryPoint : Option Text) (params : List Text) :
    ofLine entryPoint .forLoop params =
      if params.length < 3 then .error (.argument .loopBounds) else .ok (opens .forLoop) := rfl

theorem ofLine_forLoop_eq_ok_iff :
    ofLine entryPoint .forLoop params = .ok a ↔ ¬ params.length < 3 ∧ a = opens .forLoop := by
  rw [ofLine_forLoop]
  split <;> simp_all [eq_comm]

theorem ofFunction_eq_ok_iff :
    ofFunction entryPoint params = .ok a ↔
      ∃ returnToken name more, trimTrailingEmpty params = returnToken :: name :: more ∧
        entryPoint ≠ some name ∧ a = opens (functionFrame returnToken) := by
  unfold ofFunction
  split
  · rename_i returnToken name more named
    by_cases reserved : entryPoint = some name
    · simp only [if_pos reserved, reduceCtorEq, false_iff, not_exists]
      rintro returnToken' name' more' ⟨same, free, _⟩
      simp_all
    · simp only [if_neg reserved, Except.ok.injEq]
      constructor
      · rintro rfl
        exact ⟨returnToken, name, more, named, reserved, rfl⟩
      · rintro ⟨returnToken', name', more', same, _, rfl⟩
        simp_all
  · rename_i unnamed
    simp only [reduceCtorEq, false_iff, not_exists]
    rintro returnToken name more ⟨named, _⟩
    exact unnamed returnToken name more named

theorem ofLine_failsWith (entryPoint : Option Text) (k : Keyword) (params : List Text) :
    FailsWith Category.ofLine (ofLine entryPoint k params) := by
  cases k with
  | forLoop =>
    rw [ofLine_forLoop]
    split
    · exact failsWith_mono (failsWith_error _) (by decide)
    · trivial
  | fx =>
    show FailsWith _ (ofFunction entryPoint params)
    unfold ofFunction
    split
    · split
      · exact failsWith_mono (failsWith_error _) (by simp [Cause.category, Category.ofLine])
      · trivial
    · exact failsWith_mono (failsWith_error _) (by decide)
  | _ => trivial

/-- What an action asks of the blocks around it fits the frame that it opens. -/
def Fitting : BlockAction → Prop
  | opens f => f ≠ .case ∧ f ≠ .default
  | opensBranch f _ => f = .case ∨ f = .default
  | _ => True

theorem fitting_of_ofLine {k : Keyword} (h : ofLine entryPoint k params = .ok a) : a.Fitting := by
  cases k with
  | forLoop =>
    obtain ⟨_, rfl⟩ := ofLine_forLoop_eq_ok_iff.mp h
    simp [Fitting]
  | fx =>
    obtain ⟨returnToken, name, more, named, free, rfl⟩ := ofFunction_eq_ok_iff.mp h
    unfold functionFrame
    split <;> simp [Fitting]
  | _ =>
    cases h
    simp [Fitting]

theorem needs_of_apply_error {k : Keyword} {line : Nat} {stack : FrameStack}
    {fault : StructuralFault} (h : ofLine entryPoint k params = .ok a)
    (fails : a.apply line stack = .error fault) :
    k ∈ [.case, .default, .close, .returnValue] := by
  cases k with
  | case | default | close | returnValue => decide
  | forLoop =>
    obtain ⟨_, rfl⟩ := ofLine_forLoop_eq_ok_iff.mp h
    cases fails
  | fx =>
    obtain ⟨_, _, _, _, _, rfl⟩ := ofFunction_eq_ok_iff.mp h
    cases fails
  | _ =>
    cases h
    cases fails

def symbol : BlockAction → Symbol
  | plain => .plain
  | opens f => .opens f
  | opensBranch f _ => .opens f
  | startsBody => .starts
  | closes => .ends
  | returns => .returns

/-- An action fails exactly where the grammar forbids its symbol, and leaves the same frames
    elsewhere. -/
theorem advance_symbol (fits : a.Fitting) (line : Nat) (stack : FrameStack) :
    advance stack.frames a.symbol =
      (a.apply line stack).toOption.map fun blocks => FrameStack.frames blocks.1 := by
  cases a with
  | plain => rfl
  | opens f =>
    have allowed : MayOpen stack.frames f := by
      rintro (rfl | rfl)
      · exact absurd rfl fits.1
      · exact absurd rfl fits.2
    simp only [symbol, advance, if_pos allowed]
    rfl
  | opensBranch f refusal =>
    have needs : MayOpen stack.frames f ↔ stack.holds .switch = true := by
      rw [FrameStack.holds_iff]
      exact ⟨fun h => h fits, fun h _ => h⟩
    simp only [symbol, advance, needs, apply]
    split <;> rfl
  | startsBody =>
    simp only [symbol, advance, apply, ← FrameStack.top_eq_head?]
    split
    · simp [Except.toOption, FrameStack.frames]
    · rfl
  | closes => cases stack <;> rfl
  | returns =>
    simp only [symbol, advance, apply, MayReturn]
    show (if stack.enclosingFunction = some .fx then _ else _) = _
    cases hf : stack.enclosingFunction with
    | none => rfl
    | some f => cases f <;> rfl

end BlockAction

def BlockGrammar.Symbol.ofKeyword (k : Keyword) (params : List Text) : Symbol :=
  match k with
  | .forLoop => .opens .forLoop
  | .whileLoop => .opens .whileLoop
  | .ifBlock => .opens .ifBlock
  | .switch => .opens .switch
  | .case => .opens .case
  | .default => .opens .default
  | .vars => .opens .vars
  | .fx => .opens (if params.head? = some ("void" : Text) then .proc else .fx)
  | .fxStart => .starts
  | .close => .ends
  | .returnValue => .returns
  | _ => .plain

theorem BlockAction.symbol_of_ofLine {entryPoint : Option Text} {k : Keyword} {params : List Text}
    {a : BlockAction} (h : ofLine entryPoint k params = .ok a) :
    a.symbol = Symbol.ofKeyword k params := by
  cases k with
  | forLoop =>
    obtain ⟨_, rfl⟩ := ofLine_forLoop_eq_ok_iff.mp h
    rfl
  | fx =>
    obtain ⟨returnToken, name, more, named, free, rfl⟩ := ofFunction_eq_ok_iff.mp h
    obtain ⟨dropped, whole⟩ := trimTrailingEmpty_isPrefix params
    rw [named] at whole
    have first : params.head? = some returnToken := by rw [← whole]; rfl
    simp only [symbol, Symbol.ofKeyword, functionFrame, first, Option.some.injEq]
  | _ =>
    cases h
    rfl

namespace Backend

def symbol (b : Backend) (l : SourceLine) : Symbol :=
  match b.resolve l.instruction with
  | .keyword k => .ofKeyword k l.instruction.params
  | _ => .plain

variable {b : Backend} {l : SourceLine} {a : BlockAction}

theorem action_failsWith (b : Backend) (l : SourceLine) :
    FailsWith Category.ofLine (b.action l) := by
  unfold action
  split
  · exact BlockAction.ofLine_failsWith _ _ _
  · trivial

theorem fitting_of_action (h : b.action l = .ok a) : a.Fitting := by
  unfold action at h
  split at h
  · exact BlockAction.fitting_of_ofLine h
  · cases h
    trivial

theorem symbol_of_action (h : b.action l = .ok a) : a.symbol = b.symbol l := by
  unfold action at h
  unfold symbol
  cases hr : b.resolve l.instruction with
  | keyword k =>
    rw [hr] at h
    exact BlockAction.symbol_of_ofLine h
  | _ =>
    rw [hr] at h
    cases h
    rfl

end Backend
end BlockScript
