import BlockScript.Proofs.CallSites
import BlockScript.Proofs.Words

/-!
Lines and their tokens. Cutting a line at its spaces and joining the tokens undo each other, however
many spaces stand together or at an end, so a target that joins all tokens of a line again writes
the line as it was read.
-/
namespace BlockScript

variable {l : SourceLine}

namespace SourceLine

theorem text_eq_of_mem (spaced : ' ' ∈ l.text) :
    l.text = l.instruction.name ++ " " ++ l.instruction.rest := by
  have whole := l.text_eq_join
  unfold Instruction.tokens at whole
  cases operands : l.instruction.params with
  | nil =>
    rw [operands, Text.join_singleton] at whole
    have first : l.instruction.name ∈ tokenize l.text := by
      rw [← tokens_instruction]
      exact List.mem_cons_self
    rw [whole] at spaced
    exact absurd spaced (Text.not_mem_of_mem_splitOn first)
  | cons operand others =>
    rw [operands, Text.join_cons_cons] at whole
    rw [whole, Instruction.rest, operands]

theorem tokens_of_not_mem (solid : ' ' ∉ l.text) : l.instruction.tokens = [l.text] := by
  rw [tokens_instruction]
  exact List.splitOn_eq_singleton solid

end SourceLine

theorem CPlusPlus.step_assignment (c : CPlusPlus)
    (assigns : c.backend.resolve l.instruction = .assignment) (ctx : Context) :
    c.backend.step l ctx = .ok () (c.backend.finishLine .assignment (ctx.beginLine l.text)) := by
  have joined : c.backend.assign l.instruction.tokens = .ok [l.text] :=
    congrArg (fun text => Except.ok [text]) l.text_eq_join.symm
  rw [Backend.step_eq, assigns]
  simp only [Backend.renderLine, Backend.assignVar, Emit.change, joined]
  rfl

/-- Cutting into tokens loses nothing: tokens have no space in them and give the line back, and
    tokens without a space are cut out of their line again. So a line is its name and the rest of
    it, and an assignment in C++ is finished from the text of its line. -/
theorem CPlusPlus.tokenize_lossless (c : CPlusPlus) :
    (∀ line : Text, (∀ token ∈ tokenize line, ' ' ∉ token) ∧
      Text.join " " (tokenize line) = line) ∧
    (∀ tokens : List Text, tokens ≠ [] → (∀ token ∈ tokens, ' ' ∉ token) →
      tokenize (Text.join " " tokens) = tokens) ∧
    ∀ l : SourceLine, l.instruction.tokens = tokenize l.text ∧
      (' ' ∈ l.text → l.text = l.instruction.name ++ " " ++ l.instruction.rest) ∧
      (' ' ∉ l.text → l.instruction.tokens = [l.text]) ∧
      (c.backend.resolve l.instruction = .assignment → ∀ ctx,
        c.backend.step l ctx =
          .ok () (c.backend.finishLine .assignment (ctx.beginLine l.text))) := by
  refine ⟨?_, ?_, ?_⟩
  · intro line
    exact ⟨fun _ => Text.not_mem_of_mem_splitOn, (eq_join_of_tokenize rfl).symm⟩
  · intro tokens some apart
    exact tokenize_join tokens apart some
  · intro l
    exact ⟨l.tokens_instruction, SourceLine.text_eq_of_mem, SourceLine.tokens_of_not_mem,
      c.step_assignment⟩

theorem CPlusPlus.tokenize_lossless_spaces :
    let c : CPlusPlus := {}
    let l : SourceLine := ⟨"x =   1  + y ", 1⟩
    tokenize l.text = ["x", "=", "", "", "1", "", "+", "y", ""] ∧
      c.backend.step l {} = .ok () { body := ["x =   1  + y ;"] } := by
  intro c l
  let tokens : List Text := ["x", "=", "", "", "1", "", "+", "y", ""]
  have cut : tokenize (Text.join " " tokens) = tokens :=
    (CPlusPlus.tokenize_lossless c).2.1 tokens (by decide) (by decide)
  have finished : c.backend.finishLine .assignment (Context.beginLine {} l.text) =
      { body := ["x =   1  + y ;"] } := by decide +kernel
  refine ⟨cut, ?_⟩
  rw [((CPlusPlus.tokenize_lossless c).2.2 l).2.2.2 rfl {}, finished]

end BlockScript
