import BlockScript.Proofs.LineFaults
import BlockScript.Proofs.Run

/-!
Which programs compile: those whose lines are in order by themselves and whose symbols the block
grammar derives.
-/
namespace BlockScript
open BlockGrammar

def SourceLine.alone (line : Text) : SourceLine := ⟨line.dropEndWhile (· == '\r'), 1⟩

namespace Backend

variable {b : Backend} {l l' : SourceLine} {ctx : Context}

/-- Alone, the line is a program that fails for what it says and not for the blocks it needs. -/
def Refuses (b : Backend) (line : Text) : Prop :=
  ∃ fault, b.compile [line] = .error fault ∧ fault.category ∈ Category.ofLine

def Accepts (b : Backend) (l : SourceLine) : Prop :=
  ∃ a, b.action l = .ok a ∧ ∀ closed, ∃ r, b.written l closed = .ok r

theorem action_congr (same : l.text = l'.text) : b.action l = b.action l' := by
  cases l; cases l'
  cases same
  rfl

theorem refuses_iff {line : Text} :
    b.Refuses line ↔ ∃ cause, cause.category ∈ Category.ofLine ∧
      b.outcome (.alone line) {} = .error cause := by
  have alone : SourceLine.number [line] = [.alone line] := rfl
  constructor
  · rintro ⟨fault, fails, own⟩
    rcases compile_eq_error_iff.mp fails with early | ⟨ctx, _, innermost, others, _, rfl⟩
    · rw [alone, reach_cons_eq_error_iff] at early
      rcases early with ⟨cause, h, rfl⟩ | ⟨mid, _, h⟩
      · exact ⟨cause, own, h⟩
      · cases h
    · simp [Fault.category, Cause.category, Category.ofLine] at own
  · rintro ⟨cause, own, h⟩
    refine ⟨⟨cause, 1⟩, compile_eq_error_iff.mpr (.inl ?_), own⟩
    rw [alone, reach_cons_eq_error_iff]
    exact .inl ⟨cause, h, rfl⟩

section SelfContained

variable (hb : b.SelfContained)
include hb

theorem accepts_iff {line : Text} (text : l.text = (SourceLine.alone line).text) :
    b.Accepts l ↔ ¬ b.Refuses line := by
  rw [refuses_iff]
  constructor
  · rintro ⟨a, acts, writes⟩ ⟨cause, own, h⟩
    rcases outcome_eq_error_iff.mp h with h | ⟨a', _, ⟨fault, _, rfl⟩ | ⟨stack, closed, _, h⟩⟩
    · rw [← action_congr text, acts] at h
      cases h
    · simp [Cause.category, Category.ofLine] at own
    · obtain ⟨r, hr⟩ := writes closed
      rw [hb.written_error text.symm h] at hr
      cases hr
  · intro fine
    cases acts : b.action l with
    | error cause =>
      have own := category_of_failsWith (b.action_failsWith l) acts
      rw [action_congr text] at acts
      exact absurd ⟨cause, own, outcome_eq_error_iff.mpr (.inl acts)⟩ fine
    | ok a =>
      refine ⟨a, acts, fun closed => ?_⟩
      cases writes : b.written l closed with
      | ok r => exact ⟨r, rfl⟩
      | error cause =>
        have own := category_of_failsWith (hb.written_failsWith acts closed) writes
        cases applies : a.apply 1 [] with
        | error fault =>
          obtain ⟨r, hr⟩ := hb.written_isOk acts applies closed
          rw [hr] at writes
          cases writes
        | ok blocks =>
          have alone : b.written (.alone line) blocks.2 = .error cause :=
            hb.written_error text writes
          rw [action_congr text] at acts
          refine absurd ⟨cause, own, outcome_eq_error_iff.mpr (.inr ⟨a, acts, .inr ?_⟩)⟩ fine
          exact ⟨blocks.1, blocks.2, applies, alone⟩

theorem outcome_isOk_iff {frames : List Frame} :
    (∃ after, b.outcome l ctx = .ok after ∧ after.stack.frames = frames) ↔
      b.Accepts l ∧ advance ctx.stack.frames (b.symbol l) = some frames := by
  constructor
  · rintro ⟨after, h, rfl⟩
    obtain ⟨a, acts, stack, closed, applies, r, writes, rfl⟩ := outcome_eq_ok_iff.mp h
    refine ⟨⟨a, acts, fun closed' => ?_⟩, ?_⟩
    · cases h' : b.written l closed' with
      | ok r' => exact ⟨r', rfl⟩
      | error cause =>
        rw [hb.written_error rfl h'] at writes
        cases writes
    · rw [← symbol_of_action acts, BlockAction.advance_symbol (fitting_of_action acts) l.index,
        applies]
      rfl
  · rintro ⟨⟨a, acts, writes⟩, next⟩
    rw [← symbol_of_action acts,
      BlockAction.advance_symbol (fitting_of_action acts) l.index] at next
    cases applies : a.apply l.index ctx.stack with
    | error fault => simp [applies, Except.toOption] at next
    | ok blocks =>
      obtain ⟨stack, closed⟩ := blocks
      obtain ⟨r, hr⟩ := writes closed
      refine ⟨_, outcome_eq_ok_iff.mpr ⟨a, acts, stack, closed, applies, r, hr, rfl⟩, ?_⟩
      simpa [applies, Except.toOption, settle] using next

theorem reach_isOk_iff (ctx : Context) (lines : List SourceLine) (frames : List Frame) :
    (∃ after, b.reach lines ctx = .ok after ∧ after.stack.frames = frames) ↔
      (∀ l ∈ lines, b.Accepts l) ∧
        BlockGrammar.run ctx.stack.frames (lines.map b.symbol) = some frames := by
  induction lines generalizing ctx with
  | nil => simp [reach_nil, BlockGrammar.run]
  | cons l rest ih =>
    simp only [reach_cons_eq_ok_iff, List.forall_mem_cons, List.map_cons, BlockGrammar.run,
      Option.bind_eq_some_iff]
    constructor
    · rintro ⟨after, ⟨mid, first, run⟩, same⟩
      obtain ⟨accepted, next⟩ := (outcome_isOk_iff hb).mp ⟨mid, first, rfl⟩
      obtain ⟨others, word⟩ := (ih mid).mp ⟨after, run, same⟩
      exact ⟨⟨accepted, others⟩, mid.stack.frames, next, word⟩
    · rintro ⟨⟨accepted, others⟩, between, next, word⟩
      obtain ⟨mid, first, rfl⟩ := (outcome_isOk_iff hb).mpr ⟨accepted, next⟩
      obtain ⟨after, run, same⟩ := (ih mid).mpr ⟨others, word⟩
      exact ⟨after, ⟨mid, first, run⟩, same⟩

end SelfContained

/-- A program compiles exactly when no line of it fails alone for what it says, and the lines nest
    as the block grammar has it. -/
theorem compile_isOk_iff_block (s : Settings) (target : Target) (lines : List Text) :
    (∃ out, (s.backend target).compile lines = .ok out) ↔
      (∀ line ∈ lines, ¬ (s.backend target).Refuses line) ∧
        Block [] ((SourceLine.number lines).map (s.backend target).symbol) := by
  have hb := selfContained_backend s target
  generalize s.backend target = b at hb ⊢
  have accepted : (∀ l ∈ SourceLine.number lines, b.Accepts l) ↔
      ∀ line ∈ lines, ¬ b.Refuses line := by
    constructor
    · intro fine line mem
      obtain ⟨l, numbered, text⟩ := SourceLine.exists_number_iff.mpr ⟨line, mem, rfl⟩
      exact (accepts_iff hb text).mp (fine l numbered)
    · intro fine l numbered
      obtain ⟨line, mem, text⟩ := SourceLine.exists_number_iff.mp ⟨l, numbered, rfl⟩
      exact (accepts_iff hb text.symm).mpr (fine line mem)
  have ends := reach_isOk_iff hb {} (SourceLine.number lines) []
  constructor
  · rintro ⟨out, h⟩
    obtain ⟨ctx, run, closed, _⟩ := compile_eq_ok_iff.mp h
    obtain ⟨fine, word⟩ := ends.mp ⟨ctx, run, FrameStack.frames_eq_nil_iff.mpr closed⟩
    exact ⟨accepted.mp fine, run_eq_some_nil_iff.mp word⟩
  · rintro ⟨fine, derived⟩
    obtain ⟨ctx, run, closed⟩ := ends.mpr ⟨accepted.mpr fine, run_eq_some_nil_iff.mpr derived⟩
    exact ⟨_, compile_eq_ok_iff.mpr ⟨ctx, run, FrameStack.frames_eq_nil_iff.mp closed, rfl⟩⟩

end Backend
end BlockScript
