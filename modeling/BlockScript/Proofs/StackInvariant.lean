import BlockScript.Proofs.FirstFault

/-!
The open blocks after any number of lines that pass. Each goes back to the line that opened it, the
outer ones to earlier lines, and a branch stands within a `switch`. A line keeps this because it
opens at most one block, on top, and takes at most the innermost away.
-/
namespace BlockScript
open BlockGrammar

namespace SourceLine

theorem index_number (lines : List Text) :
    (number lines).map (·.index) = List.range' 1 lines.length := by
  rw [number, List.map_map, ← List.zipIdx_map_snd]
  rfl

theorem increasing_number (lines : List Text) :
    (number lines).Pairwise fun l l' => l.index < l'.index := by
  have indices : ((number lines).map (·.index)).Pairwise (· < ·) := by
    rw [index_number]
    exact List.pairwise_lt_range'
  exact List.pairwise_map.mp indices

theorem index_bounds {lines : List Text} {l : SourceLine} (h : l ∈ number lines) :
    1 ≤ l.index ∧ l.index ≤ lines.length := by
  have index : l.index ∈ (number lines).map (·.index) := List.mem_map_of_mem h
  rw [index_number, List.mem_range'_1] at index
  omega

end SourceLine

theorem BlockGrammar.Symbol.ofKeyword_ne_struct (k : Keyword) (params : List Text) :
    Symbol.ofKeyword k params ≠ .opens .struct := by
  cases k with
  | fx =>
    simp only [Symbol.ofKeyword]
    split <;> simp
  | _ => simp [Symbol.ofKeyword]

namespace Backend

def Opens (b : Backend) (l : SourceLine) (f : Frame) : Prop :=
  ∃ k, b.resolve l.instruction = .keyword k ∧
    Symbol.ofKeyword k l.instruction.params = .opens f

/-- The open blocks, innermost first, as the lines so far account for them. -/
structure Accounts (b : Backend) (lines : List SourceLine) (stack : FrameStack) : Prop where
  ordered : stack.Pairwise fun inner outer => outer.line < inner.line
  opener : ∀ o ∈ stack, ∃ l ∈ lines, l.index = o.line ∧ b.Opens l o.frame
  branch : ∀ inner o outer, stack = inner ++ o :: outer →
    o.frame = .case ∨ o.frame = .default → .switch ∈ FrameStack.frames outer

section Accounts

variable {b : Backend} {lines past : List SourceLine} {l : SourceLine} {stack : FrameStack}
  {o : OpenFrame} {f : Frame} {ctx after : Context}

theorem opens_of_symbol (h : b.symbol l = .opens f) : b.Opens l f := by
  unfold symbol at h
  split at h
  · rename_i k resolved
    exact ⟨k, resolved, h⟩
  · cases h

namespace Accounts

theorem nil (b : Backend) : b.Accounts [] [] where
  ordered := .nil
  opener := by simp
  branch := by simp

theorem concat (h : b.Accounts past stack) (l : SourceLine) : b.Accounts (past ++ [l]) stack where
  ordered := h.ordered
  opener := by
    intro o mem
    obtain ⟨l', earlier, line, opens⟩ := h.opener o mem
    exact ⟨l', List.mem_append_left [l] earlier, line, opens⟩
  branch := h.branch

theorem tail (h : b.Accounts lines (o :: stack)) : b.Accounts lines stack where
  ordered := (List.pairwise_cons.mp h.ordered).2
  opener := fun o' mem => h.opener o' (List.mem_cons_of_mem o mem)
  branch := by
    intro inner o' outer split
    exact h.branch (o :: inner) o' outer (by rw [split]; rfl)

theorem push (h : b.Accounts past stack) (newest : ∀ l' ∈ past, l'.index < l.index)
    (opens : b.Opens l f) (allowed : MayOpen stack.frames f) :
    b.Accounts (past ++ [l]) (⟨f, l.index⟩ :: stack) where
  ordered := by
    refine List.pairwise_cons.mpr ⟨?_, h.ordered⟩
    intro o mem
    obtain ⟨l', earlier, line, _⟩ := h.opener o mem
    rw [← line]
    exact newest l' earlier
  opener := by
    intro o mem
    rcases List.mem_cons.mp mem with rfl | below
    · exact ⟨l, by simp, rfl, opens⟩
    · exact (h.concat l).opener o below
  branch := by
    intro inner o outer split branches
    cases inner with
    | nil =>
      cases split
      exact allowed branches
    | cons first inner =>
      cases split
      exact h.branch inner o outer rfl branches

theorem outcome (h : b.Accounts past ctx.stack) (newest : ∀ l' ∈ past, l'.index < l.index)
    (passes : b.outcome l ctx = .ok after) : b.Accounts (past ++ [l]) after.stack := by
  have next := advance_of_outcome passes
  obtain ⟨a, acts, stack, closed, applies, r, _, rfl⟩ := outcome_eq_ok_iff.mp passes
  show b.Accounts (past ++ [l]) stack
  rcases BlockAction.apply_cases applies with ⟨_, same⟩ | ⟨_, f, opening, pushed⟩ |
    ⟨_, gone, _, below⟩ | ⟨_, gone, _, below⟩
  · rw [same]
    exact h.concat l
  · rw [symbol_of_action acts] at opening
    have allowed : MayOpen ctx.stack.frames f := by
      by_contra refused
      simp [opening, advance, refused] at next
    rw [pushed]
    exact h.push newest (opens_of_symbol opening) allowed
  · rw [below] at h
    exact (h.concat l).tail
  · rw [below] at h
    exact (h.concat l).tail

theorem reach (increasing : lines.Pairwise fun l l' => l.index < l'.index)
    (run : b.reach lines {} = .ok ctx) : b.Accounts lines ctx.stack := by
  induction lines using List.reverseRecOn generalizing ctx with
  | nil =>
    cases run
    exact nil b
  | append_singleton past l ih =>
    obtain ⟨mid, earlier, last⟩ := reach_concat_eq_ok_iff.mp run
    obtain ⟨before, _, newest⟩ := List.pairwise_append.mp increasing
    exact (ih before earlier).outcome (fun l' mem => newest l' mem l (by simp)) last

end Accounts

end Accounts

end Backend

/-- After lines that pass, the open blocks from the outermost on were opened by later and later
    lines up to the last one, each by a line that is resolved to its keyword; a `case` or `default`
    is open only within a `switch`, and no structure is. -/
theorem Settings.stack_invariant (s : Settings) (target : Target) (lines : List Text)
    (ctx : Context) (run : (s.backend target).run (SourceLine.number lines) {} = .ok () ctx) :
    (ctx.stack.reverse.map (·.line)).Pairwise (· < ·) ∧
      ∀ inner o outer, ctx.stack = inner ++ o :: outer →
        o.line ≤ lines.length ∧
        (∃ l ∈ SourceLine.number lines, l.index = o.line ∧ (s.backend target).Opens l o.frame) ∧
        (o.frame = .case ∨ o.frame = .default → FrameStack.holds outer .switch = true) ∧
        o.frame ≠ .struct := by
  have accounts := Backend.Accounts.reach (SourceLine.increasing_number lines)
    (Backend.reach_eq_ok_iff.mpr run)
  constructor
  · rw [List.map_reverse, List.pairwise_reverse, List.pairwise_map]
    exact accounts.ordered
  · intro inner o outer split
    obtain ⟨l, numbered, line, opens⟩ := accounts.opener o (by rw [split]; simp)
    have bound := (SourceLine.index_bounds numbered).2
    refine ⟨by omega, ⟨l, numbered, line, opens⟩, ?_, ?_⟩
    · intro branches
      exact FrameStack.holds_iff.mpr (accounts.branch inner o outer split branches)
    · intro struct
      obtain ⟨k, _, opens⟩ := opens
      rw [struct] at opens
      exact Symbol.ofKeyword_ne_struct k l.instruction.params opens

theorem Settings.stack_invariant_nested_case :
    let b := ({} : Settings).backend .cpp
    ∃ ctx, b.run (SourceLine.number ["fx void f", "switch x", "if y", "case 1"]) {} = .ok () ctx ∧
      ctx.stack = [⟨.case, 4⟩, ⟨.ifBlock, 3⟩, ⟨.switch, 2⟩, ⟨.proc, 1⟩] ∧
      (ctx.stack.reverse.map (·.line)).Pairwise (· < ·) ∧
      FrameStack.holds [⟨.ifBlock, 3⟩, ⟨.switch, 2⟩, ⟨.proc, 1⟩] .switch = true := by
  intro b
  have passes : (b.reach (SourceLine.number ["fx void f", "switch x", "if y", "case 1"])
      {}).toOption.map (·.stack) =
        some [⟨.case, 4⟩, ⟨.ifBlock, 3⟩, ⟨.switch, 2⟩, ⟨.proc, 1⟩] := by
    decide +kernel
  obtain ⟨ctx, run, stack⟩ := exists_eq_ok_of_map passes
  have run := Backend.reach_eq_ok_iff.mp run
  obtain ⟨increasing, each⟩ := Settings.stack_invariant {} .cpp _ ctx run
  obtain ⟨_, _, within, _⟩ := each [] ⟨.case, 4⟩ _ stack
  exact ⟨ctx, run, stack, increasing, within (.inl rfl)⟩

end BlockScript
