import BlockScript.Proofs.BlockGrammar
import Mathlib.Data.List.Induction

/-!
The beginning of a program, which may leave blocks open. Within an open block the symbols either end
it with a closer of its own or leave it open; which of the two does not depend on what is around it.
-/
namespace BlockScript.BlockGrammar

variable {around base frames : List Frame} {f : Frame} {word inner : List Symbol} {s : Symbol}

theorem block_append (first : Block around word) (second : Block around inner) :
    Block around (word ++ inner) := by
  induction first with
  | empty => exact second
  | plain tail ih => exact .plain (ih second)
  | returns allowed tail ih => exact .returns allowed (ih second)
  | starts allowed tail ih => exact .starts allowed (ih second)
  | @nested around g closer body rest allowed inside closes tail _ ih =>
    have whole := Block.nested allowed inside closes (ih second)
    simpa using whole

theorem run_block_eq_some {after : List Frame} (h : Block around word)
    (run_ : run frames word = some after) (same : frames.head? = around.head?) :
    after = frames := by
  induction h generalizing frames after with
  | empty =>
    cases run_
    rfl
  | plain tail ih => exact ih run_ same
  | returns allowed tail ih =>
    obtain ⟨mid, step, run_⟩ := Option.bind_eq_some_iff.mp run_
    simp only [advance, Option.ite_none_right_eq_some, Option.some.injEq] at step
    obtain ⟨_, rfl⟩ := step
    exact ih run_ same
  | starts allowed tail ih =>
    obtain ⟨mid, step, run_⟩ := Option.bind_eq_some_iff.mp run_
    rw [← same] at allowed
    simp only [advance, if_neg allowed, Option.some.injEq] at step
    subst step
    exact ih run_ same
  | @nested around g closer body rest allowed inside closes tail ihBody ihTail =>
    obtain ⟨mid, step, run_⟩ := Option.bind_eq_some_iff.mp run_
    simp only [advance, Option.ite_none_right_eq_some, Option.some.injEq] at step
    obtain ⟨_, rfl⟩ := step
    have run_ : run (g :: frames) (body ++ closer :: rest) = some after := run_
    rw [run_append] at run_
    obtain ⟨mid, run_body, run_⟩ := Option.bind_eq_some_iff.mp run_
    have inside_done := ihBody run_body rfl
    rw [inside_done, run, advance_closes closes] at run_
    exact ihTail run_ same

theorem run_opens_eq_some {before : List Symbol}
    (run_ : run base (before ++ .opens f :: inner) = some frames) :
    ∃ around, run base before = some around ∧ run (f :: around) inner = some frames := by
  rw [run_append] at run_
  obtain ⟨around, outside, run_⟩ := Option.bind_eq_some_iff.mp run_
  obtain ⟨opened, step, run_⟩ := Option.bind_eq_some_iff.mp run_
  simp only [advance, Option.ite_none_right_eq_some, Option.some.injEq] at step
  obtain ⟨_, rfl⟩ := step
  exact ⟨around, outside, run_⟩

/-- Symbols within `base` that leave it and some blocks within it open: a block, and then from the
    outside inwards what opens each of these and a block within it. -/
inductive LeavesOpen (base : List Frame) : List Symbol → List Frame → Prop where
  | none {word : List Symbol} (block : Block base word) : LeavesOpen base word base
  | opened {around : List Frame} {f : Frame} {before inner : List Symbol}
      (outside : LeavesOpen base before around) (allowed : MayOpen around f)
      (block : Block (f :: around) inner) :
      LeavesOpen base (before ++ .opens f :: inner) (f :: around)

theorem LeavesOpen.suffix (h : LeavesOpen base word frames) : base <:+ frames := by
  induction h with
  | none block => exact List.suffix_refl base
  | opened outside allowed block ih => exact ih.trans (List.suffix_cons _ _)

theorem LeavesOpen.block (h : LeavesOpen base word base) : Block base word := by
  cases h with
  | none block => exact block
  | opened outside allowed block =>
    have shorter := outside.suffix.length_le
    simp only [List.length_cons] at shorter
    omega

theorem LeavesOpen.append (h : LeavesOpen base word frames) (more : Block frames inner) :
    LeavesOpen base (word ++ inner) frames := by
  cases h with
  | none block => exact .none (block_append block more)
  | opened outside allowed block =>
    rw [List.append_assoc, List.cons_append]
    exact .opened outside allowed (block_append block more)

theorem LeavesOpen.close {closer : Symbol} (h : LeavesOpen base word (f :: around))
    (closes : Closes f closer) :
    LeavesOpen base (word ++ [closer]) around ∨ base = f :: around ∧ Block (f :: around) word := by
  cases h with
  | none block => exact .inr ⟨rfl, block⟩
  | @opened _ _ before inner outside allowed block =>
    have whole := Block.nested allowed block closes .empty
    have longer := outside.append whole
    exact .inl (by simpa using longer)

theorem LeavesOpen.advance {after : List Frame} (h : LeavesOpen base word frames)
    (step : advance frames s = some after) :
    LeavesOpen base (word ++ [s]) after ∨
      ∃ f around, base = f :: around ∧ Closes f s ∧ Block base word := by
  have closing : ∀ {f}, frames = f :: after → Closes f s →
      LeavesOpen base (word ++ [s]) after ∨
        ∃ f around, base = f :: around ∧ Closes f s ∧ Block base word := by
    rintro f rfl closes
    refine (h.close closes).imp id ?_
    rintro ⟨rfl, block⟩
    exact ⟨f, after, rfl, closes, block⟩
  cases s with
  | plain =>
    cases step
    exact .inl (h.append (.plain .empty))
  | returns =>
    simp only [BlockGrammar.advance, Option.ite_none_right_eq_some, Option.some.injEq] at step
    obtain ⟨allowed, rfl⟩ := step
    exact .inl (h.append (.returns allowed .empty))
  | starts =>
    cases step
    by_cases vars : frames.head? = some .vars
    · obtain ⟨rest, rfl⟩ := List.head?_eq_some_iff.mp vars
      exact closing rfl (.inr ⟨rfl, rfl⟩)
    · rw [if_neg vars]
      exact .inl (h.append (.starts vars .empty))
  | opens g =>
    simp only [BlockGrammar.advance, Option.ite_none_right_eq_some, Option.some.injEq] at step
    obtain ⟨allowed, rfl⟩ := step
    exact .inl (.opened h allowed .empty)
  | ends =>
    cases frames with
    | nil => cases step
    | cons f rest =>
      cases step
      exact closing rfl (.inl rfl)

/-- Symbols within an open block leave it open, or some beginning of them is the block and the next
    symbol its closer. -/
theorem leavesOpen_or_closed (run_ : run base word = some frames) :
    LeavesOpen base word frames ∨
      ∃ f around inner closer rest, base = f :: around ∧ word = inner ++ closer :: rest ∧
        Closes f closer ∧ Block base inner := by
  induction word using List.reverseRecOn generalizing frames with
  | nil =>
    cases run_
    exact .inl (.none .empty)
  | append_singleton word s ih =>
    rw [run_append] at run_
    obtain ⟨mid, earlier, run_⟩ := Option.bind_eq_some_iff.mp run_
    obtain ⟨after, step, run_⟩ := Option.bind_eq_some_iff.mp run_
    cases run_
    rcases ih earlier with h | ⟨f, around, inner, closer, rest, eq, rfl, closes, block⟩
    · refine (h.advance step).imp id ?_
      rintro ⟨f, around, eq, closes, block⟩
      exact ⟨f, around, word, s, [], eq, rfl, closes, block⟩
    · exact .inr ⟨f, around, inner, closer, rest ++ [s], eq, by simp, closes, block⟩

end BlockScript.BlockGrammar
