import BlockScript.Proofs.Acceptance
import BlockScript.Proofs.BlockPrefix

/-!
Each open block goes back to the line that opened it, and the blocks below it are those that were
open then. No line since has ended it.
-/
namespace BlockScript
open BlockGrammar

namespace BlockAction

variable {a : BlockAction} {line : Nat} {stack stack' top rest : FrameStack} {o : OpenFrame}
  {closed : Option Frame} {f : Frame}

theorem symbol_eq_ends_iff : a.symbol = .ends ↔ a = closes := by
  cases a <;> simp [symbol]

/-- All that an action does to the blocks: it leaves them, opens one, leaves a section of variables,
    or closes the innermost. -/
theorem apply_cases (applies : a.apply line stack = .ok (stack', closed)) :
    (closed = none ∧ stack' = stack) ∨
      (closed = none ∧ ∃ f, a.symbol = .opens f ∧ stack' = ⟨f, line⟩ :: stack) ∨
      (closed = none ∧ ∃ o, o.frame = .vars ∧ stack = o :: stack') ∨
      (a = closes ∧ ∃ o, closed = some o.frame ∧ stack = o :: stack') := by
  cases a with
  | plain =>
    cases applies
    exact .inl ⟨rfl, rfl⟩
  | opens f =>
    cases applies
    exact .inr (.inl ⟨rfl, f, rfl, rfl⟩)
  | opensBranch f refusal =>
    simp only [apply] at applies
    split at applies
    · cases applies
      exact .inr (.inl ⟨rfl, f, rfl, rfl⟩)
    · cases applies
  | startsBody =>
    cases applies
    split
    · rename_i vars
      cases stack with
      | nil => cases vars
      | cons o below => exact .inr (.inr (.inl ⟨rfl, o, Option.some.inj vars, rfl⟩))
    · exact .inl ⟨rfl, rfl⟩
  | closes =>
    cases stack with
    | nil => cases applies
    | cons o below =>
      cases applies
      exact .inr (.inr (.inr ⟨rfl, o, rfl, rfl⟩))
  | returns =>
    simp only [apply] at applies
    split at applies
    · cases applies
      exact .inl ⟨rfl, rfl⟩
    · cases applies
    · cases applies

theorem apply_eq_append (applies : a.apply line stack = .ok (top ++ o :: rest, closed)) :
    (∃ top', stack = top' ++ o :: rest) ∨
      top = [] ∧ stack = rest ∧ o.line = line ∧ a.symbol = .opens o.frame := by
  rcases apply_cases applies with ⟨_, same⟩ | ⟨_, f, opening, pushed⟩ | ⟨_, gone, _, below⟩ |
    ⟨_, gone, _, below⟩
  · exact .inl ⟨top, same.symm⟩
  · cases top with
    | nil =>
      cases pushed
      exact .inr ⟨rfl, rfl, rfl, opening⟩
    | cons newest top =>
      cases pushed
      exact .inl ⟨top, rfl⟩
  · exact .inl ⟨gone :: top, below⟩
  · exact .inl ⟨gone :: top, below⟩

theorem closed_eq_some (applies : a.apply line stack = .ok (stack', some f)) :
    a = closes ∧ ∃ o, stack = o :: stack' ∧ o.frame = f := by
  rcases apply_cases applies with ⟨none, _⟩ | ⟨none, _⟩ | ⟨none, _⟩ | ⟨ends, o, closed, below⟩
  · cases none
  · cases none
  · cases none
  · exact ⟨ends, o, below, (Option.some.inj closed).symm⟩

end BlockAction

namespace Backend

variable {b : Backend} {l : SourceLine} {past : List SourceLine} {ctx start after : Context}

theorem resolve_of_action_closes (acts : b.action l = .ok .closes) :
    b.resolve l.instruction = .keyword .close := by
  cases hr : b.resolve l.instruction with
  | keyword k =>
    rw [action_of_keyword hr] at acts
    cases k with
    | close => rfl
    | forLoop =>
      obtain ⟨_, same⟩ := BlockAction.ofLine_forLoop_eq_ok_iff.mp acts
      cases same
    | fx =>
      obtain ⟨_, _, _, _, _, same⟩ := BlockAction.ofFunction_eq_ok_iff.mp acts
      cases same
    | _ => cases acts
  | _ =>
    unfold action at acts
    rw [hr] at acts
    cases acts

theorem relocates_of_apply {line : Nat} {a : BlockAction} {stack stack' : FrameStack}
    {closed : Option Frame} (applies : a.apply line stack = .ok (stack', closed))
    (within : stack.inFunction = true) : relocates stack' closed = true := by
  unfold relocates
  rcases BlockAction.apply_cases applies with ⟨rfl, rfl⟩ | ⟨rfl, f, _, rfl⟩ | ⟨rfl, o, vars, rfl⟩ |
    ⟨_, o, rfl, rfl⟩
  · rw [within]
    rfl
  · rw [FrameStack.inFunction_cons, within, Bool.or_true]
    rfl
  · rw [FrameStack.inFunction_cons, vars] at within
    simpa [Frame.isFunction] using within
  · rw [FrameStack.inFunction_cons, Bool.or_comm] at within
    exact within

theorem advance_of_outcome (h : b.outcome l ctx = .ok after) :
    advance ctx.stack.frames (b.symbol l) = some after.stack.frames := by
  obtain ⟨a, acts, stack, closed, applies, r, _, rfl⟩ := outcome_eq_ok_iff.mp h
  rw [← symbol_of_action acts, BlockAction.advance_symbol (fitting_of_action acts) l.index, applies]
  rfl

theorem run_of_reach {lines : List SourceLine} (run : b.reach lines ctx = .ok after) :
    BlockGrammar.run ctx.stack.frames (lines.map b.symbol) = some after.stack.frames := by
  induction lines generalizing ctx with
  | nil =>
    cases run
    rfl
  | cons l rest ih =>
    obtain ⟨mid, first, run⟩ := reach_cons_eq_ok_iff.mp run
    rw [List.map_cons, BlockGrammar.run, advance_of_outcome first]
    exact ih run

/-- Among the lines there is none that ends the block `f` before them. -/
def Unended (f : Frame) (word : List Symbol) : Prop :=
  ∀ inner closer later around, word = inner ++ closer :: later → Closes f closer →
    ¬ Block (f :: around) inner

/-- The line `opener` opened the block `o` within the blocks `rest`, after the lines `before` and
    with no end of the block in the lines `later`. -/
structure OpenedBy (b : Backend) (o : OpenFrame) (rest : FrameStack) (before : List SourceLine)
    (opener : SourceLine) (later : List SourceLine) (start opened : Context) : Prop where
  before : b.reach before {} = .ok start
  around : start.stack = rest
  opens : b.outcome opener start = .ok opened
  stack : opened.stack = o :: rest
  line : opener.index = o.line
  symbol : b.symbol opener = .opens o.frame
  unended : Unended o.frame (later.map b.symbol)

namespace OpenedBy

variable {o : OpenFrame} {rest : FrameStack} {before later : List SourceLine}
  {opener : SourceLine} {opened : Context}

theorem reach_later (h : b.OpenedBy o rest before opener later start opened)
    (run : b.reach (before ++ opener :: later) {} = .ok ctx) : b.reach later opened = .ok ctx := by
  rw [reach_append, h.before] at run
  obtain ⟨mid, opens, run⟩ := reach_cons_eq_ok_iff.mp run
  rw [h.opens] at opens
  cases opens
  exact run

/-- Between a block's opener and the line before its end stands a block. -/
theorem block (h : b.OpenedBy o rest before opener later start opened)
    (run : b.reach (before ++ opener :: later) {} = .ok ctx) (innermost : ctx.stack = o :: rest) :
    Block (o.frame :: rest.frames) (later.map b.symbol) := by
  have within := run_of_reach (h.reach_later run)
  rw [h.stack, innermost] at within
  rcases leavesOpen_or_closed within with open_ |
    ⟨f, around, inner, closer, more, same, eq, closes, block⟩
  · exact open_.block
  · cases same
    exact absurd block (h.unended inner closer more _ eq closes)

theorem concat (h : b.OpenedBy o rest before opener later start opened)
    (run : b.reach (before ++ opener :: later) {} = .ok ctx) (last : b.outcome l ctx = .ok after)
    (open_ : o :: rest <:+ after.stack) :
    b.OpenedBy o rest before opener (later ++ [l]) start opened := by
  refine { h with unended := ?_ }
  rw [List.map_append, List.map_singleton]
  intro inner closer more around eq closes block
  rcases List.eq_nil_or_concat more with rfl | ⟨more, s, rfl⟩
  · obtain ⟨rfl, same⟩ := List.append_inj' eq rfl
    cases same
    have within := run_of_reach (h.reach_later run)
    rw [h.stack] at within
    have innermost := run_block_eq_some block within rfl
    have next := advance_of_outcome last
    rw [innermost] at next
    have ended : advance (o.frame :: FrameStack.frames rest) (b.symbol l) =
        some (FrameStack.frames rest) := advance_closes closes
    have same := Option.some.inj (next.symm.trans ended)
    have fewer := congrArg List.length same
    have more := open_.length_le
    simp only [FrameStack.frames, List.length_map, List.length_cons] at fewer more
    omega
  · have eq : later.map b.symbol ++ [b.symbol l] = (inner ++ closer :: more) ++ [s] := by
      simpa using eq
    exact h.unended inner closer more around (List.append_inj' eq rfl).1 closes block

end OpenedBy

theorem exists_openedBy {lines : List SourceLine} (run : b.reach lines {} = .ok ctx)
    {top rest : FrameStack} {o : OpenFrame} (split : ctx.stack = top ++ o :: rest) :
    ∃ before opener later start opened, lines = before ++ opener :: later ∧
      b.OpenedBy o rest before opener later start opened := by
  induction lines using List.reverseRecOn generalizing ctx top with
  | nil =>
    cases run
    exact absurd split (by simp)
  | append_singleton past l ih =>
    obtain ⟨mid, earlier, last⟩ := reach_concat_eq_ok_iff.mp run
    obtain ⟨a, acts, stack, closed, applies, r, writes, same⟩ := outcome_eq_ok_iff.mp last
    have settled : ctx.stack = stack := congrArg Context.stack same
    rw [← settled, split] at applies
    rcases BlockAction.apply_eq_append applies with ⟨top', still⟩ | ⟨rfl, within, line, opening⟩
    · obtain ⟨before, opener, later, start, opened, rfl, h⟩ := ih earlier still
      have open_ : o :: rest <:+ ctx.stack := ⟨top, split.symm⟩
      exact ⟨before, opener, later ++ [l], start, opened, by simp, h.concat earlier last open_⟩
    · refine ⟨past, l, [], mid, ctx, rfl, earlier, within, last, split, line.symm, ?_, ?_⟩
      · rw [← symbol_of_action acts, opening]
      · intro inner closer more around eq
        exact absurd eq (by simp)

theorem exists_openedBy_innermost {lines : List SourceLine} (run : b.reach lines {} = .ok ctx)
    {rest : FrameStack} {o : OpenFrame} (innermost : ctx.stack = o :: rest) :
    ∃ before opener later start opened, lines = before ++ opener :: later ∧
      b.OpenedBy o rest before opener later start opened := by
  have split : ctx.stack = [] ++ o :: rest := innermost
  exact exists_openedBy run split

end Backend
end BlockScript
