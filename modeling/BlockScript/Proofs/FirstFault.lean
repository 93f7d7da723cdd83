import BlockScript.Proofs.BlockMatching
import BlockScript.Proofs.Concatenation
import BlockScript.Proofs.Lockstep
import BlockScript.Proofs.Openers

/-!
The fault of a program that fails. It is that of the first line that fails, on the number of this
line, whatever follows; only where no line fails can a block that is never closed be the fault, and
then it is the last opener without an end.
-/
namespace BlockScript
open BlockGrammar

namespace SourceLine

variable {lines : List Text} {before later : List SourceLine} {l : SourceLine}

theorem length_number (lines : List Text) : (number lines).length = lines.length := by
  simp [number]

theorem getElem?_number (lines : List Text) (i : Nat) :
    (number lines)[i]? = lines[i]?.map fun text => ⟨text.dropEndWhile (· == '\r'), i + 1⟩ := by
  rw [number, List.getElem?_map, List.getElem?_zipIdx, Option.map_map, Nat.add_comm]
  rfl

theorem index_of_number_eq_append (split : number lines = before ++ l :: later) :
    l.index = before.length + 1 := by
  have here : (number lines)[before.length]? = some l := by
    rw [split, List.getElem?_append_right (Nat.le_refl _), Nat.sub_self]
    rfl
  rw [getElem?_number] at here
  obtain ⟨text, _, rfl⟩ := Option.map_eq_some_iff.mp here
  rfl

theorem number_take (lines : List Text) (n : Nat) :
    number (lines.take n) = (number lines).take n := by
  apply List.ext_getElem?
  intro i
  rw [getElem?_number, List.getElem?_take, List.getElem?_take, getElem?_number]
  split <;> rfl

end SourceLine

def Fault.Unclosed (fault : Fault) : Prop := ∃ f, fault.cause = .structural (.unclosedBlock f)

theorem BlockAction.apply_ne_unclosed {entryPoint : Option Text} {k : Keyword} {params : List Text}
    {a : BlockAction} {line : Nat} {stack : FrameStack} {fault : StructuralFault}
    (h : ofLine entryPoint k params = .ok a) (fails : a.apply line stack = .error fault)
    (f : Frame) : fault ≠ .unclosedBlock f := by
  have places := needs_of_apply_error h fails
  simp only [List.mem_cons, List.not_mem_nil, or_false] at places
  rcases places with rfl | rfl | rfl | rfl
  all_goals
    cases h
    simp only [apply] at fails
    split at fails
  all_goals cases fails
  all_goals
    intro same
    cases same

namespace Backend

variable {b : Backend} {lines past rest : List SourceLine} {l : SourceLine} {ctx mid : Context}
  {fault : Fault}

theorem exists_of_reach_eq_error (h : b.reach lines ctx = .error fault) :
    ∃ past l rest mid, lines = past ++ l :: rest ∧ b.reach past ctx = .ok mid ∧
      b.outcome l mid = .error fault.cause ∧ fault.line = l.index := by
  induction lines generalizing ctx with
  | nil => cases h
  | cons first others ih =>
    rcases reach_cons_eq_error_iff.mp h with ⟨cause, fails, rfl⟩ | ⟨mid, passes, h⟩
    · exact ⟨[], first, others, ctx, rfl, rfl, fails, rfl⟩
    · obtain ⟨past, l, rest, last, rfl, before, fails, line⟩ := ih h
      exact ⟨first :: past, l, rest, last, rfl,
        reach_cons_eq_ok_iff.mpr ⟨mid, passes, before⟩, fails, line⟩

theorem reach_append_cons_of_error {cause : Cause} (before : b.reach past ctx = .ok mid)
    (fails : b.outcome l mid = .error cause) (rest : List SourceLine) :
    b.reach (past ++ l :: rest) ctx = .error ⟨cause, l.index⟩ := by
  rw [reach_append, before]
  exact reach_cons_eq_error_iff.mpr (.inl ⟨cause, fails, rfl⟩)

section SelfContained

variable (sound : b.SelfContained)
include sound

theorem outcome_ne_unclosed {cause : Cause} (h : b.outcome l ctx = .error cause) (f : Frame) :
    cause ≠ .structural (.unclosedBlock f) := by
  rintro rfl
  obtain ⟨a, acts, applies⟩ := apply_of_outcome_structural sound h
  unfold action at acts
  split at acts
  · exact BlockAction.apply_ne_unclosed acts applies f rfl
  · cases acts
    cases applies

theorem not_unclosed_of_reach (h : b.reach lines ctx = .error fault) : ¬ fault.Unclosed := by
  obtain ⟨past, l, rest, mid, _, _, fails, _⟩ := exists_of_reach_eq_error h
  rintro ⟨f, unclosed⟩
  exact outcome_ne_unclosed sound fails f unclosed

end SelfContained

theorem reach_of_compile {lines : List Text} (h : b.compile lines = .error fault)
    (closed : ¬ fault.Unclosed) : b.reach (SourceLine.number lines) {} = .error fault := by
  rcases compile_eq_error_iff.mp h with early | ⟨ctx, _, innermost, _, _, rfl⟩
  · exact early
  · exact absurd ⟨innermost.frame, rfl⟩ closed

theorem compile_of_reach {lines : List Text} (run : b.reach (SourceLine.number lines) {} = .ok ctx) :
    (∃ out, b.compile lines = .ok out) ∨
      ∃ f n, b.compile lines = .error ⟨.structural (.unclosedBlock f), n⟩ := by
  cases open_ : ctx.stack with
  | nil => exact .inl ⟨_, compile_eq_ok_iff.mpr ⟨ctx, run, open_, rfl⟩⟩
  | cons o others =>
    exact .inr ⟨o.frame, o.line, compile_eq_error_iff.mpr (.inr ⟨ctx, run, o, others, open_, rfl⟩)⟩

theorem exists_line_of_compile {lines : List Text} (h : b.compile lines = .error fault) :
    ∃ before l later, SourceLine.number lines = before ++ l :: later ∧ fault.line = l.index := by
  rcases compile_eq_error_iff.mp h with early | ⟨ctx, run, o, others, open_, rfl⟩
  · obtain ⟨past, l, rest, _, split, _, _, line⟩ := exists_of_reach_eq_error early
    exact ⟨past, l, rest, split, line⟩
  · obtain ⟨before, opener, later, _, _, split, opened⟩ := exists_openedBy_innermost run open_
    exact ⟨before, opener, later, split, opened.line.symm⟩

theorem line_bounds_of_compile {lines : List Text} (h : b.compile lines = .error fault) :
    1 ≤ fault.line ∧ fault.line ≤ lines.length := by
  obtain ⟨before, l, later, split, line⟩ := exists_line_of_compile h
  have position := line.trans (SourceLine.index_of_number_eq_append split)
  have length := congrArg List.length split
  rw [SourceLine.length_number, List.length_append, List.length_cons] at length
  constructor <;> omega

/-- The fault of a line is final, and without the line there is none of its kind. -/
theorem compile_first_fault {lines : List Text} (h : b.compile lines = .error fault)
    (closed : ¬ fault.Unclosed) :
    1 ≤ fault.line ∧ fault.line ≤ lines.length ∧
      (∀ more, b.compile (lines.take fault.line ++ more) = .error fault) ∧
      ((∃ out, b.compile (lines.take (fault.line - 1)) = .ok out) ∨
        ∃ f n, b.compile (lines.take (fault.line - 1)) =
          .error ⟨.structural (.unclosedBlock f), n⟩) := by
  obtain ⟨past, l, rest, mid, split, before, fails, line⟩ :=
    exists_of_reach_eq_error (reach_of_compile h closed)
  have position : fault.line = past.length + 1 :=
    line.trans (SourceLine.index_of_number_eq_append split)
  have upTo : SourceLine.number (lines.take fault.line) = past ++ [l] := by
    rw [SourceLine.number_take, split, position, List.take_length_add_append]
    rfl
  have below : SourceLine.number (lines.take (fault.line - 1)) = past := by
    rw [SourceLine.number_take, split, position, Nat.add_sub_cancel, List.take_left]
  obtain ⟨first, last⟩ := line_bounds_of_compile h
  refine ⟨first, last, ?_, ?_⟩
  · intro more
    refine compile_eq_error_iff.mpr (.inl ?_)
    rw [SourceLine.number_append, upTo, List.append_assoc, List.singleton_append,
      reach_append_cons_of_error before fails, ← line]
  · rw [← below] at before
    exact compile_of_reach before

theorem OpenedBy.lastUnmatched {o : OpenFrame} {others : FrameStack} {before later : List SourceLine}
    {opener : SourceLine} {start opened : Context}
    (h : b.OpenedBy o others before opener later start opened)
    (run : b.reach (before ++ opener :: later) {} = .ok ctx) (innermost : ctx.stack = o :: others) :
    LastUnmatched ((before ++ opener :: later).map b.symbol) o.frame before.length := by
  have word : (before ++ opener :: later).map b.symbol =
      before.map b.symbol ++ .opens o.frame :: later.map b.symbol := by
    rw [List.map_append, List.map_cons, h.symbol]
  have front : (before.map b.symbol).length = before.length := List.length_map _
  rw [word, ← front]
  refine ⟨?_, ?_, ?_⟩
  · rw [List.getElem?_append_right (Nat.le_refl _), Nat.sub_self]
    rfl
  · rintro ⟨before', f, inner, closer, rest, around, eq, position, block, closes⟩
    obtain ⟨_, behind⟩ := List.append_inj eq position.symm
    obtain ⟨same, tail⟩ := List.cons.inj behind
    cases same
    exact h.unended inner closer rest around tail closes block
  · intro j g beyond opens
    obtain ⟨k, rfl⟩ := Nat.exists_eq_add_of_lt beyond
    have inside : (later.map b.symbol)[k]? = some (.opens g) := by
      rw [Nat.add_assoc, List.getElem?_append_right (Nat.le_add_right _ _),
        Nat.add_sub_cancel_left] at opens
      exact opens
    have within := allMatched_of_block (h.block run innermost) k g inside
    have whole := within.append_left (before.map b.symbol ++ [.opens o.frame])
    rwa [List.length_append, List.length_singleton, Nat.add_right_comm, List.append_assoc,
      List.singleton_append] at whole

theorem stack_head_iff {lines : List Text} (run : b.reach (SourceLine.number lines) {} = .ok ctx)
    (f : Frame) (n : Nat) :
    (∃ o others, ctx.stack = o :: others ∧ o.frame = f ∧ o.line = n) ↔
      ∃ i, n = i + 1 ∧ LastUnmatched ((SourceLine.number lines).map b.symbol) f i := by
  have left : ∀ o others, ctx.stack = o :: others → ∃ i, o.line = i + 1 ∧
      LastUnmatched ((SourceLine.number lines).map b.symbol) o.frame i := by
    intro o others innermost
    obtain ⟨before, opener, later, start, opened, split, h⟩ := exists_openedBy_innermost run innermost
    have index := SourceLine.index_of_number_eq_append split
    rw [split] at run ⊢
    exact ⟨before.length, h.line.symm.trans index, h.lastUnmatched run innermost⟩
  constructor
  · rintro ⟨o, others, innermost, rfl, rfl⟩
    exact left o others innermost
  · rintro ⟨i, rfl, h⟩
    cases open_ : ctx.stack with
    | nil =>
      have word := run_of_reach run
      rw [open_] at word
      have all := allMatched_of_block (run_eq_some_nil_iff.mp word)
      exact absurd (all i f h.opens) h.unmatched
    | cons o others =>
      obtain ⟨j, line, h'⟩ := left o others open_
      obtain ⟨rfl, rfl⟩ := h.unique h'
      exact ⟨o, others, rfl, rfl, line⟩

end Backend

/-- The first line that fails decides: its fault stays whatever follows, and the lines before it
    have none. A block is reported as never closed where no line fails, on the last opener that has
    no end. -/
theorem Settings.compile_fails_fast (s : Settings) (target : Target) (lines : List Text) :
    (∀ fault, (s.backend target).compile lines = .error fault → ¬ fault.Unclosed →
      1 ≤ fault.line ∧ fault.line ≤ lines.length ∧
        (∀ more, (s.backend target).compile (lines.take fault.line ++ more) = .error fault) ∧
        ((∃ out, (s.backend target).compile (lines.take (fault.line - 1)) = .ok out) ∨
          ∃ f n, (s.backend target).compile (lines.take (fault.line - 1)) =
            .error ⟨.structural (.unclosedBlock f), n⟩)) ∧
      ∀ f n, (s.backend target).compile lines = .error ⟨.structural (.unclosedBlock f), n⟩ ↔
        (∃ ctx, (s.backend target).run (SourceLine.number lines) {} = .ok () ctx) ∧
          ∃ i, n = i + 1 ∧
            LastUnmatched ((SourceLine.number lines).map (s.backend target).symbol) f i := by
  have sound := Backend.selfContained_backend s target
  generalize s.backend target = b at sound ⊢
  refine ⟨fun fault => Backend.compile_first_fault, ?_⟩
  intro f n
  constructor
  · intro h
    rcases Backend.compile_eq_error_iff.mp h with early | ⟨ctx, run, o, others, open_, eq⟩
    · exact absurd ⟨f, rfl⟩ (Backend.not_unclosed_of_reach sound early)
    · cases eq
      exact ⟨⟨ctx, Backend.reach_eq_ok_iff.mp run⟩,
        (Backend.stack_head_iff run _ _).mp ⟨o, others, open_, rfl, rfl⟩⟩
  · rintro ⟨⟨ctx, run⟩, position⟩
    have run := Backend.reach_eq_ok_iff.mpr run
    obtain ⟨o, others, open_, rfl, rfl⟩ := (Backend.stack_head_iff run f n).mpr position
    exact Backend.compile_eq_error_iff.mpr (.inr ⟨ctx, run, o, others, open_, rfl⟩)

theorem Settings.compile_fails_fast_stray_case :
    let b := ({} : Settings).backend .cpp
    let stray : Fault := ⟨.structural .caseOutsideSwitch, 2⟩
    b.compile ["while x", "case 1", "end"] = .error stray ∧
      b.compile ["while x", "case 1", "return 1", "end"] = .error stray ∧
      LastUnmatched ((SourceLine.number ["while x", "if y", "end"]).map b.symbol) .whileLoop 0 := by
  intro b stray
  have fails : b.compile ["while x", "case 1", "end"] = .error stray := by rfl
  have unfinished : b.compile ["while x", "if y", "end"] =
      .error ⟨.structural (.unclosedBlock .whileLoop), 1⟩ := by rfl
  have closed : ¬ stray.Unclosed := nofun
  obtain ⟨first, _⟩ := Settings.compile_fails_fast {} .cpp ["while x", "case 1", "end"]
  obtain ⟨_, _, final, _⟩ := first stray fails closed
  obtain ⟨_, last⟩ := Settings.compile_fails_fast {} .cpp ["while x", "if y", "end"]
  obtain ⟨_, i, position, open_⟩ := (last .whileLoop 1).mp unfinished
  cases position
  exact ⟨fails, final ["return 1", "end"], open_⟩

end BlockScript
