import BlockScript.Proofs.AddedLine

/-!
Levels of indentation in C++ against the blocks that are scopes there. A section of local variables
is none, and one level is taken away for all open sections together, so the two agree as long as no
more than one section is open.
-/
namespace BlockScript
open BlockGrammar

namespace FrameStack

def scopes (s : FrameStack) : Nat := s.frames.countP (· ≠ .vars)

def sections (s : FrameStack) : Nat := s.frames.count .vars

variable {s : FrameStack} {f : Frame} {below : List Frame}

theorem depth_eq_add (s : FrameStack) : s.depth = s.scopes + s.sections := by
  have length : s.frames.length = s.depth := List.length_map _
  have parts := List.length_eq_countP_add_countP (· ≠ Frame.vars) (l := s.frames)
  have others : s.frames.countP (fun f => ¬ decide (f ≠ Frame.vars) = true) = s.sections := by
    simp only [decide_eq_true_eq, not_not]
    rfl
  rw [← length, parts, others]
  rfl

theorem holds_vars_iff : s.holds .vars = true ↔ 0 < s.sections := by
  rw [holds_iff, sections, List.count_pos_iff]

theorem scopes_pos (innermost : s.frames = f :: below) (scope : f ≠ .vars) : 0 < s.scopes := by
  rw [scopes, innermost, List.countP_cons_of_pos (by simpa using scope)]
  exact Nat.succ_pos _

theorem sections_pos (innermost : s.frames = .vars :: below) : 0 < s.sections := by
  rw [sections, innermost, List.count_cons_self]
  exact Nat.succ_pos _

theorem two_sections_iff : s.frames = [.vars, .vars] ↔ s.scopes = 0 ∧ s.sections = 2 := by
  constructor
  · intro same
    rw [scopes, sections, same]
    decide
  · rintro ⟨none, two⟩
    have all : ∀ f ∈ s.frames, f = .vars := by
      simpa [scopes, List.countP_eq_zero] using none
    have length : s.frames.length = 2 := by
      rw [← List.count_eq_length.mpr fun f mem => (all f mem).symm]
      exact two
    rw [List.eq_replicate_of_mem all, length]
    rfl

end FrameStack

namespace Backend

variable (b : Backend) (l : SourceLine)

def continues : Bool :=
  b.resolve l.instruction ∈ [.keyword .elifBlock, .keyword .elseBlock]

def headsScope : Bool :=
  match b.symbol l with
  | .opens f => f ≠ .vars
  | _ => b.continues l

def scopeLevels (stack : FrameStack) : Nat :=
  if b.headsScope l then stack.scopes - 1 else stack.scopes

variable {b : Backend} {l : SourceLine} {stack : FrameStack} {before : List Frame}

theorem headsScope_eq (other : b.resolve l.instruction ≠ .keyword .fxStart) :
    b.headsScope l = ((b.resolve l.instruction).isDelimiter &&
      b.resolve l.instruction ≠ .keyword .vars) := by
  unfold headsScope symbol continues
  cases hr : b.resolve l.instruction with
  | keyword k =>
    cases k with
    | fxStart => exact absurd hr other
    | fx =>
      simp only [Symbol.ofKeyword]
      split <;> rfl
    | _ => rfl
  | _ => rfl

theorem scopes_pos_of_headsScope (moves : advance before (b.symbol l) = some stack.frames)
    (heads : b.headsScope l = true) (opens : b.continues l = false) : 0 < stack.scopes := by
  unfold headsScope at heads
  split at heads
  · rename_i f symbol
    rw [symbol] at moves
    simp only [advance] at moves
    split at moves
    · exact FrameStack.scopes_pos (Option.some.inj moves).symm (by simpa using heads)
    · cases moves
  · rw [opens] at heads
    cases heads

theorem sections_pos_of_vars (moves : advance before (b.symbol l) = some stack.frames)
    (section_ : b.resolve l.instruction = .keyword .vars) : 0 < stack.sections := by
  have symbol : b.symbol l = .opens .vars := by
    unfold Backend.symbol
    rw [section_]
    rfl
  have allowed : MayOpen before .vars := by
    rintro (case | default)
    · cases case
    · cases default
  rw [symbol] at moves
  simp only [advance, if_pos allowed, Option.some.injEq] at moves
  exact FrameStack.sections_pos moves.symm

end Backend

namespace CPlusPlus

variable {c : CPlusPlus} {l : SourceLine} {stack : FrameStack} {before : List Frame}

theorem depth_eq (r : Resolution) (stack : FrameStack) :
    depth r stack = stack.scopes + stack.sections - (if r.isDelimiter then 1 else 0) -
      (if 0 < stack.sections ∧ r ≠ .keyword .vars then 1 else 0) := by
  unfold depth Resolution.indentDepth
  rw [FrameStack.depth_eq_add]
  simp only [Bool.and_eq_true, FrameStack.holds_vars_iff, decide_eq_true_eq]
  split <;> split <;> simp

/-- Each open section but one adds a level, unless the line goes on with a block where no scope is
    open and there is no level to be one less than. -/
theorem depth_eq_scopeLevels_add (moves : advance before (c.backend.symbol l) = some stack.frames)
    (writes : c.backend.resolve l.instruction ≠ .keyword .fxStart)
    (level : c.backend.continues l = true → 0 < stack.scopes) :
    depth (c.backend.resolve l.instruction) stack =
      c.backend.scopeLevels l stack + (stack.sections - 1) := by
  have heads := Backend.headsScope_eq writes
  rw [depth_eq]
  unfold Backend.scopeLevels
  by_cases section_ : c.backend.resolve l.instruction = .keyword .vars
  · have open_ := Backend.sections_pos_of_vars moves section_
    rw [heads, section_]
    simp only [Resolution.isDelimiter, Keyword.isDelimiter, ne_eq, not_true_eq_false, and_false,
      decide_false, Bool.and_false, Bool.false_eq_true, if_true, if_false]
    omega
  · have above : c.backend.headsScope l = true → 0 < stack.scopes := by
      intro heads
      cases continues : c.backend.continues l with
      | true => exact level continues
      | false => exact Backend.scopes_pos_of_headsScope moves heads continues
    have same : c.backend.headsScope l = (c.backend.resolve l.instruction).isDelimiter := by
      rw [heads]
      simp [section_]
    rw [← same]
    cases headed : c.backend.headsScope l with
    | true =>
      have positive := above headed
      simp only [section_, ne_eq, not_false_eq_true, and_true, if_true]
      split <;> omega
    | false =>
      simp only [section_, ne_eq, not_false_eq_true, and_true, Bool.false_eq_true, if_false]
      split <;> omega

theorem depth_eq_scopeLevels_iff (moves : advance before (c.backend.symbol l) = some stack.frames)
    (writes : c.backend.resolve l.instruction ≠ .keyword .fxStart) :
    depth (c.backend.resolve l.instruction) stack = c.backend.scopeLevels l stack ↔
      stack.sections ≤ 1 ∨ c.backend.continues l = true ∧ stack.frames = [.vars, .vars] := by
  rw [FrameStack.two_sections_iff]
  by_cases level : c.backend.continues l = true → 0 < stack.scopes
  · rw [depth_eq_scopeLevels_add moves writes level]
    constructor
    · omega
    · rintro (few | ⟨continues, none, _⟩)
      · omega
      · have := level continues
        omega
  · obtain ⟨continues, none⟩ := Classical.not_imp.mp level
    have none : stack.scopes = 0 := by omega
    have block : (c.backend.resolve l.instruction).isDelimiter = true ∧
        c.backend.resolve l.instruction ≠ .keyword .vars := by
      have kinds : c.backend.resolve l.instruction = .keyword .elifBlock ∨
          c.backend.resolve l.instruction = .keyword .elseBlock := by
        simpa [Backend.continues] using continues
      rcases kinds with kind | kind <;> rw [kind] <;> decide
    have law : c.backend.scopeLevels l stack = 0 := by
      unfold Backend.scopeLevels
      split <;> omega
    rw [law, depth_eq]
    simp only [block.1, block.2, none, continues, if_true, ne_eq, not_false_eq_true, and_true,
      true_and]
    split <;> omega

theorem written_fxStart {closed : Option Frame} {w : Rendering}
    (starts : c.backend.resolve l.instruction = .keyword .fxStart)
    (writes : c.backend.written l closed = .ok w) : w.lines.getD [l.text] = [] := by
  rw [Backend.written_of_keyword starts] at writes
  cases writes
  rfl

end CPlusPlus

open CPlusPlus in
/-- Each line of output stands as many levels deep as scopes are open once the blocks have moved,
    one less if it heads a scope, exactly when no more than one section of local variables is open:
    each further section adds a level. Two sections alone still escape where a line goes on with a
    block, since there is no level to be one less than. -/
theorem CPlusPlus.levels_eq_scopes_iff (c : CPlusPlus) (l : SourceLine) (ctx after : Context)
    (steps : c.backend.step l ctx = .ok () after) :
    ∃ w lines, c.backend.written l after.closed = .ok w ∧
      ctx.Emits after (Backend.relocates after.stack after.closed)
        (lines ++ if after.closed.any Frame.isFunction then [[]] else []) ∧
      let r := c.backend.resolve l.instruction
      let levels := depth r after.stack
      let texts := ((w.lines.getD [l.text]).filter (!·.isBlank)).map fun text =>
        terminated r (substitute nativeNames text)
      lines = texts.map (fun text => c.localize (Text.times levels c.indent ++ text)) ∧
        ((c.importNamespace = true → Text.Detached c.qualifier c.indent) →
          lines = texts.map (fun text => Text.times levels c.indent ++ c.localize text)) ∧
        (texts ≠ [] →
          (levels = c.backend.scopeLevels l after.stack ↔ after.stack.sections ≤ 1 ∨
            c.backend.continues l = true ∧ after.stack.frames = [.vars, .vars]) ∧
          ((c.backend.continues l = true → 0 < after.stack.scopes) →
            levels = c.backend.scopeLevels l after.stack + (after.stack.sections - 1))) := by
  have passes := Backend.step_eq_ok_iff.mp steps
  have moves := Backend.advance_of_outcome passes
  obtain ⟨a, _, stack, closed, _, w, writes, rfl⟩ := Backend.outcome_eq_ok_iff.mp passes
  refine ⟨w, c.backend.emitted l stack w, writes, c.backend.settle_emits l ctx stack closed w, ?_⟩
  intro r levels texts
  have lines : c.backend.emitted l stack w =
      texts.map fun text => c.localize (Text.times levels c.indent ++ text) := by
    rw [emitted_eq, List.map_map]
    rfl
  refine ⟨lines, ?_, ?_⟩
  · intro apart
    rw [lines]
    exact List.map_congr_left fun text _ => localize_times_append apart levels text
  · intro some
    have visible : c.backend.resolve l.instruction ≠ .keyword .fxStart := by
      intro starts
      have none := written_fxStart starts writes
      simp [texts, none] at some
    exact ⟨depth_eq_scopeLevels_iff moves visible, depth_eq_scopeLevels_add moves visible⟩

theorem CPlusPlus.levels_eq_scopes_iff_in_section :
    let c : CPlusPlus := {}
    let ctx : Context := { stack := [⟨.vars, 2⟩, ⟨.fx, 1⟩] }
    c.backend.scopeLevels ⟨"if a", 3⟩ (⟨.ifBlock, 3⟩ :: ctx.stack) = 1 ∧
      ∃ after, c.backend.step ⟨"if a", 3⟩ ctx = .ok () after ∧
        after.hoisted = [("\tif (a) \x7b" : Text)] := by
  intro c ctx
  refine ⟨by decide, _, rfl, ?_⟩
  obtain ⟨w, lines, writes, emits, written, _, law⟩ :=
    CPlusPlus.levels_eq_scopes_iff c ⟨"if a", 3⟩ ctx _ rfl
  cases writes
  have level := (law (by decide)).1.mpr (.inl (by decide))
  rw [level] at written
  rw [emits.1, written]
  decide +kernel

/-- A second section stands within the first one, and what it declares stands in both. -/
theorem CPlusPlus.second_section_indented :
    let c : CPlusPlus := {}
    let lines : List Text := ["vars", "vars", "int a", "end", "end"]
    let past := SourceLine.number (lines.take 2)
    let l : SourceLine := ⟨"int a", 3⟩
    (c.backend.reach (past ++ [l]) {}).map (·.stack) = .ok [⟨.vars, 2⟩, ⟨.vars, 1⟩] ∧
      c.backend.scopeLevels l [⟨.vars, 2⟩, ⟨.vars, 1⟩] = 0 ∧
      c.backend.finished past l = [("\tint a;" : Text)] ∧
      c.backend.compile lines = .ok ("#include <iostream>\n\nint main() \x7b\n" ++
        "\t// Variables locales :\n\t\t// Variables locales :\n\t\tint a;\n\treturn 0;\n\x7d") := by
  intro c lines past l
  exact ⟨by decide +kernel, by decide, by decide +kernel, by decide +kernel⟩

end BlockScript
