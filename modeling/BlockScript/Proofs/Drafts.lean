import BlockScript.Proofs.AddedLine
import BlockScript.Proofs.CalledNames
import BlockScript.Proofs.Hoisting

/-!
What a line writes before its lines are finished, and where a name of it stands in the finished
line. The text before a call is substituted by itself, so the name comes out behind it.
-/
namespace BlockScript
open Text

namespace Backend

variable {b : Backend} {l : SourceLine} {past later : List SourceLine} {ctx : Context}
  {a : BlockAction} {stack : FrameStack} {closed : Option Frame} {r : Rendering}

/-- The lines that a line writes after `past`, before they are finished. -/
def drafts (b : Backend) (past : List SourceLine) (l : SourceLine) : List Text :=
  match b.run past {} with
  | .ok _ ctx =>
    match b.renderLine l.instruction (b.resolve l.instruction) (ctx.beginLine l.text) with
    | .ok _ mid => mid.pending
    | .error _ _ => []
  | .error _ _ => []

theorem drafts_eq (run : b.reach past {} = .ok ctx) (acts : b.action l = .ok a)
    (applies : a.apply l.index ctx.stack = .ok (stack, closed))
    (writes : b.written l closed = .ok r) :
    b.drafts past l = (r.lines.getD [l.text]).filter (· ≠ []) := by
  have rendered : b.rendered l ctx =
      .ok ({ ctx with stack, closed, current := [l.text] }.write r) := by
    unfold rendered
    simp only [bind, Except.bind, acts, applies, mapError_ok, writes]
    rfl
  have line := verdict_renderLine b l ctx
  rw [rendered, mapError_ok, verdict_eq_ok_iff] at line
  unfold drafts
  rw [reach_eq_ok_iff.mp run]
  dsimp only
  rw [line]
  rfl

theorem exists_drafts {lines : List Text} {out : Text} (compiles : b.compile lines = .ok out)
    (split : SourceLine.number lines = past ++ l :: later) :
    ∃ a stack closed r, b.action l = .ok a ∧ b.written l closed = .ok r ∧
      b.drafts past l = (r.lines.getD [l.text]).filter (· ≠ []) ∧
      b.finished past l = b.finish (b.resolve l.instruction) stack (b.drafts past l) := by
  obtain ⟨last, run, _, _⟩ := compile_eq_ok_iff.mp compiles
  rw [split, reach_append_eq_ok_iff] at run
  obtain ⟨ctx, before, run⟩ := run
  obtain ⟨after, here, _⟩ := reach_cons_eq_ok_iff.mp run
  obtain ⟨a, acts, stack, closed, applies, r, writes, _⟩ := outcome_eq_ok_iff.mp here
  have written := drafts_eq before acts applies writes
  refine ⟨a, stack, closed, r, acts, writes, written, ?_⟩
  rw [written]
  exact finished_eq before acts applies writes

end Backend

namespace CPlusPlus

variable {c : CPlusPlus} {s name t : Text}

theorem localize_append_cons {d : Char} (foreign : c.importNamespace = true → d ∉ c.namespaceName)
    (mark : d ≠ ':') (s t : Text) :
    c.localize (s ++ d :: t) = c.localize s ++ d :: c.localize t := by
  unfold localize
  split
  · rename_i imported
    refine replaceAll_append_cons ?_ [] s t
    rw [List.mem_append, not_or]
    exact ⟨foreign imported, by simpa using mark⟩
  · rfl

end CPlusPlus

namespace Settings

variable (s : Settings) (target : Target)

/-- What a target does to a line when it is otherwise finished. -/
def localized (t : Text) : Text :=
  match target with
  | .pseudocode => t
  | .cpp => s.cpp.localize t

variable {s : Settings} {target : Target} {past later : List SourceLine} {l : SourceLine}
  {lines : List Text} {out f before tail : Text}

theorem finish_singleton (s : Settings) (target : Target) (r : Resolution) (stack : FrameStack)
    {text : Text} (solid : text.isBlank = false) :
    ∃ n more, (s.backend target).finish r stack [text] =
      [s.localized target
        (Text.times n s.indent ++ substitute target.nativeNames text ++ more)] := by
  cases target with
  | pseudocode => exact ⟨r.indentDepth stack, [], by rw [List.append_nil]; rfl⟩
  | cpp =>
    have kept : ([text] : List Text).filter (!Text.isBlank ·) = [text] := by simp [solid]
    obtain ⟨more, terminated⟩ : ∃ more, CPlusPlus.terminated r
        (substitute CPlusPlus.nativeNames text) =
          substitute CPlusPlus.nativeNames text ++ more := by
      unfold CPlusPlus.terminated
      split
      · exact ⟨";", rfl⟩
      · exact ⟨[], (List.append_nil _).symm⟩
    refine ⟨CPlusPlus.depth r stack, more, ?_⟩
    show s.cpp.finish r stack [text] = _
    unfold CPlusPlus.finish
    rw [kept, List.map_singleton, terminated, ← List.append_assoc]
    rfl

theorem exists_finished_call (compiles : (s.backend target).compile lines = .ok out)
    (split : SourceLine.number lines = past ++ l :: later)
    (writes : (s.backend target).drafts past l = [before ++ (f ++ ['(']) ++ tail])
    (apart : EndsApart before) (plain : '(' ∉ f ∧ ')' ∉ f) (called : ¬ "ENDL)" <+: tail) :
    ∃ n back, (s.backend target).finished past l =
      [s.localized target (Text.times n s.indent ++ substitute target.nativeNames before ++
        target.nativeNames.calledAs f ++ '(' :: back)] := by
  obtain ⟨_, stack, _, _, _, _, _, finished⟩ := Backend.exists_drafts compiles split
  have solid : (before ++ (f ++ ['(']) ++ tail).isBlank = false := by
    rw [← Bool.not_eq_true]
    intro blank
    exact not_mem_of_isBlank blank (by decide : isBlankChar '(' = false) (by simp)
  obtain ⟨n, more, line⟩ := s.finish_singleton target
    ((s.backend target).resolve l.instruction) stack solid
  have name := (target.calling.substitute_name plain.1 plain.2).1
  refine ⟨n, substitute target.nativeNames tail ++ more, ?_⟩
  rw [finished, writes, line, target.calling.substitute_call apart plain.2 called, name]
  simp only [List.append_assoc, List.cons_append, List.nil_append]

end Settings

end BlockScript
