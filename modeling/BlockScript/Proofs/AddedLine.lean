import BlockScript.Proofs.CommentLines
import BlockScript.Proofs.Words

/-!
Lines of a program that write one line. What they add to the output does not depend on the context
but for the padding, which each target takes from the open blocks.
-/
namespace BlockScript

namespace Backend

variable {b : Backend} {l : SourceLine}

/-- Wherever it stands, the line adds one line to the output, given the blocks then open. -/
def Adds (b : Backend) (l : SourceLine) (line : FrameStack → Text) : Prop :=
  ∀ ctx, ∃ after, b.step l ctx = .ok () after ∧
    ctx.Emits after (relocates after.stack none) [line after.stack]

theorem adds_of_written {a : BlockAction} {w : Rendering} {line : FrameStack → Text}
    (acts : b.action l = .ok a) (allowed : a = .plain ∨ ∃ f, a = .opens f)
    (writes : b.written l none = .ok w) (emits : ∀ stack, b.emitted l stack w = [line stack]) :
    b.Adds l line := by
  intro ctx
  obtain ⟨stack, applies⟩ : ∃ stack, a.apply l.index ctx.stack = .ok (stack, none) := by
    rcases allowed with rfl | ⟨f, rfl⟩
    · exact ⟨ctx.stack, rfl⟩
    · exact ⟨ctx.stack.push f l.index, rfl⟩
  have passes : b.outcome l ctx = .ok (b.settle l ctx stack none w) :=
    outcome_eq_ok_iff.mpr ⟨a, acts, stack, none, applies, w, writes, rfl⟩
  have added := b.settle_emits l ctx stack none w
  rw [emits stack] at added
  exact ⟨_, step_eq_ok_iff.mpr passes, added⟩

end Backend

def Text.before? (last : Char) (t : Text) : Option Text :=
  if t.getLast? = some last then some t.dropLast else none

theorem Text.before?_concat (last : Char) (t : Text) : before? last (t ++ [last]) = some t := by
  simp [before?]

theorem unmarked_join (parts : List Text) (plain : ∀ part ∈ parts, '(' ∉ part ∧ ':' ∉ part) :
    MarkFree (Text.join " " parts) ∧ ':' ∉ Text.join " " parts := by
  constructor
  · refine markFree_of_not_mem ?_
    intro paren
    obtain ⟨part, mem, inside⟩ := Text.exists_mem_of_mem_join (by decide) paren
    exact (plain part mem).1 inside
  · intro colon
    obtain ⟨part, mem, inside⟩ := Text.exists_mem_of_mem_join (by decide) colon
    exact (plain part mem).2 inside

namespace CPlusPlus

variable (c : CPlusPlus) (l : SourceLine) (stack : FrameStack)

theorem emitted_eq (w : Rendering) :
    c.backend.emitted l stack w =
      ((w.lines.getD [l.text]).filter (!·.isBlank)).map fun text =>
        let r := c.backend.resolve l.instruction
        c.localize (Text.times (depth r stack) c.indent ++
          terminated r (substitute nativeNames text)) := by
  show c.finish _ stack _ = _
  rw [finish, filter_solid]

theorem emitted_ofLine {text : Text} (solid : text.isBlank = false) :
    c.backend.emitted l stack (.ofLine text) =
      [c.localize (Text.times (depth (c.backend.resolve l.instruction) stack) c.indent ++
        terminated (c.backend.resolve l.instruction) (substitute nativeNames text))] := by
  rw [emitted_eq]
  have kept : ([text] : List Text).filter (!Text.isBlank ·) = [text] := by simp [solid]
  show (([text] : List Text).filter _).map _ = _
  rw [kept]
  rfl

theorem terminated_append_word {r : Resolution} (statement : r = .declaration ∨ r = .assignment)
    {word : Text} (h : word.IsWord) (front : Text) :
    terminated r (front ++ word) = front ++ word ++ ";" := by
  have kind : (∀ k, r ≠ .keyword k) ∧ (r = .passThrough → ¬ IsNote (front ++ word)) ∧
      ∀ d, endsStatement r d = true → d = ';' := by
    rcases statement with rfl | rfl <;> simp [endsStatement]
  have open_ : ¬ Ended r (front ++ word) := by
    intro ended
    obtain ⟨before, d, tail, whole, _, blank, ends⟩ := Text.endsWith_trim_iff.mp ended
    have final : word.getLast? = (d :: tail).getLast? := by
      rw [← List.getLast?_append_of_ne_nil front h.1, whole,
        List.getLast?_append_of_ne_nil before (List.cons_ne_nil d tail)]
    have last := List.getLast?_eq_some_getLast h.1
    have inside : word.getLast h.1 ∈ word := List.getLast_mem h.1
    rw [final] at last
    rcases List.mem_cons.mp (List.mem_of_getLast? last) with same | spaces
    · rw [same, kind.2.2 d ends] at inside
      exact h.not_mem (by decide) (by decide) inside
    · have solid := h.solid _ inside
      exact Text.not_mem_of_isBlank blank solid spaces
  exact if_pos ((needsTerminator_iff kind.1 kind.2.1).mpr open_)

end CPlusPlus

theorem Pseudocode.emitted_ofLine (p : Pseudocode) (l : SourceLine) (stack : FrameStack)
    {text : Text} (some : text ≠ []) :
    p.backend.emitted l stack (.ofLine text) =
      [Text.times ((p.backend.resolve l.instruction).indentDepth stack) p.indent ++
        substitute nativeNames text] := by
  have kept : ([text] : List Text).filter (· ≠ []) = [text] := by simp [some]
  show p.finish _ stack (([text] : List Text).filter _) = _
  rw [kept]
  rfl

namespace Settings

variable (s : Settings) (target : Target)

def padding (r : Resolution) (stack : FrameStack) : Text :=
  match target with
  | .pseudocode => Text.times (r.indentDepth stack) s.indent
  | .cpp => s.cpp.localize (Text.times (CPlusPlus.depth r stack) s.indent)

def ended (r : Resolution) (text : Text) : Text :=
  match target with
  | .pseudocode => text
  | .cpp => CPlusPlus.terminated r text

variable {s : Settings} {target : Target} {l : SourceLine} {r : Resolution} {text : Text}

theorem adds_of_markFree {a : BlockAction} (hr : (s.backend target).resolve l.instruction = r)
    (acts : (s.backend target).action l = .ok a) (allowed : a = .plain ∨ ∃ f, a = .opens f)
    (writes : (s.backend target).written l none = .ok (.ofLine text))
    (solid : text.isBlank = false) (free : MarkFree text) (unqualified : ':' ∉ text) :
    (s.backend target).Adds l fun stack => s.padding target r stack ++ ended target r text := by
  refine Backend.adds_of_written acts allowed writes ?_
  intro stack
  have some : text ≠ [] := by
    rintro rfl
    cases solid
  cases target with
  | pseudocode =>
    rw [← hr]
    refine (Pseudocode.emitted_ofLine s.pseudocode l stack some).trans ?_
    rw [substitute_of_markFree _ free]
    rfl
  | cpp =>
    rw [← hr]
    refine (CPlusPlus.emitted_ofLine s.cpp l stack solid).trans ?_
    rw [substitute_of_markFree _ free, CPlusPlus.localize_append_of_not_mem]
    · rfl
    · unfold CPlusPlus.terminated
      split
      · simpa using unqualified
      · exact unqualified

end Settings

end BlockScript
