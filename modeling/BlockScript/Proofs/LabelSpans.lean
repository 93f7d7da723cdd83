import BlockScript.Proofs.LineSpans
import BlockScript.Report

/-!
Which characters the label of a report stands under. Its range is the span of the line in bytes and
is read as a range of characters, so it is the line only behind characters of one byte.
-/
namespace BlockScript

/-- The character of the source with this position lies in the range. -/
def Span.Selects (span : Span) (source : Text) (i : Nat) : Prop :=
  span.start ≤ i ∧ i < span.stop ∧ i < source.length

namespace Text

def SingleByte (t : Text) : Prop := ∀ c ∈ t, c.utf8Size = 1

instance (t : Text) : Decidable t.SingleByte := List.decidableBAll _ t

theorem utf8Length_eq_length_iff (t : Text) : utf8Length t = t.length ↔ SingleByte t := by
  unfold SingleByte
  induction t with
  | nil => simp [utf8Length]
  | cons c t ih =>
    have size := c.utf8Size_pos
    have longer := length_le_utf8Length t
    rw [List.forall_mem_cons, ← ih, utf8Length, List.length_cons]
    constructor
    · intro same
      constructor <;> omega
    · rintro ⟨one, same⟩
      omega

variable {source before line rest : Text} {n : Nat}

theorem LineAt.stop_le_length (h : LineAt source n before line rest) :
    before.length + (dropReturn line).length ≤ source.length ∧
      (before.length + (dropReturn line).length = source.length ↔
        dropReturn line = line ∧ rest = []) := by
  obtain ⟨ret, split⟩ := exists_eq_dropReturn_append line
  have whole := congrArg List.length h.whole
  have parts := congrArg List.length split
  rw [List.length_append] at parts
  rw [List.length_append, List.length_append] at whole
  refine ⟨by omega, ?_⟩
  constructor
  · intro ended
    have none : ret.length = 0 ∧ rest.length = 0 := by omega
    obtain ⟨noReturn, noRest⟩ := none
    rw [List.length_eq_zero_iff] at noReturn noRest
    rw [noReturn, List.append_nil] at split
    exact ⟨split.symm, noRest⟩
  · rintro ⟨same, rfl⟩
    rw [same, whole]
    rfl

theorem LineAt.selects_iff (h : LineAt source n before line rest) :
    (∀ i, (⟨utf8Length before, utf8Length before + utf8Length (dropReturn line)⟩ : Span).Selects
        source i ↔ before.length ≤ i ∧ i < before.length + (dropReturn line).length) ↔
      dropReturn line = [] ∨ before.SingleByte ∧
        ((dropReturn line).SingleByte ∨ dropReturn line = line ∧ rest = []) := by
  obtain ⟨within, ended⟩ := h.stop_le_length
  have earlier := length_le_utf8Length before
  have wider := length_le_utf8Length (dropReturn line)
  rw [← ended, ← utf8Length_eq_length_iff, ← utf8Length_eq_length_iff, ← List.length_eq_zero_iff]
  have empty : (dropReturn line).length = 0 → utf8Length (dropReturn line) = 0 := by
    intro none
    rw [List.length_eq_zero_iff.mp none]
    rfl
  simp only [Span.Selects]
  constructor
  · intro same
    by_cases none : (dropReturn line).length = 0
    · exact .inl none
    · have first := (same before.length).mpr ⟨Nat.le_refl _, by omega⟩
      have start : utf8Length before = before.length := by omega
      refine .inr ⟨start, ?_⟩
      by_cases size : utf8Length (dropReturn line) = (dropReturn line).length
      · exact .inl size
      · -- the range goes on behind the line, so no character may be there
        right
        by_contra more
        have behind := (same (before.length + (dropReturn line).length)).mp
          ⟨by omega, by omega, by omega⟩
        omega
  · rintro (none | ⟨start, size | last⟩) i
    · have size := empty none
      omega
    · omega
    · omega

end Text

/-- The label of a line selects the characters of the line exactly where the line is empty, or no
    character of several bytes stands before it, and none in it unless the source ends with it. -/
theorem Report.labelSpan_selects_iff (source : Text) (n : Nat) (span : Span)
    (found : Text.lineSpan source n = some span) :
    (∃ before line rest, Text.LineAt source n before line rest) ∧
      ∀ before line rest, Text.LineAt source n before line rest →
        ((∀ i, (labelSpan source n).Selects source i ↔
            before.length ≤ i ∧ i < before.length + (Text.dropReturn line).length) ↔
          Text.dropReturn line = [] ∨ before.SingleByte ∧
            ((Text.dropReturn line).SingleByte ∨ Text.dropReturn line = line ∧ rest = [])) := by
  constructor
  · obtain ⟨before, line, rest, place, _⟩ := Text.exists_lineAt_of_lineSpan found
    exact ⟨before, line, rest, place⟩
  · intro before line rest place
    unfold labelSpan
    rw [place.lineSpan]
    exact place.selects_iff

theorem Report.labelSpan_selects_iff_returns :
    let source : Text := "a\r\n\r\ncase 1é"
    Text.lineSpan source 3 = some ⟨5, 13⟩ ∧ Text.LineAt source 3 "a\r\n\r\n" "case 1é" [] ∧
      ∀ i, (labelSpan source 3).Selects source i ↔ 5 ≤ i ∧ i < 12 := by
  intro source
  have found : Text.lineSpan source 3 = some ⟨5, 13⟩ := by decide
  have place : Text.LineAt source 3 "a\r\n\r\n" "case 1é" [] :=
    ⟨by decide, by decide, by decide, by decide, by decide⟩
  obtain ⟨_, label⟩ := Report.labelSpan_selects_iff source 3 ⟨5, 13⟩ found
  exact ⟨found, place, (label _ _ _ place).mpr (.inr ⟨by decide, .inr ⟨by decide, rfl⟩⟩)⟩

/-- A character of two bytes above a line moves the label of the line by one. -/
theorem Report.labelSpan_misses_line :
    let source : Text := "print é\ncase 1\n"
    ({} : Settings).compileSource .cpp source = .error ⟨.structural .caseOutsideSwitch, 2⟩ ∧
      Text.lineSpan source 2 = some ⟨9, 15⟩ ∧ Text.LineAt source 2 "print é\n" "case 1" "\n" ∧
      ¬ ∀ i, (labelSpan source 2).Selects source i ↔ 8 ≤ i ∧ i < 14 := by
  intro source
  have fails : ({} : Settings).compileSource .cpp source =
      .error ⟨.structural .caseOutsideSwitch, 2⟩ := by
    decide +kernel
  have found : Text.lineSpan source 2 = some ⟨9, 15⟩ := by decide
  refine ⟨fails, found, ⟨by decide, by decide, by decide, by decide, by decide⟩, ?_⟩
  intro same
  have selected := (same 8).mpr ⟨by decide, by decide⟩
  unfold labelSpan at selected
  rw [found] at selected
  exact absurd selected.1 (by decide)

end BlockScript
