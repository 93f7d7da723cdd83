import Mathlib.Data.List.Forall2
import Mathlib.Data.List.TakeWhile
import BlockScript.Proofs.Characters
import BlockScript.Proofs.Occurrence

/-!
The lines of a text without their indentation. They are those of its parts where it was joined, a
padding adds nothing to them, and what is left when blanks are dropped at the end of the text
depends on nothing else.
-/
namespace BlockScript.Text

def bareLines (t : Text) : List Text := (t.splitOn '\n').map trimStart

variable {s t pad line : Text}

theorem bareLines_of_not_mem (single : '\n' ∉ t) : bareLines t = [trimStart t] := by
  unfold bareLines
  rw [List.splitOn_eq_singleton single, List.map_singleton]

theorem bareLines_append_cons (s t : Text) :
    bareLines (s ++ '\n' :: t) = bareLines s ++ bareLines t := by
  have newline : ('\n' == '\n') = true := beq_self_eq_true '\n'
  unfold bareLines
  simp only [List.splitOn_eq_splitOnP]
  rw [List.splitOnP_append_cons (p := (· == '\n')) s t newline, List.map_append]

theorem bareLines_join {parts : List Text} (nonempty : parts ≠ []) :
    bareLines (join "\n" parts) = parts.flatMap bareLines := by
  induction parts with
  | nil => exact absurd rfl nonempty
  | cons part parts ih =>
    cases parts with
    | nil => rw [join_singleton, List.flatMap_singleton]
    | cons next parts =>
      have rest := ih (List.cons_ne_nil next parts)
      rw [join_cons_cons, List.append_assoc, List.flatMap_cons, ← rest]
      exact bareLines_append_cons part _

theorem flatMap_bareLines {lines : List Text} (single : ∀ line ∈ lines, '\n' ∉ line) :
    lines.flatMap bareLines = lines.map trimStart := by
  induction lines with
  | nil => rfl
  | cons line lines ih =>
    obtain ⟨first, others⟩ := List.forall_mem_cons.mp single
    rw [List.flatMap_cons, bareLines_of_not_mem first, ih others]
    rfl

theorem trimStart_append (blank : pad.isBlank = true) (t : Text) :
    trimStart (pad ++ t) = trimStart t :=
  List.dropWhile_append_of_pos (isBlank_iff.mp blank)

structure IsIndent (pad : Text) : Prop where
  blank : pad.isBlank = true
  single : '\n' ∉ pad

theorem IsIndent.times (h : pad.IsIndent) (n : Nat) : (Text.times n pad).IsIndent where
  blank := times_isBlank h.blank n
  single := by
    intro mem
    exact h.single (times_subset n _ mem)

theorem IsIndent.bareLines_append (h : pad.IsIndent) (t : Text) :
    bareLines (pad ++ t) = bareLines t := by
  by_cases several : '\n' ∈ t
  · obtain ⟨first, rest, rfl, alone⟩ := List.eq_append_cons_of_mem several
    have padded : '\n' ∉ pad ++ first := by simp [h.single, alone]
    rw [← List.append_assoc, bareLines_append_cons, bareLines_append_cons,
      bareLines_of_not_mem padded, bareLines_of_not_mem alone, trimStart_append h.blank]
  · have padded : '\n' ∉ pad ++ t := by simp [h.single, several]
    rw [bareLines_of_not_mem padded, bareLines_of_not_mem several, trimStart_append h.blank]

section End

theorem trimStart_eq_nil_iff : trimStart t = [] ↔ t.isBlank = true := by
  rw [trimStart, List.dropWhile_eq_nil_iff, isBlank_iff]

theorem trimEnd_append (s t : Text) :
    trimEnd (s ++ t) = if t.isBlank then trimEnd s else s ++ trimEnd t := by
  unfold trimEnd dropEndWhile
  rw [List.reverse_append, List.dropWhile_append]
  by_cases blank : t.isBlank = true
  · have gone : t.reverse.dropWhile isBlankChar = [] := by
      rw [List.dropWhile_eq_nil_iff]
      intro c mem
      exact isBlank_iff.mp blank c (List.mem_reverse.mp mem)
    simp [gone, blank]
  · have left : t.reverse.dropWhile isBlankChar ≠ [] := by
      rw [Ne, List.dropWhile_eq_nil_iff]
      intro all
      exact blank (isBlank_iff.mpr fun c mem => all c (List.mem_reverse.mpr mem))
    simp [left, blank]

theorem trimEnd_of_isBlank (blank : t.isBlank = true) : trimEnd t = [] := by
  have whole := trimEnd_append [] t
  rw [if_pos blank, List.nil_append] at whole
  exact whole

theorem trimStart_trimEnd_congr (same : trimStart s = trimStart t) :
    trimStart (trimEnd s) = trimStart (trimEnd t) := by
  have cut : ∀ line : Text,
      trimStart (trimEnd line) = trimStart (trimEnd (trimStart line)) := by
    intro line
    have padding : Text.isBlank (line.takeWhile isBlankChar) = true :=
      isBlank_iff.mpr fun c mem => List.mem_takeWhile_imp mem
    have whole : line.takeWhile isBlankChar ++ trimStart line = line :=
      List.takeWhile_append_dropWhile
    conv => lhs; rw [← whole, trimEnd_append]
    split
    · rename_i blank
      rw [trimEnd_of_isBlank padding, trimEnd_of_isBlank blank]
    · exact trimStart_append padding _
  rw [cut s, cut t, same]

theorem trimEnd_join_concat (front : List Text) (line : Text) :
    trimEnd (join "\n" (front ++ [line])) =
      if line.isBlank then trimEnd (join "\n" front) else join "\n" (front ++ [trimEnd line]) := by
  cases front with
  | nil =>
    rw [List.nil_append, List.nil_append, join_singleton, join_singleton]
    split
    · rename_i blank
      exact trimEnd_of_isBlank blank
    · rfl
  | cons first front =>
    have lines := List.cons_ne_nil first front
    have newline : Text.isBlank ("\n" : Text) = true := rfl
    rw [join_append lines (List.cons_ne_nil line []), join_append lines (List.cons_ne_nil _ []),
      join_singleton, join_singleton, trimEnd_append, trimEnd_append _ ("\n" : Text),
      if_pos newline]

theorem bareLines_trimEnd_join {lines others : List Text} (single : ∀ line ∈ lines, '\n' ∉ line)
    (single_others : ∀ line ∈ others, '\n' ∉ line)
    (same : lines.map trimStart = others.map trimStart) :
    bareLines (trimEnd (join "\n" lines)) = bareLines (trimEnd (join "\n" others)) := by
  induction lines using List.reverseRecOn generalizing others with
  | nil =>
    rw [List.map_eq_nil_iff.mp same.symm]
  | append_singleton front line ih =>
    rw [List.map_append, List.map_singleton] at same
    obtain ⟨front', _, rfl, same_front, last⟩ := List.map_eq_append_iff.mp same.symm
    obtain ⟨line', rfl, same_line⟩ := List.map_eq_singleton_iff.mp last
    simp only [List.forall_mem_append, List.forall_mem_singleton] at single single_others
    have blanks : line'.isBlank = line.isBlank := by
      rw [Bool.eq_iff_iff, ← trimStart_eq_nil_iff, ← trimStart_eq_nil_iff, same_line]
    rw [trimEnd_join_concat, trimEnd_join_concat, blanks]
    split
    · exact ih single.1 single_others.1 same_front.symm
    · have ends : ∀ line : Text, '\n' ∉ line → '\n' ∉ trimEnd line :=
        fun line single mem => single (dropEndWhile_subset _ line mem)
      rw [bareLines_join (by simp), bareLines_join (by simp), List.flatMap_append,
        List.flatMap_append, List.flatMap_singleton, List.flatMap_singleton,
        flatMap_bareLines single.1, flatMap_bareLines single_others.1, same_front,
        bareLines_of_not_mem (ends line single.2), bareLines_of_not_mem (ends line' single_others.2),
        trimStart_trimEnd_congr same_line]

end End

/-- Nothing tells the texts apart but the indentation of their lines. -/
def SameLines (s t : Text) : Prop := bareLines s = bareLines t

theorem sameLines_refl (t : Text) : SameLines t t := Eq.refl (bareLines t)

theorem SameLines.trimEnd (same : SameLines s t) : SameLines (trimEnd s) (trimEnd t) := by
  have lines : SameLines (Text.trimEnd (join "\n" (s.splitOn '\n')))
      (Text.trimEnd (join "\n" (t.splitOn '\n'))) :=
    bareLines_trimEnd_join (fun _ => not_mem_of_mem_splitOn) (fun _ => not_mem_of_mem_splitOn) same
  have whole : ∀ text : Text, join "\n" (text.splitOn '\n') = text :=
    fun _ => List.intercalate_splitOn '\n'
  rwa [whole, whole] at lines

theorem SameLines.append_cons {s' t' : Text} (first : SameLines s t) (second : SameLines s' t') :
    SameLines (s ++ '\n' :: s') (t ++ '\n' :: t') := by
  unfold SameLines
  rw [bareLines_append_cons, bareLines_append_cons, first, second]

theorem SameLines.padded {other : Text} (hp : pad.IsIndent) (ho : other.IsIndent)
    (same : SameLines s t) : SameLines (pad ++ s) (other ++ t) := by
  unfold SameLines
  rw [hp.bareLines_append, ho.bareLines_append, same]

theorem sameLines_join {parts others : List Text} (same : List.Forall₂ SameLines parts others) :
    SameLines (join "\n" parts) (join "\n" others) := by
  have lines : parts.flatMap bareLines = others.flatMap bareLines := by
    induction same with
    | nil => rfl
    | cons first _ ih => rw [List.flatMap_cons, List.flatMap_cons, ih, first]
  cases same with
  | nil => rfl
  | cons _ _ => exact (bareLines_join (by simp)).trans (lines.trans (bareLines_join (by simp)).symm)

end BlockScript.Text
