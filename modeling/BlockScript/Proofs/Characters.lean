import BlockScript.Instruction
import BlockScript.Text.Replace
import BlockScript.ValueType

/-!
Which characters a text can have after it is cut, joined or replaced in: those of the text that it
came from and those of the texts put in.
-/
namespace BlockScript

namespace Text

variable {t : Text}

theorem subset_of_mem_splitOnP {p : Char → Bool} {part : Text} (h : part ∈ t.splitOnP p) :
    part ⊆ t := by
  induction t generalizing part with
  | nil =>
    rw [List.splitOnP_nil, List.mem_singleton] at h
    exact h ▸ List.Subset.refl _
  | cons c t ih =>
    rw [List.splitOnP_cons_eq_if_modifyHead] at h
    split at h
    · rcases List.mem_cons.mp h with rfl | h
      · exact List.nil_subset _
      · exact List.subset_cons_of_subset c (ih h)
    · cases hs : t.splitOnP p with
      | nil => simp [hs] at h
      | cons first others =>
        rw [hs, List.modifyHead_cons] at h
        rcases List.mem_cons.mp h with rfl | h
        · exact List.cons_subset_cons c (ih (by simp [hs]))
        · exact List.subset_cons_of_subset c (ih (by simp [hs, h]))

theorem subset_of_mem_splitOn {c : Char} {part : Text} (h : part ∈ t.splitOn c) : part ⊆ t := by
  rw [List.splitOn_eq_splitOnP] at h
  exact subset_of_mem_splitOnP h

theorem not_of_mem_splitOnP {p : Char → Bool} {part : Text} (h : part ∈ t.splitOnP p) :
    ∀ c ∈ part, p c = false := by
  induction t generalizing part with
  | nil =>
    rw [List.splitOnP_nil, List.mem_singleton] at h
    simp [h]
  | cons c t ih =>
    rw [List.splitOnP_cons_eq_if_modifyHead] at h
    split at h
    · rcases List.mem_cons.mp h with rfl | h
      · simp
      · exact ih h
    · rename_i kept
      cases hs : t.splitOnP p with
      | nil => simp [hs] at h
      | cons first others =>
        rw [hs, List.modifyHead_cons] at h
        rcases List.mem_cons.mp h with rfl | h
        · intro d mem
          rcases List.mem_cons.mp mem with rfl | mem
          · exact Bool.eq_false_iff.mpr kept
          · exact ih (by simp [hs]) d mem
        · exact ih (by simp [hs, h])

theorem not_mem_of_mem_splitOn {c : Char} {part : Text} (h : part ∈ t.splitOn c) : c ∉ part := by
  rw [List.splitOn_eq_splitOnP] at h
  intro mem
  simpa using not_of_mem_splitOnP h c mem

theorem dropEndWhile_subset (p : Char → Bool) (t : Text) : t.dropEndWhile p ⊆ t := by
  unfold dropEndWhile
  intro c mem
  rw [List.mem_reverse] at mem
  exact List.mem_reverse.mp ((List.dropWhile_sublist p).subset mem)

theorem times_subset (n : Nat) (t : Text) : times n t ⊆ t := by
  intro c mem
  obtain ⟨unit, units, inside⟩ := List.mem_flatten.mp mem
  exact List.eq_of_mem_replicate units ▸ inside

theorem after?_subset {front rest : Text} (h : after? front t = some rest) : rest ⊆ t := by
  rw [after?_eq_some_iff.mp h]
  exact List.subset_append_right front rest

theorem filter_join {q : Char → Bool} {separator : Text} (free : separator.filter q = [])
    (parts : List Text) : (join separator parts).filter q = parts.flatMap (·.filter q) := by
  induction parts with
  | nil => rfl
  | cons part parts ih =>
    cases parts with
    | nil => simp [join]
    | cons next parts =>
      rw [List.flatMap_cons, ← ih]
      simp [join, List.intercalate_cons_cons, free]

theorem filter_beq_eq_nil_iff {c : Char} : t.filter (· == c) = [] ↔ c ∉ t := by
  rw [List.filter_eq_nil_iff]
  constructor
  · intro none mem
    exact none c mem (beq_self_eq_true c)
  · intro absent d mem same
    exact absent (beq_iff_eq.mp same ▸ mem)

theorem exists_mem_of_mem_join {c : Char} {separator : Text} {parts : List Text}
    (other : c ∉ separator) (mem : c ∈ join separator parts) : ∃ part ∈ parts, c ∈ part := by
  have kept : c ∈ (join separator parts).filter (· == c) := List.mem_filter.mpr ⟨mem, by simp⟩
  rw [filter_join (filter_beq_eq_nil_iff.mpr other)] at kept
  obtain ⟨part, listed, inside⟩ := List.mem_flatMap.mp kept
  exact ⟨part, listed, (List.mem_filter.mp inside).1⟩

theorem filter_replaceFrom {q : Char → Bool} {pattern insert : Text} (nonempty : pattern ≠ [])
    (pattern_free : pattern.filter q = []) (insert_free : insert.filter q = []) (skip : Nat)
    (t : Text) : (replaceFrom pattern insert skip t).filter q = (t.drop skip).filter q := by
  induction t generalizing skip with
  | nil => cases skip <;> rfl
  | cons c t ih =>
    cases skip with
    | succ skip => exact ih skip
    | zero =>
      unfold replaceFrom
      split
      · rename_i found
        obtain ⟨rest, whole⟩ := List.isPrefixOf_iff_prefix.mp found
        have after : t.drop (pattern.length - 1) = rest := by
          cases pattern with
          | nil => exact absurd rfl nonempty
          | cons d pattern =>
            obtain ⟨rfl, rfl⟩ := List.cons.inj whole
            exact List.drop_left
        rw [List.filter_append, insert_free, ih, after, List.drop_zero, ← whole,
          List.filter_append, pattern_free]
      · rw [List.filter_cons, List.drop_zero, List.filter_cons, ih]
        rfl

theorem filter_replaceAll {q : Char → Bool} {pattern insert : Text}
    (pattern_free : pattern.filter q = []) (insert_free : insert.filter q = []) (t : Text) :
    (replaceAll pattern insert t).filter q = t.filter q := by
  unfold replaceAll
  split
  · rfl
  · rename_i nonempty
    exact filter_replaceFrom nonempty pattern_free insert_free 0 t

end Text

theorem subset_of_mem_arrayParts {token part : Text} (h : part ∈ ValueType.arrayParts token) :
    part ⊆ token :=
  Text.subset_of_mem_splitOnP (List.mem_filter.mp h).1

theorem SourceLine.tokens_instruction (l : SourceLine) : l.instruction.tokens = tokenize l.text := by
  have cut : tokenize l.text ≠ [] := List.splitOn_ne_nil ' ' l.text
  obtain ⟨name, params, whole⟩ := List.exists_cons_of_ne_nil cut
  simp [instruction, Instruction.ofTokens, Instruction.tokens, whole]

theorem SourceLine.subset_of_mem_tokens {l : SourceLine} {token : Text}
    (h : token ∈ l.instruction.tokens) : token ⊆ l.text := by
  rw [tokens_instruction] at h
  exact Text.subset_of_mem_splitOn h

end BlockScript
