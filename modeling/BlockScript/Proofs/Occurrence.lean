import Mathlib.Data.List.Infix
import BlockScript.Builtin
import BlockScript.Proofs.Characters
import BlockScript.Text.Blank

/-!
Where a pattern stands in a text that was put together. A pattern without the separator stands in
one of the parts, and a blank line or a padding before a text holds nothing of it.
-/
namespace BlockScript.Text

variable {pattern s t : Text} {c : Char}

theorem not_infix_nil (nonempty : pattern ≠ []) : ¬ pattern <:+: ([] : Text) :=
  fun found => nonempty (List.infix_nil.mp found)

/-- No occurrence reaches over a character that the pattern does not have. -/
theorem infix_append_cons_iff (foreign : c ∉ pattern) (nonempty : pattern ≠ []) :
    pattern <:+: s ++ c :: t ↔ pattern <:+: s ∨ pattern <:+: t := by
  have behind : pattern <:+: c :: t ↔ pattern <:+: t := by
    rw [List.infix_cons_iff, List.prefix_cons_iff]
    constructor
    · rintro ((empty | ⟨rest, eq, _⟩) | found)
      · exact absurd empty nonempty
      · exact absurd (eq ▸ List.mem_cons_self) foreign
      · exact found
    · exact .inr
  rw [List.infix_append_iff_ne_nil, behind]
  constructor
  · rintro (found | found | ⟨first, last, _, more, rfl, _, reaches⟩)
    · exact .inl found
    · exact .inr found
    · rcases List.prefix_cons_iff.mp reaches with empty | ⟨rest, rfl, _⟩
      · exact absurd empty more
      · exact absurd (List.mem_append_right first List.mem_cons_self) foreign
  · rintro (found | found)
    · exact .inl found
    · exact .inr (.inl found)

theorem prefix_append_cons_iff (foreign : c ∉ pattern) (s t : Text) :
    pattern <+: s ++ c :: t ↔ pattern <+: s := by
  constructor
  · intro found
    rcases List.prefix_or_prefix_of_prefix found (List.prefix_append s (c :: t)) with
      short | ⟨rest, rfl⟩
    · exact short
    · rw [List.prefix_append_right_inj] at found
      rcases List.prefix_cons_iff.mp found with empty | ⟨more, rfl, _⟩
      · rw [empty, List.append_nil]
      · exact absurd (List.mem_append_right s List.mem_cons_self) foreign
  · exact fun found => found.trans (List.prefix_append s _)

theorem infix_concat_iff_of_getLast?_ne (other : pattern.getLast? ≠ some c)
    (nonempty : pattern ≠ []) : pattern <:+: s ++ [c] ↔ pattern <:+: s := by
  rw [List.infix_concat_iff, List.suffix_concat_iff]
  constructor
  · rintro ((empty | ⟨front, rfl, _⟩) | found)
    · exact absurd empty nonempty
    · exact absurd List.getLast?_concat other
    · exact found
  · exact .inr

/-- The padding has no occurrence of the pattern and none begins at its end. -/
def Detached (pattern pad : Text) : Prop :=
  ¬ pattern <:+: pad ∧ ∀ s ∈ pad.tails, s ≠ [] → ¬ s <+: pattern

instance (pattern pad : Text) : Decidable (Detached pattern pad) :=
  inferInstanceAs (Decidable (¬ pattern <:+: pad ∧ ∀ s ∈ pad.tails, s ≠ [] → ¬ s <+: pattern))

theorem Detached.infix_append_iff {pad : Text} (detached : Detached pattern pad) (t : Text) :
    pattern <:+: pad ++ t ↔ pattern <:+: t := by
  constructor
  · intro found
    rcases List.infix_append_iff_ne_nil.mp found with inside | behind |
      ⟨first, last, hf, _, eq, ending, _⟩
    · exact absurd inside detached.1
    · exact behind
    · have begins : first <+: pattern := eq ▸ List.prefix_append first last
      exact absurd begins (detached.2 first ((List.mem_tails _ _).mpr ending) hf)
  · exact List.infix_append_of_infix_right

theorem append_cons_inj {c : Char} {s t u v : Text} (hs : c ∉ s) (hu : c ∉ u)
    (same : s ++ c :: t = u ++ c :: v) : s = u ∧ t = v := by
  induction s generalizing u with
  | nil =>
    cases u with
    | nil => exact ⟨rfl, List.tail_eq_of_cons_eq same⟩
    | cons d u => exact absurd (List.head_eq_of_cons_eq same ▸ List.mem_cons_self) hu
  | cons d s ih =>
    cases u with
    | nil => exact absurd (List.head_eq_of_cons_eq same ▸ List.mem_cons_self) hs
    | cons e u =>
      obtain ⟨rfl, behind⟩ := List.cons.inj same
      have short : c ∉ s := List.not_mem_of_not_mem_cons hs
      obtain ⟨rfl, rest⟩ := ih short (List.not_mem_of_not_mem_cons hu) behind
      exact ⟨rfl, rest⟩

theorem append_cons_inj_right {c : Char} {s t u v : Text} (ht : c ∉ t) (hv : c ∉ v)
    (same : s ++ c :: t = u ++ c :: v) : s = u ∧ t = v := by
  have reversed : t.reverse ++ c :: s.reverse = v.reverse ++ c :: u.reverse := by
    simpa using congrArg List.reverse same
  have cut := append_cons_inj (by simpa using ht) (by simpa using hv) reversed
  exact ⟨List.reverse_inj.mp cut.2, List.reverse_inj.mp cut.1⟩

theorem join_singleton (separator part : Text) : join separator [part] = part :=
  List.intercalate_singleton

theorem join_cons_cons (separator part next : Text) (parts : List Text) :
    join separator (part :: next :: parts) = part ++ separator ++ join separator (next :: parts) :=
  List.intercalate_cons_cons

theorem join_cons_of_ne_nil (separator part : Text) {parts : List Text} (some : parts ≠ []) :
    join separator (part :: parts) = part ++ separator ++ join separator parts :=
  List.intercalate_cons_of_ne_nil some

theorem join_append {separator : Text} {front back : List Text} (hf : front ≠ []) (hb : back ≠ []) :
    join separator (front ++ back) = join separator front ++ separator ++ join separator back := by
  induction front with
  | nil => exact absurd rfl hf
  | cons part front ih =>
    cases front with
    | nil => rw [List.singleton_append, join_cons_of_ne_nil separator part hb, join_singleton]
    | cons next front =>
      have shorter := ih (List.cons_ne_nil next front)
      rw [List.cons_append] at shorter ⊢
      rw [List.cons_append, join_cons_cons, shorter, join_cons_cons]
      simp only [List.append_assoc]

theorem join_append_join (separator : Text) (front : List Text) (last first : Text)
    (rest : List Text) :
    join separator (front ++ [last]) ++ join separator (first :: rest) =
      join separator (front ++ (last ++ first) :: rest) := by
  induction front with
  | nil =>
    rw [List.nil_append, List.nil_append, join_singleton]
    cases rest with
    | nil => rw [join_singleton, join_singleton]
    | cons next rest => simp only [join_cons_cons, List.append_assoc]
  | cons part front ih =>
    have behind : front ++ [last] ≠ [] := by simp
    have behind' : front ++ (last ++ first) :: rest ≠ [] := by simp
    rw [List.cons_append, List.cons_append, join_cons_of_ne_nil separator part behind,
      join_cons_of_ne_nil separator part behind', List.append_assoc, ih]

theorem infix_join_of_mem (separator : Text) {part : Text} {parts : List Text}
    (mem : part ∈ parts) : part <:+: join separator parts := by
  obtain ⟨front, back, rfl⟩ := List.append_of_mem mem
  cases front with
  | nil =>
    cases back with
    | nil => exact (join_singleton separator part).symm ▸ List.infix_rfl
    | cons next back =>
      rw [List.nil_append, join_cons_cons, List.append_assoc]
      exact (List.prefix_append part _).isInfix
  | cons first front =>
    rw [join_append (List.cons_ne_nil first front) (List.cons_ne_nil part back)]
    cases back with
    | nil =>
      rw [join_singleton]
      exact (List.suffix_append _ part).isInfix
    | cons next back =>
      rw [join_cons_cons, List.append_assoc part]
      exact (List.prefix_append part _).isInfix.trans (List.suffix_append _ _).isInfix

theorem infix_join_iff (foreign : c ∉ pattern) (nonempty : pattern ≠ []) (parts : List Text) :
    pattern <:+: join [c] parts ↔ ∃ part ∈ parts, pattern <:+: part := by
  induction parts with
  | nil =>
    have none : ¬ pattern <:+: join [c] [] := not_infix_nil nonempty
    simp [none]
  | cons part parts ih =>
    cases parts with
    | nil => simp [join]
    | cons next parts =>
      rw [join_cons_cons, List.append_assoc, List.singleton_append,
        infix_append_cons_iff foreign nonempty, ih]
      simp only [List.mem_cons, exists_eq_or_imp]

theorem infix_of_mem_splitOnP {p : Char → Bool} {part : Text} (h : part ∈ t.splitOnP p) :
    part <:+: t := by
  have pieces : (∀ part ∈ t.splitOnP p, part <:+: t) ∧
      ∀ part ∈ (t.splitOnP p).head?, part <+: t := by
    clear h
    induction t with
    | nil => simp [List.splitOnP_nil]
    | cons c t ih =>
      obtain ⟨within, first⟩ := ih
      rw [List.splitOnP_cons_eq_if_modifyHead]
      split
      · refine ⟨?_, by simp⟩
        intro part mem
        rcases List.mem_cons.mp mem with rfl | mem
        · exact List.nil_infix
        · exact List.infix_cons (within part mem)
      · cases cut : t.splitOnP p with
        | nil => simp
        | cons piece others =>
          rw [cut] at within first
          have begins : c :: piece <+: c :: t := List.cons_prefix_cons.mpr ⟨rfl, first piece rfl⟩
          refine ⟨?_, by simpa using begins⟩
          intro part mem
          rcases List.mem_cons.mp mem with rfl | mem
          · exact begins.isInfix
          · exact List.infix_cons (within part (List.mem_cons_of_mem _ mem))
  exact pieces.1 part h

theorem isBlank_iff : t.isBlank = true ↔ ∀ c ∈ t, isBlankChar c = true := List.all_eq_true

theorem isBlank_append (s t : Text) : isBlank (s ++ t) = (s.isBlank && t.isBlank) :=
  List.all_append

theorem not_mem_of_isBlank (blank : t.isBlank = true) (solid : isBlankChar c = false) : c ∉ t := by
  intro mem
  rw [isBlank_iff.mp blank c mem] at solid
  cases solid

theorem times_isBlank (blank : t.isBlank = true) (n : Nat) : (times n t).isBlank = true := by
  rw [isBlank_iff]
  intro c mem
  exact isBlank_iff.mp blank c (times_subset n t mem)

end BlockScript.Text
