import Mathlib.Data.List.Infix
import BlockScript.Proofs.Occurrence
import BlockScript.Text.Replace

/-!
Replacement as a relation between a text and its result: characters that begin no occurrence are
kept, and an occurrence is swapped for the text put in. From it follows which parts of a text may be
replaced by themselves, and which patterns the result can have.
-/
namespace BlockScript.Text

inductive Replaced (pattern insert : Text) : Text → Text → Prop where
  | nil : Replaced pattern insert [] []
  | keep {c : Char} {t r : Text} (other : ¬ pattern <+: c :: t)
      (rest : Replaced pattern insert t r) : Replaced pattern insert (c :: t) (c :: r)
  | swap {t r : Text} (rest : Replaced pattern insert t r) :
      Replaced pattern insert (pattern ++ t) (insert ++ r)

variable {pattern insert s t r : Text}

theorem replaceFrom_eq_drop (pattern insert : Text) (skip : Nat) (t : Text) :
    replaceFrom pattern insert skip t = replaceFrom pattern insert 0 (t.drop skip) := by
  induction t generalizing skip with
  | nil => cases skip <;> rfl
  | cons c t ih =>
    cases skip with
    | zero => rfl
    | succ skip => exact ih skip

theorem replaceFrom_of_replaced (nonempty : pattern ≠ []) (h : Replaced pattern insert t r) :
    replaceFrom pattern insert 0 t = r := by
  induction h with
  | nil => rfl
  | @keep c t r other rest ih =>
    have begins : pattern.isPrefixOf (c :: t) = false := by
      rw [← Bool.not_eq_true, List.isPrefixOf_iff_prefix]
      exact other
    simp only [replaceFrom, begins, Bool.false_eq_true, if_false, ih]
  | @swap t r rest ih =>
    cases pattern with
    | nil => exact absurd rfl nonempty
    | cons d pattern =>
      have begins : (d :: pattern).isPrefixOf (d :: (pattern ++ t)) = true :=
        List.isPrefixOf_iff_prefix.mpr ⟨t, rfl⟩
      have behind : (pattern ++ t).drop ((d :: pattern).length - 1) = t := List.drop_left
      rw [List.cons_append, replaceFrom, if_pos begins, replaceFrom_eq_drop, behind, ih]

theorem replaced_replaceFrom (nonempty : pattern ≠ []) (skip : Nat) (t : Text) :
    Replaced pattern insert (t.drop skip) (replaceFrom pattern insert skip t) := by
  induction t generalizing skip with
  | nil => cases skip <;> exact .nil
  | cons c t ih =>
    cases skip with
    | succ skip => exact ih skip
    | zero =>
      unfold replaceFrom
      split
      · rename_i found
        obtain ⟨rest, whole⟩ := List.isPrefixOf_iff_prefix.mp found
        have behind : t.drop (pattern.length - 1) = rest := by
          cases pattern with
          | nil => exact absurd rfl nonempty
          | cons d pattern =>
            obtain ⟨rfl, rfl⟩ := List.cons.inj whole
            exact List.drop_left
        have swapped := ih (pattern.length - 1)
        rw [behind] at swapped
        rw [List.drop_zero, ← whole]
        exact .swap swapped
      · rename_i other
        exact .keep (fun found => other (List.isPrefixOf_iff_prefix.mpr found)) (ih 0)

theorem replaceAll_eq_iff (nonempty : pattern ≠ []) :
    replaceAll pattern insert t = r ↔ Replaced pattern insert t r := by
  unfold replaceAll
  rw [if_neg nonempty]
  constructor
  · rintro rfl
    exact replaced_replaceFrom nonempty 0 t
  · exact replaceFrom_of_replaced nonempty

theorem replaced_replaceAll (nonempty : pattern ≠ []) (t : Text) :
    Replaced pattern insert t (replaceAll pattern insert t) := (replaceAll_eq_iff nonempty).mp rfl

theorem replaceAll_ne_nil (written : insert ≠ []) (nonempty : t ≠ []) :
    replaceAll pattern insert t ≠ [] := by
  by_cases empty : pattern = []
  · simpa [replaceAll, empty] using nonempty
  · have h : Replaced pattern insert t (replaceAll pattern insert t) := replaced_replaceAll empty t
    generalize replaceAll pattern insert t = r at h
    cases h with
    | nil => exact absurd rfl nonempty
    | keep other rest => exact List.cons_ne_nil _ _
    | swap rest => exact List.append_ne_nil_of_left_ne_nil written _

section Cutting

variable {c : Char}

theorem replaceAll_append_left {p : Text} (foreign : c ∉ s) :
    replaceAll (c :: p) insert (s ++ t) = s ++ replaceAll (c :: p) insert t := by
  rw [replaceAll_eq_iff (List.cons_ne_nil c p)]
  induction s with
  | nil => exact replaced_replaceAll (List.cons_ne_nil c p) t
  | cons d s ih =>
    obtain ⟨different, foreign⟩ := List.ne_and_not_mem_of_not_mem_cons foreign
    refine .keep ?_ (ih foreign)
    intro found
    exact different (List.cons_prefix_cons.mp found).1

/-- No occurrence of the pattern stands over the cut between the texts. -/
def Parted (pattern s t : Text) : Prop :=
  ∀ p q, pattern = p ++ q → p ≠ [] → q ≠ [] → p <:+ s → ¬ q <+: t

theorem Parted.of_suffix {more : Text} (parted : Parted pattern s t) (h : more <:+ s) :
    Parted pattern more t := by
  intro p q whole front back ends
  exact parted p q whole front back (ends.trans h)

theorem parted_cons (foreign : c ∉ pattern) (s t : Text) : Parted pattern s (c :: t) := by
  rintro p q rfl _ back _ begins
  rcases List.prefix_cons_iff.mp begins with empty | ⟨rest, rfl, _⟩
  · exact back empty
  · exact foreign (List.mem_append_right p List.mem_cons_self)

theorem replaced_append (parted : Parted pattern s t) (hs : Replaced pattern insert s r) {u : Text}
    (ht : Replaced pattern insert t u) : Replaced pattern insert (s ++ t) (r ++ u) := by
  induction hs with
  | nil => exact ht
  | @keep d s r other rest ih =>
    refine .keep ?_ (ih (parted.of_suffix (List.suffix_cons d s)))
    intro found
    have found : pattern <+: (d :: s) ++ t := found
    -- an occurrence that begins here ends before the cut, or it stands over the cut
    rcases List.prefix_or_prefix_of_prefix found (List.prefix_append (d :: s) t) with
      inside | ⟨q, whole⟩
    · exact other inside
    · by_cases empty : q = []
      · rw [empty, List.append_nil] at whole
        exact other (whole ▸ List.prefix_rfl)
      · rw [← whole, List.prefix_append_right_inj] at found
        exact parted (d :: s) q whole.symm (List.cons_ne_nil d s) empty List.suffix_rfl found
  | @swap s r rest ih =>
    rw [List.append_assoc, List.append_assoc]
    exact .swap (ih (parted.of_suffix (List.suffix_append pattern s)))

theorem replaceAll_append (parted : Parted pattern s t) (insert : Text) :
    replaceAll pattern insert (s ++ t) =
      replaceAll pattern insert s ++ replaceAll pattern insert t := by
  by_cases empty : pattern = []
  · simp [replaceAll, empty]
  · rw [replaceAll_eq_iff empty]
    exact replaced_append parted (replaced_replaceAll empty s) (replaced_replaceAll empty t)

theorem replaceAll_append_cons (foreign : c ∉ pattern) (insert s t : Text) :
    replaceAll pattern insert (s ++ c :: t) =
      replaceAll pattern insert s ++ c :: replaceAll pattern insert t := by
  by_cases empty : pattern = []
  · simp [replaceAll, empty]
  · have first : replaceAll pattern insert (c :: t) = c :: replaceAll pattern insert t := by
      rw [replaceAll_eq_iff empty]
      refine .keep ?_ (replaced_replaceAll empty t)
      intro found
      rcases List.prefix_cons_iff.mp found with none | ⟨rest, eq, _⟩
      · exact empty none
      · exact foreign (eq ▸ List.mem_cons_self)
    rw [replaceAll_append (parted_cons foreign s t), first]

theorem replaceAll_of_not_infix (nonempty : pattern ≠ []) (free : ¬ pattern <:+: t) :
    replaceAll pattern insert t = t := by
  rw [replaceAll_eq_iff nonempty]
  induction t with
  | nil => exact .nil
  | cons d t ih =>
    rw [List.infix_cons_iff, not_or] at free
    exact .keep free.1 (ih free.2)

theorem replaceAll_of_not_mem (has : c ∈ pattern) (foreign : c ∉ t) :
    replaceAll pattern insert t = t :=
  replaceAll_of_not_infix (List.ne_nil_of_mem has) fun found => foreign (found.subset has)

theorem replaceAll_join (foreign : c ∉ pattern) (insert : Text) (parts : List Text) :
    replaceAll pattern insert (join [c] parts) = join [c] (parts.map (replaceAll pattern insert)) := by
  induction parts with
  | nil => simp [join, replaceAll, replaceFrom]
  | cons part parts ih =>
    cases parts with
    | nil => rw [List.map_singleton, join_singleton, join_singleton]
    | cons next parts =>
      rw [join_cons_cons, List.append_assoc, List.singleton_append,
        replaceAll_append_cons foreign insert, ih, List.map_cons, List.map_cons, List.map_cons,
        join_cons_cons, List.append_assoc, List.singleton_append]

end Cutting

section Kept

variable {w : Text} {c d : Char}

theorem prefix_replaceAll_iff {p i : Text} (hc : c ∉ w) (hd : d ∉ w) :
    w <+: replaceAll (c :: p) (d :: i) t ↔ w <+: t := by
  have removed : Replaced (c :: p) (d :: i) t (replaceAll (c :: p) (d :: i) t) :=
    replaced_replaceAll (List.cons_ne_nil c p) t
  generalize replaceAll (c :: p) (d :: i) t = r at removed
  induction removed generalizing w with
  | nil => exact Iff.rfl
  | @keep e t r other rest ih =>
    cases w with
    | nil => simp
    | cons f w =>
      have hc := List.not_mem_of_not_mem_cons hc
      have hd := List.not_mem_of_not_mem_cons hd
      rw [List.cons_prefix_cons, List.cons_prefix_cons]
      exact and_congr_right fun _ => ih hc hd
  | swap rest ih =>
    cases w with
    | nil => simp
    | cons f w =>
      have other : f ≠ c := fun same => hc (same ▸ List.mem_cons_self)
      have other' : f ≠ d := fun same => hd (same ▸ List.mem_cons_self)
      simp [other, other']

theorem isBlank_replaceAll (hp : pattern.isBlank = false) (hi : insert.isBlank = false)
    (t : Text) : (replaceAll pattern insert t).isBlank = t.isBlank := by
  have nonempty : pattern ≠ [] := by
    intro empty
    rw [empty] at hp
    cases hp
  have removed : Replaced pattern insert t (replaceAll pattern insert t) :=
    replaced_replaceAll nonempty t
  generalize replaceAll pattern insert t = r at removed
  induction removed with
  | nil => rfl
  | keep other rest ih => exact congrArg (isBlankChar _ && ·) ih
  | swap rest ih => rw [isBlank_append, isBlank_append, hp, hi, Bool.false_and, Bool.false_and]

theorem replaceAll_concat (other : ¬ pattern <:+ t ++ [d]) (insert : Text) :
    replaceAll pattern insert (t ++ [d]) = replaceAll pattern insert t ++ [d] := by
  have single : ∀ q : Text, q ≠ [] → q <+: [d] → q = [d] := by
    intro q some begins
    rcases List.prefix_cons_iff.mp begins with empty | ⟨rest, rfl, short⟩
    · exact absurd empty some
    · rw [List.prefix_nil.mp short]
  have parted : Parted pattern t [d] := by
    rintro p q rfl _ back ⟨front, rfl⟩ begins
    rw [single q back begins] at other
    exact other ⟨front, by simp⟩
  have last : replaceAll pattern insert [d] = [d] := by
    by_cases empty : pattern = []
    · simp [replaceAll, empty]
    · refine replaceAll_of_not_infix empty ?_
      intro found
      have whole : pattern = [d] := by
        rcases List.infix_cons_iff.mp found with here | later
        · exact single pattern empty here
        · exact absurd (List.infix_nil.mp later) empty
      exact other (whole ▸ List.suffix_append t [d])
  rw [replaceAll_append parted, last]

theorem Detached.parted {pad : Text} (detached : Detached pattern pad) (t : Text) :
    Parted pattern pad t := by
  rintro p q rfl front _ ends _
  exact detached.2 p ((List.mem_tails _ _).mpr ends) front (List.prefix_append p q)

theorem Detached.replaceAll_append {pad : Text} (detached : Detached pattern pad)
    (insert t : Text) :
    replaceAll pattern insert (pad ++ t) = pad ++ replaceAll pattern insert t := by
  by_cases empty : pattern = []
  · simp [replaceAll, empty]
  · rw [Text.replaceAll_append (detached.parted t), replaceAll_of_not_infix empty detached.1]

end Kept

section Occurrences

variable {m : Text}

/-- No end of `m` starts as `insert` does, so an occurrence of `m` never runs into an insert. -/
def Apart (m insert : Text) : Prop :=
  ∀ s ∈ m.tails, s ≠ [] → ¬ s <+: insert ∧ ¬ insert <+: s

instance (m insert : Text) : Decidable (Apart m insert) :=
  inferInstanceAs (Decidable (∀ s ∈ m.tails, s ≠ [] → ¬ s <+: insert ∧ ¬ insert <+: s))

theorem Apart.of_suffix {n : Text} (apart : Apart m insert) (h : n <:+ m) : Apart n insert := by
  intro s mem
  rw [List.mem_tails] at mem
  exact apart s ((List.mem_tails _ _).mpr (mem.trans h))

theorem Apart.not_prefix_append (apart : Apart m insert) (nonempty : m ≠ []) (r : Text) :
    ¬ m <+: insert ++ r := by
  intro found
  have separate := apart m ((List.mem_tails m m).mpr List.suffix_rfl) nonempty
  rcases List.prefix_or_prefix_of_prefix found (List.prefix_append insert r) with short | long
  · exact separate.1 short
  · exact separate.2 long

theorem prefix_of_replaced (apart : Apart m insert) (h : Replaced pattern insert t r)
    (found : m <+: r) : m <+: t := by
  induction h generalizing m with
  | nil => exact found
  | keep other rest ih =>
    rcases List.prefix_cons_iff.mp found with rfl | ⟨n, rfl, begins⟩
    · exact List.nil_prefix
    · exact (List.prefix_cons_inj _).mpr (ih (apart.of_suffix (List.suffix_cons _ n)) begins)
  | swap rest ih =>
    by_cases nonempty : m = []
    · rw [nonempty]
      exact List.nil_prefix
    · exact absurd found (apart.not_prefix_append nonempty _)

theorem infix_insert_append (short : ¬ m <:+: insert) (found : m <:+: insert ++ r) :
    m <:+: r ∨ ∃ first last, first ≠ [] ∧ m = first ++ last ∧ first <:+ insert ∧ last <+: r := by
  rcases List.infix_append_iff_ne_nil.mp found with inside | behind | ⟨first, last, hf, _, eq, h⟩
  · exact absurd inside short
  · exact .inl behind
  · exact .inr ⟨first, last, hf, eq, h⟩

/-- A pattern that is apart from the insert is new in no result: where the end of an insert could
    begin it, the end of what was replaced could too. -/
theorem infix_of_replaced (apart : Apart m insert) (short : ¬ m <:+: insert)
    (ends : ∀ s ∈ insert.tails, s ≠ [] → s <+: m → s <:+ pattern)
    (h : Replaced pattern insert t r) (found : m <:+: r) : m <:+: t := by
  induction h with
  | nil => exact found
  | keep other rest ih =>
    rcases List.infix_cons_iff.mp found with here | later
    · exact (prefix_of_replaced apart (.keep other rest) here).isInfix
    · exact List.infix_cons (ih later)
  | @swap t r rest ih =>
    rcases infix_insert_append short found with later | ⟨first, last, hf, rfl, ending, reaches⟩
    · exact List.infix_append_of_infix_right (ih later)
    · have before := ends first ((List.mem_tails _ _).mpr ending) hf (List.prefix_append first last)
      have behind := apart.of_suffix (List.suffix_append first last)
      have after := prefix_of_replaced behind rest reaches
      exact List.infix_append_iff.mpr (.inr (.inr ⟨first, last, rfl, before, after⟩))

theorem not_infix_replaceAll (nonempty : pattern ≠ []) (apart : Apart pattern insert)
    (short : ¬ pattern <:+: insert) (ends : ∀ s ∈ insert.tails, s ≠ [] → ¬ s <+: pattern)
    (t : Text) : ¬ pattern <:+: replaceAll pattern insert t := by
  have h : Replaced pattern insert t (replaceAll pattern insert t) :=
    replaced_replaceAll nonempty t
  generalize replaceAll pattern insert t = r at h
  induction h with
  | nil => exact not_infix_nil nonempty
  | keep other rest ih =>
    intro found
    rcases List.infix_cons_iff.mp found with here | later
    · exact other (prefix_of_replaced apart (.keep other rest) here)
    · exact ih later
  | swap rest ih =>
    intro found
    rcases infix_insert_append short found with later | ⟨first, last, hf, eq, ending, _⟩
    · exact ih later
    · have begins : first <+: pattern := eq ▸ List.prefix_append first last
      exact ends first ((List.mem_tails _ _).mpr ending) hf begins

theorem eq_of_replaced (h : Replaced pattern insert t r) (absent : ¬ insert <:+: r) : t = r := by
  induction h with
  | nil => rfl
  | keep other rest ih => rw [ih fun found => absent (List.infix_cons found)]
  | swap rest ih => exact absurd (List.prefix_append insert _).isInfix absent

theorem suffix_of_replaced (short : ¬ insert <:+: m)
    (ends : ∀ s ∈ insert.tails, s ≠ [] → ¬ s <+: m) (h : Replaced pattern insert t r)
    (found : m <:+ r) : m <:+ t := by
  induction h with
  | nil => exact found
  | @keep c t r other rest ih =>
    rcases List.suffix_cons_iff.mp found with whole | later
    · have same := eq_of_replaced rest fun within => short (whole ▸ List.infix_cons within)
      rw [same]
      exact found
    · exact (ih later).trans (List.suffix_cons c t)
  | @swap t r rest ih =>
    rcases List.suffix_or_suffix_of_suffix found (List.suffix_append insert r) with
      later | ⟨s, rfl⟩
    · exact (ih later).trans (List.suffix_append pattern t)
    · by_cases empty : s = []
      · rw [empty, List.nil_append] at ih ⊢
        exact (ih List.suffix_rfl).trans (List.suffix_append pattern t)
      · obtain ⟨front, whole⟩ := found
        have ending : s <:+ insert :=
          ⟨front, List.append_cancel_right ((List.append_assoc front s r).trans whole)⟩
        have begins : s <+: s ++ r := List.prefix_append s r
        exact absurd begins (ends s ((List.mem_tails _ _).mpr ending) empty)

theorem infix_replaceAll (nonempty : pattern ≠ []) (before : Apart m pattern)
    (behind : Apart pattern m) (insert : Text) (found : m <:+: t) :
    m <:+: replaceAll pattern insert t := by
  obtain ⟨front, back, rfl⟩ := found
  have first : Parted pattern front (m ++ back) := by
    rintro p q rfl _ some _ begins
    have separate := behind q ((List.mem_tails _ _).mpr (List.suffix_append p q)) some
    rcases List.prefix_or_prefix_of_prefix begins (List.prefix_append m back) with short | long
    · exact separate.1 short
    · exact separate.2 long
  have second : Parted pattern m back := by
    rintro p q rfl some _ ends _
    exact (before p ((List.mem_tails _ _).mpr ends) some).1 (List.prefix_append p q)
  have kept : ¬ pattern <:+: m := by
    rintro ⟨p, q, rfl⟩
    have tail : pattern ++ q ∈ (p ++ pattern ++ q).tails :=
      (List.mem_tails _ _).mpr ⟨p, (List.append_assoc p pattern q).symm⟩
    have some : pattern ++ q ≠ [] := List.append_ne_nil_of_left_ne_nil nonempty q
    exact (before _ tail some).2 (List.prefix_append pattern q)
  rw [List.append_assoc, replaceAll_append first, replaceAll_append second,
    replaceAll_of_not_infix nonempty kept, ← List.append_assoc]
  exact List.infix_append _ m _

end Occurrences

section Removal

/-- An occurrence stands behind the beginning of another one, which its removal may complete. -/
def Nested (pattern t : Text) : Prop :=
  ∃ first ∈ pattern.inits, first ≠ [] ∧ first ≠ pattern ∧ first ++ pattern <:+: t

instance (pattern t : Text) : Decidable (Nested pattern t) :=
  inferInstanceAs (Decidable (∃ first ∈ pattern.inits,
    first ≠ [] ∧ first ≠ pattern ∧ first ++ pattern <:+: t))

theorem nested_of_append {first last : Text} (begun : first ≠ []) (more : last ≠ [])
    (found : first ++ (first ++ last) <:+: t) : Nested (first ++ last) t := by
  refine ⟨first, (List.mem_inits _ _).mpr (List.prefix_append first last), begun, ?_, found⟩
  intro whole
  exact more (List.self_eq_append_right.mp whole)

theorem Nested.mono (nested : Nested pattern s) (within : s <:+: t) : Nested pattern t := by
  obtain ⟨first, mem, begun, proper, found⟩ := nested
  exact ⟨first, mem, begun, proper, found.trans within⟩

theorem prefix_of_removed {m : Text} (h : Replaced pattern [] t r) (found : m <+: r) :
    m <+: t ∨ ∃ first last, last ≠ [] ∧ m = first ++ last ∧ first ++ pattern <+: t := by
  induction h generalizing m with
  | nil => exact .inl found
  | @keep c t r other rest ih =>
    rcases List.prefix_cons_iff.mp found with rfl | ⟨n, rfl, begins⟩
    · exact .inl List.nil_prefix
    · rcases ih begins with same | ⟨first, last, more, rfl, before⟩
      · exact .inl ((List.prefix_cons_inj c).mpr same)
      · exact .inr ⟨c :: first, last, more, rfl, (List.prefix_cons_inj c).mpr before⟩
  | @swap t r rest ih =>
    by_cases empty : m = []
    · exact .inl (empty ▸ List.nil_prefix)
    · exact .inr ⟨[], m, empty, rfl, List.prefix_append pattern t⟩

/-- One removal takes every occurrence away where none stands within another. -/
theorem nested_of_removed (nonempty : pattern ≠ []) (h : Replaced pattern [] t r)
    (found : pattern <:+: r) : Nested pattern t := by
  induction h with
  | nil => exact absurd found (not_infix_nil nonempty)
  | @keep c t r other rest ih =>
    rcases List.infix_cons_iff.mp found with here | later
    · rcases prefix_of_removed (.keep other rest) here with same | ⟨first, last, more, eq, before⟩
      · exact absurd same other
      · -- with nothing before it, the removed occurrence would begin where none does
        have begun : first ≠ [] := by
          rintro rfl
          exact other before
        rw [eq] at before ⊢
        exact nested_of_append begun more before.isInfix
    · exact (ih later).mono (List.suffix_cons c t).isInfix
  | @swap t r rest ih => exact (ih found).mono (List.suffix_append pattern t).isInfix

example : Nested "std::" "ststd::d::x" ∧ replaceAll "std::" [] "ststd::d::x" = "std::x" := by decide

end Removal

end BlockScript.Text
