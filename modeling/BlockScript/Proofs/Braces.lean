import BlockScript.Proofs.Characters
import BlockScript.Proofs.Outcome

/-!
Braces in texts. A text is balanced if no closing brace comes before the one it closes and none is
left open; the level is the number of open braces, which is all that one part of a text has to know
of the parts before it.
-/
namespace BlockScript

def isBrace (c : Char) : Bool := c == '\x7b' || c == '\x7d'

def BraceFree (t : Text) : Prop := ∀ c ∈ t, isBrace c = false

instance (t : Text) : Decidable (BraceFree t) :=
  List.decidableBAll (fun c => isBrace c = false) t

/-- No prefix closes more than it opens, and the whole closes what it opens. -/
def BraceBalanced (t : Text) : Prop :=
  (∀ front, front <+: t → front.count '\x7d' ≤ front.count '\x7b') ∧
    t.count '\x7b' = t.count '\x7d'

def braces (t : Text) : Text := t.filter isBrace

def cross (n : Nat) (c : Char) : Option Nat :=
  if c = '\x7b' then some (n + 1)
  else if c = '\x7d' then if n = 0 then none else some (n - 1)
  else some n

/-- Open braces after the text, if it closes none that is not open. -/
def level (n : Nat) (t : Text) : Option Nat := t.foldlM cross n

section Braces

variable {s t : Text}

theorem braces_append (s t : Text) : braces (s ++ t) = braces s ++ braces t :=
  List.filter_append s t

theorem braceFree_iff : BraceFree t ↔ braces t = [] := by
  simp [BraceFree, braces, List.filter_eq_nil_iff]

theorem braces_of_braceFree (h : BraceFree t) : braces t = [] := braceFree_iff.mp h

theorem BraceFree.flatMap_singleton (h : BraceFree t) : [t].flatMap braces = [] :=
  (List.flatMap_singleton braces t).trans (braces_of_braceFree h)

theorem BraceFree.append (hs : BraceFree s) (ht : BraceFree t) : BraceFree (s ++ t) := by
  rw [braceFree_iff, braces_append, braces_of_braceFree hs, braces_of_braceFree ht]
  rfl

theorem BraceFree.of_subset (ht : BraceFree t) (sub : s ⊆ t) : BraceFree s :=
  fun c mem => ht c (sub mem)

theorem braces_join {separator : Text} (free : BraceFree separator) (parts : List Text) :
    braces (Text.join separator parts) = parts.flatMap braces :=
  Text.filter_join (braces_of_braceFree free) parts

theorem BraceFree.join {separator : Text} (free : BraceFree separator) {parts : List Text}
    (hp : ∀ part ∈ parts, BraceFree part) : BraceFree (Text.join separator parts) := by
  rw [braceFree_iff, braces_join free, List.flatMap_eq_nil_iff]
  exact fun part mem => braces_of_braceFree (hp part mem)

theorem braces_replaceAll {pattern insert : Text} (hp : BraceFree pattern) (hi : BraceFree insert)
    (t : Text) : braces (Text.replaceAll pattern insert t) = braces t :=
  Text.filter_replaceAll (braces_of_braceFree hp) (braces_of_braceFree hi) t

theorem flatMap_braces_filter {keep : Text → Bool} (h : ∀ t, keep t = false → braces t = [])
    (lines : List Text) : (lines.filter keep).flatMap braces = lines.flatMap braces := by
  induction lines with
  | nil => rfl
  | cons t lines ih =>
    cases hk : keep t with
    | true => rw [List.filter_cons_of_pos hk, List.flatMap_cons, List.flatMap_cons, ih]
    | false =>
      rw [List.filter_cons_of_neg (by simp [hk]), List.flatMap_cons, h t hk, ih]
      rfl

theorem level_append (n : Nat) (s t : Text) :
    level n (s ++ t) = level n s >>= fun m => level m t := by
  unfold level
  rw [List.foldlM_append]

theorem level_braces (n : Nat) (t : Text) : level n (braces t) = level n t := by
  unfold level braces
  rw [List.foldlM_filter]
  congr 1
  funext m c
  split
  · rfl
  · rename_i other
    simp only [isBrace, Bool.or_eq_true, beq_iff_eq, not_or] at other
    simp [cross, other]

theorem level_join {separator : Text} (free : BraceFree separator) (n : Nat) (parts : List Text) :
    level n (Text.join separator parts) = level n (parts.flatMap braces) := by
  rw [← level_braces, braces_join free]

theorem level_flatMap {parts : List Text} (h : ∀ part ∈ parts, level 0 part = some 0) :
    level 0 (parts.flatMap braces) = some 0 := by
  induction parts with
  | nil => rfl
  | cons part parts ih =>
    obtain ⟨first, others⟩ := List.forall_mem_cons.mp h
    rw [List.flatMap_cons, level_append, level_braces, first]
    exact ih others

theorem count_of_level {n m : Nat} (h : level n t = some m) :
    n + t.count '\x7b' = m + t.count '\x7d' := by
  induction t generalizing n with
  | nil =>
    cases h
    rfl
  | cons c t ih =>
    unfold level at h
    rw [List.foldlM_cons] at h
    obtain ⟨k, first, rest⟩ := Option.bind_eq_some_iff.mp h
    have later := ih rest
    unfold cross at first
    rw [List.count_cons, List.count_cons]
    split at first
    · rename_i opening
      cases first
      subst opening
      simp
      omega
    · split at first
      · rename_i closing
        split at first
        · cases first
        · cases first
          subst closing
          simp
          omega
      · cases first
        simp_all

theorem balanced_of_level (h : level 0 t = some 0) : BraceBalanced t := by
  refine ⟨?_, by simpa using count_of_level h⟩
  rintro front ⟨rest, rfl⟩
  rw [level_append] at h
  obtain ⟨m, read, _⟩ := Option.bind_eq_some_iff.mp h
  have := count_of_level read
  omega

end Braces
end BlockScript
