import BlockScript.Settings
import BlockScript.Proofs.Replacement

/-!
The substitution of the sentinel and of the calls, one mark after the other. A later replacement
must not bring back a mark that an earlier one took away; that none does is a property of the
spellings. A target that keeps the name of a function does not replace it; what it does replace is
gone after one substitution, so a second one changes nothing.
-/
namespace BlockScript
open Text

def marks : List Text := endOfLineMark :: Builtin.spellings.map (·.2)

def MarkFree (t : Text) : Prop := ∀ m ∈ marks, ¬ m <:+: t

instance (t : Text) : Decidable (MarkFree t) :=
  inferInstanceAs (Decidable (∀ m ∈ marks, ¬ m <:+: t))

section Cutting

variable {c : Char} (n : NativeNames)

theorem replaceCall_append_cons {spelling : Builtin × Text} (foreign : c ∉ spelling.2)
    (s t : Text) :
    n.replaceCall (s ++ c :: t) spelling =
      n.replaceCall s spelling ++ c :: n.replaceCall t spelling := by
  unfold NativeNames.replaceCall
  split
  · rfl
  · exact replaceAll_append_cons foreign _ s t

theorem foldl_replaceCall_append_cons {spellings : List (Builtin × Text)}
    (foreign : ∀ spelling ∈ spellings, c ∉ spelling.2) (s t : Text) :
    spellings.foldl n.replaceCall (s ++ c :: t) =
      spellings.foldl n.replaceCall s ++ c :: spellings.foldl n.replaceCall t := by
  induction spellings generalizing s t with
  | nil => rfl
  | cons spelling rest ih =>
    obtain ⟨first, others⟩ := List.forall_mem_cons.mp foreign
    rw [List.foldl_cons, replaceCall_append_cons n first, ih others]
    rfl

theorem substitute_append_cons (foreign : ∀ m ∈ marks, c ∉ m) (s t : Text) :
    substitute n (s ++ c :: t) = substitute n s ++ c :: substitute n t := by
  obtain ⟨sentinel, calls⟩ := List.forall_mem_cons.mp foreign
  have others : ∀ spelling ∈ Builtin.spellings, c ∉ spelling.2 := by
    intro spelling mem
    exact calls spelling.2 (List.mem_map_of_mem mem)
  unfold substitute
  rw [replaceAll_append_cons sentinel, foldl_replaceCall_append_cons n others]

end Cutting

theorem substitute_preserves {n : NativeNames} {P : Text → Prop}
    (sentinel : ∀ t, P t → P (replaceAll endOfLineMark n.endOfLine t))
    (calls : ∀ spelling ∈ Builtin.spellings, ∀ t, P t →
      P (replaceAll spelling.2 (n.call spelling.1) t)) {t : Text} (start : P t) :
    P (substitute n t) := by
  unfold substitute
  refine List.foldlRecOn Builtin.spellings n.replaceCall (sentinel t start) ?_
  intro t kept spelling mem
  unfold NativeNames.replaceCall
  split
  · exact kept
  · exact calls spelling mem t kept

theorem filter_substitute {n : NativeNames} {q : Char → Bool}
    (sentinel : endOfLineMark.filter q = [] ∧ n.endOfLine.filter q = [])
    (calls : ∀ spelling ∈ Builtin.spellings,
      spelling.2.filter q = [] ∧ (n.call spelling.1).filter q = []) (t : Text) :
    (substitute n t).filter q = t.filter q := by
  refine substitute_preserves (P := fun u => u.filter q = t.filter q) ?_ ?_ rfl
  · intro u same
    rw [filter_replaceAll sentinel.1 sentinel.2, same]
  · intro spelling mem u same
    rw [filter_replaceAll (calls spelling mem).1 (calls spelling mem).2, same]

namespace NativeNames

def renamed (n : NativeNames) : List (Builtin × Text) :=
  Builtin.spellings.filter fun spelling => spelling.2 ≠ n.call spelling.1

def replaced (n : NativeNames) : List Text := endOfLineMark :: n.renamed.map (·.2)

theorem replaced_subset (n : NativeNames) : n.replaced ⊆ marks :=
  List.cons_subset_cons _ (List.map_subset _ (List.filter_subset_self _))

theorem replaceCall_of_mem {n : NativeNames} {spelling : Builtin × Text}
    (mem : spelling ∈ n.renamed) (t : Text) :
    n.replaceCall t spelling = replaceAll spelling.2 (n.call spelling.1) t :=
  if_neg (of_decide_eq_true (List.mem_filter.mp mem).2)

end NativeNames

theorem substitute_eq (n : NativeNames) (t : Text) :
    substitute n t = n.renamed.foldl n.replaceCall (replaceAll endOfLineMark n.endOfLine t) := by
  have kept : (fun u spelling => if spelling.2 ≠ n.call spelling.1 then n.replaceCall u spelling
      else u) = n.replaceCall := by
    funext u spelling
    unfold NativeNames.replaceCall
    by_cases same : spelling.2 = n.call spelling.1 <;> simp [same]
  unfold substitute NativeNames.renamed
  simp only [List.foldl_filter, decide_eq_true_eq, kept]

theorem substitute_of_free {n : NativeNames} {t : Text} (free : ∀ m ∈ n.replaced, ¬ m <:+: t) :
    substitute n t = t := by
  have kept : ∀ m ∈ n.replaced, ∀ insert, replaceAll m insert t = t := by
    intro m mem insert
    have given : ∀ m ∈ marks, m ≠ [] := by decide
    exact replaceAll_of_not_infix (given m (n.replaced_subset mem)) (free m mem)
  rw [substitute_eq, kept endOfLineMark List.mem_cons_self]
  refine List.foldlRecOn (motive := (· = t)) n.renamed n.replaceCall rfl ?_
  rintro u rfl spelling mem
  rw [NativeNames.replaceCall_of_mem mem]
  exact kept spelling.2 (List.mem_cons_of_mem _ (List.mem_map_of_mem mem)) _

theorem substitute_of_markFree (n : NativeNames) {t : Text} (free : MarkFree t) :
    substitute n t = t := substitute_of_free fun m mem => free m (n.replaced_subset mem)

theorem markFree_of_not_mem {t : Text} (foreign : '(' ∉ t) : MarkFree t := by
  have call : ∀ m ∈ marks, '(' ∈ m := by decide
  exact fun m mem found => foreign (found.subset (call m mem))

theorem substitute_of_not_mem (n : NativeNames) {t : Text} (foreign : '(' ∉ t) :
    substitute n t = t := substitute_of_markFree n (markFree_of_not_mem foreign)

theorem substitute_ne_nil {n : NativeNames} (sentinel : n.endOfLine ≠ [])
    (calls : ∀ f, n.call f ≠ []) {t : Text} (nonempty : t ≠ []) : substitute n t ≠ [] := by
  refine substitute_preserves (P := (· ≠ [])) ?_ ?_ nonempty
  · intro t some
    exact replaceAll_ne_nil sentinel some
  · intro spelling _ t some
    exact replaceAll_ne_nil (calls spelling.1) some

/-- No replacement of the pattern leaves it in the result. -/
def Clears (pattern insert : Text) : Prop :=
  pattern ≠ [] ∧ Apart pattern insert ∧ ¬ pattern <:+: insert ∧
    ∀ s ∈ insert.tails, s ≠ [] → ¬ s <+: pattern

/-- No replacement of the pattern brings `m` into a text without it. -/
def Keeps (m pattern insert : Text) : Prop :=
  pattern ≠ [] ∧ Apart m insert ∧ ¬ m <:+: insert ∧
    ∀ s ∈ insert.tails, s ≠ [] → s <+: m → s <:+ pattern

instance (pattern insert : Text) : Decidable (Clears pattern insert) :=
  inferInstanceAs (Decidable (pattern ≠ [] ∧ Apart pattern insert ∧ ¬ pattern <:+: insert ∧
    ∀ s ∈ insert.tails, s ≠ [] → ¬ s <+: pattern))

instance (m pattern insert : Text) : Decidable (Keeps m pattern insert) :=
  inferInstanceAs (Decidable (pattern ≠ [] ∧ Apart m insert ∧ ¬ m <:+: insert ∧
    ∀ s ∈ insert.tails, s ≠ [] → s <+: m → s <:+ pattern))

section Clearing

variable {m pattern insert t : Text}

theorem Clears.not_infix (h : Clears pattern insert) (t : Text) :
    ¬ pattern <:+: replaceAll pattern insert t := by
  obtain ⟨nonempty, apart, short, ends⟩ := h
  exact not_infix_replaceAll nonempty apart short ends t

theorem Keeps.not_infix (h : Keeps m pattern insert) (free : ¬ m <:+: t) :
    ¬ m <:+: replaceAll pattern insert t := by
  obtain ⟨nonempty, apart, short, ends⟩ := h
  intro found
  exact free (infix_of_replaced apart short ends (replaced_replaceAll nonempty t) found)

theorem not_infix_foldl_replaceCall {n : NativeNames} {spellings : List (Builtin × Text)}
    {done : List Text}
    (clears : ∀ spelling ∈ spellings, Clears spelling.2 (n.call spelling.1))
    (keeps : ∀ m ∈ done ++ spellings.map (·.2), ∀ spelling ∈ spellings, m ≠ spelling.2 →
      Keeps m spelling.2 (n.call spelling.1))
    (free : ∀ m ∈ done, ¬ m <:+: t) :
    ∀ m ∈ done ++ spellings.map (·.2), ¬ m <:+: spellings.foldl n.replaceCall t := by
  induction spellings generalizing done t with
  | nil => simpa using free
  | cons spelling rest ih =>
    obtain ⟨clear, clears⟩ := List.forall_mem_cons.mp clears
    have renamed : spelling.2 ≠ n.call spelling.1 := by
      intro same
      exact clear.2.2.1 (same ▸ List.infix_rfl)
    have replaced : n.replaceCall t spelling = replaceAll spelling.2 (n.call spelling.1) t :=
      if_neg renamed
    have order : done ++ (spelling :: rest).map (·.2) =
        (done ++ [spelling.2]) ++ rest.map (·.2) := by
      simp
    rw [order] at keeps ⊢
    rw [List.foldl_cons, replaced]
    refine ih clears (fun m mem other later => keeps m mem other (List.mem_cons_of_mem _ later)) ?_
    intro m mem
    by_cases same : m = spelling.2
    · rw [same]
      exact clear.not_infix t
    · have earlier : m ∈ done := by simpa [same] using mem
      have kept := keeps m (by simp [earlier]) spelling List.mem_cons_self same
      exact kept.not_infix (free m earlier)

end Clearing

/-- Each replacement takes its mark away, and none brings back the mark of another. -/
structure NativeNames.Settling (n : NativeNames) : Prop where
  sentinel : Clears endOfLineMark n.endOfLine
  clears : ∀ spelling ∈ n.renamed, Clears spelling.2 (n.call spelling.1)
  keeps : ∀ m ∈ n.replaced, ∀ spelling ∈ n.renamed, m ≠ spelling.2 →
    Keeps m spelling.2 (n.call spelling.1)

section Settling

variable {n : NativeNames}

theorem NativeNames.Settling.not_infix (h : n.Settling) (t : Text) :
    ∀ m ∈ n.replaced, ¬ m <:+: substitute n t := by
  rw [substitute_eq]
  show ∀ m ∈ [endOfLineMark] ++ n.renamed.map (·.2), _
  refine not_infix_foldl_replaceCall h.clears h.keeps ?_
  intro m mem
  rw [List.mem_singleton.mp mem]
  exact h.sentinel.not_infix t

theorem NativeNames.Settling.substitute_substitute (h : n.Settling) (t : Text) :
    substitute n (substitute n t) = substitute n t := substitute_of_free (h.not_infix t)

end Settling

theorem Pseudocode.settling : nativeNames.Settling where
  sentinel := by decide
  clears := by decide
  keeps := by decide

theorem CPlusPlus.settling : nativeNames.Settling where
  sentinel := by decide
  clears := by decide
  keeps := by decide

theorem CPlusPlus.markFree_substitute (t : Text) : MarkFree (substitute nativeNames t) :=
  settling.not_infix t

namespace Target

def nativeNames : Target → NativeNames
  | pseudocode => Pseudocode.nativeNames
  | cpp => CPlusPlus.nativeNames

theorem settling (target : Target) : target.nativeNames.Settling :=
  match target with
  | pseudocode => Pseudocode.settling
  | cpp => CPlusPlus.settling

/-- One substitution does all there is to do: another one changes nothing, no sentinel is left, and
    no call in a spelling that the target does not share. -/
theorem substitute_settles (target : Target) (t : Text) :
    let settled := substitute target.nativeNames t
    substitute target.nativeNames settled = settled ∧
      ¬ endOfLineMark <:+: settled ∧
      match target with
      | .cpp => ∀ f : Builtin, ∀ name ∈ f.sourceNames, ¬ name <:+: settled
      | .pseudocode => ¬ ("alea(" : Text) <:+: settled := by
  intro settled
  have free := target.settling.not_infix t
  refine ⟨target.settling.substitute_substitute t, free endOfLineMark List.mem_cons_self, ?_⟩
  cases target with
  | cpp =>
    intro f name mem
    have listed : ∀ f : Builtin, ∀ name ∈ f.sourceNames,
        name ∈ CPlusPlus.nativeNames.replaced := by
      intro f
      cases f <;> decide
    exact free name (listed f name mem)
  | pseudocode => exact free "alea(" (by decide)

example : substitute (nativeNames pseudocode) "alea(ENDL)" = "aleatoire(FIN DE LIGNE)" := by
  decide

end Target

end BlockScript
