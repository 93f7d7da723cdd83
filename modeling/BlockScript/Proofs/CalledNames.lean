import BlockScript.Proofs.Substitution
import BlockScript.Proofs.Words

/-!
What the substitution makes of the name in a call. The spellings of the calls end in their only
parenthesis, so the parenthesis of a call cuts the text: the name before it becomes the same one
wherever the call stands, unless letters of a longer name stand before it.
-/
namespace BlockScript
open Text

namespace Text

variable {pattern insert w s t : Text}

def IsCallSpelling (t : Text) : Prop := t = t.dropLast ++ ['('] ∧ '(' ∉ t.dropLast

instance (t : Text) : Decidable t.IsCallSpelling :=
  inferInstanceAs (Decidable (t = t.dropLast ++ ['('] ∧ '(' ∉ t.dropLast))

/-- The text does not end in a beginning of the word. -/
def Unbegun (w t : Text) : Prop := ∀ s ∈ t.tails, s ≠ [] → ¬ s <+: w

instance (w t : Text) : Decidable (Unbegun w t) :=
  inferInstanceAs (Decidable (∀ s ∈ t.tails, s ≠ [] → ¬ s <+: w))

theorem unbegun_concat {c : Char} (foreign : c ∉ w) (t : Text) : Unbegun w (t ++ [c]) := by
  intro s mem some begins
  rcases List.suffix_concat_iff.mp ((List.mem_tails _ _).mp mem) with empty | ⟨front, rfl, _⟩
  · exact some empty
  · exact foreign (begins.subset (by simp))

theorem Unbegun.replaceAll (short : ¬ insert <:+: w) (ends : Unbegun w insert)
    (begun : Unbegun w t) : Unbegun w (replaceAll pattern insert t) := by
  by_cases empty : pattern = []
  · simpa [Text.replaceAll, empty] using begun
  · intro s mem some begins
    have within : ¬ insert <:+: s := fun found => short (found.trans begins.isInfix)
    have apart : ∀ e ∈ insert.tails, e ≠ [] → ¬ e <+: s :=
      fun e mem some start => ends e mem some (start.trans begins)
    have kept := suffix_of_replaced within apart (replaced_replaceAll empty t)
      ((List.mem_tails _ _).mp mem)
    exact begun s ((List.mem_tails _ _).mpr kept) some begins

theorem Unbegun.parted (begun : Unbegun pattern.dropLast s) (t : Text) : Parted pattern s t := by
  intro p q whole some more ends _
  have begins : p <+: pattern.dropLast := by
    rw [whole, List.dropLast_append_of_ne_nil more]
    exact List.prefix_append p q.dropLast
  exact begun p ((List.mem_tails _ _).mpr ends) some begins

theorem unbegun_of_getLast? (foreign : '(' ∉ w) (call : s.getLast? = some '(') : Unbegun w s := by
  obtain ⟨front, rfl⟩ := List.getLast?_eq_some_iff.mp call
  exact unbegun_concat foreign front

theorem getLast?_of_replaced {c : Char} {r : Text} (nonempty : pattern ≠ [])
    (inserted : insert.getLast? = some c) (h : Replaced pattern insert t r)
    (given : t.getLast? = some c) : r.getLast? = some c := by
  have nothing : ∀ {t r : Text}, Replaced pattern insert t r → t.getLast? = none → r = [] := by
    intro t r h none
    rw [List.getLast?_eq_none_iff.mp none, ← replaceAll_eq_iff nonempty] at h
    simpa [replaceAll, nonempty, replaceFrom] using h.symm
  induction h with
  | nil => exact given
  | @keep d t r other rest ih =>
    rw [List.getLast?_cons] at given ⊢
    cases last : t.getLast? with
    | none => rwa [nothing rest last, ← List.getLast?_eq_none_iff.mp last]
    | some e =>
      rw [last, Option.getD_some] at given
      rw [ih (last.trans given)]
      rfl
  | @swap t r rest ih =>
    rw [List.getLast?_append] at given ⊢
    cases last : t.getLast? with
    | none =>
      rw [nothing rest last]
      exact inserted
    | some e =>
      rw [last, Option.some_or] at given
      rw [ih (last.trans given), Option.some_or]

section Call

variable {name : Text} (call : pattern.IsCallSpelling)
include call

theorem IsCallSpelling.getLast? : pattern.getLast? = some '(' := by
  rw [call.1]
  exact List.getLast?_concat

theorem IsCallSpelling.ne_nil : pattern ≠ [] := by
  rw [call.1]
  exact List.concat_ne_nil _ _

theorem IsCallSpelling.parted (ends : s.getLast? = some '(') (t : Text) : Parted pattern s t :=
  (unbegun_of_getLast? call.2 ends).parted t

theorem IsCallSpelling.replaceAll_name (plain : '(' ∉ name) (insert : Text) :
    replaceAll pattern insert (name ++ ['(']) = name ++ ['('] ∨
      ∃ front, name = front ++ pattern.dropLast ∧
        replaceAll pattern insert (name ++ ['(']) = front ++ insert := by
  by_cases found : pattern <:+ name ++ ['(']
  · obtain ⟨front, whole⟩ := found
    have split : front ++ pattern.dropLast = name := by
      rw [call.1, ← List.append_assoc] at whole
      exact (List.append_inj' whole rfl).1
    have apart : Parted pattern front pattern := by
      intro p q eq begun more _ begins
      -- what is left of the pattern would end in a parenthesis before its end
      have proper : q ≠ pattern := by
        intro same
        rw [same] at eq
        exact begun (List.self_eq_append_left.mp eq)
      have short : q <+: pattern.dropLast := by
        obtain ⟨rest, more⟩ := begins
        have left : rest ≠ [] := by
          rintro rfl
          exact proper (by simpa using more)
        rw [← more, List.dropLast_append_of_ne_nil left]
        exact List.prefix_append q _
      have last : q.getLast? = some '(' := by
        rw [← call.getLast?, eq, List.getLast?_append_of_ne_nil p more]
      exact call.2 (short.subset (List.mem_of_getLast? last))
    have free : '(' ∉ front := fun mem => plain (split ▸ List.mem_append_left _ mem)
    have swapped : replaceAll pattern insert pattern = insert := by
      have alone : Replaced pattern insert (pattern ++ []) (insert ++ []) := .swap .nil
      rw [replaceAll_eq_iff call.ne_nil]
      simpa using alone
    refine .inr ⟨front, split.symm, ?_⟩
    rw [← whole, replaceAll_append apart, swapped,
      replaceAll_of_not_mem (List.mem_of_getLast? call.getLast?) free]
  · left
    refine replaceAll_of_not_infix call.ne_nil ?_
    rw [List.infix_concat_iff, not_or]
    exact ⟨found, fun within => plain (within.subset (List.mem_of_getLast? call.getLast?))⟩

end Call

end Text

theorem parted_sentinel {t : Text} (called : ¬ "ENDL)" <+: t) (s : Text) :
    Parted endOfLineMark (s ++ ['(']) t := by
  have sentinel : endOfLineMark = '(' :: ("ENDL)" : Text) := by decide
  have only : '(' ∉ ("ENDL)" : Text) := by decide
  intro p q whole begun _ ends begins
  rw [sentinel] at whole
  rcases List.suffix_concat_iff.mp ends with empty | ⟨front, rfl, _⟩
  · exact begun empty
  · cases front with
    | nil =>
      rw [(List.cons.inj whole).2] at called
      exact called begins
    | cons c front =>
      rw [(List.cons.inj whole).2] at only
      exact only (by simp)

theorem replaceAll_sentinel_name {f : Text} (open_ : ')' ∉ f) (insert : Text) :
    replaceAll endOfLineMark insert (f ++ ['(']) = f ++ ['('] := by
  have closes : ')' ∈ endOfLineMark := by decide
  exact replaceAll_of_not_mem closes (by simpa using open_)

theorem replaceAll_sentinel_call {f t : Text} (open_ : ')' ∉ f) (called : ¬ "ENDL)" <+: t)
    (insert s : Text) :
    replaceAll endOfLineMark insert (s ++ (f ++ ['(']) ++ t) =
      replaceAll endOfLineMark insert s ++ (f ++ ['(']) ++ replaceAll endOfLineMark insert t := by
  have before : Parted endOfLineMark s (f ++ ['(']) := by
    intro p q whole _ more _ begins
    have last : q.getLast? = some ')' := by
      rw [← List.getLast?_append_of_ne_nil p more, ← whole]
      rfl
    have mem := begins.subset (List.mem_of_getLast? last)
    simp [open_] at mem
  have behind : Parted endOfLineMark (s ++ (f ++ ['('])) t := by
    rw [← List.append_assoc]
    exact parted_sentinel called _
  rw [replaceAll_append behind, replaceAll_append before, replaceAll_sentinel_name open_]

/-- The target calls functions by names with a parenthesis, and no call begins at the end of what it
    writes for the sentinel. -/
structure NativeNames.Calling (n : NativeNames) : Prop where
  call : ∀ b, (n.call b).IsCallSpelling
  endOfLine : ∀ spelling ∈ Builtin.spellings,
    ¬ n.endOfLine <:+: spelling.2.dropLast ∧ Unbegun spelling.2.dropLast n.endOfLine

theorem Builtin.isCallSpelling : ∀ spelling ∈ spellings, spelling.2.IsCallSpelling := by decide

theorem Pseudocode.calling : nativeNames.Calling where
  call b := by cases b <;> decide
  endOfLine := by decide

theorem CPlusPlus.calling : nativeNames.Calling where
  call b := by cases b <;> decide
  endOfLine := by decide

theorem Target.calling (target : Target) : target.nativeNames.Calling :=
  match target with
  | pseudocode => Pseudocode.calling
  | cpp => CPlusPlus.calling

def EndsApart (t : Text) : Prop := ∀ spelling ∈ Builtin.spellings, Unbegun spelling.2.dropLast t

/-- The name that a function is called by where the source calls it `f`. -/
def NativeNames.calledAs (n : NativeNames) (f : Text) : Text := (substitute n (f ++ ['('])).dropLast

section Calling

variable {n : NativeNames} {s t name : Text} {spelling : Builtin × Text}

theorem NativeNames.replaceCall_append (mem : spelling ∈ Builtin.spellings)
    (apart : EndsApart s) (call : name.getLast? = some '(') (t : Text) :
    n.replaceCall (s ++ name ++ t) spelling =
      n.replaceCall s spelling ++ n.replaceCall name spelling ++ n.replaceCall t spelling := by
  have spelled := Builtin.isCallSpelling spelling mem
  have ends : (s ++ name).getLast? = some '(' := by
    rw [List.getLast?_append, call, Option.some_or]
  unfold NativeNames.replaceCall
  split
  · rfl
  · rw [replaceAll_append (spelled.parted ends t),
      replaceAll_append ((apart spelling mem).parted name)]

variable (h : n.Calling)
include h

theorem NativeNames.Calling.endsApart_replaceCall (apart : EndsApart s) :
    EndsApart (n.replaceCall s spelling) := by
  intro other listed
  have foreign := (Builtin.isCallSpelling other listed).2
  have native := (h.call spelling.1).getLast?
  unfold NativeNames.replaceCall
  split
  · exact apart other listed
  · have short : ¬ n.call spelling.1 <:+: other.2.dropLast :=
      fun found => foreign (found.subset (List.mem_of_getLast? native))
    exact Unbegun.replaceAll short (unbegun_of_getLast? foreign native) (apart other listed)

theorem NativeNames.Calling.getLast?_replaceCall (call : name.getLast? = some '(') :
    (n.replaceCall name spelling).getLast? = some '(' := by
  unfold NativeNames.replaceCall
  split
  · exact call
  · by_cases empty : spelling.2 = []
    · simpa [replaceAll, empty] using call
    · have native := (h.call spelling.1).getLast?
      exact getLast?_of_replaced empty native (replaced_replaceAll empty name) call

theorem NativeNames.Calling.foldl_append {spellings : List (Builtin × Text)}
    (listed : spellings ⊆ Builtin.spellings) (apart : EndsApart s)
    (call : name.getLast? = some '(') (t : Text) :
    spellings.foldl n.replaceCall (s ++ name ++ t) =
      spellings.foldl n.replaceCall s ++ spellings.foldl n.replaceCall name ++
        spellings.foldl n.replaceCall t := by
  induction spellings generalizing s name t with
  | nil => rfl
  | cons spelling rest ih =>
    obtain ⟨mem, others⟩ := List.cons_subset.mp listed
    rw [List.foldl_cons, n.replaceCall_append mem apart call, List.foldl_cons, List.foldl_cons,
      List.foldl_cons]
    exact ih others (h.endsApart_replaceCall apart) (h.getLast?_replaceCall call) _

theorem NativeNames.Calling.endsApart_sentinel (apart : EndsApart s) :
    EndsApart (replaceAll endOfLineMark n.endOfLine s) := by
  intro spelling mem
  obtain ⟨short, ends⟩ := h.endOfLine spelling mem
  exact Unbegun.replaceAll short ends (apart spelling mem)

theorem NativeNames.Calling.substitute_call (apart : EndsApart s) {f : Text} (open_ : ')' ∉ f)
    (called : ¬ "ENDL)" <+: t) :
    substitute n (s ++ (f ++ ['(']) ++ t) =
      substitute n s ++ substitute n (f ++ ['(']) ++ substitute n t := by
  have call : (f ++ ['(']).getLast? = some '(' := List.getLast?_concat
  unfold substitute
  rw [replaceAll_sentinel_call open_ called, replaceAll_sentinel_name open_,
    h.foldl_append (List.Subset.refl _) (h.endsApart_sentinel apart) call]

theorem NativeNames.Calling.substitute_name {f : Text} (plain : '(' ∉ f) (open_ : ')' ∉ f) :
    substitute n (f ++ ['(']) = n.calledAs f ++ ['('] ∧ '(' ∉ n.calledAs f ∧
      (n.calledAs f = f ∨ ∃ b front, n.calledAs f = front ++ (n.call b).dropLast) := by
  let Called (u : Text) : Prop := ∃ g, u = g ++ ['('] ∧ '(' ∉ g ∧
    (g = f ∨ ∃ b front, g = front ++ (n.call b).dropLast)
  have kept : Called (substitute n (f ++ ['('])) := by
    unfold substitute
    rw [replaceAll_sentinel_name open_]
    refine List.foldlRecOn (motive := Called) Builtin.spellings n.replaceCall
      ⟨f, rfl, plain, .inl rfl⟩ ?_
    rintro _ ⟨g, rfl, free, form⟩ spelling mem
    unfold NativeNames.replaceCall
    split
    · exact ⟨g, rfl, free, form⟩
    · have spelled := Builtin.isCallSpelling spelling mem
      rcases spelled.replaceAll_name free (n.call spelling.1) with same | ⟨front, rfl, renamed⟩
      · exact ⟨g, same, free, form⟩
      · refine ⟨front ++ (n.call spelling.1).dropLast, ?_, ?_, .inr ⟨spelling.1, front, rfl⟩⟩
        · rw [renamed, List.append_assoc, ← (h.call spelling.1).1]
        · rw [List.mem_append, not_or]
          exact ⟨fun mem => free (List.mem_append_left _ mem), (h.call spelling.1).2⟩
  obtain ⟨g, whole, free, form⟩ := kept
  have same : n.calledAs f = g := by
    unfold NativeNames.calledAs
    rw [whole, List.dropLast_concat]
  rw [same]
  exact ⟨whole, free, form⟩

theorem NativeNames.Calling.calledAs_eq_self_iff (settles : n.Settling) {f : Text} (plain : '(' ∉ f)
    (open_ : ')' ∉ f) :
    n.calledAs f = f ↔ ∀ spelling ∈ n.renamed, ¬ spelling.2.dropLast <:+ f := by
  obtain ⟨whole, _, _⟩ := h.substitute_name plain open_
  constructor
  · rintro same spelling mem ⟨front, rfl⟩
    have spelled := Builtin.isCallSpelling spelling (List.mem_filter.mp mem).1
    have free := settles.not_infix (front ++ spelling.2.dropLast ++ ['(']) spelling.2
      (List.mem_cons_of_mem _ (List.mem_map_of_mem mem))
    rw [whole, same, List.append_assoc, ← spelled.1] at free
    exact free (List.suffix_append front spelling.2).isInfix
  · intro apart
    have free : ∀ m ∈ n.replaced, ¬ m <:+: f ++ ['('] := by
      intro m mem found
      rcases List.mem_cons.mp mem with rfl | mem
      · have closes : ')' ∈ f ++ ['('] := found.subset (by decide)
        simp [open_] at closes
      · obtain ⟨spelling, listed, rfl⟩ := List.mem_map.mp mem
        have spelled := Builtin.isCallSpelling spelling (List.mem_filter.mp listed).1
        rw [List.infix_concat_iff] at found
        rcases found with ⟨front, ends⟩ | within
        · rw [spelled.1, ← List.append_assoc] at ends
          exact apart spelling listed ⟨front, (List.append_inj' ends rfl).1⟩
        · exact plain (within.subset (List.mem_of_getLast? spelled.getLast?))
    rw [substitute_of_free free] at whole
    exact (List.append_inj' whole rfl).1.symm

end Calling

theorem Pseudocode.calledAs_eq_self_iff {f : Text} (plain : '(' ∉ f) (open_ : ')' ∉ f) :
    nativeNames.calledAs f = f ↔ ¬ ("alea" : Text) <:+ f := by
  have renamed : nativeNames.renamed = [(Builtin.random, ("alea(" : Text))] := by decide
  rw [calling.calledAs_eq_self_iff settling plain open_, renamed, List.forall_mem_singleton]
  rfl

example : CPlusPlus.nativeNames.calledAs "maracine" = "masqrt" ∧
    CPlusPlus.nativeNames.calledAs "racines" = "racines" := by decide

end BlockScript
