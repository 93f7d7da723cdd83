import BlockScript.Proofs.FirstFault

/-!
Two targets of which one refuses more. Where each line comes to the same for both unless the first
target fails for one of certain causes, whole runs do: the states are equal up to the first line
that is refused for such a cause, and without one there is no difference at all.
-/
namespace BlockScript

/-- The first computation comes to what the second does, unless it fails for a cause with `E`. -/
def SameUnless {α : Type} (E : Cause → Prop) (x y : Except Cause α) : Prop :=
  x = y ∨ ∃ cause, E cause ∧ x = .error cause

section SameUnless

variable {α β : Type} {E : Cause → Prop} {x y : Except Cause α}

theorem sameUnless_refl (x : Except Cause α) : SameUnless E x x := .inl rfl

theorem sameUnless_error {cause : Cause} (refused : E cause) (y : Except Cause α) :
    SameUnless E (.error cause) y := .inr ⟨cause, refused, rfl⟩

theorem sameUnless_bind {f g : α → Except Cause β} (h : SameUnless E x y)
    (hf : ∀ a, SameUnless E (f a) (g a)) : SameUnless E (x >>= f) (y >>= g) := by
  rcases h with rfl | ⟨cause, refused, rfl⟩
  · cases x with
    | ok a => exact hf a
    | error cause => exact sameUnless_refl (.error cause)
  · exact sameUnless_error refused _

theorem sameUnless_bind_same {f g : α → Except Cause β} (hf : ∀ a, SameUnless E (f a) (g a)) :
    SameUnless E (x >>= f) (x >>= g) := sameUnless_bind (sameUnless_refl x) hf

theorem sameUnless_map (f : α → β) (h : SameUnless E x y) : SameUnless E (f <$> x) (f <$> y) :=
  sameUnless_bind h fun a => sameUnless_refl (.ok (f a))

theorem sameUnless_mapM {f g : α → Except Cause β} {as : List α}
    (h : ∀ a, SameUnless E (f a) (g a)) : SameUnless E (as.mapM f) (as.mapM g) := by
  induction as with
  | nil => exact sameUnless_refl _
  | cons a as ih =>
    rw [List.mapM_cons, List.mapM_cons]
    refine sameUnless_bind (h a) ?_
    intro b
    exact sameUnless_map _ ih

end SameUnless

namespace Backend

variable {b c : Backend} {E : Cause → Prop}

theorem outcome_sameUnless_of_line {l : SourceLine} (acts : b.action l = c.action l)
    (writes : ∀ closed, SameUnless E (b.written l closed) (c.written l closed))
    (settles : ∀ ctx stack closed r,
      b.settle l ctx stack closed r = c.settle l ctx stack closed r)
    (ctx : Context) : SameUnless E (b.outcome l ctx) (c.outcome l ctx) := by
  unfold outcome
  simp only [acts, settles]
  refine sameUnless_bind_same ?_
  intro action
  refine sameUnless_bind_same ?_
  intro blocks
  exact sameUnless_map _ (writes blocks.2)

theorem outcome_sameUnless (acts : ∀ l, b.action l = c.action l)
    (writes : ∀ l closed, SameUnless E (b.written l closed) (c.written l closed))
    (settles : ∀ l ctx stack closed r,
      b.settle l ctx stack closed r = c.settle l ctx stack closed r)
    (l : SourceLine) (ctx : Context) : SameUnless E (b.outcome l ctx) (c.outcome l ctx) :=
  outcome_sameUnless_of_line (acts l) (writes l) (settles l) ctx

theorem reach_sameUnless {lines : List SourceLine}
    (h : ∀ l ∈ lines, ∀ ctx, SameUnless E (b.outcome l ctx) (c.outcome l ctx)) (ctx : Context) :
    b.reach lines ctx = c.reach lines ctx ∨
      ∃ past l rest mid cause, lines = past ++ l :: rest ∧ b.reach past ctx = .ok mid ∧
        c.reach past ctx = .ok mid ∧ E cause ∧ b.outcome l mid = .error cause := by
  induction lines generalizing ctx with
  | nil => exact .inl rfl
  | cons l rest ih =>
    have ih := ih fun l' mem => h l' (List.mem_cons_of_mem l mem)
    rcases h l List.mem_cons_self ctx with same | ⟨cause, refused, fails⟩
    · cases first : c.outcome l ctx with
      | error cause =>
        rw [first] at same
        left
        rw [reach_cons, reach_cons, same, first]
        rfl
      | ok next =>
        rw [first] at same
        rcases ih next with equal | ⟨past, l', rest', mid, cause, rfl, hb, hc, refused, fails⟩
        · left
          rw [reach_cons, reach_cons, same, first]
          exact equal
        · exact .inr ⟨l :: past, l', rest', mid, cause, rfl,
            reach_cons_eq_ok_iff.mpr ⟨next, same, hb⟩,
            reach_cons_eq_ok_iff.mpr ⟨next, first, hc⟩, refused, fails⟩
    · exact .inr ⟨[], l, rest, ctx, cause, rfl, rfl, rfl, refused, fails⟩

/-- A program comes to the same for both targets, or a line is refused by the first where both have
    passed the lines before it in one state. -/
theorem compile_sameUnless_of_lines {lines : List Text}
    (h : ∀ l ∈ SourceLine.number lines, ∀ ctx, SameUnless E (b.outcome l ctx) (c.outcome l ctx))
    (assembles : b.assemble = c.assemble) :
    b.compile lines = c.compile lines ∨
      ∃ cause n ctx, E cause ∧ b.compile lines = .error ⟨cause, n⟩ ∧ 1 ≤ n ∧ n ≤ lines.length ∧
        b.reach ((SourceLine.number lines).take (n - 1)) {} = .ok ctx ∧
        c.reach ((SourceLine.number lines).take (n - 1)) {} = .ok ctx := by
  rcases reach_sameUnless h {} with
    same | ⟨past, l, rest, ctx, cause, split, hb, hc, refused, fails⟩
  · left
    have concludes : b.conclude lines = c.conclude lines := by
      funext ctx
      unfold conclude
      rw [assembles]
    rw [compile_eq, compile_eq, same, concludes]
  · right
    have position := SourceLine.index_of_number_eq_append split
    have fault : b.compile lines = .error ⟨cause, l.index⟩ := by
      refine compile_eq_error_iff.mpr (.inl ?_)
      rw [split]
      exact reach_append_cons_of_error hb fails rest
    have before : (SourceLine.number lines).take (l.index - 1) = past := by
      rw [split, position, Nat.add_sub_cancel, List.take_left]
    obtain ⟨first, last⟩ := line_bounds_of_compile fault
    rw [← before] at hb hc
    exact ⟨cause, l.index, ctx, refused, fault, first, last, hb, hc⟩

theorem compile_sameUnless (h : ∀ l ctx, SameUnless E (b.outcome l ctx) (c.outcome l ctx))
    (assembles : b.assemble = c.assemble) (lines : List Text) :
    b.compile lines = c.compile lines ∨
      ∃ cause n ctx, E cause ∧ b.compile lines = .error ⟨cause, n⟩ ∧ 1 ≤ n ∧ n ≤ lines.length ∧
        b.reach ((SourceLine.number lines).take (n - 1)) {} = .ok ctx ∧
        c.reach ((SourceLine.number lines).take (n - 1)) {} = .ok ctx :=
  compile_sameUnless_of_lines (fun l _ => h l) assembles

end Backend
end BlockScript
