import BlockScript.Proofs.TwoRuns

/-!
Two targets that accept the same lines and write texts that are related one by one. The blocks and
the return code are then the same all along, both runs fail on the same line for the same cause, and
the finished lines and the definitions stay related.
-/
namespace BlockScript

structure Context.Related (R : Text → Text → Prop) (ctx other : Context) : Prop where
  stack : ctx.stack = other.stack
  body : List.Forall₂ R ctx.body other.body
  hoisted : List.Forall₂ R ctx.hoisted other.hoisted
  definitions : List.Forall₂ R ctx.definitions other.definitions
  returnCode : ctx.returnCode = other.returnCode

theorem Context.related_start (R : Text → Text → Prop) : Context.Related R {} {} where
  stack := rfl
  body := .nil
  hoisted := .nil
  definitions := .nil
  returnCode := rfl

namespace Backend

/-- What the line writes for the two targets, once it is finished. -/
structure WritesRelated (b c : Backend) (R : Text → Text → Prop) (l : SourceLine)
    (r r' : Rendering) : Prop where
  emitted : ∀ stack, List.Forall₂ R (b.emitted l stack r) (c.emitted l stack r')
  definitions : List.Forall₂ R r.definitions r'.definitions
  returnCode : r.returnCode = r'.returnCode

structure Related (b c : Backend) (R : Text → Text → Prop) : Prop where
  separator : R [] []
  action : ∀ l, b.action l = c.action l
  written : ∀ l closed, Alike Eq (b.WritesRelated c R l) (b.written l closed) (c.written l closed)

section Related

variable {b c : Backend} {R : Text → Text → Prop} {ctx other : Context}

theorem WritesRelated.settle {l : SourceLine} {r r' : Rendering}
    (writes : b.WritesRelated c R l r r') (separator : R [] []) (same : ctx.Related R other)
    (stack : FrameStack) (closed : Option Frame) :
    (b.settle l ctx stack closed r).Related R (c.settle l other stack closed r') := by
  have lines := writes.emitted stack
  have blank : List.Forall₂ R (if closed.any Frame.isFunction then [[]] else [])
      (if closed.any Frame.isFunction then [[]] else []) := by
    split
    · exact .cons separator .nil
    · exact .nil
  refine ⟨rfl, ?_, ?_, List.rel_append same.definitions writes.definitions, ?_⟩
  · unfold Backend.settle
    cases relocates stack closed with
    | true => exact same.body
    | false => exact List.rel_append same.body lines
  · unfold Backend.settle
    cases relocates stack closed with
    | true => exact List.rel_append (List.rel_append same.hoisted lines) blank
    | false => exact same.hoisted
  · unfold Backend.settle
    rw [writes.returnCode, same.returnCode]

variable (h : b.Related c R)
include h

theorem Related.outcome (l : SourceLine) (same : ctx.Related R other) :
    Alike Eq (Context.Related R) (b.outcome l ctx) (c.outcome l other) := by
  refine outcome_alike (B := Eq) ?_ ?_ (fun _ _ => h.written l) ?_
  · rw [h.action]
    exact alike_refl (fun _ => rfl) (fun _ => rfl) _
  · intro a _
    rw [same.stack]
    refine alike_refl ?_ ?_ _
    · exact fun _ => rfl
    · exact fun _ => ⟨rfl, rfl⟩
  · rintro stack _ closed r r' rfl writes
    exact writes.settle h.separator same stack closed

theorem Related.compile {S : Text → Text → Prop} {lines : List Text}
    (assembles : ∀ ctx other, ctx.Related R other →
      S (b.assemble (Text.join "\n" lines) ctx) (c.assemble (Text.join "\n" lines) other)) :
    Alike Eq S (b.compile lines) (c.compile lines) := by
  refine compile_alike (C := Context.Related R) ?_ ?_
  · refine reach_alike (L := Eq) ?_ (List.forall₂_same.mpr fun _ _ => rfl) (Context.related_start R)
    rintro l _ rfl ctx other same
    refine alike_mono (h.outcome l same) ?_ fun _ _ next => next
    rintro cause _ rfl
    rfl
  · intro ctx other same
    unfold conclude
    rw [same.stack]
    cases other.stack with
    | nil => exact assembles ctx other same
    | cons innermost others => exact Eq.refl (Fault.mk _ _)

end Related

end Backend
end BlockScript
