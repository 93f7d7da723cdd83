import Mathlib.Data.List.Forall2
import BlockScript.Proofs.Run

/-!
Two runs side by side, of one target or of two. Where the lines act alike on the open blocks and
write alike, the states stay related, and the runs fail alike or end in related states.
-/
namespace BlockScript.Backend

variable {b c : Backend} {l l' : SourceLine} {ctx ctx' : Context} {C : Context → Context → Prop}

theorem outcome_alike {E : Cause → Cause → Prop} {B : FrameStack → FrameStack → Prop}
    {W : Rendering → Rendering → Prop} (acts : Alike E Eq (b.action l) (c.action l'))
    (applies : ∀ a, b.action l = .ok a →
      Alike (fun f g => E (.structural f) (.structural g)) (fun x y => B x.1 y.1 ∧ x.2 = y.2)
        (a.apply l.index ctx.stack) (a.apply l'.index ctx'.stack))
    (writes : ∀ a, b.action l = .ok a → ∀ closed,
      Alike E W (b.written l closed) (c.written l' closed))
    (settles : ∀ stack stack' closed r r', B stack stack' → W r r' →
      C (b.settle l ctx stack closed r) (c.settle l' ctx' stack' closed r')) :
    Alike E C (b.outcome l ctx) (c.outcome l' ctx') := by
  unfold outcome
  refine alike_bind (alike_and_ok acts) ?_
  rintro a _ ⟨rfl, ok⟩
  refine alike_bind (alike_mapError (applies a ok) fun _ _ same => same) ?_
  rintro ⟨stack, closed⟩ ⟨stack', _⟩ ⟨blocks, rfl⟩
  refine alike_bind (writes a ok closed) ?_
  intro r r' same
  exact settles stack stack' closed r r' blocks same

theorem reach_alike {F : Fault → Fault → Prop} {L : SourceLine → SourceLine → Prop}
    {lines lines' : List SourceLine}
    (step : ∀ l l', L l l' → ∀ ctx ctx', C ctx ctx' →
      Alike (fun cause cause' => F ⟨cause, l.index⟩ ⟨cause', l'.index⟩) C
        (b.outcome l ctx) (c.outcome l' ctx'))
    (paired : List.Forall₂ L lines lines') (start : C ctx ctx') :
    Alike F C (b.reach lines ctx) (c.reach lines' ctx') := by
  induction paired generalizing ctx ctx' with
  | nil => exact start
  | cons first _ ih =>
    rw [reach_cons, reach_cons]
    exact alike_bind (alike_mapError (step _ _ first ctx ctx' start) fun _ _ same => same)
      fun _ _ next => ih next

theorem compile_alike {F : Fault → Fault → Prop} {S : Text → Text → Prop} {lines lines' : List Text}
    (runs : Alike F C (b.reach (SourceLine.number lines) {}) (c.reach (SourceLine.number lines') {}))
    (ends : ∀ ctx ctx', C ctx ctx' → Alike F S (b.conclude lines ctx) (c.conclude lines' ctx')) :
    Alike F S (b.compile lines) (c.compile lines') := by
  rw [compile_eq, compile_eq]
  exact alike_bind runs ends

end BlockScript.Backend
