import BlockScript.Proofs.FirstDifference

/-!
What it changes to disallow pointers. The setting is asked for in four places, and each of them only
refuses: a line that is not refused there is read and written as with pointers. Where a line is
wrong in two ways the refusal may hide the other fault, but it never comes later than that.
-/
namespace BlockScript

def Cause.RefusesPointers (cause : Cause) : Prop :=
  ∃ feature, cause = .featureDisabled (.pointers feature)

namespace Pseudocode

def setPointers (p : Pseudocode) (allowed : Bool) : Pseudocode := { p with pointers := allowed }

section Line

variable (p : Pseudocode)

theorem requirePointers_gated (feature : PointerFeature) :
    SameUnless Cause.RefusesPointers ((p.setPointers false).requirePointers feature)
      ((p.setPointers true).requirePointers feature) :=
  sameUnless_error ⟨feature, rfl⟩ _

theorem releaseLine_gated (params : List Text) :
    SameUnless Cause.RefusesPointers ((p.setPointers false).releaseLine params)
      ((p.setPointers true).releaseLine params) :=
  sameUnless_bind (p.requirePointers_gated .release) fun _ => sameUnless_refl _

theorem assignedValue_gated (value : List Text) :
    SameUnless Cause.RefusesPointers ((p.setPointers false).assignedValue value)
      ((p.setPointers true).assignedValue value) := by
  unfold assignedValue
  split
  · exact sameUnless_refl _
  · split
    · exact sameUnless_bind (p.requirePointers_gated .allocation) fun _ => sameUnless_refl _
    · split
      · exact sameUnless_refl _
      · exact sameUnless_bind (p.requirePointers_gated .addressOf) fun _ => sameUnless_refl _

theorem assign_gated (tokens : List Text) :
    SameUnless Cause.RefusesPointers ((p.setPointers false).assign tokens)
      ((p.setPointers true).assign tokens) := by
  unfold assign
  split
  · exact sameUnless_refl _
  · dsimp only
    split
    · exact sameUnless_map _ (p.assignedValue_gated _)
    · exact sameUnless_refl _

theorem declaredType_gated (keyword : Text) :
    SameUnless Cause.RefusesPointers ((p.setPointers false).declaredType keyword)
      ((p.setPointers true).declaredType keyword) := by
  unfold declaredType
  split
  · exact sameUnless_bind (p.requirePointers_gated .pointerType) fun _ => sameUnless_refl _
  · exact sameUnless_refl _

theorem declare_gated (tokens : List Text) :
    SameUnless Cause.RefusesPointers ((p.setPointers false).declare tokens)
      ((p.setPointers true).declare tokens) := by
  unfold declare
  split
  · exact sameUnless_refl _
  · refine sameUnless_bind (p.declaredType_gated _) ?_
    intro type
    refine sameUnless_bind_same ?_
    intro declared
    cases declared with
    | initialised name value => exact sameUnless_map _ (p.assign_gated _)
    | names first others => exact sameUnless_refl _

theorem render_gated (k : Keyword) (i : Instruction) (closed : Option Frame) :
    SameUnless Cause.RefusesPointers ((p.setPointers false).render k i closed)
      ((p.setPointers true).render k i closed) := by
  cases k with
  | delete => exact sameUnless_map _ (p.releaseLine_gated i.params)
  | _ => exact sameUnless_refl _

theorem written_gated (l : SourceLine) (closed : Option Frame) :
    SameUnless Cause.RefusesPointers ((p.setPointers false).backend.written l closed)
      ((p.setPointers true).backend.written l closed) := by
  have resolution : (p.setPointers false).backend.resolve l.instruction =
      (p.setPointers true).backend.resolve l.instruction := rfl
  unfold Backend.written
  rw [resolution]
  cases (p.setPointers true).backend.resolve l.instruction with
  | keyword k => exact p.render_gated k l.instruction closed
  | declaration => exact sameUnless_map _ (p.declare_gated l.instruction.tokens)
  | assignment => exact sameUnless_map _ (p.assign_gated l.instruction.tokens)
  | passThrough => exact sameUnless_refl _

end Line

/-- Without pointers a program comes to just what it comes to with them, or a line is refused for
    its use of pointers; then all lines before it pass with pointers too, and leave the same
    state. -/
theorem compile_gated (p : Pseudocode) (lines : List Text) :
    (p.setPointers false).backend.compile lines = (p.setPointers true).backend.compile lines ∨
      ∃ feature n ctx,
        (p.setPointers false).backend.compile lines =
            .error ⟨.featureDisabled (.pointers feature), n⟩ ∧
          1 ≤ n ∧ n ≤ lines.length ∧
          (p.setPointers true).backend.run ((SourceLine.number lines).take (n - 1)) {} =
            .ok () ctx ∧
          (p.setPointers false).backend.run ((SourceLine.number lines).take (n - 1)) {} =
            .ok () ctx := by
  have line := Backend.outcome_sameUnless (b := (p.setPointers false).backend)
    (c := (p.setPointers true).backend) (fun _ => rfl) p.written_gated fun _ _ _ _ _ => rfl
  rcases Backend.compile_sameUnless line rfl lines with
    same | ⟨_, n, ctx, ⟨feature, rfl⟩, fault, first, last, off, on⟩
  · exact .inl same
  · exact .inr ⟨feature, n, ctx, fault, first, last, Backend.reach_eq_ok_iff.mp on,
      Backend.reach_eq_ok_iff.mp off⟩

example :
    let lines : List Text := ["print a", "int*"]
    (({} : Pseudocode).setPointers false).backend.compile lines =
        .error ⟨.featureDisabled (.pointers .pointerType), 2⟩ ∧
      (({} : Pseudocode).setPointers true).backend.compile lines =
        .error ⟨.argument (.variableName "int*"), 2⟩ := by
  decide +kernel

end Pseudocode
end BlockScript
