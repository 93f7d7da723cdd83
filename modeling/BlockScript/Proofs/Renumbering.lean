import BlockScript.Proofs.Acceptance
import BlockScript.Proofs.TwoRuns
import BlockScript.Settings

/-!
The same lines under other numbers. Nothing that is written depends on the number of a line; only
the open blocks remember theirs, for the fault of one that is never closed. So a program whose lines
are numbered otherwise comes to the same output, or fails for the same cause on the line that its
number becomes.
-/
namespace BlockScript

variable (f : Nat → Nat)

namespace FrameStack

def renumber (stack : FrameStack) : FrameStack := stack.map fun o => { o with line := f o.line }

variable (stack : FrameStack)

@[simp] theorem frames_renumber : frames (stack.renumber f) = frames stack := by
  simp [frames, renumber, Function.comp_def]

@[simp] theorem depth_renumber : (stack.renumber f).depth = stack.depth := by
  simp [depth, renumber]

@[simp] theorem top_renumber : (stack.renumber f).top = stack.top := by simp [top_eq_head?]

@[simp] theorem holds_renumber (frame : Frame) :
    (stack.renumber f).holds frame = stack.holds frame := by
  rw [Bool.eq_iff_iff, holds_iff, holds_iff, frames_renumber]

@[simp] theorem enclosingFunction_renumber :
    (stack.renumber f).enclosingFunction = stack.enclosingFunction := by
  have same := frames_renumber f stack
  unfold frames at same
  rw [enclosingFunction, same, enclosingFunction]

@[simp] theorem inFunction_renumber : (stack.renumber f).inFunction = stack.inFunction := by
  rw [inFunction, enclosingFunction_renumber, inFunction]

@[simp] theorem renumber_id : stack.renumber id = stack := List.map_id stack

end FrameStack

def SourceLine.renumber (l : SourceLine) : SourceLine := { l with index := f l.index }

def SourceLine.unnumbered (lines : List Text) : List SourceLine :=
  lines.map fun line => ⟨line.dropEndWhile (· == '\r'), 0⟩

theorem SourceLine.number_renumber_zero (lines : List Text) :
    (number lines).map (renumber fun _ => 0) = unnumbered lines := by
  have texts := congrArg (List.map fun text => mk text 0) (text_number lines)
  rw [List.map_map, List.map_map] at texts
  exact texts

def Fault.renumber (fault : Fault) : Fault := { fault with line := f fault.line }

theorem BlockAction.apply_renumber (a : BlockAction) (line : Nat) (stack : FrameStack) :
    Alike Eq (fun one other => other.1 = one.1.renumber f ∧ one.2 = other.2)
      (a.apply line stack) (a.apply (f line) (stack.renumber f)) := by
  cases a with
  | plain => exact ⟨rfl, rfl⟩
  | opens frame => exact ⟨rfl, rfl⟩
  | opensBranch frame refusal =>
    simp only [apply, FrameStack.holds_renumber]
    cases stack.holds .switch with
    | true => exact ⟨rfl, rfl⟩
    | false => exact Eq.refl refusal
  | startsBody =>
    simp only [apply, FrameStack.top_renumber]
    by_cases vars : stack.top = some .vars
    · rw [if_pos vars, if_pos vars]
      exact ⟨List.map_tail.symm, rfl⟩
    · rw [if_neg vars, if_neg vars]
      exact ⟨rfl, rfl⟩
  | closes =>
    cases stack with
    | nil => exact Eq.refl StructuralFault.stackUnderflow
    | cons o rest => exact ⟨rfl, rfl⟩
  | returns =>
    simp only [apply, FrameStack.enclosingFunction_renumber]
    cases stack.enclosingFunction with
    | none => exact Eq.refl StructuralFault.returnOutsideFunction
    | some frame =>
      cases frame with
      | fx => exact ⟨rfl, rfl⟩
      | _ => exact Eq.refl StructuralFault.returnInProcedure

structure Context.Renumbered (ctx other : Context) : Prop where
  stack : other.stack = ctx.stack.renumber f
  body : other.body = ctx.body
  hoisted : other.hoisted = ctx.hoisted
  definitions : other.definitions = ctx.definitions
  returnCode : other.returnCode = ctx.returnCode

theorem Context.renumbered_start : Context.Renumbered f {} {} where
  stack := rfl
  body := rfl
  hoisted := rfl
  definitions := rfl
  returnCode := rfl

theorem Context.Renumbered.trans_id {f : Nat → Nat} {ctx mid other : Context}
    (first : ctx.Renumbered f mid) (second : mid.Renumbered id other) :
    ctx.Renumbered f other where
  stack := by rw [second.stack, FrameStack.renumber_id, first.stack]
  body := second.body.trans first.body
  hoisted := second.hoisted.trans first.hoisted
  definitions := second.definitions.trans first.definitions
  returnCode := second.returnCode.trans first.returnCode

namespace Backend

/-- Nothing is written that depends on the number of a line. -/
structure NumberFree (b : Backend) : Prop where
  render : ∀ k i line closed, b.render k { i with line } closed = b.render k i closed
  finish : ∀ f r stack lines, b.finish r (stack.renumber f) lines = b.finish r stack lines
  assemble : ∀ f source {ctx other : Context}, ctx.Renumbered f other →
    b.assemble source other = b.assemble source ctx

theorem numberFree_pseudocode (p : Pseudocode) : p.backend.NumberFree where
  render k i line closed := by cases k <;> rfl
  finish f r stack lines := by
    show p.finish r _ lines = p.finish r stack lines
    simp only [Pseudocode.finish, Resolution.indentDepth, FrameStack.depth_renumber]
  assemble f _ ctx other same := by
    show p.assemble other = p.assemble ctx
    simp only [Pseudocode.assemble, same.body, same.hoisted, same.definitions]

theorem numberFree_cpp (c : CPlusPlus) : c.backend.NumberFree where
  render k i line closed := by cases k <;> rfl
  finish f r stack lines := by
    show c.finish r _ lines = c.finish r stack lines
    simp only [CPlusPlus.finish, CPlusPlus.depth, Resolution.indentDepth,
      FrameStack.depth_renumber, FrameStack.holds_renumber]
  assemble f source ctx other same := by
    show c.assemble source other = c.assemble source ctx
    simp only [CPlusPlus.assemble, CPlusPlus.mainLines, same.body, same.hoisted, same.definitions,
      same.returnCode]

theorem numberFree_backend (s : Settings) (target : Target) : (s.backend target).NumberFree := by
  cases target with
  | pseudocode => exact numberFree_pseudocode s.pseudocode
  | cpp => exact numberFree_cpp s.cpp

section Run

variable {f} {b : Backend} (hb : b.NumberFree) {ctx other : Context}
include hb

theorem NumberFree.written (l : SourceLine) (closed : Option Frame) :
    b.written (l.renumber f) closed = b.written l closed := by
  have same : (l.renumber f).instruction = { l.instruction with line := f l.index } := rfl
  have resolution : b.resolve { l.instruction with line := f l.index } =
      b.resolve l.instruction := rfl
  unfold Backend.written
  rw [same, resolution]
  cases b.resolve l.instruction with
  | keyword k => exact hb.render k l.instruction (f l.index) closed
  | _ => rfl

theorem NumberFree.emitted (l : SourceLine) (stack : FrameStack) (r : Rendering) :
    b.emitted (l.renumber f) (stack.renumber f) r = b.emitted l stack r :=
  hb.finish f (b.resolve l.instruction) stack _

/-- States whose blocks are the same but for their numbers, in a relation that every line keeps. -/
structure Carries (b : Backend) (f : Nat → Nat) (R : Context → Context → Prop) : Prop where
  stack : ∀ {ctx other}, R ctx other → other.stack = ctx.stack.renumber f
  settle : ∀ l stack closed r {ctx other}, R ctx other →
    R (b.settle l ctx stack closed r)
      (b.settle (l.renumber f) other (stack.renumber f) closed r)

omit hb in
theorem relocates_renumber (stack : FrameStack) (closed : Option Frame) :
    relocates (stack.renumber f) closed = relocates stack closed := by
  rw [relocates, FrameStack.inFunction_renumber, relocates]

theorem NumberFree.carries_renumbered : b.Carries f (Context.Renumbered f) where
  stack same := same.stack
  settle l stack closed r ctx other same := by
    have lines := hb.emitted (f := f) l stack r
    have route := relocates_renumber (f := f) stack closed
    refine ⟨rfl, ?_, ?_, ?_, ?_⟩ <;>
      simp only [Backend.settle, route, lines, same.body, same.hoisted, same.definitions,
        same.returnCode]

section Carried

variable {R : Context → Context → Prop} (carries : b.Carries f R)
include carries

theorem NumberFree.outcome (l : SourceLine) (same : R ctx other) :
    Alike Eq R (b.outcome l ctx) (b.outcome (l.renumber f) other) := by
  refine outcome_alike (B := fun stack stack' => stack' = stack.renumber f) (W := Eq) ?_ ?_ ?_ ?_
  · have acts : b.action (l.renumber f) = b.action l := action_congr rfl
    rw [acts]
    exact alike_refl (fun _ => rfl) (fun _ => rfl) _
  · intro a _
    rw [carries.stack same]
    refine alike_mono (a.apply_renumber f l.index ctx.stack) ?_ fun _ _ blocks => blocks
    rintro fault _ rfl
    rfl
  · intro a _ closed
    rw [hb.written]
    exact alike_refl (fun _ => rfl) (fun _ => rfl) _
  · rintro stack _ closed r _ rfl rfl
    exact carries.settle l stack closed r same

theorem NumberFree.reach (lines : List SourceLine) (same : R ctx other) :
    Alike (fun early late => late = early.renumber f) R
      (b.reach lines ctx) (b.reach (lines.map (SourceLine.renumber f)) other) := by
  refine reach_alike (L := fun l l' => l' = l.renumber f) ?_ ?_ same
  · rintro l _ rfl ctx other same
    refine alike_mono (hb.outcome carries l same) ?_ fun _ _ next => next
    rintro cause _ rfl
    rfl
  · exact List.forall₂_map_right_iff.mpr (List.forall₂_same.mpr fun _ _ => rfl)

end Carried

theorem NumberFree.conclude {lines others : List Text} (same : ctx.Renumbered f other)
    (sources : ∀ ctx,
      b.assemble (Text.join "\n" others) ctx = b.assemble (Text.join "\n" lines) ctx) :
    Alike (fun early late => late = early.renumber f) Eq
      (b.conclude lines ctx) (b.conclude others other) := by
  unfold Backend.conclude
  rw [same.stack]
  cases ctx.stack with
  | nil => exact ((sources other).trans (hb.assemble f _ same)).symm
  | cons innermost rest => rfl

theorem NumberFree.compile_unnumbered (lines : List Text) :
    Alike (fun _ _ => True) Eq (b.compile lines)
      (b.reach (SourceLine.unnumbered lines) {} >>= b.conclude lines) := by
  have runs := hb.reach hb.carries_renumbered (SourceLine.number lines)
    (Context.renumbered_start fun _ => 0)
  rw [SourceLine.number_renumber_zero] at runs
  rw [compile_eq]
  refine alike_bind (alike_mono runs (fun _ _ _ => trivial) fun _ _ same => same) ?_
  intro ctx other same
  exact alike_mono (hb.conclude same fun _ => rfl) (fun _ _ _ => trivial) fun _ _ equal => equal

theorem NumberFree.compile_eq_ok_iff_of_reach {lines others : List Text} {out : Text}
    (sources : ∀ ctx,
      b.assemble (Text.join "\n" others) ctx = b.assemble (Text.join "\n" lines) ctx)
    (runs : Alike (fun _ _ => True) Eq (b.reach (SourceLine.unnumbered lines) {})
      (b.reach (SourceLine.unnumbered others) {})) :
    b.compile lines = .ok out ↔ b.compile others = .ok out := by
  have ends : Alike (fun _ _ => True) Eq
      (b.reach (SourceLine.unnumbered lines) {} >>= b.conclude lines)
      (b.reach (SourceLine.unnumbered others) {} >>= b.conclude others) := by
    refine alike_bind runs ?_
    rintro ctx _ rfl
    have same : ctx.Renumbered id ctx :=
      ⟨(FrameStack.renumber_id ctx.stack).symm, rfl, rfl, rfl, rfl⟩
    exact alike_mono (hb.conclude same sources) (fun _ _ _ => trivial) fun _ _ equal => equal
  rw [eq_ok_iff_of_alike (hb.compile_unnumbered lines),
    eq_ok_iff_of_alike (hb.compile_unnumbered others), eq_ok_iff_of_alike ends]

end Run

end Backend
end BlockScript
