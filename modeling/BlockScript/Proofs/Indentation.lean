import BlockScript.Proofs.BareLines
import BlockScript.Proofs.Closers
import BlockScript.Proofs.Concatenation
import BlockScript.Proofs.RelatedOutputs

/-!
The indentation as the only effect of its setting. Whatever is written with one indentation is
written with another, line by line, and differs in the blanks that a line starts with. What is done
to a line once it is indented does not see them: the namespace has no blanks, so the removal of its
qualifier passes over the padding, and the blanks that the end of the definitions loses are lost
either way.
-/
namespace BlockScript
open Text

namespace Pseudocode

def setIndent (p : Pseudocode) (indent : Text) : Pseudocode := { p with indent }

def SameEntry (s t : Text) : Prop := SameLines s t ∧ (s = [] ↔ t = [])

theorem sameEntry_refl (t : Text) : SameEntry t t := ⟨sameLines_refl t, Iff.rfl⟩

theorem sameLines_of_sameEntry {entries others : List Text}
    (same : List.Forall₂ SameEntry entries others) : List.Forall₂ SameLines entries others :=
  same.imp fun _ _ h => h.1

theorem join_eq_nil_iff_of_sameEntry {entries others : List Text}
    (same : List.Forall₂ SameEntry entries others) :
    join "\n" entries = [] ↔ join "\n" others = [] := by
  cases same with
  | nil => exact Iff.rfl
  | cons first rest =>
    cases rest with
    | nil =>
      rw [join_singleton, join_singleton]
      exact first.2
    | cons _ _ => simp [join_cons_cons]

theorem param_ne_nil {p : Pseudocode} {params : List Param} {fields : List Text}
    (h : params.mapM p.param = .ok fields) : ∀ field ∈ fields, field ≠ [] := by
  have each : ∀ x ∈ params, Meets (· ≠ []) (fun _ => True) (p.param x) := by
    intro x _
    have spelled : Meets (fun _ => True) (fun _ => True) (p.typeName x.type) := by
      cases p.typeName x.type <;> trivial
    exact meets_bind spelled fun type _ => meets_pure (by simp)
  have all := meets_mapM each
  rw [h] at all
  exact all

section Indent

variable (p : Pseudocode) {indent other : Text} (hi : indent.IsIndent) (ho : other.IsIndent)
include hi ho

theorem sameEntry_append {t : Text} (nonempty : t ≠ []) : SameEntry (indent ++ t) (other ++ t) := by
  refine ⟨SameLines.padded hi ho (sameLines_refl t), ?_⟩
  simp [nonempty]

theorem finish_indent (r : Resolution) (stack : FrameStack) (texts : List Text) :
    List.Forall₂ SameEntry ((p.setIndent indent).finish r stack (texts.filter (· ≠ [])))
      ((p.setIndent other).finish r stack (texts.filter (· ≠ []))) := by
  unfold finish
  rw [List.forall₂_map_left_iff, List.forall₂_map_right_iff, List.forall₂_same]
  intro text mem
  have written : text ≠ [] := by simpa using (List.mem_filter.mp mem).2
  have calls : ∀ f, nativeNames.call f ≠ [] := by
    intro f
    cases f <;> decide
  exact sameEntry_append (hi.times _) (ho.times _) (substitute_ne_nil (by decide) calls written)

theorem writesRelated_indent (l : SourceLine) {r r' : Rendering} (lines : r.lines = r'.lines)
    (definitions : List.Forall₂ SameEntry r.definitions r'.definitions)
    (returnCode : r.returnCode = r'.returnCode) :
    (p.setIndent indent).backend.WritesRelated (p.setIndent other).backend SameEntry l r r' where
  emitted stack := by
    unfold Backend.emitted
    rw [lines]
    exact p.finish_indent hi ho _ stack _
  definitions := definitions
  returnCode := returnCode

theorem structBlock_indent (d : StructDef) :
    Alike Eq (List.Forall₂ SameEntry) ((p.setIndent indent).structBlock d)
      ((p.setIndent other).structBlock d) := by
  refine alike_map_same ?_
  intro fields read
  refine List.rel_append (.cons (sameEntry_refl _) ?_)
    (List.forall₂_same.mpr fun t _ => sameEntry_refl t)
  rw [List.forall₂_map_left_iff, List.forall₂_map_right_iff, List.forall₂_same]
  intro field mem
  exact sameEntry_append hi ho (param_ne_nil read field mem)

theorem written_indent (l : SourceLine) (closed : Option Frame) :
    Alike Eq ((p.setIndent indent).backend.WritesRelated (p.setIndent other).backend SameEntry l)
      ((p.setIndent indent).backend.written l closed)
      ((p.setIndent other).backend.written l closed) := by
  have same : ∀ x : Except Cause Rendering,
      Alike Eq ((p.setIndent indent).backend.WritesRelated (p.setIndent other).backend SameEntry l)
        x x :=
    alike_refl (fun _ => rfl) fun r => p.writesRelated_indent hi ho l rfl
      (List.forall₂_same.mpr fun t _ => sameEntry_refl t) rfl
  have resolution : (p.setIndent indent).backend.resolve l.instruction =
      (p.setIndent other).backend.resolve l.instruction := rfl
  unfold Backend.written
  rw [resolution]
  cases (p.setIndent other).backend.resolve l.instruction with
  | keyword k =>
    cases k with
    | struct =>
      show Alike Eq _ (StructDef.read l.instruction.params >>= _)
        (StructDef.read l.instruction.params >>= _)
      refine alike_bind_same (fun _ => rfl) fun d _ => ?_
      refine alike_bind (p.structBlock_indent hi ho d) ?_
      intro definitions others entries
      exact p.writesRelated_indent hi ho l rfl entries rfl
    | _ => exact same _
  | _ => exact same _

theorem related_indent :
    (p.setIndent indent).backend.Related (p.setIndent other).backend SameEntry where
  separator := sameEntry_refl []
  action _ := rfl
  written := p.written_indent hi ho

theorem assemble_indent {ctx ctx' : Context} (same : ctx.Related SameEntry ctx') :
    SameLines ((p.setIndent indent).assemble ctx) ((p.setIndent other).assemble ctx') := by
  have entries := List.rel_append same.definitions same.hoisted
  have definitions := sameLines_join (sameLines_of_sameEntry entries)
  have body : List.Forall₂ SameLines (ctx.body.map (indent ++ ·)) (ctx'.body.map (other ++ ·)) := by
    rw [List.forall₂_map_left_iff, List.forall₂_map_right_iff]
    exact same.body.imp fun _ _ line => line.1.padded hi ho
  have program : SameLines (join "\n" ((p.setIndent indent).programLines ctx.body))
      (join "\n" ((p.setIndent other).programLines ctx'.body)) :=
    sameLines_join (List.rel_append (.cons (sameLines_refl _) body) (.cons (sameLines_refl _) .nil))
  have none := join_eq_nil_iff_of_sameEntry entries
  unfold assemble
  dsimp only
  by_cases empty : join "\n" (ctx.definitions ++ ctx.hoisted) = []
  · rw [if_pos empty, if_pos (none.mp empty)]
    exact program
  · rw [if_neg empty, if_neg (mt none.mpr empty)]
    simp only [List.append_assoc]
    exact program.append_cons ((sameLines_refl []).append_cons definitions.trimEnd)

end Indent

end Pseudocode

namespace CPlusPlus

def setIndent (c : CPlusPlus) (indent : Text) : CPlusPlus := { c with indent }

section Line

variable {c : CPlusPlus} (solid : ∀ d ∈ c.namespaceName, isBlankChar d = false)
include solid

theorem localize_join (parts : List Text) :
    c.localize (join "\n" parts) = join "\n" (parts.map c.localize) := by
  have foreign : '\n' ∉ c.namespaceName ++ ("::" : Text) := by
    intro mem
    rcases List.mem_append.mp mem with name | colons
    · exact absurd (solid _ name) (by decide)
    · exact absurd colons (by decide)
  unfold localize
  split
  · exact replaceAll_join foreign [] parts
  · rw [List.map_id']

theorem emitted_close (blank : c.indent.isBlank = true) {l : SourceLine}
    (closes : c.backend.resolve l.instruction = .keyword .close) (stack : FrameStack)
    (closed : Option Frame) :
    c.backend.emitted l stack (.ofLines (c.closingLines closed)) =
      (c.closingLines closed).map
        (Text.times (depth (.keyword .close) stack) c.indent ++ ·) := by
  have paired := paired blank solid
  unfold Backend.emitted
  rw [closes, paired.finish]
  cases closed with
  | none => rfl
  | some f =>
    obtain ⟨_, same, alone⟩ := paired.closes (i := l.instruction) (f := f) rfl
    cases same
    exact congrArg _ alone

end Line

section Indent

variable (c : CPlusPlus) {indent other : Text} (hi : indent.IsIndent) (ho : other.IsIndent)
  (solid : ∀ d ∈ c.namespaceName, isBlankChar d = false)
include hi ho

theorem closingLines_indent (closed : Option Frame) :
    List.Forall₂ SameLines ((c.setIndent indent).closingLines closed)
      ((c.setIndent other).closingLines closed) := by
  have step := SameLines.padded hi ho (sameLines_refl ("break;" : Text))
  cases closed with
  | none => exact .nil
  | some f =>
    cases f with
    | vars => exact .nil
    | case | default => exact .cons step .nil
    | _ => exact .cons (sameLines_refl closeBrace) .nil

include solid

theorem finish_indent (r : Resolution) (stack : FrameStack) (texts : List Text) :
    List.Forall₂ SameLines ((c.setIndent indent).finish r stack texts)
      ((c.setIndent other).finish r stack texts) := by
  rw [finish_eq (c := c.setIndent indent) hi.blank solid,
    finish_eq (c := c.setIndent other) ho.blank solid, List.forall₂_map_left_iff,
    List.forall₂_map_right_iff, List.forall₂_same]
  intro text _
  exact SameLines.padded (hi.times _) (ho.times _) (sameLines_refl _)

theorem writesRelated_indent (l : SourceLine) (r : Rendering) :
    (c.setIndent indent).backend.WritesRelated (c.setIndent other).backend SameLines l r r where
  emitted stack := c.finish_indent hi ho solid _ stack _
  definitions := List.forall₂_same.mpr fun t _ => sameLines_refl t
  returnCode := rfl

theorem structText_indent (d : StructDef) :
    Alike Eq (fun s t => SameLines (c.localize s) (c.localize t))
      ((c.setIndent indent).structText d) ((c.setIndent other).structText d) := by
  refine alike_map_same ?_
  intro fields _
  have lines : List.Forall₂ SameLines ((fields.map (c.setIndent indent).fieldLine).map c.localize)
      ((fields.map (c.setIndent other).fieldLine).map c.localize) := by
    rw [List.map_map, List.map_map, List.forall₂_map_left_iff, List.forall₂_map_right_iff,
      List.forall₂_same]
    intro field _
    show SameLines (c.localize (indent ++ field ++ ";")) (c.localize (other ++ field ++ ";"))
    rw [List.append_assoc, List.append_assoc, localize_append hi.blank solid,
      localize_append ho.blank solid]
    exact SameLines.padded hi ho (sameLines_refl _)
  rw [localize_join solid, localize_join solid, List.map_append, List.map_append]
  exact sameLines_join
    (List.rel_append (.cons (sameLines_refl _) lines) (.cons (sameLines_refl _) .nil))

theorem written_indent (l : SourceLine) (closed : Option Frame) :
    Alike Eq ((c.setIndent indent).backend.WritesRelated (c.setIndent other).backend SameLines l)
      ((c.setIndent indent).backend.written l closed)
      ((c.setIndent other).backend.written l closed) := by
  have same : ∀ x : Except Cause Rendering,
      Alike Eq ((c.setIndent indent).backend.WritesRelated (c.setIndent other).backend SameLines l)
        x x := alike_refl (fun _ => rfl) (c.writesRelated_indent hi ho solid l)
  have resolution : (c.setIndent indent).backend.resolve l.instruction =
      (c.setIndent other).backend.resolve l.instruction := rfl
  unfold Backend.written
  rw [resolution]
  cases hr : (c.setIndent other).backend.resolve l.instruction with
  | keyword k =>
    cases k with
    | close =>
      refine ⟨?_, .nil, rfl⟩
      intro stack
      rw [emitted_close (c := c.setIndent indent) solid hi.blank (resolution.trans hr),
        emitted_close (c := c.setIndent other) solid ho.blank hr, List.forall₂_map_left_iff,
        List.forall₂_map_right_iff]
      exact (c.closingLines_indent hi ho closed).imp fun _ _ line =>
        line.padded (hi.times _) (ho.times _)
    | struct =>
      show Alike Eq _ (StructDef.read l.instruction.params >>= _)
        (StructDef.read l.instruction.params >>= _)
      refine alike_bind_same (fun _ => rfl) fun d _ => ?_
      refine alike_bind (c.structText_indent hi ho solid d) ?_
      intro definitions others entries
      refine ⟨fun stack => c.finish_indent hi ho solid _ stack _, .cons entries .nil, rfl⟩
    | _ => exact same _
  | _ => exact same _

theorem related_indent :
    (c.setIndent indent).backend.Related (c.setIndent other).backend SameLines where
  separator := sameLines_refl []
  action _ := rfl
  written := c.written_indent hi ho solid

omit solid

theorem assemble_indent (source : Text) {ctx ctx' : Context} (same : ctx.Related SameLines ctx') :
    SameLines ((c.setIndent indent).assemble source ctx)
      ((c.setIndent other).assemble source ctx') := by
  have refl : ∀ lines : List Text, List.Forall₂ SameLines lines lines :=
    fun lines => List.forall₂_same.mpr fun t _ => sameLines_refl t
  have definitions : ∀ {texts others : List Text}, List.Forall₂ SameLines texts others →
      List.Forall₂ SameLines (if texts = [] then [] else texts ++ [[]])
        (if others = [] then [] else others ++ [[]]) := by
    rintro _ _ (_ | ⟨first, rest⟩)
    · exact .nil
    · exact List.rel_append (.cons first rest) (refl [[]])
  have body : List.Forall₂ SameLines (ctx.body.map (indent ++ ·)) (ctx'.body.map (other ++ ·)) := by
    rw [List.forall₂_map_left_iff, List.forall₂_map_right_iff]
    exact same.body.imp fun _ _ line => line.padded hi ho
  have seed : List.Forall₂ SameLines ((c.setIndent indent).seed source)
      ((c.setIndent other).seed source) := by
    unfold seed
    cases Builtin.usedIn .random source with
    | true => exact .cons (SameLines.padded hi ho (sameLines_refl _)) .nil
    | false => exact .nil
  have last : List.Forall₂ SameLines [indent ++ "return " ++ ctx.returnCode ++ ";", closeBrace]
      [other ++ "return " ++ ctx'.returnCode ++ ";", closeBrace] := by
    simp only [List.append_assoc, same.returnCode]
    exact .cons (SameLines.padded hi ho (sameLines_refl _)) (refl _)
  rw [assemble_eq, assemble_eq]
  refine sameLines_join (List.rel_append (List.rel_append (List.rel_append ?_ ?_) body) last)
  · exact List.rel_append (List.rel_append (refl _) (definitions same.definitions)) same.hoisted
  · exact .cons (sameLines_refl _) seed

end Indent

end CPlusPlus

namespace Settings

def setIndent (s : Settings) (indent : Text) : Settings := { s with indent }

/-- With another indentation a program fails as before, or its output has the same lines but for the
    blanks that they start with. -/
theorem compile_setIndent (s : Settings) (target : Target) (lines : List Text) (indent other : Text)
    (hi : indent.IsIndent) (ho : other.IsIndent)
    (solid : ∀ d ∈ s.namespaceName, isBlankChar d = false) :
    (∃ fault, ((s.setIndent indent).backend target).compile lines = .error fault ∧
        ((s.setIndent other).backend target).compile lines = .error fault) ∨
      ∃ out out', ((s.setIndent indent).backend target).compile lines = .ok out ∧
        ((s.setIndent other).backend target).compile lines = .ok out' ∧
        (out.splitOn '\n').map trimStart = (out'.splitOn '\n').map trimStart := by
  refine alike_cases (R := SameLines) ?_
  cases target with
  | pseudocode =>
    exact (s.pseudocode.related_indent hi ho).compile fun _ _ => s.pseudocode.assemble_indent hi ho
  | cpp =>
    exact (s.cpp.related_indent hi ho solid).compile fun _ _ => s.cpp.assemble_indent hi ho _

theorem compile_setIndent_branch :
    let lines : List Text := ["struct P int x", "switch y", "case 1", "print std::a", "end", "end"]
    let s : Settings := { importNamespace := true }
    ∃ out out', (s.setIndent []).cpp.backend.compile lines = .ok out ∧
      (s.setIndent "  \t").cpp.backend.compile lines = .ok out' ∧
      (out.splitOn '\n').map trimStart = (out'.splitOn '\n').map trimStart := by
  intro lines s
  have none : IsIndent [] := ⟨rfl, List.not_mem_nil⟩
  have blanks : IsIndent "  \t" := ⟨rfl, by decide⟩
  have solid : ∀ d ∈ s.namespaceName, isBlankChar d = false :=
    List.forall_iff_forall_mem.mp (by decide)
  have compiles : ((s.setIndent []).cpp.backend.compile lines).toOption.isSome = true := by
    decide +kernel
  rcases compile_setIndent s .cpp lines [] "  \t" none blanks solid with ⟨fault, fails, _⟩ | same
  · have refused : (s.setIndent []).cpp.backend.compile lines = .error fault := fails
    rw [refused] at compiles
    cases compiles
  · exact same

end Settings
end BlockScript
