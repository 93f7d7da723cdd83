import BlockScript.Proofs.Concatenation
import BlockScript.Proofs.Substitution

/-!
Which sentinels and calls in the source spelling reach the C++ text. The finished lines have none,
since they are substituted; structures, constants and the return code are written as the source has
them, and a qualifier that is dropped after the substitution may join what stood around it.
-/
namespace BlockScript
open Text

section Texts

variable {s t : Text} {c : Char}

theorem markFree_append_cons_iff (foreign : ∀ m ∈ marks, c ∉ m) :
    MarkFree (s ++ c :: t) ↔ MarkFree s ∧ MarkFree t := by
  have nonempty : ∀ m ∈ marks, m ≠ [] := by decide
  have split : ∀ m ∈ marks, (¬ m <:+: s ++ c :: t) ↔ ¬ m <:+: s ∧ ¬ m <:+: t := by
    intro m mem
    rw [infix_append_cons_iff (foreign m mem) (nonempty m mem), not_or]
  constructor
  · intro free
    exact ⟨fun m mem => ((split m mem).mp (free m mem)).1,
      fun m mem => ((split m mem).mp (free m mem)).2⟩
  · rintro ⟨first, second⟩ m mem
    exact (split m mem).mpr ⟨first m mem, second m mem⟩

theorem markFree_nil : MarkFree [] := by decide

theorem markFree_join_iff (foreign : ∀ m ∈ marks, c ∉ m) (parts : List Text) :
    MarkFree (join [c] parts) ↔ ∀ part ∈ parts, MarkFree part := by
  have nonempty : ∀ m ∈ marks, m ≠ [] := by decide
  have within : ∀ m ∈ marks, m <:+: join [c] parts ↔ ∃ part ∈ parts, m <:+: part := by
    intro m mem
    exact infix_join_iff (foreign m mem) (nonempty m mem) parts
  constructor
  · intro free part here m mem found
    exact free m mem ((within m mem).mpr ⟨part, here, found⟩)
  · intro free m mem found
    obtain ⟨part, here, found⟩ := (within m mem).mp found
    exact free part here m mem found

/-- The text has no mark and none begins at its end. -/
def MarkNeutral (pad : Text) : Prop :=
  MarkFree pad ∧ ∀ m ∈ marks, ∀ s ∈ pad.tails, s ≠ [] → ¬ s <+: m

instance (pad : Text) : Decidable (MarkNeutral pad) :=
  inferInstanceAs (Decidable (MarkFree pad ∧ ∀ m ∈ marks, ∀ s ∈ pad.tails, s ≠ [] → ¬ s <+: m))

theorem MarkNeutral.append_iff (neutral : MarkNeutral s) (t : Text) :
    MarkFree (s ++ t) ↔ MarkFree t := by
  have padded : ∀ m ∈ marks, m <:+: s ++ t ↔ m <:+: t := by
    intro m mem
    have detached : Detached m s := ⟨neutral.1 m mem, neutral.2 m mem⟩
    exact detached.infix_append_iff t
  constructor
  · intro free m mem found
    exact free m mem ((padded m mem).mpr found)
  · intro free m mem found
    exact free m mem ((padded m mem).mp found)

theorem MarkNeutral.times_append_iff (neutral : MarkNeutral s) (n : Nat) (t : Text) :
    MarkFree (times n s ++ t) ↔ MarkFree t := by
  induction n with
  | zero => rfl
  | succ n ih =>
    have more : times (n + 1) s ++ t = s ++ (times n s ++ t) := by
      simp [times, List.replicate_succ]
    rw [more, neutral.append_iff, ih]

end Texts

namespace CPlusPlus

structure AddsNoMark (c : CPlusPlus) : Prop where
  indent : MarkNeutral c.indent
  namespaceName : MarkFree c.namespaceName

variable {c : CPlusPlus}

theorem markFree_terminated {t : Text} (r : Resolution) (free : MarkFree t) :
    MarkFree (terminated r t) := by
  have foreign : ∀ m ∈ marks, ';' ∉ m := by decide
  unfold terminated
  split
  · exact (markFree_append_cons_iff foreign).mpr ⟨free, markFree_nil⟩
  · exact free

/-- The text had no mark before the qualifier was dropped from it. -/
def Finished (c : CPlusPlus) (t : Text) : Prop := ∃ whole, MarkFree whole ∧ c.localize whole = t

theorem Finished.markFree {t : Text} (finished : c.Finished t)
    (qualified : c.importNamespace = false) : MarkFree t := by
  obtain ⟨whole, free, rfl⟩ := finished
  unfold localize
  rw [qualified]
  exact free

theorem finished_nil (c : CPlusPlus) : c.Finished [] := by
  have written : c.localize [] = [] := by simp [localize, Text.replaceAll, Text.replaceFrom]
  exact ⟨[], markFree_nil, written⟩

theorem AddsNoMark.finish (hc : c.AddsNoMark) (r : Resolution) (stack : FrameStack)
    (lines : List Text) : ∀ t ∈ c.finish r stack lines, c.Finished t := by
  intro t mem
  obtain ⟨text, _, rfl⟩ := List.mem_map.mp mem
  refine ⟨_, ?_, rfl⟩
  rw [hc.indent.times_append_iff]
  exact markFree_terminated r (markFree_substitute text)

theorem AddsNoMark.outcome_finished (hc : c.AddsNoMark) {l : SourceLine} {ctx after : Context}
    (h : c.backend.outcome l ctx = .ok after)
    (before : ∀ t ∈ ctx.body ++ ctx.hoisted, c.Finished t) :
    ∀ t ∈ after.body ++ after.hoisted, c.Finished t := by
  obtain ⟨a, _, stack, closed, _, r, _, rfl⟩ := Backend.outcome_eq_ok_iff.mp h
  have lines : ∀ t ∈ c.backend.emitted l stack r, c.Finished t := hc.finish _ stack _
  have separator : ∀ t ∈ (if closed.any Frame.isFunction then [([] : Text)] else []),
      c.Finished t := by
    intro t mem
    split at mem
    · rw [List.mem_singleton.mp mem]
      exact c.finished_nil
    · cases mem
  intro t mem
  rw [List.mem_append] at mem
  unfold Backend.settle at mem
  dsimp only at mem
  split at mem
  · rw [List.mem_append, List.mem_append] at mem
    rcases mem with body | (hoisted | added) | gap
    · exact before t (List.mem_append_left _ body)
    · exact before t (List.mem_append_right _ hoisted)
    · exact lines t added
    · exact separator t gap
  · rw [List.mem_append] at mem
    rcases mem with (body | added) | hoisted
    · exact before t (List.mem_append_left _ body)
    · exact lines t added
    · exact before t (List.mem_append_right _ hoisted)

def defined (c : CPlusPlus) (l : SourceLine) : List Text :=
  match c.backend.written l none with
  | .ok r => r.definitions
  | .error _ => []

theorem render_eq_none {k : Keyword} (other : k ≠ .close) (i : Instruction)
    (closed : Option Frame) : c.render k i closed = c.render k i none := by
  cases k with
  | close => exact absurd rfl other
  | _ => rfl

theorem written_definitions {l : SourceLine} {closed : Option Frame} {r : Rendering}
    (h : c.backend.written l closed = .ok r) : r.definitions = c.defined l := by
  unfold defined Backend.written
  unfold Backend.written at h
  cases hr : c.backend.resolve l.instruction with
  | keyword k =>
    rw [hr] at h
    have rendered : c.render k l.instruction closed = .ok r := h
    show r.definitions = match c.render k l.instruction none with
      | .ok r => r.definitions
      | .error _ => []
    by_cases close : k = .close
    · subst close
      cases rendered
      rfl
    · rw [← render_eq_none close l.instruction closed, rendered]
  | passThrough =>
    rw [hr] at h
    cases h
    rfl
  | _ =>
    rw [hr] at h
    dsimp only at h ⊢
    rw [h]

theorem reach_definitions {lines : List SourceLine} {ctx after : Context}
    (run : c.backend.reach lines ctx = .ok after) :
    after.definitions = ctx.definitions ++ lines.flatMap c.defined := by
  induction lines generalizing ctx with
  | nil =>
    cases run
    exact (List.append_nil _).symm
  | cons l rest ih =>
    obtain ⟨mid, first, run⟩ := Backend.reach_cons_eq_ok_iff.mp run
    obtain ⟨a, _, stack, closed, _, r, writes, rfl⟩ := Backend.outcome_eq_ok_iff.mp first
    rw [ih run, List.flatMap_cons, ← written_definitions writes, ← List.append_assoc]
    rfl

theorem AddsNoMark.preamble (hc : c.AddsNoMark) (source : Text) :
    ∀ t ∈ c.preamble source, MarkFree t := by
  have front : MarkNeutral ("using namespace " : Text) := by decide
  have foreign : ∀ m ∈ marks, ';' ∉ m := by decide
  have name : MarkFree ("using namespace " ++ c.namespaceName ++ ";" : Text) :=
    (markFree_append_cons_iff foreign).mpr
      ⟨(front.append_iff _).mpr hc.namespaceName, markFree_nil⟩
  intro t mem
  unfold CPlusPlus.preamble headers at mem
  simp only [List.mem_append, List.mem_cons, mem_linesIf_iff, List.not_mem_nil, or_false] at mem
  rcases mem with ((((rfl | ⟨_, rfl⟩) | ⟨_, rfl | rfl⟩) | ⟨_, rfl⟩) | ⟨_, rfl⟩) | rfl
  · decide
  · decide
  · decide
  · decide
  · decide
  · exact name
  · exact markFree_nil

theorem AddsNoMark.seed (hc : c.AddsNoMark) (source : Text) : ∀ t ∈ c.seed source, MarkFree t := by
  have call : MarkFree ("srand(time(NULL));" : Text) := by decide
  intro t mem
  obtain ⟨_, here⟩ := mem_linesIf_iff.mp mem
  rw [List.mem_singleton.mp here, hc.indent.append_iff]
  exact call

theorem AddsNoMark.returnLine_iff (hc : c.AddsNoMark) (code : Text) :
    MarkFree (c.indent ++ "return " ++ code ++ ";") ↔ MarkFree code := by
  have front : MarkNeutral ("return " : Text) := by decide
  have foreign : ∀ m ∈ marks, ';' ∉ m := by decide
  have last : MarkFree (c.indent ++ "return " ++ code ++ ";") ↔
      MarkFree (c.indent ++ "return " ++ code) ∧ MarkFree [] := markFree_append_cons_iff foreign
  rw [last, List.append_assoc, hc.indent.append_iff, front.append_iff]
  exact and_iff_left markFree_nil

theorem AddsNoMark.assemble_iff (hc : c.AddsNoMark) (source : Text) (ctx : Context) :
    MarkFree (c.assemble source ctx) ↔
      (∀ d ∈ ctx.definitions, MarkFree d) ∧ MarkFree ctx.returnCode ∧
        ∀ t ∈ ctx.body ++ ctx.hoisted, MarkFree t := by
  have preamble := hc.preamble source
  have entry : MarkFree ("int " ++ entryPoint ++ "() " ++ openBrace) := by decide
  have seed := hc.seed source
  have value := hc.returnLine_iff ctx.returnCode
  have brace : MarkFree closeBrace := by decide
  have definitions :
      (∀ d ∈ (if ctx.definitions = [] then [] else ctx.definitions ++ [[]]), MarkFree d) ↔
        ∀ d ∈ ctx.definitions, MarkFree d := by
    split
    · rename_i none
      rw [none]
    · rw [List.forall_mem_append, List.forall_mem_singleton]
      exact and_iff_left markFree_nil
  have body : (∀ t ∈ ctx.body.map (c.indent ++ ·), MarkFree t) ↔ ∀ t ∈ ctx.body, MarkFree t := by
    simp only [List.forall_mem_map, hc.indent.append_iff]
  rw [assemble_eq]
  refine (markFree_join_iff (by decide) _).trans ?_
  simp only [List.forall_mem_append, body, definitions, List.forall_mem_cons, value]
  constructor
  · rintro ⟨⟨⟨⟨⟨_, structures⟩, hoisted⟩, _⟩, lines⟩, code, _⟩
    exact ⟨structures, code, lines, hoisted⟩
  · rintro ⟨structures, code, lines, hoisted⟩
    exact ⟨⟨⟨⟨⟨preamble, structures⟩, hoisted⟩, entry, seed⟩, lines⟩, code, brace, nofun⟩

end CPlusPlus

/-- The output has a mark only where the source is written as it is, in a structure, in a constant
    or in the value that the program returns, or where a dropped qualifier left one. -/
theorem CPlusPlus.markFree_output_iff (c : CPlusPlus) (lines : List Text) (out : Text)
    (hc : c.AddsNoMark) (compiles : c.backend.compile lines = .ok out) :
    ∃ ctx, c.backend.run (SourceLine.number lines) {} = .ok () ctx ∧
      (∀ t ∈ ctx.body ++ ctx.hoisted, c.Finished t) ∧
      (MarkFree out ↔
        (∀ l ∈ SourceLine.number lines, ∀ d ∈ c.defined l, MarkFree d) ∧
          MarkFree ((c.returnCodes lines).getLastD "0") ∧
          (c.importNamespace = true → ∀ t ∈ ctx.body ++ ctx.hoisted, MarkFree t)) := by
  obtain ⟨ctx, run, ended, rfl⟩ := Backend.compile_eq_ok_iff.mp compiles
  have step : ∀ l ∈ SourceLine.number lines, ∀ before after,
      c.backend.outcome l before = .ok after →
        (∀ t ∈ before.body ++ before.hoisted, c.Finished t) →
          ∀ t ∈ after.body ++ after.hoisted, c.Finished t :=
    fun l _ before after => hc.outcome_finished
  have finished : ∀ t ∈ ctx.body ++ ctx.hoisted, c.Finished t :=
    Backend.reach_preserves step run nofun
  refine ⟨ctx, Backend.reach_eq_ok_iff.mp run, finished, ?_⟩
  have definitions := reach_definitions run
  have code := reach_returnCode run
  rw [← returnCodes] at code
  have rejoined : (∀ t ∈ ctx.body ++ ctx.hoisted, MarkFree t) ↔
      (c.importNamespace = true → ∀ t ∈ ctx.body ++ ctx.hoisted, MarkFree t) := by
    constructor
    · intro free _
      exact free
    · intro free
      cases imported : c.importNamespace with
      | false => exact fun t mem => (finished t mem).markFree imported
      | true => exact free imported
  have assembled := hc.assemble_iff (Text.join "\n" lines) ctx
  rw [rejoined, definitions, code, List.nil_append, List.forall_mem_flatMap] at assembled
  exact assembled

theorem CPlusPlus.markFree_output_printed_call :
    let lines : List Text := ["print racine(2) & (ENDL)"]
    ∃ out, ({} : CPlusPlus).backend.compile lines = .ok out ∧ MarkFree out := by
  intro lines
  have compiles : (({} : CPlusPlus).backend.compile lines).toOption.isSome = true := by
    decide +kernel
  have unmarked : ({} : CPlusPlus).AddsNoMark := ⟨by decide, by decide⟩
  have plain : ∀ l ∈ SourceLine.number lines, ∀ d ∈ ({} : CPlusPlus).defined l, MarkFree d := by
    decide +kernel
  have code : MarkFree ((({} : CPlusPlus).returnCodes lines).getLastD "0") := by decide +kernel
  obtain ⟨out, compiles⟩ := exists_eq_ok_of_isSome compiles
  obtain ⟨ctx, _, _, free⟩ := CPlusPlus.markFree_output_iff {} lines out unmarked compiles
  exact ⟨out, compiles, free.mpr ⟨plain, code, nofun⟩⟩

/-- A constant keeps a call in its source spelling, which is not a function of the target. -/
theorem CPlusPlus.mark_in_constant :
    ({} : CPlusPlus).AddsNoMark ∧ (∀ entry ∈ ({} : CPlusPlus).types.entries, MarkFree entry.2) ∧
      ∃ out, ({} : CPlusPlus).backend.compile ["const float r = racine(2)"] = .ok out ∧
        ("racine(" : Text) <:+: out := by
  refine ⟨⟨by decide, by decide⟩, by decide, ?_⟩
  have found : (({} : CPlusPlus).backend.compile ["const float r = racine(2)"]).toOption.any
      (Text.occursIn "racine(") = true := by
    decide +kernel
  cases h : ({} : CPlusPlus).backend.compile ["const float r = racine(2)"] with
  | error fault =>
    rw [h] at found
    cases found
  | ok out =>
    rw [h] at found
    exact ⟨out, rfl, (Text.occursIn_iff _ _).mp found⟩

end BlockScript
