import BlockScript.Proofs.Occurrence
import BlockScript.Proofs.Renumbering

/-!
A program that goes on after another one. Nothing of the first but its finished lines and its return
code reaches the second: its blocks are closed, and no line is written by its number. So the second
runs as it does alone, with its lines numbered on.
-/
namespace BlockScript

namespace SourceLine

theorem number_append (first second : List Text) :
    number (first ++ second) =
      number first ++ (number second).map (renumber (· + first.length)) := by
  have later : second.zipIdx (1 + first.length) =
      (second.zipIdx 1).map (Prod.map id (· + first.length)) := by
    rw [List.map_snd_add_zipIdx_eq_zipIdx, Nat.add_comm]
  unfold number
  rw [List.zipIdx_append, List.map_append, later, List.map_map, List.map_map]
  rfl

theorem number_append_cons (before after : List Text) (line : Text) :
    number (before ++ line :: after) = number before ++
      ⟨line.dropEndWhile (· == '\r'), before.length + 1⟩ ::
        (number after).map (renumber (· + (before.length + 1))) := by
  have later : number (line :: after) =
      ⟨line.dropEndWhile (· == '\r'), 1⟩ :: (number after).map (renumber (· + 1)) :=
    number_append [line] after
  have moved : ((number after).map (renumber (· + 1))).map (renumber (· + before.length)) =
      (number after).map (renumber (· + (before.length + 1))) := by
    rw [List.map_map]
    refine List.map_congr_left fun l _ => ?_
    show mk l.text (l.index + 1 + before.length) = mk l.text (l.index + (before.length + 1))
    rw [Nat.add_assoc, Nat.add_comm 1]
  rw [number_append, later, List.map_cons, moved]
  simp [renumber, Nat.add_comm]

end SourceLine

/-- The state of a program that goes on after `start`, and the state of the same program alone. -/
structure Context.Continues (n : Nat) (start alone whole : Context) : Prop where
  stack : whole.stack = alone.stack.renumber (· + n)
  body : whole.body = start.body ++ alone.body
  hoisted : whole.hoisted = start.hoisted ++ alone.hoisted
  definitions : whole.definitions = start.definitions ++ alone.definitions

theorem Context.continues_start {start : Context} (ended : start.stack = []) (n : Nat) :
    Continues n start {} start where
  stack := ended
  body := (List.append_nil _).symm
  hoisted := (List.append_nil _).symm
  definitions := (List.append_nil _).symm

namespace Backend

variable {b : Backend} (hb : b.NumberFree)
include hb

theorem NumberFree.carries_continues (n : Nat) (start : Context) :
    b.Carries (· + n) (start.Continues n) where
  stack h := h.stack
  settle l stack closed r alone whole h := by
    have lines := hb.emitted (f := (· + n)) l stack r
    have route := relocates_renumber (f := (· + n)) stack closed
    refine ⟨rfl, ?_, ?_, ?_⟩
    · simp only [Backend.settle, route, lines, h.body]
      cases relocates stack closed <;> simp
    · simp only [Backend.settle, route, lines, h.hoisted]
      cases relocates stack closed <;> simp
    · simp only [Backend.settle, h.definitions, List.append_assoc]

theorem NumberFree.reach_number_append {first : List Text} {start : Context}
    (run : b.reach (SourceLine.number first) {} = .ok start)
    (ended : start.stack = []) (second : List Text) :
    Alike (fun early late => late = early.renumber (· + first.length))
      (start.Continues first.length)
      (b.reach (SourceLine.number second) {})
      (b.reach (SourceLine.number (first ++ second)) {}) := by
  have whole : b.reach (SourceLine.number (first ++ second)) {} =
      b.reach ((SourceLine.number second).map (SourceLine.renumber (· + first.length))) start := by
    rw [SourceLine.number_append, reach_append, run]
    rfl
  rw [whole]
  exact hb.reach (hb.carries_continues first.length start) _
    (Context.continues_start ended first.length)

omit hb in
theorem conclude_continues {n : Nat} {start alone whole : Context}
    (h : start.Continues n alone whole) (second lines : List Text) :
    Alike (fun early late => late = early.renumber (· + n)) (fun _ _ => True)
      (b.conclude second alone) (b.conclude lines whole) := by
  unfold conclude
  rw [h.stack]
  cases alone.stack with
  | nil => trivial
  | cons innermost others => rfl

theorem NumberFree.compile_append_error {first second : List Text} {out : Text} {fault : Fault}
    (compiles : b.compile first = .ok out)
    (fails : b.compile second = .error fault) :
    b.compile (first ++ second) = .error ⟨fault.cause, fault.line + first.length⟩ := by
  obtain ⟨start, run, ended, _⟩ := compile_eq_ok_iff.mp compiles
  have runs := hb.reach_number_append run ended second
  have both := alike_bind runs fun _ _ h =>
    conclude_continues (b := b) h second (first ++ second)
  rw [← compile_eq, ← compile_eq] at both
  obtain ⟨_, later, rfl⟩ := exists_error_of_alike both fails
  exact later

end Backend

namespace CPlusPlus

def returnCode? (c : CPlusPlus) (l : SourceLine) : Option Text :=
  if c.backend.resolve l.instruction = .keyword .returnCode ∧ l.instruction.rest ≠ [] then
    some l.instruction.rest
  else none

def returnCodes (c : CPlusPlus) (lines : List Text) : List Text :=
  (SourceLine.number lines).filterMap c.returnCode?

theorem render_returnCode {c : CPlusPlus} {k : Keyword} {i : Instruction} {closed : Option Frame}
    {r : Rendering} (h : c.render k i closed = .ok r) :
    r.returnCode = if k = .returnCode ∧ i.rest ≠ [] then some i.rest else none := by
  cases k with
  | returnCode =>
    cases h
    by_cases empty : i.rest = [] <;> simp [empty]
  | forLoop | fx | init =>
    obtain ⟨_, _, rendered⟩ := bind_eq_ok_iff.mp h
    cases rendered
    rfl
  | arr | struct | const =>
    obtain ⟨_, _, read⟩ := bind_eq_ok_iff.mp h
    obtain ⟨_, _, rendered⟩ := bind_eq_ok_iff.mp read
    cases rendered
    rfl
  | _ =>
    cases h
    rfl

theorem written_returnCode {c : CPlusPlus} {l : SourceLine} {closed : Option Frame} {r : Rendering}
    (h : c.backend.written l closed = .ok r) : r.returnCode = c.returnCode? l := by
  unfold Backend.written at h
  unfold returnCode?
  cases hr : c.backend.resolve l.instruction with
  | keyword k =>
    rw [hr] at h
    simpa using render_returnCode h
  | declaration =>
    rw [hr] at h
    obtain ⟨lines, _, rendered⟩ := bind_eq_ok_iff.mp h
    cases rendered
    rfl
  | assignment =>
    rw [hr] at h
    cases h
    rfl
  | passThrough =>
    rw [hr] at h
    cases h
    rfl

theorem reach_returnCode {c : CPlusPlus} {lines : List SourceLine} {ctx after : Context}
    (run : c.backend.reach lines ctx = .ok after) :
    after.returnCode = (lines.filterMap c.returnCode?).getLastD ctx.returnCode := by
  induction lines generalizing ctx with
  | nil =>
    cases run
    rfl
  | cons l rest ih =>
    obtain ⟨mid, first, run⟩ := Backend.reach_cons_eq_ok_iff.mp run
    obtain ⟨a, _, stack, closed, _, r, writes, rfl⟩ := Backend.outcome_eq_ok_iff.mp first
    rw [ih run]
    show List.getLastD _ (r.returnCode.getD ctx.returnCode) = _
    rw [written_returnCode writes]
    cases sets : c.returnCode? l with
    | none => rw [List.filterMap_cons_none sets, Option.getD_none]
    | some code => rw [List.filterMap_cons_some sets, List.getLastD_cons, Option.getD_some]

theorem returnCodes_append (c : CPlusPlus) (first second : List Text) :
    c.returnCodes (first ++ second) = c.returnCodes first ++ c.returnCodes second := by
  have unnumbered : c.returnCode? ∘ SourceLine.renumber (· + first.length) =
      c.returnCode? := rfl
  unfold returnCodes
  rw [SourceLine.number_append, List.filterMap_append, List.filterMap_map, unnumbered]

end CPlusPlus

namespace Builtin

theorem usedIn_join_iff (f : Builtin) (lines : List Text) :
    f.usedIn (Text.join "\n" lines) = true ↔ ∃ line ∈ lines, f.usedIn line = true := by
  have spelled : ∀ name ∈ f.sourceNames, '\n' ∉ name ∧ name ≠ [] := by
    cases f <;> decide
  have within : ∀ name ∈ f.sourceNames, (name.occursIn (Text.join "\n" lines) = true ↔
      ∃ line ∈ lines, name.occursIn line = true) := by
    intro name mem
    simp only [Text.occursIn_iff]
    exact Text.infix_join_iff (spelled name mem).1 (spelled name mem).2 lines
  simp only [usedIn, List.any_eq_true]
  constructor
  · rintro ⟨name, mem, occurs⟩
    obtain ⟨line, here, occurs⟩ := (within name mem).mp occurs
    exact ⟨line, here, name, mem, occurs⟩
  · rintro ⟨line, here, name, mem, occurs⟩
    exact ⟨name, mem, (within name mem).mpr ⟨line, here, occurs⟩⟩

theorem usedIn_join_append (f : Builtin) (first second : List Text) :
    f.usedIn (Text.join "\n" (first ++ second)) =
      (f.usedIn (Text.join "\n" first) || f.usedIn (Text.join "\n" second)) := by
  rw [Bool.eq_iff_iff]
  simp only [Bool.or_eq_true, usedIn_join_iff, List.mem_append, or_and_right, exists_or]

end Builtin

namespace CPlusPlus

def seed (c : CPlusPlus) (source : Text) : List Text :=
  linesIf (Builtin.usedIn .random source) [c.indent ++ "srand(time(NULL));"]

theorem assemble_eq (c : CPlusPlus) (source : Text) (ctx : Context) :
    c.assemble source ctx =
      Text.join "\n"
        ((c.preamble source ++ if ctx.definitions = [] then [] else ctx.definitions ++ [[]]) ++
          ctx.hoisted ++ (("int " ++ entryPoint ++ "() " ++ openBrace) :: c.seed source) ++
          ctx.body.map (c.indent ++ ·) ++
          [c.indent ++ "return " ++ ctx.returnCode ++ ";", closeBrace]) := by
  unfold assemble mainLines seed
  simp only [List.append_assoc, List.cons_append, List.nil_append]

theorem mem_linesIf_iff {needed : Bool} {lines : List Text} {line : Text} :
    line ∈ linesIf needed lines ↔ needed = true ∧ line ∈ lines := by
  cases needed <;> simp [linesIf]

theorem mem_headers_append_iff {first second : List Text} {line : Text} :
    line ∈ headers (Text.join "\n" (first ++ second)) ↔
      line ∈ headers (Text.join "\n" first) ∨ line ∈ headers (Text.join "\n" second) := by
  simp only [headers, List.mem_append, List.mem_cons, mem_linesIf_iff, Builtin.usedIn_join_append,
    Bool.or_eq_true]
  grind

theorem mem_seed_append_iff {c : CPlusPlus} {first second : List Text} {line : Text} :
    line ∈ c.seed (Text.join "\n" (first ++ second)) ↔
      line ∈ c.seed (Text.join "\n" first) ∨ line ∈ c.seed (Text.join "\n" second) := by
  simp only [seed, mem_linesIf_iff, Builtin.usedIn_join_append, Bool.or_eq_true, or_and_right]

end CPlusPlus

/-- A program that goes on after one that compiles fails where it fails alone, and otherwise its
    output is that of both: the finished lines in a row, the last return code, and the headers of
    either. -/
theorem Settings.compile_append (s : Settings) (target : Target) (first second : List Text)
    (out : Text) (compiles : (s.backend target).compile first = .ok out) :
    ∃ start, (s.backend target).run (SourceLine.number first) {} = .ok () start ∧
      (∀ out', (s.backend target).compile second = .ok out' →
        ∃ alone whole, (s.backend target).run (SourceLine.number second) {} = .ok () alone ∧
          (s.backend target).run (SourceLine.number (first ++ second)) {} = .ok () whole ∧
          (s.backend target).compile (first ++ second) =
            .ok ((s.backend target).assemble (Text.join "\n" (first ++ second)) whole) ∧
          start.Continues first.length alone whole ∧
          (target = .cpp →
            whole.returnCode = (s.cpp.returnCodes second).getLastD start.returnCode)) ∧
      (∀ fault, (s.backend target).compile second = .error fault →
        (s.backend target).compile (first ++ second) =
          .error ⟨fault.cause, fault.line + first.length⟩) ∧
      (∀ line, line ∈ CPlusPlus.headers (Text.join "\n" (first ++ second)) ↔
        line ∈ CPlusPlus.headers (Text.join "\n" first) ∨
          line ∈ CPlusPlus.headers (Text.join "\n" second)) ∧
      ∀ line, line ∈ s.cpp.seed (Text.join "\n" (first ++ second)) ↔
        line ∈ s.cpp.seed (Text.join "\n" first) ∨ line ∈ s.cpp.seed (Text.join "\n" second) := by
  obtain ⟨start, run, ended, _⟩ := Backend.compile_eq_ok_iff.mp compiles
  have runs := (Backend.numberFree_backend s target).reach_number_append run ended second
  refine ⟨start, Backend.reach_eq_ok_iff.mp run, ?_, ?_,
    fun line => CPlusPlus.mem_headers_append_iff, fun line => CPlusPlus.mem_seed_append_iff⟩
  · intro out' compiles'
    obtain ⟨alone, alone_run, alone_ended, _⟩ := Backend.compile_eq_ok_iff.mp compiles'
    obtain ⟨whole, whole_run⟩ := (isOk_iff_of_alike runs).mp ⟨alone, alone_run⟩
    rw [alone_run, whole_run] at runs
    have continues : start.Continues first.length alone whole := runs
    have ended' : whole.stack = [] := by
      rw [continues.stack, alone_ended]
      rfl
    refine ⟨alone, whole, Backend.reach_eq_ok_iff.mp alone_run,
      Backend.reach_eq_ok_iff.mp whole_run,
      Backend.compile_eq_ok_iff.mpr ⟨whole, whole_run, ended', rfl⟩, continues, ?_⟩
    rintro rfl
    have code := CPlusPlus.reach_returnCode run
    have last := CPlusPlus.reach_returnCode whole_run
    rw [← CPlusPlus.returnCodes] at code last
    rw [CPlusPlus.returnCodes_append] at last
    rw [last, code]
    simp only [List.getLastD_eq_getLast?, List.getLast?_append, Option.getD_or]
  · intro fault fails
    exact (Backend.numberFree_backend s target).compile_append_error compiles fails

theorem Settings.compile_append_two_return_codes :
    let first : List Text := ["fx void f", "end", "CODE_RETOUR 1"]
    let second : List Text := ["x = alea(6)", "CODE_RETOUR 2"]
    ∃ out, ({} : Settings).cpp.backend.compile first = .ok out ∧
      ∃ whole, ({} : Settings).cpp.backend.run (SourceLine.number (first ++ second)) {} =
          .ok () whole ∧
        whole.returnCode = "2" := by
  intro first second
  have isOk : ∀ lines ∈ [first, second],
      (({} : Settings).cpp.backend.compile lines).toOption.isSome = true := by
    decide +kernel
  obtain ⟨out, compiles⟩ := exists_eq_ok_of_isSome (isOk first (by decide))
  obtain ⟨out', compiles'⟩ := exists_eq_ok_of_isSome (isOk second (by decide))
  obtain ⟨start, _, parts, _⟩ := Settings.compile_append {} .cpp first second out compiles
  obtain ⟨alone, whole, _, run, _, _, code⟩ := parts out' compiles'
  have last : ({} : Settings).cpp.returnCodes second = [("2" : Text)] := by decide +kernel
  have returned := code rfl
  rw [last] at returned
  exact ⟨out, compiles, whole, run, returned⟩

end BlockScript
