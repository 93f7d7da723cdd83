import BlockScript.Proofs.Line

/-!
A compilation as a sequence of line outcomes. The first line that fails ends it, and the end of the
program asks only whether a block is still open.
-/
namespace BlockScript

namespace SourceLine

theorem text_number (lines : List Text) :
    (number lines).map (·.text) = lines.map (·.dropEndWhile (· == '\r')) := by
  unfold number
  rw [List.map_map]
  conv => rhs; rw [← List.zipIdx_map_fst 1 lines, List.map_map]
  rfl

theorem exists_number_iff {lines : List Text} {text : Text} :
    (∃ l ∈ number lines, l.text = text) ↔ ∃ line ∈ lines, line.dropEndWhile (· == '\r') = text := by
  rw [← List.mem_map, text_number, List.mem_map]

end SourceLine

namespace Backend

variable {b : Backend} {l : SourceLine} {rest : List SourceLine} {ctx after : Context}
  {fault : Fault}

/-- The context after the lines, or the fault of the first that fails. -/
def reach (b : Backend) (lines : List SourceLine) (ctx : Context) : Except Fault Context :=
  verdict (b.run lines ctx)

theorem reach_eq_ok_iff {lines : List SourceLine} :
    b.reach lines ctx = .ok after ↔ b.run lines ctx = .ok () after := verdict_eq_ok_iff

theorem reach_nil (b : Backend) (ctx : Context) : b.reach [] ctx = .ok ctx := rfl

theorem reach_cons (b : Backend) (l : SourceLine) (rest : List SourceLine) (ctx : Context) :
    b.reach (l :: rest) ctx =
      (b.outcome l ctx).mapError (Fault.mk · l.index) >>= b.reach rest := by
  rw [← verdict_step, reach, run_cons]
  cases b.step l ctx <;> rfl

theorem reach_cons_eq_ok_iff :
    b.reach (l :: rest) ctx = .ok after ↔
      ∃ mid, b.outcome l ctx = .ok mid ∧ b.reach rest mid = .ok after := by
  simp only [reach_cons, bind_eq_ok_iff, mapError_eq_ok_iff]

theorem reach_cons_eq_error_iff :
    b.reach (l :: rest) ctx = .error fault ↔
      (∃ cause, b.outcome l ctx = .error cause ∧ fault = ⟨cause, l.index⟩) ∨
      ∃ mid, b.outcome l ctx = .ok mid ∧ b.reach rest mid = .error fault := by
  simp only [reach_cons, bind_eq_error_iff, mapError_eq_error_iff, mapError_eq_ok_iff]

theorem reach_append (b : Backend) (first second : List SourceLine) (ctx : Context) :
    b.reach (first ++ second) ctx = b.reach first ctx >>= b.reach second := by
  induction first generalizing ctx with
  | nil => rfl
  | cons l first ih =>
    rw [List.cons_append, reach_cons, reach_cons]
    cases (b.outcome l ctx).mapError (Fault.mk · l.index) with
    | error fault => rfl
    | ok mid => exact ih mid

theorem reach_append_eq_ok_iff {past more : List SourceLine} :
    b.reach (past ++ more) ctx = .ok after ↔
      ∃ mid, b.reach past ctx = .ok mid ∧ b.reach more mid = .ok after := by
  rw [reach_append, bind_eq_ok_iff]

theorem reach_concat_eq_ok_iff {past : List SourceLine} :
    b.reach (past ++ [l]) ctx = .ok after ↔
      ∃ mid, b.reach past ctx = .ok mid ∧ b.outcome l mid = .ok after := by
  simp only [reach_append_eq_ok_iff, reach_cons_eq_ok_iff, reach_nil, Except.ok.injEq,
    exists_eq_right]

theorem reach_preserves {lines : List SourceLine} {I : Context → Prop}
    (step : ∀ l ∈ lines, ∀ ctx after, b.outcome l ctx = .ok after → I ctx → I after)
    (run : b.reach lines ctx = .ok after) (start : I ctx) : I after := by
  induction lines generalizing ctx with
  | nil =>
    cases run
    exact start
  | cons l rest ih =>
    obtain ⟨mid, first, run⟩ := reach_cons_eq_ok_iff.mp run
    have next := step l List.mem_cons_self ctx mid first start
    exact ih (fun l' mem => step l' (List.mem_cons_of_mem l mem)) run next

theorem compile_eq (b : Backend) (lines : List Text) :
    b.compile lines = b.reach (SourceLine.number lines) {} >>= b.conclude lines := by
  unfold compile reach
  cases b.run (SourceLine.number lines) {} <;> rfl

theorem conclude_eq_ok_iff {lines : List Text} {out : Text} :
    b.conclude lines ctx = .ok out ↔
      ctx.stack = [] ∧ out = b.assemble (Text.join "\n" lines) ctx := by
  unfold conclude
  cases ctx.stack <;> simp [eq_comm]

theorem conclude_eq_error_iff {lines : List Text} :
    b.conclude lines ctx = .error fault ↔
      ∃ innermost others, ctx.stack = innermost :: others ∧
        fault = ⟨.structural (.unclosedBlock innermost.frame), innermost.line⟩ := by
  unfold conclude
  cases ctx.stack <;> simp [eq_comm]

theorem compile_eq_ok_iff {lines : List Text} {out : Text} :
    b.compile lines = .ok out ↔
      ∃ ctx, b.reach (SourceLine.number lines) {} = .ok ctx ∧ ctx.stack = [] ∧
        out = b.assemble (Text.join "\n" lines) ctx := by
  simp only [compile_eq, bind_eq_ok_iff, conclude_eq_ok_iff]

theorem compile_eq_error_iff {lines : List Text} :
    b.compile lines = .error fault ↔
      b.reach (SourceLine.number lines) {} = .error fault ∨
      ∃ ctx, b.reach (SourceLine.number lines) {} = .ok ctx ∧
        ∃ innermost others, ctx.stack = innermost :: others ∧
          fault = ⟨.structural (.unclosedBlock innermost.frame), innermost.line⟩ := by
  simp only [compile_eq, bind_eq_error_iff, conclude_eq_error_iff]

end Backend
end BlockScript
