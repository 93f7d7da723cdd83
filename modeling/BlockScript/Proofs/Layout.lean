import BlockScript.Proofs.Hoisting

/-!
The layout of pseudocode. The program stands between its first and its last line; behind it, after
a blank line, stand the structures and the functions. Whenever no function is open, each of these
ends in a visible line and a separator, so the final trim takes one line feed and nothing that the
program or the indent brought along.
-/
namespace BlockScript

namespace Pseudocode

variable {entries : List Text}

theorem Separated.getLast? (h : Separated entries) (given : entries ≠ []) :
    entries.getLast? = some [] := by
  rcases h with none | ⟨front, line, rfl, _⟩
  · exact absurd none given
  · simp

theorem Separated.trimEnd_join (h : Separated entries) (given : entries ≠ []) :
    Text.trimEnd (Text.join "\n" entries) = Text.join "\n" entries.dropLast := by
  rcases h with none | ⟨front, line, rfl, nonempty, solid⟩
  · exact absurd none given
  · have kept : (front ++ [line, []]).dropLast = front ++ [line] := by
      rw [List.dropLast_append_of_ne_nil (List.cons_ne_nil line [[]])]
      rfl
    rw [kept, Text.trimEnd_join_separator nonempty solid]

theorem Separated.join_eq (h : Separated entries) (given : entries ≠ []) :
    Text.join "\n" entries = Text.trimEnd (Text.join "\n" entries) ++ "\n" := by
  rcases h with none | ⟨front, line, rfl, nonempty, solid⟩
  · exact absurd none given
  · rw [Text.trimEnd_join_separator nonempty solid, Text.join_separator]
    rfl

end Pseudocode

/-- The body behind one indent a line, between the first and the last line of the program. If there
    are definitions, they follow a blank line, without the separator after the last of them, which
    is all that is trimmed. -/
theorem Settings.pseudocode_layout (s : Settings) (lines : List Text) (out : Text)
    (compiles : (s.backend .pseudocode).compile lines = .ok out) :
    ∃ ctx, (s.backend .pseudocode).run (SourceLine.number lines) {} = .ok () ctx ∧
      let program :=
        Text.join "\n" (("Début" : Text) :: ctx.body.map (s.indent ++ ·) ++ [("Fin" : Text)])
      let definitions := ctx.definitions ++ ctx.hoisted
      (definitions = [] → out = program) ∧
        (definitions ≠ [] →
          definitions.getLast? = some [] ∧
            out = program ++ "\n\n" ++ Text.join "\n" definitions.dropLast ∧
            Text.join "\n" definitions =
              Text.trimEnd (Text.join "\n" definitions) ++ "\n") := by
  obtain ⟨ctx, run, ended, rfl⟩ := Backend.compile_eq_ok_iff.mp compiles
  refine ⟨ctx, Backend.reach_eq_ok_iff.mp run, ?_⟩
  intro program definitions
  have separated : Pseudocode.Separated definitions :=
    (Pseudocode.reach_spaced run).separated ended
  have assembled : (s.backend .pseudocode).assemble (Text.join "\n" lines) ctx =
      if Text.join "\n" definitions = [] then program
      else program ++ "\n\n" ++ Text.trimEnd (Text.join "\n" definitions) := rfl
  constructor
  · intro none
    rw [assembled, none]
    rfl
  · intro some
    have trimmed := separated.join_eq some
    have written : Text.join "\n" definitions ≠ [] := by
      rw [trimmed]
      exact List.append_ne_nil_of_right_ne_nil _ (List.cons_ne_nil _ _)
    refine ⟨separated.getLast? some, ?_, trimmed⟩
    rw [assembled, if_neg written, separated.trimEnd_join some]

theorem Settings.pseudocode_layout_blank_lines :
    let s : Settings := { indent := " \t" }
    let lines : List Text := ["fx void f", "x ", "struct P int a", "  ", "end"]
    let definitions : List Text := ["Structure P", " \ta : Entier", "Fin Structure", [],
      "Procédure f ()", " \tx ", " \t  ", "Fin Procédure", []]
    (s.backend .pseudocode).compile lines =
      .ok ("Début\nFin" ++ "\n\n" ++ Text.join "\n" definitions.dropLast) := by
  intro s lines definitions
  have ran : ((s.backend .pseudocode).reach (SourceLine.number lines) {}).toOption.any
      (fun ctx => ctx.stack = [] ∧ ctx.body = [] ∧
        ctx.definitions ++ ctx.hoisted = definitions) = true := by
    decide +kernel
  obtain ⟨ctx, run, facts⟩ := exists_eq_ok_of_any ran
  obtain ⟨ended, body, entries⟩ := of_decide_eq_true facts
  have compiles : (s.backend .pseudocode).compile lines = .ok _ :=
    Backend.compile_eq_ok_iff.mpr ⟨ctx, run, ended, rfl⟩
  obtain ⟨ctx', run', _, laid⟩ := Settings.pseudocode_layout s lines _ compiles
  obtain rfl : ctx' = ctx :=
    Except.ok.inj ((Backend.reach_eq_ok_iff.mpr run').symm.trans run)
  have some : ctx'.definitions ++ ctx'.hoisted ≠ [] := by
    rw [entries]
    decide
  rw [compiles, (laid some).2.1, body, entries]
  rfl

end BlockScript
