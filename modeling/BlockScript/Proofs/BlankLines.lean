import BlockScript.Proofs.Characters
import BlockScript.Proofs.Concatenation
import BlockScript.Proofs.Renumbering
import BlockScript.Proofs.StackInvariant

/-!
Lines without content. Such a line does nothing to the blocks and adds no finished line, wherever it
stands, and no library is needed for it; all that it changes is the number of each line behind it.
Of a line of spaces only C++ writes nothing, since the pseudocode keeps it.
-/
namespace BlockScript

namespace SourceLine

def makeRoom (count n : Nat) : Nat := if n ≤ count then n else n + 1

theorem number_insert (before after : List Text) (line : Text) :
    ∃ front back,
      (number (before ++ after)).map (renumber (makeRoom before.length)) = front ++ back ∧
      number (before ++ line :: after) =
        front ++ ⟨line.dropEndWhile (· == '\r'), before.length + 1⟩ :: back := by
  have kept : (number before).map (renumber (makeRoom before.length)) = number before := by
    refine (List.map_congr_left fun l mem => ?_).trans (List.map_id _)
    have early := (index_bounds mem).2
    simp [renumber, makeRoom, early]
  have moved : ((number after).map (renumber (· + before.length))).map
      (renumber (makeRoom before.length)) =
      (number after).map (renumber (· + (before.length + 1))) := by
    rw [List.map_map]
    refine List.map_congr_left fun l mem => ?_
    have late : ¬ l.index + before.length ≤ before.length := by
      have := (index_bounds mem).1
      omega
    simp [renumber, makeRoom, late, Nat.add_assoc]
  refine ⟨number before, (number after).map (renumber (· + (before.length + 1))), ?_,
    number_append_cons before after line⟩
  rw [number_append, List.map_append, kept, moved]

theorem tokens_of_spaces {l : SourceLine} (blank : ∀ c ∈ l.text, c = ' ') :
    ∀ token ∈ l.instruction.tokens, token = [] := by
  intro token mem
  rw [tokens_instruction] at mem
  refine List.eq_nil_iff_forall_not_mem.mpr fun c here => ?_
  rw [blank c (Text.subset_of_mem_splitOn mem here)] at here
  exact Text.not_mem_of_mem_splitOn mem here

end SourceLine

namespace Backend

theorem resolve_of_spaces (b : Backend) {l : SourceLine} (blank : ∀ c ∈ l.text, c = ' ') :
    b.resolve l.instruction = .passThrough := by
  obtain ⟨name, params⟩ := List.forall_mem_cons.mp (SourceLine.tokens_of_spaces blank)
  have keyword : b.keyword? [] = none := rfl
  have type : b.isTypeKeyword [] = false := rfl
  have operator : isAssignment l.instruction = false := by
    unfold isAssignment
    cases first : l.instruction.params.head? with
    | none => rfl
    | some op =>
      rw [params op (List.mem_of_mem_head? first)]
      rfl
  unfold resolve
  rw [name, keyword, type, operator]
  rfl

/-- A line that is copied as it stands and of which nothing is left when it is finished. -/
structure Vanishes (b : Backend) (l : SourceLine) : Prop where
  resolve : b.resolve l.instruction = .passThrough
  finish : ∀ stack, b.finish .passThrough stack ([l.text].filter (· ≠ [])) = []

theorem Vanishes.outcome {b : Backend} {l : SourceLine} (h : b.Vanishes l) (ctx : Context) :
    ∃ after, b.outcome l ctx = .ok after ∧ ctx.Renumbered id after := by
  have acts : b.action l = .ok .plain := by
    unfold action
    rw [h.resolve]
  have writes : b.written l none = .ok .unchanged := by
    unfold written
    rw [h.resolve]
  have nothing : b.emitted l ctx.stack .unchanged = [] := by
    unfold emitted
    rw [h.resolve]
    exact h.finish ctx.stack
  refine ⟨b.settle l ctx ctx.stack none .unchanged,
    outcome_eq_ok_iff.mpr ⟨_, acts, _, _, rfl, _, writes, rfl⟩, ?_⟩
  refine ⟨(FrameStack.renumber_id ctx.stack).symm, ?_, ?_, List.append_nil ctx.definitions, rfl⟩
  · simp [settle, nothing]
  · simp [settle, nothing]

theorem Vanishes.reach {b : Backend} {l : SourceLine} (hb : b.NumberFree) (h : b.Vanishes l)
    (front back : List SourceLine) (ctx : Context) :
    Alike Eq (Context.Renumbered id) (b.reach (front ++ back) ctx)
      (b.reach (front ++ l :: back) ctx) := by
  rw [reach_append, reach_append]
  refine alike_bind_same (fun _ => rfl) fun mid _ => ?_
  obtain ⟨after, passes, same⟩ := h.outcome mid
  have rest := hb.reach hb.carries_renumbered back same
  have lines : back.map (SourceLine.renumber id) = back := List.map_id back
  rw [lines] at rest
  rw [reach_cons, passes]
  exact alike_mono rest (fun _ _ same => same.symm) fun _ _ same => same

theorem Vanishes.compile {b : Backend} (hb : b.NumberFree) {before after : List Text} {line : Text}
    (h : b.Vanishes ⟨line.dropEndWhile (· == '\r'), before.length + 1⟩)
    (sources : ∀ ctx, b.assemble (Text.join "\n" (before ++ line :: after)) ctx =
      b.assemble (Text.join "\n" (before ++ after)) ctx) :
    Alike (fun early late => late = early.renumber (SourceLine.makeRoom before.length)) Eq
      (b.compile (before ++ after)) (b.compile (before ++ line :: after)) := by
  obtain ⟨front, back, renumbered, inserted⟩ := SourceLine.number_insert before after line
  have moved := hb.reach hb.carries_renumbered (SourceLine.number (before ++ after))
    (Context.renumbered_start (SourceLine.makeRoom before.length))
  rw [renumbered] at moved
  refine compile_alike (C := Context.Renumbered (SourceLine.makeRoom before.length)) ?_
    fun ctx other same => hb.conclude same sources
  rw [inserted]
  refine alike_trans moved (h.reach hb front back {}) ?_ fun _ _ _ => Context.Renumbered.trans_id
  rintro early _ _ rfl rfl
  rfl

end Backend

namespace CPlusPlus

theorem assemble_congr (c : CPlusPlus) {source other : Text}
    (same : ∀ f : Builtin, f.usedIn source = f.usedIn other) (ctx : Context) :
    c.assemble source ctx = c.assemble other ctx := by
  simp only [assemble, preamble, headers, mainLines, same]

theorem usedIn_of_spaces {line : Text} (blank : ∀ c ∈ line, c = ' ') (f : Builtin) :
    f.usedIn line = false := by
  have parenthesis : ∀ name ∈ f.sourceNames, '(' ∈ name := by cases f <;> decide
  rw [← Bool.not_eq_true]
  intro used
  obtain ⟨name, mem, occurs⟩ := List.any_eq_true.mp used
  have here := ((Text.occursIn_iff name line).mp occurs).subset (parenthesis name mem)
  exact absurd (blank '(' here) (by decide)

theorem usedIn_insert {line : Text} (blank : ∀ c ∈ line, c = ' ') (before after : List Text)
    (f : Builtin) :
    f.usedIn (Text.join "\n" (before ++ line :: after)) =
      f.usedIn (Text.join "\n" (before ++ after)) := by
  rw [Bool.eq_iff_iff]
  simp only [Builtin.usedIn_join_iff, List.mem_append, List.mem_cons, or_and_right, exists_or,
    exists_eq_left, usedIn_of_spaces blank f, Bool.false_eq_true, false_or]

end CPlusPlus

def Target.IsBlankLine (target : Target) (line : Text) : Prop :=
  line = [] ∨ target = .cpp ∧ ∀ c ∈ line, c = ' '

theorem Settings.vanishes_of_isBlankLine (s : Settings) {target : Target} {line : Text}
    (blank : target.IsBlankLine line) (n : Nat) :
    (s.backend target).Vanishes ⟨line.dropEndWhile (· == '\r'), n⟩ := by
  have spaces : ∀ c ∈ line.dropEndWhile (· == '\r'), c = ' ' := by
    intro c mem
    have here := Text.dropEndWhile_subset _ line mem
    rcases blank with rfl | ⟨_, blank⟩
    · cases here
    · exact blank c here
  refine ⟨Backend.resolve_of_spaces _ spaces, fun stack => ?_⟩
  rcases blank with rfl | ⟨rfl, _⟩
  · cases target <;> rfl
  · have gone : Text.isBlank (line.dropEndWhile (· == '\r')) = true := by
      rw [Text.isBlank_iff]
      intro c mem
      rw [spaces c mem]
      rfl
    show CPlusPlus.finish _ _ _ _ = []
    unfold CPlusPlus.finish
    rw [List.filter_filter]
    simp [gone]

/-- A blank line that is put in leaves the output of a program as it is, and moves the line of its
    fault only where it stands behind. -/
theorem Settings.compile_blank_line (s : Settings) (target : Target) (before after : List Text)
    (line : Text) (blank : target.IsBlankLine line) :
    (∀ out, (s.backend target).compile (before ++ after) = .ok out →
        (s.backend target).compile (before ++ line :: after) = .ok out) ∧
      ∀ fault, (s.backend target).compile (before ++ after) = .error fault →
        (s.backend target).compile (before ++ line :: after) =
          .error ⟨fault.cause,
            if fault.line ≤ before.length then fault.line else fault.line + 1⟩ := by
  have sources : ∀ ctx, (s.backend target).assemble (Text.join "\n" (before ++ line :: after)) ctx =
      (s.backend target).assemble (Text.join "\n" (before ++ after)) ctx := by
    intro ctx
    cases target with
    | pseudocode => rfl
    | cpp =>
      refine s.cpp.assemble_congr (CPlusPlus.usedIn_insert ?_ before after) ctx
      rcases blank with rfl | ⟨_, spaces⟩
      · exact fun _ => nofun
      · exact spaces
  have alike := (s.vanishes_of_isBlankLine blank (before.length + 1)).compile
    (Backend.numberFree_backend s target) sources
  constructor
  · intro out compiles
    obtain ⟨_, same, rfl⟩ := exists_ok_of_alike alike compiles
    exact same
  · intro fault fails
    obtain ⟨_, moved, rfl⟩ := exists_error_of_alike alike fails
    exact moved

theorem Settings.compile_blank_line_in_function :
    let before : List Text := ["fx int f", "vars", "int x"]
    let after : List Text := ["fx_start", "return alea(6)", "end", "if x"]
    ({} : Settings).cpp.backend.compile (before ++ ("  " : Text) :: after) =
      .error ⟨.structural (.unclosedBlock .ifBlock), 8⟩ := by
  intro before after
  have fails : ({} : Settings).cpp.backend.compile (before ++ after) =
      .error ⟨.structural (.unclosedBlock .ifBlock), 7⟩ := by
    decide +kernel
  have spaces : Target.IsBlankLine .cpp ("  " : Text) :=
    .inr ⟨rfl, List.forall_iff_forall_mem.mp (by decide)⟩
  exact (Settings.compile_blank_line {} .cpp before after "  " spaces).2 _ fails

end BlockScript
