import BlockScript.Proofs.Agreement
import BlockScript.Proofs.Characters
import BlockScript.Proofs.Terminators

/-!
Lines whose first token begins a comment. No keyword and no type keyword does, so such a line is
passed through and written as it is, except that a second token which ends in `=` makes an
assignment of it.
-/
namespace BlockScript

def Text.BeginsComment (t : Text) : Prop := ("//" : Text) <+: t

instance (t : Text) : Decidable t.BeginsComment :=
  inferInstanceAs (Decidable (("//" : Text) <+: t))

theorem SourceLine.name_isPrefix (l : SourceLine) : l.instruction.name <+: l.text := by
  have whole : Text.join " " l.instruction.tokens = l.text := by
    rw [tokens_instruction]
    exact List.intercalate_splitOn ' '
  rw [← whole, Instruction.tokens]
  cases l.instruction.params with
  | nil => rw [Text.join_singleton]
  | cons token rest =>
    rw [Text.join_cons_cons, List.append_assoc]
    exact List.prefix_append _ _

namespace Backend

variable (b : Backend)

theorem keyword?_comment {word : Text} (comment : word.BeginsComment) : b.keyword? word = none := by
  have other : ∀ k : Keyword, ¬ k.spelling.BeginsComment := by
    intro k
    cases k <;> decide
  rw [Option.eq_none_iff_forall_ne_some]
  intro k found
  rw [spelling_of_keyword? found] at comment
  exact other k comment

theorem isTypeKeyword_comment {word : Text} (comment : word.BeginsComment)
    (untyped : ∀ key ∈ b.types.entries.map (·.1), ¬ Text.BeginsComment key) :
    b.isTypeKeyword word = false := by
  have begins : Text.BeginsComment (word.dropEndWhile (· == '*')) :=
    (Text.prefix_dropEndWhile_iff rfl).mpr comment
  have unknown : b.types.contains (word.dropEndWhile (· == '*')) = false := by
    rw [← Bool.not_eq_true, TypeTable.contains_iff]
    intro mem
    exact untyped _ mem begins
  unfold isTypeKeyword
  dsimp only
  rw [unknown, Bool.and_false]

theorem resolve_comment {i : Instruction} (comment : i.name.BeginsComment)
    (untyped : ∀ key ∈ b.types.entries.map (·.1), ¬ Text.BeginsComment key) :
    b.resolve i = if isAssignment i then .assignment else .passThrough := by
  unfold resolve
  rw [b.keyword?_comment comment, b.isTypeKeyword_comment comment untyped]
  rfl

variable {b}

theorem step_passThrough {l : SourceLine} (passed : b.resolve l.instruction = .passThrough)
    (some : l.text ≠ []) (ctx : Context) :
    b.step l ctx = .ok ()
      (({ ctx with closed := none, current := [] } : Context).commit
        (b.finish .passThrough ctx.stack [l.text])) := by
  have pending : (ctx.beginLine l.text).pending = [l.text] := by
    simp [Context.pending, Context.beginLine, some]
  rw [step_eq, passed]
  show EStateM.Result.ok () (Context.commit _ (b.finish _ _ (ctx.beginLine l.text).pending)) = _
  rw [pending]
  rfl

end Backend

namespace CPlusPlus

theorem terminated_comment {text : Text} (comment : text.BeginsComment) :
    terminated .passThrough (substitute nativeNames text) = substitute nativeNames text := by
  have trimmed : ("//" : Text) <+: text.trim :=
    (Text.prefix_trim_iff (by decide) (by simp [Text.isBlankChar])).mpr ⟨[], rfl, comment⟩
  have note := (isNote_substitute_iff text).mpr (.inl trimmed)
  have complete : ¬ needsTerminator .passThrough (substitute nativeNames text) = true := by
    simp [needsTerminator_of_isNote note]
  exact if_neg complete

theorem localize_times_append {c : CPlusPlus}
    (apart : c.importNamespace = true → Text.Detached c.qualifier c.indent) (n : Nat)
    (text : Text) :
    c.localize (Text.times n c.indent ++ text) = Text.times n c.indent ++ c.localize text := by
  unfold localize
  split
  · rename_i imported
    induction n with
    | zero => rfl
    | succ n ih =>
      have level : Text.times (n + 1) c.indent = c.indent ++ Text.times n c.indent := rfl
      have first := (apart imported).replaceAll_append [] (Text.times n c.indent ++ text)
      rw [level, List.append_assoc, List.append_assoc, ← ih]
      exact first
  · rfl

end CPlusPlus

namespace Settings

variable (s : Settings) (target : Target)

def passedLine (stack : FrameStack) (text : Text) : Text :=
  match target with
  | .pseudocode =>
      Text.times stack.depth s.indent ++ substitute Pseudocode.nativeNames text
  | .cpp =>
      s.cpp.localize (Text.times (CPlusPlus.depth .passThrough stack) s.indent ++
        substitute CPlusPlus.nativeNames text)

theorem finish_comment {text : Text} (comment : text.BeginsComment) (stack : FrameStack) :
    (s.backend target).finish .passThrough stack [text] = [s.passedLine target stack text] := by
  cases target with
  | pseudocode => rfl
  | cpp =>
    have solid : text.isBlank = false := by
      obtain ⟨rest, rfl⟩ := comment
      rfl
    show s.cpp.finish .passThrough stack [text] = _
    simp only [CPlusPlus.finish, List.filter_cons, solid, Bool.not_false, if_true, List.filter_nil,
      List.map_cons, List.map_nil, CPlusPlus.terminated_comment comment]
    rfl

end Settings

/-- A line whose first token begins a comment is passed through exactly when its second token, if
    there is one, does not end in `=`; it then adds itself to the output, and nothing else. A
    padding that no qualifier begins in is left alone when the qualifier is dropped. -/
theorem Settings.comment_passed_iff (s : Settings) (target : Target)
    (untyped : ∀ key ∈ (s.backend target).types.entries.map (·.1), ¬ Text.BeginsComment key)
    (l : SourceLine) (comment : l.instruction.name.BeginsComment) :
    ((s.backend target).resolve l.instruction = .passThrough ↔
        ∀ op ∈ l.instruction.params.head?, op.endsWith (· == '=') = false) ∧
      ((s.backend target).resolve l.instruction = .passThrough → ∀ ctx,
        (s.backend target).step l ctx = .ok ()
          (({ ctx with closed := none, current := [] } : Context).commit
            [s.passedLine target ctx.stack l.text])) ∧
      ((s.importNamespace = true → Text.Detached s.cpp.qualifier s.indent) → ∀ stack text,
        s.passedLine .cpp stack text = Text.times (CPlusPlus.depth .passThrough stack) s.indent ++
          s.cpp.localize (substitute CPlusPlus.nativeNames text)) := by
  refine ⟨?_, ?_, ?_⟩
  · rw [Backend.resolve_comment _ comment untyped]
    unfold Backend.isAssignment
    cases l.instruction.params.head? with
    | none => simp
    | some op => cases ends : op.endsWith (· == '=') <;> simp [ends]
  · intro passed ctx
    have begins : l.text.BeginsComment := comment.trans l.name_isPrefix
    have some : l.text ≠ [] := by
      intro empty
      rw [empty] at begins
      revert begins
      decide
    rw [Backend.step_passThrough passed some, s.finish_comment target begins]
  · intro apart stack text
    exact CPlusPlus.localize_times_append (c := s.cpp) apart _ _

theorem Settings.comment_passed_iff_in_function :
    let b := ({} : Settings).backend .cpp
    let ctx : Context := { stack := [⟨.fx, 1⟩] }
    b.step ⟨"// racine(x) = 3", 2⟩ ctx =
      .ok () { ctx with hoisted := [("\t// sqrt(x) = 3" : Text)] } := by
  intro b ctx
  have untyped : ∀ key ∈ b.types.entries.map (·.1), ¬ Text.BeginsComment key := by decide
  obtain ⟨passes, writes, _⟩ := Settings.comment_passed_iff {} .cpp untyped
    ⟨"// racine(x) = 3", 2⟩ (by decide)
  have passed := passes.mpr (by decide)
  have line : ({} : Settings).passedLine .cpp ctx.stack "// racine(x) = 3" =
      "\t// sqrt(x) = 3" := by
    decide +kernel
  rw [writes passed ctx, line]
  rfl

/-- A heading in a comment is taken for a compound assignment, and a comment can even be refused. -/
theorem Settings.comment_assigned :
    let s : Settings := {}
    (∀ key ∈ (s.backend .pseudocode).types.entries.map (·.1), ¬ Text.BeginsComment key) ∧
      (SourceLine.instruction ⟨"// == totals ==", 1⟩).name.BeginsComment ∧
      (s.backend .pseudocode).resolve (SourceLine.instruction ⟨"// == totals ==", 1⟩) =
        .assignment ∧
      (s.backend .pseudocode).compile ["// == totals =="] =
        .ok "Début\n\t// <- // = totals ==\nFin" ∧
      (s.backend .pseudocode).compile ["//p = new int"] =
        .error ⟨.featureDisabled (.pointers .allocation), 1⟩ := by
  intro s
  refine ⟨by decide, by decide, by decide +kernel, by decide +kernel, by decide +kernel⟩

end BlockScript
