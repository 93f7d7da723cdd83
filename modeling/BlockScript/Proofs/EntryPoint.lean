import BlockScript.Proofs.DeclaredNames

/-!
The name that the header of a function defines in C++. The name of the entry point is refused as the
source has it; the calls and the qualifier in a name are changed later. A changed call ends in the
name of a library function, so only the qualifier can leave the name of the entry point.
-/
namespace BlockScript
open Text

namespace CPlusPlus

variable {c : CPlusPlus} {f t word : Text}

theorem localize_ne_entryPoint (foreign : ':' ∉ word) (other : ¬ word <:+ entryPoint)
    (ends : word <:+ t) : c.localize t ≠ entryPoint := by
  obtain ⟨front, rfl⟩ := ends
  rw [localize_append_of_not_mem foreign]
  intro same
  exact other (same ▸ List.suffix_append _ word)

theorem localize_calledAs_eq_iff (plain : '(' ∉ f) (open_ : ')' ∉ f) (free : f ≠ entryPoint) :
    c.localize (nativeNames.calledAs f) = entryPoint ↔
      c.importNamespace = true ∧ replaceAll c.qualifier [] f = entryPoint := by
  have whole : c.localize f = entryPoint ↔
      c.importNamespace = true ∧ replaceAll c.qualifier [] f = entryPoint := by
    unfold localize
    split
    · rename_i imported
      exact (and_iff_right imported).symm
    · rename_i given
      simp [free, given]
  rw [← whole]
  by_cases kept : nativeNames.calledAs f = f
  · rw [kept]
  · -- the name of a call is at the end of both names, and neither is that of the entry point
    have written : ∀ b : Builtin, ':' ∉ (nativeNames.call b).dropLast ∧
        ¬ (nativeNames.call b).dropLast <:+ entryPoint := by
      intro b
      cases b <;> decide
    have spelled : ∀ spelling ∈ nativeNames.renamed, ':' ∉ spelling.2.dropLast ∧
        ¬ spelling.2.dropLast <:+ entryPoint := by decide
    have source : c.localize f ≠ entryPoint := by
      rw [calling.calledAs_eq_self_iff settling plain open_] at kept
      push Not at kept
      obtain ⟨spelling, mem, ends⟩ := kept
      exact localize_ne_entryPoint (spelled spelling mem).1 (spelled spelling mem).2 ends
    have target : c.localize (nativeNames.calledAs f) ≠ entryPoint := by
      obtain ⟨_, _, same | ⟨b, front, ends⟩⟩ := calling.substitute_name plain open_
      · exact absurd same kept
      · exact localize_ne_entryPoint (written b).1 (written b).2 ⟨front, ends.symm⟩
    exact iff_of_false target source

end CPlusPlus

section Header

variable {s : Settings} {d : SourceLine} {past later : List SourceLine} {lines params : List Text}
  {out token f : Text}

theorem Settings.finished_subset_hoisted {target : Target} {ctx : Context}
    (run : (s.backend target).reach (SourceLine.number lines) {} = .ok ctx)
    (split : SourceLine.number lines = past ++ d :: later) (named : d.instruction.name = "fx") :
    (s.backend target).finished past d ⊆ ctx.hoisted := by
  rw [split, List.append_cons] at run
  obtain ⟨after, reached, _⟩ := Backend.reach_append_eq_ok_iff.mp run
  obtain ⟨mid, earlier, here⟩ := Backend.reach_concat_eq_ok_iff.mp reached
  obtain ⟨a, acts, stack, closed, applies, r, writes, rfl⟩ := Backend.outcome_eq_ok_iff.mp here
  have opened : Backend.relocates stack closed = true := by
    rw [Backend.action_of_keyword (s.resolve_fx target named)] at acts
    obtain ⟨returnToken, _, _, _, _, rfl⟩ := BlockAction.ofFunction_eq_ok_iff.mp acts
    cases applies
    have function : (BlockAction.functionFrame returnToken).isFunction = true := by
      unfold BlockAction.functionFrame
      split <;> rfl
    unfold Backend.relocates
    rw [Bool.or_eq_true, FrameStack.inFunction_iff]
    exact .inl ⟨_, List.mem_cons_self, function⟩
  obtain ⟨upto, ran, _, grows⟩ := Backend.reach_grows run (past ++ [d]).length
  rw [List.take_left, ← Backend.reach_eq_ok_iff, reached] at ran
  obtain rfl := Except.ok.inj ran
  refine List.Subset.trans ?_ grows.subset
  rw [Backend.finished_eq earlier acts applies writes]
  unfold Backend.settle
  simp [opened]

def Text.IsQualifiedName (t : Text) : Prop := ∀ c ∈ t, isNameChar c = true ∨ c = ':'

instance (t : Text) : Decidable t.IsQualifiedName :=
  decidable_of_iff (t.all fun c => isNameChar c || c == ':') (by simp [IsQualifiedName])

theorem Text.IsQualifiedName.not_mem {c : Char} (named : f.IsQualifiedName)
    (mark : isNameChar c = false ∧ c ≠ ':') : c ∉ f := by
  intro mem
  rcases named c mem with letter | colon
  · rw [mark.1] at letter
    cases letter
  · exact mark.2 colon

theorem Settings.rendersAs_qualified
    (solid : s.importNamespace = true → ' ' ∉ s.namespaceName ∧ '(' ∉ s.namespaceName)
    (spellings : ∀ e ∈ s.cppTypes.entries, ¬ ("ENDL)" : Text) <+: e.2) (named : f.IsQualifiedName)
    (compiles : (s.backend .cpp).compile lines = .ok out)
    (split : SourceLine.number lines = past ++ d :: later) (declares : d.Declares token f params)
    (plain : ¬ ("ENDL)" : Text) <:+: d.text) :
    ∃ returned, s.cpp.returnType (.decode token) = .ok returned ∧
      s.RendersAs .cpp past d (returned ++ " ") f "("
        (s.cpp.localize (CPlusPlus.nativeNames.calledAs f)) := by
  obtain ⟨returned, tail, result, draft, closed⟩ :=
    drafts_header spellings compiles split declares plain
  have apart := endsWith_append_of (p := isWordChar) returned (by decide : (" " : Text) ≠ [])
    (by decide)
  obtain ⟨n, back, finished⟩ := exists_finished_call compiles split draft
    (endsApart_of_endsWith apart) ⟨named.not_mem (by decide), named.not_mem (by decide)⟩ closed
  refine ⟨returned, result, ⟨tail, by rw [draft]; simp⟩, n, s.cpp.localize back, ?_⟩
  have spaced : ∀ m ∈ marks, ' ' ∉ m := by decide
  have nothing : substitute CPlusPlus.nativeNames [] = [] := by decide
  have before : substitute CPlusPlus.nativeNames (returned ++ (" " : Text)) =
      substitute CPlusPlus.nativeNames returned ++ [' '] :=
    (substitute_append_cons _ spaced returned []).trans (by rw [nothing])
  have space := CPlusPlus.localize_append_cons (c := s.cpp) (fun imported => (solid imported).1)
    (by decide : ' ' ≠ ':')
  have paren := CPlusPlus.localize_append_cons (c := s.cpp) (fun imported => (solid imported).2)
    (by decide : '(' ≠ ':')
  rw [finished]
  simp only [Target.nativeNames, localized, before]
  rw [paren, ← List.append_assoc, List.append_assoc _ [' '], List.singleton_append, space, space,
    CPlusPlus.localize_nil]
  simp

end Header

/-- The header of every function stands among the functions and defines another name than that of
    the entry point, unless the namespace is imported and dropping its qualifier leaves that one. -/
theorem Settings.header_defines_entryPoint_iff (s : Settings) (lines : List Text)
    (out f token : Text) (params : List Text) (past later : List SourceLine) (d : SourceLine)
    (solid : s.importNamespace = true → ' ' ∉ s.namespaceName ∧ '(' ∉ s.namespaceName)
    (spellings : ∀ e ∈ s.cppTypes.entries, ¬ ("ENDL)" : Text) <+: e.2)
    (compiles : (s.backend .cpp).compile lines = .ok out)
    (split : SourceLine.number lines = past ++ d :: later) (declares : d.Declares token f params)
    (named : f.IsQualifiedName) (plain : ¬ ("ENDL)" : Text) <:+: d.text) :
    ∃ ctx returned name,
      (s.backend .cpp).run (SourceLine.number lines) {} = .ok () ctx ∧
      (s.backend .cpp).finished past d ⊆ ctx.hoisted ∧
      s.cpp.returnType (.decode token) = .ok returned ∧
      s.RendersAs .cpp past d (returned ++ " ") f "(" name ∧
      (name = CPlusPlus.entryPoint ↔
        s.importNamespace = true ∧
          Text.replaceAll s.cpp.qualifier [] f = CPlusPlus.entryPoint) := by
  obtain ⟨ctx, run, _, _⟩ := Backend.compile_eq_ok_iff.mp compiles
  obtain ⟨returned, result, renders⟩ :=
    s.rendersAs_qualified solid spellings named compiles split declares plain
  have free : f ≠ CPlusPlus.entryPoint := by
    obtain ⟨a, _, _, _, acts, _⟩ := Backend.exists_drafts compiles split
    rw [Backend.action_of_keyword (s.resolve_fx .cpp declares.keyword)] at acts
    obtain ⟨_, name, _, operands, reserved, _⟩ := BlockAction.ofFunction_eq_ok_iff.mp acts
    obtain ⟨_, same⟩ := List.cons.inj (declares.operands.symm.trans operands)
    obtain ⟨rfl, _⟩ := List.cons.inj same
    exact fun taken => reserved (taken ▸ rfl)
  exact ⟨ctx, returned, _, Backend.reach_eq_ok_iff.mp run,
    Settings.finished_subset_hoisted run split declares.keyword, result, renders,
    CPlusPlus.localize_calledAs_eq_iff (named.not_mem (by decide)) (named.not_mem (by decide)) free⟩

theorem Settings.header_defines_entryPoint_iff_qualified :
    let s : Settings := { importNamespace := true }
    ∃ returned name, s.RendersAs .cpp [] ⟨"fx int std::domain int n", 1⟩ returned "std::domain" "("
      name ∧ name ≠ "main" := by
  intro s
  let lines : List Text := ["fx int std::domain int n", "return n", "end"]
  have compiles : ((s.backend .cpp).compile lines).toOption.isSome = true := by decide +kernel
  obtain ⟨out, compiles⟩ := exists_eq_ok_of_isSome compiles
  obtain ⟨ctx, returned, name, _, _, _, renders, taken⟩ :=
    Settings.header_defines_entryPoint_iff s lines out "std::domain" "int" ["int", "n"] []
      [⟨"return n", 2⟩, ⟨"end", 3⟩] ⟨"fx int std::domain int n", 1⟩ (by decide) (by decide) compiles
      (by decide) ⟨by decide, by decide⟩ (by decide) (by decide)
  refine ⟨_, name, renders, ?_⟩
  intro same
  have dropped := (taken.mp same).2
  revert dropped
  decide

/-- A name that is not reserved as it is written, but as it is defined. -/
theorem Settings.entryPoint_defined_twice :
    let s : Settings := { importNamespace := true }
    IsQualifiedName "std::main" ∧ ("std::main" : Text) ≠ CPlusPlus.entryPoint ∧
      (s.backend .cpp).compile ["fx void std::main", "end"] =
        .ok ("#include <iostream>\nusing namespace std;\n\nvoid main() \x7b\n\x7d\n\n" ++
          "int main() \x7b\n\treturn 0;\n\x7d") := by
  intro s
  refine ⟨by decide, by decide, ?_⟩
  decide +kernel

end BlockScript
