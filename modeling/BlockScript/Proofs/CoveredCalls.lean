import BlockScript.Proofs.LineEnds
import BlockScript.Proofs.UnusedCalls

/-!
The libraries of the functions that a program calls. They are chosen by the calls in the source, and
the calls are written in the finished lines: what is written there was called in the source, unless
a function is declared whose name ends as the call begins.
-/
namespace BlockScript
open Text

/-- The substitution replaces a call of the function in the text. -/
def NativeNames.Rewrites (n : NativeNames) (b : Builtin) (t : Text) : Prop :=
  ∃ done name rest, Builtin.spellings = done ++ (b, name) :: rest ∧ name ≠ n.call b ∧
    name <:+: done.foldl n.replaceCall (replaceAll endOfLineMark n.endOfLine t)

def Builtin.libraries : Builtin → List Text
  | power | squareRoot => ["#include <math.h>"]
  | random => ["#include <stdlib.h>", "#include <time.h>"]
  | length => ["#include <string.h>"]

namespace CPlusPlus

variable {c : CPlusPlus} {b : Builtin} {name tail t source : Text}

theorem used_of_rewrites (h : nativeNames.Rewrites b t) : b.usedIn t = true := by
  have sentinel : ∀ m ∈ Builtin.spellings, Keeps m.2 endOfLineMark nativeNames.endOfLine := by
    decide
  have calls : ∀ m ∈ Builtin.spellings, ∀ spelling ∈ Builtin.spellings,
      Keeps m.2 spelling.2 (nativeNames.call spelling.1) := by decide
  obtain ⟨done, name, rest, listed, _, found⟩ := h
  have mem : (b, name) ∈ Builtin.spellings := by simp [listed]
  have own : name ∈ b.sourceNames := by
    obtain ⟨_, _, same⟩ := List.mem_flatMap.mp mem
    obtain ⟨_, given, eq⟩ := List.mem_map.mp same
    cases eq
    exact given
  rw [← Bool.not_eq_false]
  intro unused
  have start := Keeps.not_infix (sentinel _ mem) (Builtin.unused_iff.mp unused name own)
  refine absurd found (List.foldlRecOn (motive := fun u => ¬ name <:+: u) done
    nativeNames.replaceCall start ?_)
  intro u free spelling earlier
  unfold NativeNames.replaceCall
  split
  · exact free
  · exact Keeps.not_infix (calls _ mem spelling (by simp [listed, earlier])) free

theorem rewrites_of_call (front : Text) (own : name ∈ b.sourceNames)
    (called : ¬ ("ENDL)" : Text) <+: tail) :
    nativeNames.Rewrites b (front ++ name ++ tail) := by
  have other : ∀ spelling ∈ Builtin.spellings, spelling.2 ≠ nativeNames.call spelling.1 ∧
      ')' ∉ spelling.2.dropLast ∧ spelling.2 ≠ [] := by decide
  have apart : ∀ m ∈ Builtin.spellings, ∀ spelling ∈ Builtin.spellings, m ≠ spelling →
      Apart m.2 spelling.2 := by decide
  have mem := Builtin.mem_spellings own
  obtain ⟨renamed, open_, _⟩ := other _ mem
  obtain ⟨done, rest, listed, first⟩ := List.eq_append_cons_of_mem mem
  refine ⟨done, name, rest, listed, renamed, ?_⟩
  have written : name = name.dropLast ++ ['('] := (Builtin.isCallSpelling _ mem).1
  have start :
      name <:+: replaceAll endOfLineMark nativeNames.endOfLine (front ++ name ++ tail) := by
    rw [written, replaceAll_sentinel_call open_ called]
    exact List.infix_append _ _ _
  refine List.foldlRecOn (motive := fun u => name <:+: u) done nativeNames.replaceCall start ?_
  intro u found spelling earlier
  have listed' : spelling ∈ Builtin.spellings := by simp [listed, earlier]
  have different : (b, name) ≠ spelling := fun same => first (same ▸ earlier)
  unfold NativeNames.replaceCall
  split
  · exact found
  · exact infix_replaceAll (other spelling listed').2.2 (apart _ mem _ listed' different)
      (apart _ listed' _ mem different.symm) _ found

theorem libraries_subset_headers (used : b.usedIn source = true) :
    b.libraries ⊆ headers source := by
  intro line mem
  unfold headers
  simp only [List.cons_append, List.mem_cons, List.mem_append, mem_linesIf_iff]
  cases b <;> simp_all [Builtin.libraries]

/-- The output includes the libraries of the function, and for the random one the program begins
    with seeding it. -/
def Covers (c : CPlusPlus) (b : Builtin) (out : Text) : Prop :=
  ∃ preamble functions seeds body : List Text,
    out = join "\n" (preamble ++ functions ++
      (("int " ++ entryPoint ++ "() " ++ openBrace) :: seeds) ++ body) ∧
    b.libraries ⊆ preamble ∧ (b = .random → seeds = [c.indent ++ "srand(time(NULL));"])

theorem covers_of_used {lines : List Text} {out : Text}
    (compiles : c.backend.compile lines = .ok out) (used : b.usedIn (join "\n" lines) = true) :
    c.Covers b out := by
  obtain ⟨ctx, _, _, assembled⟩ := Backend.compile_eq_ok_iff.mp compiles
  have parts := assembled.trans (c.assemble_eq (join "\n" lines) ctx)
  rw [List.append_assoc (c.preamble _), List.append_assoc _ _ [_, _]] at parts
  refine ⟨_, _, _, _, parts, ?_, ?_⟩
  · refine List.Subset.trans (libraries_subset_headers used) ?_
    unfold preamble
    simp
  · rintro rfl
    unfold seed
    rw [used]
    rfl

end CPlusPlus

def SourceLine.DeclaresCall (l : SourceLine) (b : Builtin) : Prop :=
  ∃ token f params, l.Declares token f params ∧ ∃ name ∈ b.sourceNames, name <:+ f ++ ['(']

/-- Every call that is replaced in a line was used in the source, and then the output covers it,
    unless the line declares a function by a name that ends in it. That name is replaced in the
    header, whether the source uses the function or not. -/
theorem Settings.replaced_calls_covered (s : Settings) (lines : List Text) (out : Text)
    (past later : List SourceLine) (l : SourceLine) (b : Builtin) (silent : s.cpp.Silent b)
    (spellings : ∀ e ∈ s.cppTypes.entries, ¬ ("ENDL)" : Text) <+: e.2)
    (compiles : (s.backend .cpp).compile lines = .ok out)
    (split : SourceLine.number lines = past ++ l :: later) :
    (∃ stack, (s.backend .cpp).finished past l = s.cpp.finish
        ((s.backend .cpp).resolve l.instruction) stack ((s.backend .cpp).drafts past l)) ∧
      (b.usedIn (Text.join "\n" lines) = true → s.cpp.Covers b out) ∧
      (∀ text ∈ (s.backend .cpp).drafts past l, CPlusPlus.nativeNames.Rewrites b text →
        b.usedIn (Text.join "\n" lines) = true ∨ l.DeclaresCall b) ∧
      (l.DeclaresCall b → ¬ ("ENDL)" : Text) <:+: l.text →
        ∃ text ∈ (s.backend .cpp).drafts past l, CPlusPlus.nativeNames.Rewrites b text) := by
  obtain ⟨a, stack, closed, r, acts, writes, drafted, finished⟩ :=
    Backend.exists_drafts compiles split
  refine ⟨⟨stack, finished⟩, CPlusPlus.covers_of_used compiles, ?_, ?_⟩
  · intro text mem rewrites
    by_cases used : b.usedIn (Text.join "\n" lines) = true
    · exact .inl used
    · have unused : b.Unused l.text := by
        have numbered : l ∈ SourceLine.number lines := by simp [split]
        obtain ⟨line, given, same⟩ := SourceLine.exists_number_iff.mp ⟨l, numbered, rfl⟩
        rw [Builtin.Unused, ← same, b.usedIn_dropReturns, ← Bool.not_eq_true]
        intro within
        exact used ((b.usedIn_join_iff lines).mpr ⟨line, given, within⟩)
      rcases silent.written unused acts writes with free | declares
      · rw [drafted] at mem
        have clear := free text (List.mem_filter.mp mem).1
        have set := CPlusPlus.used_of_rewrites rewrites
        rw [clear] at set
        cases set
      · exact .inr declares
  · rintro ⟨token, f, params, declares, name, own, front, ends⟩ plain
    obtain ⟨returned, tail, _, draft, closed⟩ :=
      s.drafts_header spellings compiles split declares plain
    refine ⟨_, by rw [draft]; exact List.mem_singleton_self _, ?_⟩
    rw [← ends, ← List.append_assoc]
    exact CPlusPlus.rewrites_of_call _ own closed

theorem Settings.replaced_calls_covered_random :
    let lines : List Text := ["x = 1 + alea()"]
    ∃ out, (({} : Settings).backend .cpp).compile lines = .ok out ∧
      ({} : Settings).cpp.Covers .random out := by
  intro lines
  have compiles : ((({} : Settings).backend .cpp).compile lines).toOption.isSome = true := by
    decide +kernel
  obtain ⟨out, compiles⟩ := exists_eq_ok_of_isSome compiles
  obtain ⟨_, covered, replaced, _⟩ := Settings.replaced_calls_covered {} lines out [] []
    ⟨"x = 1 + alea()", 1⟩ .random ⟨by decide, by decide⟩ (by decide) compiles (by decide)
  have written : (({} : Settings).backend .cpp).drafts [] ⟨"x = 1 + alea()", 1⟩ =
      ["x = 1 + alea()"] := by
    decide +kernel
  have rewrites : CPlusPlus.nativeNames.Rewrites .random "x = 1 + alea()" :=
    CPlusPlus.rewrites_of_call "x = 1 + "
      (by decide : ("alea(" : Text) ∈ Builtin.sourceNames .random)
      (by decide : ¬ ("ENDL)" : Text) <+: ")")
  refine ⟨out, compiles, covered ?_⟩
  rcases replaced _ (by rw [written]; exact List.mem_singleton_self _) rewrites with used | declares
  · exact used
  · obtain ⟨_, _, _, declares, _⟩ := declares
    exact absurd declares.keyword (by decide)

/-- A function that is declared by the name of the square root, and is not covered. -/
theorem Settings.declared_call_not_covered :
    let lines : List Text := ["fx float racine float x", "return x", "end"]
    (({} : Settings).backend .cpp).drafts [] ⟨"fx float racine float x", 1⟩ =
        ["float racine(float x) \x7b"] ∧
      CPlusPlus.nativeNames.Rewrites .squareRoot "float racine(float x) \x7b" ∧
      Builtin.usedIn .squareRoot (Text.join "\n" lines) = false ∧
      (({} : Settings).backend .cpp).compile lines =
        .ok ("#include <iostream>\n\nfloat sqrt(float x) \x7b\n\treturn x;\n\x7d\n\n" ++
          "int main() \x7b\n\treturn 0;\n\x7d") := by
  intro lines
  refine ⟨by decide +kernel, ?_, by decide +kernel, by decide +kernel⟩
  exact CPlusPlus.rewrites_of_call "float "
    (by decide : ("racine(" : Text) ∈ Builtin.sourceNames .squareRoot)
    (by decide : ¬ ("ENDL)" : Text) <+: "float x) \x7b")

end BlockScript
