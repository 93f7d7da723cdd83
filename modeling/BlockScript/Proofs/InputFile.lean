import BlockScript.Proofs.Characters
import BlockScript.Proofs.Effects

/-!
The input after a compilation without an output path. The output is then named after the input, in
the working directory. Unless that name leads to the input itself, the input stays as it was; where
it does, a compilation that succeeds puts its output in the place of the input.
-/
namespace BlockScript

theorem not_mem_fileStem {path stem : Text} (named : fileStem path = some stem) : '/' ∉ stem := by
  unfold fileStem at named
  cases last : ((path.splitOn '/').filter fun part => part ≠ [] && part ≠ ".").getLast? with
  | none =>
    rw [last] at named
    cases named
  | some name =>
    have part := (List.mem_filter.mp (List.mem_of_getLast? last)).1
    have plain := Text.not_mem_of_mem_splitOn part
    rw [last] at named
    dsimp only at named
    split at named
    · cases named
    · split at named
      · cases named
        exact plain
      · cases named
        exact fun mem => plain (List.mem_of_mem_take mem)

theorem fileStem_append {stem extension : Text} (nonempty : stem ≠ []) (plain : '/' ∉ stem)
    (plain_extension : '/' ∉ extension) (dotless : '.' ∉ extension)
    (extension_ne : extension ≠ []) : fileStem (stem ++ '.' :: extension) = some stem := by
  have name : '/' ∉ stem ++ '.' :: extension := by simp [plain, plain_extension]
  have named : stem ++ '.' :: extension ≠ [] := by simp
  have long : 3 ≤ (stem ++ '.' :: extension).length := by
    have := List.length_pos_iff.mpr nonempty
    have := List.length_pos_iff.mpr extension_ne
    rw [List.length_append, List.length_cons]
    omega
  have not_dot : stem ++ '.' :: extension ≠ (".":Text) := by
    intro dot
    rw [dot] at long
    exact absurd long (by decide)
  have not_dots : stem ++ '.' :: extension ≠ ("..":Text) := by
    intro dots
    rw [dots] at long
    exact absurd long (by decide)
  have after_dot : (stem ++ '.' :: extension).reverse.takeWhile (· ≠ '.') =
      extension.reverse := by
    rw [List.reverse_append, List.reverse_cons, List.append_assoc, List.takeWhile_append_of_pos]
    · simp
    · intro c mem
      have other : c ≠ '.' := by
        rintro rfl
        exact dotless (List.mem_reverse.mp mem)
      simpa using other
  have before_dot : (stem ++ '.' :: extension).take
      ((stem ++ '.' :: extension).length - extension.reverse.length - 1) = stem := by
    rw [show (stem ++ '.' :: extension).length - extension.reverse.length - 1 = stem.length by
      simp; omega]
    exact List.take_left
  unfold fileStem
  rw [List.splitOn_eq_singleton name]
  simp only [List.filter_cons, List.filter_nil, named, not_dot, not_dots, ne_eq, not_false_eq_true,
    decide_true, Bool.and_self, if_true, List.getLast?_singleton, if_false, after_dot, before_dot,
    nonempty]

namespace CommandLine

variable {σ Place : Type} {disk : Disk (StateM σ)} {fs : FileSystem σ Place}
  {libraries : Libraries} {before after : σ} {i : Invocation} {code : Nat} {input : Text}
  {target : Target}

/-! The name of the output -/

theorem not_mem_extension (target : Target) :
    '/' ∉ (({} : Settings).backend target).extension := by
  cases target <;> decide

theorem not_mem_defaultOutput (target : Target) (input : Text) :
    '/' ∉ defaultOutput target input := by
  have stem : '/' ∉ (fileStem input).getD "output" := by
    cases named : fileStem input with
    | none => simp
    | some stem => exact not_mem_fileStem named
  simp only [defaultOutput, List.mem_append, not_or]
  exact ⟨⟨stem, by decide⟩, not_mem_extension target⟩

theorem defaultOutput_self {stem : Text} (target : Target) (nonempty : stem ≠ [])
    (plain : '/' ∉ stem) :
    defaultOutput target (stem ++ '.' :: (({} : Settings).backend target).extension) =
      stem ++ '.' :: (({} : Settings).backend target).extension := by
  have extension : '.' ∉ (({} : Settings).backend target).extension ∧
      (({} : Settings).backend target).extension ≠ [] := by
    cases target <;> decide
  unfold defaultOutput
  rw [fileStem_append nonempty plain (not_mem_extension target) extension.1 extension.2]
  simp

/-! The input once the run has ended -/

theorem Ends.input_kept (lawful : disk.Lawful fs) (ends : Ends libraries disk i before code after)
    (named : i.command = .compile input target none)
    (apart : ¬ fs.Same before input (defaultOutput target input)) :
    fs.contentAt after input = fs.contentAt before input := by
  rcases ends.compile_cases named with ⟨-, rfl, -⟩ | ⟨settings, text, -, generates, rfl, -⟩
  · rfl
  · obtain ⟨source, read, -⟩ := generates
    obtain ⟨place, leads⟩ := lawful.place_of_read read
    exact lawful.contentAt_of_not_same leads apart

theorem Ends.untouched_by_fault (ends : Ends libraries disk i before code after)
    (named : i.command = .compile input target none)
    (fails : ∀ settings text, loaded libraries disk before i.configuration = .ok settings →
      ¬ Generates disk before settings input target text) : after = before := by
  rcases ends.compile_cases named with ⟨-, kept, -⟩ | ⟨settings, text, loads, generates, -⟩
  · exact kept
  · exact absurd generates (fails settings text loads)

theorem Ends.input_replaced (lawful : disk.Lawful fs)
    (ends : Ends libraries disk i before code after)
    (named : i.command = .compile input target none)
    (same : fs.Same before input (defaultOutput target input)) (succeeded : code = 0) :
    ∃ settings text, loaded libraries disk before i.configuration = .ok settings ∧
      Generates disk before settings input target text ∧
      fs.contentAt after input = some (.text text) := by
  rcases ends.compile_cases named with
    ⟨rfl, -⟩ | ⟨settings, text, loads, generates, rfl, succeeds⟩
  · cases succeeded
  · have content := lawful.contentAt_of_same same (succeeds.mp succeeded)
    exact ⟨settings, text, loads, generates, content⟩

/-- Without an output path the input keeps its content, unless the output is the input itself. Then
    it keeps it when there is no output to write, and holds the output after a run that succeeds.
    The output lies in the working directory, so a program there that has the extension of the
    target is its own output. -/
theorem input_after_compile (lawful : disk.Lawful fs) (libraries : Libraries)
    (named : i.command = .compile input target none) (before : σ) :
    (¬ fs.Same before input (defaultOutput target input) →
      fs.contentAt (execute libraries disk i before).2 input = fs.contentAt before input) ∧
    (fs.Same before input (defaultOutput target input) →
      ((∀ settings text, loaded libraries disk before i.configuration = .ok settings →
          ¬ Generates disk before settings input target text) →
        fs.contentAt (execute libraries disk i before).2 input = fs.contentAt before input) ∧
      ((execute libraries disk i before).1.code = 0 → ∃ settings text,
        loaded libraries disk before i.configuration = .ok settings ∧
        Generates disk before settings input target text ∧
        fs.contentAt (execute libraries disk i before).2 input = some (.text text))) ∧
    '/' ∉ defaultOutput target input ∧
    ∀ stem, stem ≠ [] → '/' ∉ stem →
      input = stem ++ '.' :: (({} : Settings).backend target).extension →
      defaultOutput target input = input := by
  have ends := execute_ends libraries lawful i before
  refine ⟨ends.input_kept lawful named, ?_, not_mem_defaultOutput target input, ?_⟩
  · intro same
    refine ⟨?_, ends.input_replaced lawful named same⟩
    intro fails
    rw [ends.untouched_by_fault named fails]
  · intro stem nonempty plain own
    rw [own]
    exact defaultOutput_self target nonempty plain

theorem input_after_compile_absolute :
    Files.fileSystem.contentAt
      (execute .standard Disk.ofFiles ⟨.compile "/work/prog.algo" .cpp none, none, false⟩
        ⟨["work"], [(["work", "prog.algo"], .text "print 1")]⟩).2 "/work/prog.algo" =
      some (.text "print 1") ∧
    ∃ settings text,
      Generates Disk.ofFiles ⟨["work"], [(["work", "prog.algo"], .text "print 1")]⟩ settings
        "/work/prog.algo" .pseudocode text ∧
      Files.fileSystem.contentAt
        (execute .standard Disk.ofFiles ⟨.compile "/work/prog.algo" .pseudocode none, none, false⟩
          ⟨["work"], [(["work", "prog.algo"], .text "print 1")]⟩).2 "/work/prog.algo" =
        some (.text text) := by
  constructor
  · refine (input_after_compile Disk.lawful_ofFiles .standard rfl
      ⟨["work"], [(["work", "prog.algo"], .text "print 1")]⟩).1 ?_
    rintro ⟨place, leads, leads_output⟩
    have input_place : Files.placeOf ⟨["work"], [(["work", "prog.algo"], .text "print 1")]⟩
        "/work/prog.algo" = some (["work", "prog.algo"] : Path) := rfl
    have output_place : Files.placeOf ⟨["work"], [(["work", "prog.algo"], .text "print 1")]⟩
        (defaultOutput .cpp "/work/prog.algo") = some (["work", "prog.cpp"] : Path) := rfl
    cases input_place.symm.trans leads
    cases output_place.symm.trans leads_output
  · obtain ⟨-, replaced, -⟩ := input_after_compile
      (i := ⟨.compile "/work/prog.algo" .pseudocode none, none, false⟩) Disk.lawful_ofFiles
      .standard rfl ⟨["work"], [(["work", "prog.algo"], .text "print 1")]⟩
    obtain ⟨-, replaced⟩ := replaced ⟨["work", "prog.algo"], rfl, rfl⟩
    obtain ⟨settings, text, -, generates, content⟩ := replaced (by decide +kernel)
    exact ⟨settings, text, generates, content⟩

/-- The input under the extension of the target. -/
theorem input_replaced_by_output :
    Files.fileSystem.contentAt ⟨[], [(["prog.algo"], .text "print 1")]⟩ "prog.algo" =
      some (.text "print 1") ∧
    Files.fileSystem.contentAt
      (execute .standard Disk.ofFiles ⟨.compile "prog.algo" .pseudocode none, none, false⟩
        ⟨[], [(["prog.algo"], .text "print 1")]⟩).2 "prog.algo" =
      some (.text "Début\n\tAfficher(1)\nFin") ∧
    Files.fileSystem.contentAt
      (execute .standard Disk.ofFiles ⟨.compile "prog.algo" .pseudocode none, none, false⟩
        ⟨[], [(["prog.algo"], .text "print 1")]⟩).2 "prog.algo" ≠
      Files.fileSystem.contentAt ⟨[], [(["prog.algo"], .text "print 1")]⟩ "prog.algo" := by
  have after : Files.fileSystem.contentAt
      (execute .standard Disk.ofFiles ⟨.compile "prog.algo" .pseudocode none, none, false⟩
        ⟨[], [(["prog.algo"], .text "print 1")]⟩).2 "prog.algo" =
      some (.text "Début\n\tAfficher(1)\nFin") := by decide +kernel
  have initial : Files.fileSystem.contentAt ⟨[], [(["prog.algo"], .text "print 1")]⟩ "prog.algo" =
      some (.text "print 1") := by decide +kernel
  refine ⟨initial, after, ?_⟩
  rw [after, initial]
  decide

end CommandLine
end BlockScript
