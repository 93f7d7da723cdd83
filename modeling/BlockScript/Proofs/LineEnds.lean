import BlockScript.Proofs.BlankLines
import BlockScript.Proofs.LineSpans
import BlockScript.Proofs.Replacement

/-!
Carriage returns at the ends of lines. Reading a source takes one away before each line feed and
numbering takes all that are left at the end of a line, and no call is spelled with one. So a
program does not change with their number, and line feeds may come with or without them.
-/
namespace BlockScript

namespace Text

variable {pattern t : Text} {p : Char → Bool}

theorem infix_dropEndWhile_iff (nonempty : pattern ≠ []) (solid : ∀ c ∈ pattern, p c = false) :
    pattern <:+: t.dropEndWhile p ↔ pattern <:+: t := by
  induction t using List.reverseRecOn with
  | nil => rfl
  | append_singleton t c ih =>
    by_cases dropped : p c = true
    · have rest : dropEndWhile p (t ++ [c]) = dropEndWhile p t :=
        List.rdropWhile_concat_pos _ _ _ dropped
      have other : pattern.getLast? ≠ some c := by
        intro last
        have kept := solid c (List.mem_of_getLast? last)
        simp [kept] at dropped
      rw [rest, ih, infix_concat_iff_of_getLast?_ne other nonempty]
    · have whole : dropEndWhile p (t ++ [c]) = t ++ [c] :=
        List.rdropWhile_concat_neg _ _ _ dropped
      rw [whole]

theorem replaceAll_singleton (c : Char) (insert t : Text) :
    replaceAll [c] insert t = t.flatMap fun d => if d = c then insert else [d] := by
  rw [replaceAll_eq_iff (List.cons_ne_nil c [])]
  induction t with
  | nil => exact .nil
  | cons d t ih =>
    rw [List.flatMap_cons]
    split
    · rename_i same
      subst same
      exact .swap ih
    · rename_i other
      refine .keep ?_ ih
      intro found
      exact other (List.cons_prefix_cons.mp found).1.symm

def returned (source : Text) : Text := replaceAll "\n" "\r\n" source

theorem returned_eq_flatMap (source : Text) :
    returned source = source.flatMap fun c => if c = '\n' then ['\r', '\n'] else [c] :=
  replaceAll_singleton '\n' _ source

theorem returned_of_not_mem (solid : '\n' ∉ t) : returned t = t :=
  replaceAll_of_not_mem List.mem_cons_self solid

theorem returned_append_cons (solid : '\n' ∉ t) (more : Text) :
    returned (t ++ '\n' :: more) = (t ++ ['\r']) ++ '\n' :: returned more := by
  have kept := returned_of_not_mem solid
  rw [returned_eq_flatMap] at kept ⊢
  rw [List.flatMap_append, kept, List.flatMap_cons, ← returned_eq_flatMap]
  simp

theorem splitOn_returned {front : List Text} {last : Text}
    (solid : ∀ piece ∈ front ++ [last], '\n' ∉ piece) :
    (returned (join "\n" (front ++ [last]))).splitOn '\n' = front.map (· ++ ['\r']) ++ [last] := by
  induction front with
  | nil =>
    have plain := solid last (by simp)
    rw [List.nil_append, join_singleton, returned_of_not_mem plain, List.splitOn_eq_singleton plain]
    rfl
  | cons piece front ih =>
    obtain ⟨plain, others⟩ := List.forall_mem_cons.mp solid
    have below : join "\n" (piece :: (front ++ [last])) =
        piece ++ '\n' :: join "\n" (front ++ [last]) := by
      have some := List.append_ne_nil_of_right_ne_nil front (List.cons_ne_nil last [])
      have whole : join "\n" ([piece] ++ (front ++ [last])) =
          join "\n" [piece] ++ "\n" ++ join "\n" (front ++ [last]) :=
        join_append (List.cons_ne_nil piece []) some
      rw [join_singleton] at whole
      simpa using whole
    have line : '\n' ∉ piece ++ ['\r'] := by simp [plain]
    rw [List.cons_append, below, returned_append_cons plain,
      List.splitOn_append_cons_self_of_not_mem line, ih others]
    rfl

theorem lines_of_splitOn {source last : Text} {front : List Text}
    (pieces : source.splitOn '\n' = front ++ [last]) :
    source.lines = front.map dropReturn ++ if last = [] then [] else [last] := by
  unfold lines
  simp [pieces]

/-- The lines of a source are the same but for what is dropped when they are numbered. -/
theorem lines_returned (source : Text) :
    source.returned.lines.map (·.dropEndWhile (· == '\r')) =
      source.lines.map (·.dropEndWhile (· == '\r')) := by
  have some_piece : source.splitOn '\n' ≠ [] := List.splitOn_ne_nil '\n' source
  obtain ⟨front, last, pieces⟩ := (List.eq_nil_or_concat' _).resolve_left some_piece
  have solid : ∀ piece ∈ front ++ [last], '\n' ∉ piece := by
    intro piece mem
    rw [← pieces] at mem
    exact not_mem_of_mem_splitOn mem
  have whole : join "\n" (front ++ [last]) = source := by
    rw [← pieces]
    exact List.intercalate_splitOn '\n'
  have pieces' := splitOn_returned solid
  rw [whole] at pieces'
  rw [lines_of_splitOn pieces, lines_of_splitOn pieces']
  simp only [List.map_append, List.map_map]
  congr 1
  apply List.map_congr_left
  intro piece _
  have one_more : dropEndWhile (· == '\r') (piece ++ ['\r']) = dropEndWhile (· == '\r') piece :=
    List.rdropWhile_concat_pos _ _ _ rfl
  simp [dropEndWhile_dropReturn, one_more]

end Text

namespace SourceLine

theorem number_congr {lines others : List Text}
    (same : lines.map (·.dropEndWhile (· == '\r')) = others.map (·.dropEndWhile (· == '\r'))) :
    number lines = number others := by
  have numbered : ∀ ls : List Text, number ls =
      ((ls.map (·.dropEndWhile (· == '\r'))).zipIdx 1).map fun line => ⟨line.1, line.2⟩ := by
    intro ls
    simp [number, List.zipIdx_map, Function.comp_def]
  rw [numbered, numbered, same]

end SourceLine

theorem Builtin.usedIn_dropReturns (f : Builtin) (line : Text) :
    f.usedIn (line.dropEndWhile (· == '\r')) = f.usedIn line := by
  have spelled : ∀ name ∈ f.sourceNames, name ≠ [] ∧ ∀ c ∈ name, (c == '\r') = false := by
    cases f <;> simp [sourceNames]
  rw [Bool.eq_iff_iff]
  simp only [usedIn, List.any_eq_true, Text.occursIn_iff]
  constructor
  · intro used
    obtain ⟨name, mem, found⟩ := used
    obtain ⟨nonempty, solid⟩ := spelled name mem
    exact ⟨name, mem, (Text.infix_dropEndWhile_iff nonempty solid).mp found⟩
  · intro used
    obtain ⟨name, mem, found⟩ := used
    obtain ⟨nonempty, solid⟩ := spelled name mem
    exact ⟨name, mem, (Text.infix_dropEndWhile_iff nonempty solid).mpr found⟩

theorem Builtin.usedIn_join_dropReturns (f : Builtin) (lines : List Text) :
    f.usedIn (Text.join "\n" (lines.map (·.dropEndWhile (· == '\r')))) =
      f.usedIn (Text.join "\n" lines) := by
  rw [Bool.eq_iff_iff, usedIn_join_iff, usedIn_join_iff]
  simp [usedIn_dropReturns]

namespace Settings

variable (s : Settings) (target : Target)

theorem compile_dropReturns (lines : List Text) :
    (s.backend target).compile (lines.map (·.dropEndWhile (· == '\r'))) =
      (s.backend target).compile lines := by
  have twice : ∀ line : Text, (line.dropEndWhile (· == '\r')).dropEndWhile (· == '\r') =
      line.dropEndWhile (· == '\r') := by
    intro line
    exact List.rdropWhile_idempotent _ _
  have numbered : SourceLine.number (lines.map (·.dropEndWhile (· == '\r'))) =
      SourceLine.number lines := by
    apply SourceLine.number_congr
    simp [twice]
  have ends : (s.backend target).conclude (lines.map (·.dropEndWhile (· == '\r'))) =
      (s.backend target).conclude lines := by
    funext ctx
    have sources : (s.backend target).assemble
        (Text.join "\n" (lines.map (·.dropEndWhile (· == '\r')))) ctx =
        (s.backend target).assemble (Text.join "\n" lines) ctx := by
      cases target with
      | pseudocode => rfl
      | cpp => exact s.cpp.assemble_congr (fun f => f.usedIn_join_dropReturns lines) ctx
    unfold Backend.conclude
    rw [sources]
  rw [Backend.compile_eq, Backend.compile_eq, numbered, ends]

/-- A source with a carriage return put before each line feed compiles to the same text or fails
    with the same fault, whatever carriage returns it had. -/
theorem compileSource_returned (source : Text) :
    s.compileSource target (Text.replaceAll "\n" "\r\n" source) =
      s.compileSource target source := by
  have same := Text.lines_returned source
  unfold compileSource
  rw [← compile_dropReturns s target source.lines, ← same, compile_dropReturns]
  rfl

end Settings
end BlockScript
