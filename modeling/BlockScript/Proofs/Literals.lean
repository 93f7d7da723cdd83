import BlockScript.Proofs.AddedLine
import BlockScript.Proofs.Quotes

/-!
Quoted texts in the lines of C++ that print and in the headers of its blocks. The notation has no
quoting, so their separators and logic words are rewritten between quotes as outside of them. Each
quoted text is rewritten by itself, and one that has nothing of the kind in it is kept.
-/
namespace BlockScript
open Text

namespace CPlusPlus

/-- Lines that rewrite what stands behind their keyword: printed values and conditions. -/
def rewriting : List Keyword := [.print, .ifBlock, .elifBlock, .whileLoop]

def reworded : Keyword → Text → Text
  | .print => replaceAll " & " " << "
  | _ => betweenSpaces logicWord

def separators : Keyword → List Text
  | .print => [" & "]
  | _ => [" ET ", " OU ", " NON "]

def spelled (c : CPlusPlus) (t : Text) : Text := c.localize (substitute nativeNames t)

def operatorMarks : Text := "&|!"

def countMarks (t : Text) : Nat := t.countP (· ∈ operatorMarks)

def logicWords : List (Text × Text) := [("ET", "&&"), ("OU", "||"), ("NON", "!")]

section Rewording

variable {q : Text}

theorem logicWord_cases (word : Text) :
    (word, logicWord word) ∈ logicWords ∨ logicWord word = word := by
  unfold logicWord
  split
  · rename_i same
    exact .inl (same ▸ by decide)
  · split
    · rename_i same
      exact .inl (same ▸ by decide)
    · split
      · rename_i same
        exact .inl (same ▸ by decide)
      · exact .inr rfl

theorem logicWord_grows (word : Text) :
    logicWord word = word ∨ countMarks word < countMarks (logicWord word) := by
  have larger : ∀ pair ∈ logicWords, countMarks pair.1 < countMarks pair.2 := by decide
  rcases logicWord_cases word with translated | kept
  · exact .inr (larger _ translated)
  · exact .inl kept

theorem quotewise_spacedLogic : Quotewise (betweenSpaces logicWord) := by
  have quoteless : ∀ pair ∈ logicWords, '"' ∉ pair.1 ∧ '"' ∉ pair.2 := by decide
  refine quotewise_betweenSpaces ?_ ?_
  · intro word quoted
    rcases logicWord_cases word with translated | kept
    · exact absurd quoted (quoteless _ translated).1
    · exact kept
  · intro word free
    rcases logicWord_cases word with translated | kept
    · exact (quoteless _ translated).2
    · exact kept.symm ▸ free

theorem reworded_eq_self (k : Keyword) (none : ∀ w ∈ separators k, ¬ w <:+: q) :
    reworded k q = q := by
  have logic (free : ∀ w ∈ separators .ifBlock, ¬ w <:+: q) :
      betweenSpaces logicWord q = q := by
    have spaced : ∀ pair ∈ logicWords, ' ' :: (pair.1 ++ [' ']) ∈ separators .ifBlock := by
      decide
    refine betweenSpaces_of_fixed fun word found => ?_
    rcases logicWord_cases word with translated | kept
    · exact absurd found (free _ (spaced _ translated))
    · exact kept
  cases k with
  | print => exact replaceAll_of_not_infix (by decide) (none " & " (List.mem_singleton_self _))
  | _ => exact logic none

theorem not_infix_of_countMarks (k : Keyword) (same : countMarks (reworded k q) = countMarks q) :
    ∀ w ∈ separators k, ¬ w <:+: q := by
  have logic (same : countMarks (betweenSpaces logicWord q) = countMarks q) :
      ∀ w ∈ separators .ifBlock, ¬ w <:+: q := by
    rcases betweenSpaces_grows (by decide) logicWord_grows q with kept | larger
    · have spaced : ∀ w ∈ separators .ifBlock, ∃ pair ∈ logicWords,
          w = ' ' :: (pair.1 ++ [' ']) ∧ ' ' ∉ pair.1 ∧ logicWord pair.1 ≠ pair.1 := by decide
      intro w mem found
      obtain ⟨pair, _, rfl, uncut, changed⟩ := spaced w mem
      exact changed (kept pair.1 uncut found)
    · exact absurd same (Nat.ne_of_gt larger)
  cases k with
  | print =>
    have replaced : Replaced " & " " << " q (replaceAll " & " " << " q) :=
      replaced_replaceAll (by decide) q
    have fewer : countMarks " << " < countMarks " & " := by decide
    rcases replaced.shrinks fewer with ⟨_, free⟩ | less
    · exact List.forall_mem_singleton.mpr free
    · exact absurd same (Nat.ne_of_lt less)
  | _ => exact logic same

end Rewording

section Spelling

variable {c : CPlusPlus}

theorem quotewise_localize (named : c.importNamespace = true → '"' ∉ c.namespaceName) :
    Quotewise c.localize := by
  cases imported : c.importNamespace with
  | true =>
    have removal : c.localize = replaceAll c.qualifier [] := by
      funext t
      exact if_pos imported
    have quoteless : '"' ∉ c.qualifier := List.not_mem_append (named imported) (by decide)
    rw [removal]
    exact quotewise_replaceAll quoteless List.not_mem_nil
  | false =>
    have kept : ∀ t, c.localize t = t := fun t => if_neg (by simp [imported])
    constructor
    · intro s t
      simp only [kept]
    · intro t quoteless
      exact (kept t).symm ▸ quoteless

theorem quotewise_substitute : Quotewise (substitute nativeNames) where
  append_cons := substitute_append_cons nativeNames (by decide)
  not_mem t quoteless := by
    rw [← filter_beq_eq_nil_iff] at quoteless ⊢
    rw [filter_substitute (by decide) (by decide), quoteless]

theorem countMarks_spelled
    (plain : c.importNamespace = true → ∀ mark ∈ operatorMarks, mark ∉ c.namespaceName)
    (t : Text) : countMarks (c.spelled t) = countMarks t := by
  have localized : ∀ u, (c.localize u).filter (· ∈ operatorMarks) =
      u.filter (· ∈ operatorMarks) := by
    intro u
    unfold localize
    split
    · rename_i imported
      have free : (c.namespaceName ++ "::").filter (· ∈ operatorMarks) = [] := by
        rw [List.filter_append, List.append_eq_nil_iff]
        refine ⟨List.filter_eq_nil_iff.mpr ?_, by decide⟩
        intro d mem mark
        exact plain imported d (of_decide_eq_true mark) mem
      rw [filter_replaceAll free rfl]
    · rfl
  unfold countMarks spelled
  rw [List.countP_eq_length_filter, List.countP_eq_length_filter, localized,
    filter_substitute (by decide) (by decide)]

end Spelling

section Lines

variable {c : CPlusPlus} {l : SourceLine} {k : Keyword}

theorem literals?_condition (params : List Text) (uncut : ∀ part ∈ params, ' ' ∉ part) :
    literals? (condition params) =
      (literals? (join " " params)).map (List.map (betweenSpaces logicWord)) := by
  by_cases none : params = []
  · rw [none]
    rfl
  have padded : ∀ parts : List Text, parts ≠ [] →
      join " " ([] :: (parts ++ [[]])) = " " ++ join " " parts ++ " " := by
    intro parts some
    rw [← List.cons_append, join_append (List.cons_ne_nil [] parts) (List.cons_ne_nil [] []),
      join_cons_of_ne_nil " " [] some, join_singleton, List.append_nil, List.nil_append]
  have within : ∀ t, literals? (" " ++ t ++ " ") = literals? t := by
    intro t
    rw [literals?_append_right (by decide), literals?_append_left (by decide)]
  have tokens : tokenize (" " ++ join " " params ++ " ") = [] :: (params ++ [[]]) := by
    rw [← padded params none]
    refine tokenize_join _ ?_ (List.cons_ne_nil [] _)
    intro part mem
    rcases List.mem_cons.mp mem with rfl | mem
    · exact List.not_mem_nil
    · rcases List.mem_append.mp mem with mem | mem
      · exact uncut part mem
      · exact List.mem_singleton.mp mem ▸ List.not_mem_nil
  have rewritten : betweenSpaces logicWord (" " ++ join " " params ++ " ") =
      " " ++ condition params ++ " " := by
    rw [betweenSpaces_eq tokens, mapButLast_append_cons]
    exact padded (params.map logicWord) (by simpa using none)
  rw [← within (condition params), ← rewritten, quotewise_spacedLogic.literals?, within]

theorem literals?_rest (resolves : c.backend.resolve l.instruction = .keyword k) :
    literals? l.instruction.rest = literals? l.text := by
  have name : '"' ∉ l.instruction.name := by
    have spellings : ∀ k ∈ Keyword.all, '"' ∉ k.spelling := by decide
    rw [Backend.spelling_of_keyword? (Backend.keyword?_of_resolve resolves)]
    exact spellings k (Keyword.mem_all k)
  have whole : l.text = join " " (l.instruction.name :: l.instruction.params) := by
    refine eq_join_of_tokenize ?_
    rw [← SourceLine.tokens_instruction]
    rfl
  by_cases none : l.instruction.params = []
  · rw [whole, Instruction.rest, none, join_singleton, literals?_of_not_mem name]
    rfl
  · have front : '"' ∉ l.instruction.name ++ " " := List.not_mem_append name (by decide)
    rw [whole, join_cons_of_ne_nil " " _ none, literals?_append_left front]
    rfl

theorem written_rewriting (rewrites : k ∈ rewriting)
    (resolves : c.backend.resolve l.instruction = .keyword k) :
    ∃ text, c.backend.written l none = .ok (.ofLine text) ∧ text.isBlank = false ∧
      literals? text = (literals? l.text).map (List.map (reworded k)) := by
  have uncut : ∀ part ∈ l.instruction.params, ' ' ∉ part := by
    intro part mem
    have token : part ∈ l.instruction.tokens := List.mem_cons_of_mem _ mem
    rw [SourceLine.tokens_instruction] at token
    exact not_mem_of_mem_splitOn token
  have framed : ∀ head body tail : Text, head.isBlank = false → '"' ∉ head → '"' ∉ tail →
      isBlank (head ++ body ++ tail) = false ∧
        literals? (head ++ body ++ tail) = literals? body := by
    intro head body tail solid quoteless quoteless'
    constructor
    · rw [isBlank_append, isBlank_append, solid, Bool.false_and, Bool.false_and]
    · rw [literals?_append_right quoteless', literals?_append_left quoteless]
  have headed : ∀ head : Text, head.isBlank = false → '"' ∉ head →
      let text := head ++ condition l.instruction.params ++ ") " ++ openBrace
      text.isBlank = false ∧
        literals? text = (literals? l.text).map (List.map (betweenSpaces logicWord)) := by
    intro head solid quoteless text
    obtain ⟨some, same⟩ := framed head (condition l.instruction.params) (") " ++ openBrace) solid
      quoteless (by decide)
    rw [← List.append_assoc] at some same
    exact ⟨some, by rw [same, literals?_condition _ uncut, ← literals?_rest resolves]; rfl⟩
  rw [Backend.written_of_keyword resolves]
  simp only [rewriting, List.mem_cons, List.not_mem_nil, or_false] at rewrites
  rcases rewrites with rfl | rfl | rfl | rfl
  · obtain ⟨some, same⟩ := framed "std::cout << " (replaceAll " & " " << " l.instruction.rest) ";"
      (by decide) (by decide) (by decide)
    refine ⟨_, rfl, some, ?_⟩
    rw [same, (quotewise_replaceAll (by decide) (by decide)).literals?, literals?_rest resolves]
    rfl
  · exact ⟨_, rfl, headed "if (" (by decide) (by decide)⟩
  · exact ⟨_, rfl, headed (closeBrace ++ " else if (") (by decide) (by decide)⟩
  · exact ⟨_, rfl, headed "while (" (by decide) (by decide)⟩

theorem action_rewriting (rewrites : k ∈ rewriting)
    (resolves : c.backend.resolve l.instruction = .keyword k) :
    ∃ a, c.backend.action l = .ok a ∧ (a = .plain ∨ ∃ f, a = .opens f) := by
  rw [Backend.action_of_keyword resolves]
  simp only [rewriting, List.mem_cons, List.not_mem_nil, or_false] at rewrites
  rcases rewrites with rfl | rfl | rfl | rfl
  · exact ⟨_, rfl, .inl rfl⟩
  · exact ⟨_, rfl, .inr ⟨_, rfl⟩⟩
  · exact ⟨_, rfl, .inl rfl⟩
  · exact ⟨_, rfl, .inr ⟨_, rfl⟩⟩

theorem exists_adds_rewriting (rewrites : k ∈ rewriting)
    (resolves : c.backend.resolve l.instruction = .keyword k) (pad : '"' ∉ c.indent)
    (named : c.importNamespace = true → '"' ∉ c.namespaceName) :
    ∃ line, c.backend.Adds l line ∧ ∀ stack, literals? (line stack) =
      (literals? l.text).map (List.map fun q => c.spelled (reworded k q)) := by
  obtain ⟨a, acts, allowed⟩ := action_rewriting rewrites resolves
  obtain ⟨text, writes, solid, same⟩ := written_rewriting rewrites resolves
  let line (stack : FrameStack) : Text :=
    c.localize (Text.times (depth (.keyword k) stack) c.indent ++ substitute nativeNames text)
  refine ⟨line, Backend.adds_of_written acts allowed writes ?_, ?_⟩
  · intro stack
    rw [emitted_ofLine c l stack solid, resolves]
    rfl
  · intro stack
    have padding : ∀ n, '"' ∉ Text.times n c.indent :=
      fun n mem => pad (Text.times_subset n c.indent mem)
    show literals? (c.localize (_ ++ substitute nativeNames text)) = _
    rw [(quotewise_localize named).literals?, literals?_append_left (padding _),
      quotewise_substitute.literals?, same, Option.map_map, Option.map_map, List.map_comp_map,
      List.map_comp_map]
    rfl

end Lines

/-- The quoted texts of a line that prints or asks for a condition are those of the source, each
    rewritten by itself: a separator or a logic word between two spaces is translated within a
    quoted text as outside of it. So they are those of the source with only their calls spelled for
    the target and the qualifier dropped of a namespace that is imported, if none of them has such a
    separator; and only then, if the name of the namespace has none of the marks of the operators.
    The one more level that the body of the program is indented by adds no quoted text. -/
theorem literals_kept_iff (c : CPlusPlus) (l : SourceLine) (k : Keyword) (rewrites : k ∈ rewriting)
    (resolves : c.backend.resolve l.instruction = .keyword k)
    (balanced : Even (l.text.count '"')) (pad : '"' ∉ c.indent)
    (named : c.importNamespace = true → '"' ∉ c.namespaceName) :
    ∃ line quoted, c.backend.Adds l line ∧ literals? l.text = some quoted ∧
      literals? (c.spelled l.text) = some (quoted.map c.spelled) ∧
      (∀ stack, literals? (line stack) = some (quoted.map fun q => c.spelled (reworded k q)) ∧
        literals? (c.indent ++ line stack) = literals? (line stack)) ∧
      ((∀ q ∈ quoted, ∀ w ∈ separators k, ¬ w <:+: q) →
        ∀ stack, literals? (line stack) = literals? (c.spelled l.text)) ∧
      ((c.importNamespace = true → ∀ mark ∈ operatorMarks, mark ∉ c.namespaceName) →
        (∀ stack, literals? (line stack) = literals? (c.spelled l.text)) →
        ∀ q ∈ quoted, ∀ w ∈ separators k, ¬ w <:+: q) := by
  obtain ⟨line, adds, rewritten⟩ := exists_adds_rewriting rewrites resolves pad named
  obtain ⟨quoted, paired⟩ :=
    Option.isSome_iff_exists.mp ((isSome_literals?_iff l.text).mpr balanced)
  have source : literals? (c.spelled l.text) = some (quoted.map c.spelled) := by
    have spelling := ((quotewise_localize named).comp quotewise_substitute).literals? l.text
    rw [paired] at spelling
    exact spelling
  rw [paired] at rewritten
  refine ⟨line, quoted, adds, paired, source, ?_, ?_, ?_⟩
  · intro stack
    exact ⟨rewritten stack, literals?_append_left pad _⟩
  · intro free stack
    have kept : (quoted.map fun q => c.spelled (reworded k q)) = quoted.map c.spelled :=
      List.map_congr_left fun q mem => by rw [reworded_eq_self k (free q mem)]
    rw [rewritten, source, ← kept]
    rfl
  · intro plain kept q mem
    have lists := (rewritten []).symm.trans ((kept []).trans source)
    have same := List.map_inj_left.mp (Option.some.inj lists) q mem
    refine not_infix_of_countMarks k ?_
    rw [← countMarks_spelled plain, same, countMarks_spelled plain]

theorem literals_kept_iff_edges :
    let c : CPlusPlus := { importNamespace := true }
    let kept : SourceLine := ⟨"print \"a&b = \" & n & \"std::x(ENDL)\"", 1⟩
    let changed : SourceLine := ⟨"elif NON s == \"(ENDL) std::ET\" ET t == \"ET OU b ET\"", 2⟩
    let translated : List Text := ["\\n ET", "ET || b ET"]
    Keyword.print ∈ rewriting ∧ c.backend.resolve kept.instruction = .keyword .print ∧
      Even (kept.text.count '"') ∧ Keyword.elifBlock ∈ rewriting ∧
      c.backend.resolve changed.instruction = .keyword .elifBlock ∧
      Even (changed.text.count '"') ∧ '"' ∉ c.indent ∧ '"' ∉ c.namespaceName ∧
      (∃ line, c.backend.Adds kept line ∧
        ∀ stack, literals? (line stack) = literals? (c.spelled kept.text)) ∧
      ∃ line, c.backend.Adds changed line ∧ ∀ stack, literals? (line stack) = some translated := by
  intro c kept changed translated
  have pad : '"' ∉ c.indent := by decide
  have named : '"' ∉ c.namespaceName := by decide
  have prints : c.backend.resolve kept.instruction = .keyword .print := by decide +kernel
  have asks : c.backend.resolve changed.instruction = .keyword .elifBlock := by decide +kernel
  have even : Even (kept.text.count '"') := by decide +kernel
  have even' : Even (changed.text.count '"') := by decide +kernel
  obtain ⟨line, quoted, adds, paired, _, _, keeps, _⟩ :=
    literals_kept_iff c kept .print (by decide) prints even pad fun _ => named
  obtain ⟨line', quoted', adds', paired', _, rewritten, _⟩ :=
    literals_kept_iff c changed .elifBlock (by decide) asks even' pad fun _ => named
  refine ⟨by decide, prints, even, by decide, asks, even', pad, named, ⟨line, adds, keeps ?_⟩,
    line', adds', ?_⟩
  · let texts : List Text := ["a&b = ", "std::x(ENDL)"]
    have read : literals? kept.text = some texts := by decide +kernel
    obtain rfl := Option.some.inj (paired.symm.trans read)
    decide +kernel
  · let texts : List Text := ["(ENDL) std::ET", "ET OU b ET"]
    have read : literals? changed.text = some texts := by decide +kernel
    obtain rfl := Option.some.inj (paired'.symm.trans read)
    intro stack
    rw [(rewritten stack).1]
    decide +kernel

/-- What separates printed values and what joins conditions is translated in a quoted text too, and
    a quote in the indentation or in the name of the namespace is one of the line. -/
theorem literals_rewritten :
    let lines : List Text := ["print \"a & b\"", "if s == \"a ET b\"", "end"]
    let source : List (List Text) := [["a & b"], ["a ET b"], []]
    let output (c : CPlusPlus) (lines : List Text) :=
      (c.backend.compile lines).toOption.map literals?
    let changed : List Text := ["a << b", "a && b"]
    let indented : List Text := ["std::cout << ", ";\n"]
    let cut : List Text := [";\n\nint main() \x7b\n\tstd::cout a"]
    lines.map (fun t => literals? (spelled {} t)) = source.map some ∧
      output {} lines = some (some changed) ∧
      output { indent := "\"" } ["print \"a\""] = some (some indented) ∧
      output { importNamespace := true, namespaceName := "<< \"" } ["print \"::a\""] =
        some (some cut) := by
  decide +kernel

end CPlusPlus

end BlockScript
