import BlockScript.Proofs.AddedLine
import BlockScript.Proofs.Marks

/-!
The values of a counted loop, as the pseudocode announces them and as the C++ statement visits
them. They are unbounded integers, so no step overflows, and the literals of the header have no
leading zeros. The statement tests for the end from below whatever its step, so the two agree for
positive steps; with a negative one the statement makes no pass, or never ends.
-/
namespace BlockScript
open Text

/-- `Pour <name> allant de <start> à <stop> avec un pas de <step>`, with unbounded integers that are
    written without leading zeros. -/
structure CountedLoop where
  name : Text
  start : Int
  stop : Int
  step : Int
  deriving DecidableEq, Repr

namespace CountedLoop

def ofTokens? : List Text → Option CountedLoop
  | [pour, name, allant, de, start, until_, stop, avec, un, pas, of, step] => do
      let start ← integer? start
      let stop ← integer? stop
      let step ← integer? step
      if [pour, allant, de, until_, avec, un, pas, of] =
          (["Pour", "allant", "de", "à", "avec", "un", "pas", "de"] : List Text) then
        some ⟨name, start, stop, step⟩
      else none
  | _ => none

def read? (t : Text) : Option CountedLoop := ofTokens? (tokenize t)

def Passed (l : CountedLoop) (x : Int) : Prop := if 0 < l.step then l.stop < x else x < l.stop

def count (l : CountedLoop) : Nat := ((l.stop - l.start).fdiv l.step + 1).toNat

def values (l : CountedLoop) : List Int :=
  (List.range l.count).map fun i : Nat => l.start + i * l.step

variable {l : CountedLoop}

theorem lt_count_iff (moves : l.step ≠ 0) (i : Nat) :
    i < l.count ↔ ¬ l.Passed (l.start + i * l.step) := by
  have within : i < l.count ↔ (i : Int) ≤ (l.stop - l.start).fdiv l.step := by
    rw [count]
    omega
  unfold Passed
  rw [within]
  rcases Int.lt_or_gt_of_ne moves with down | up
  · rw [if_neg (by omega), ← Int.neg_fdiv_neg, Int.fdiv_eq_ediv_of_nonneg _ (by omega),
      Int.le_ediv_iff_mul_le (by omega), Int.mul_neg]
    omega
  · rw [if_pos up, Int.fdiv_eq_ediv_of_nonneg _ (by omega), Int.le_ediv_iff_mul_le up]
    omega

theorem values_of_passed (moves : l.step ≠ 0) (passed : l.Passed l.start) : l.values = [] := by
  have none : l.count = 0 := by
    have first := lt_count_iff (l := l) moves 0
    simp only [Int.natCast_zero, Int.zero_mul, Int.add_zero, passed, not_true, iff_false] at first
    omega
  rw [values, none]
  rfl

theorem values_of_not_passed (moves : l.step ≠ 0) (kept : ¬ l.Passed l.start) :
    l.values = l.start :: values { l with start := l.start + l.step } := by
  have some : 0 < l.count := by
    rw [lt_count_iff moves]
    simpa using kept
  have later : ∀ i : Nat, l.start + l.step + i * l.step = l.start + (i + 1 : Nat) * l.step := by
    intro i
    rw [Int.natCast_add, Int.natCast_one, Int.add_mul, Int.one_mul]
    omega
  have shift : ∀ i, i < count { l with start := l.start + l.step } ↔ i + 1 < l.count := by
    intro i
    rw [lt_count_iff (l := l) moves, ← later]
    exact lt_count_iff (l := { l with start := l.start + l.step }) moves i
  have one_more : l.count = count { l with start := l.start + l.step } + 1 := by
    have none := shift (count { l with start := l.start + l.step })
    have last := shift (l.count - 1)
    omega
  unfold values
  rw [one_more, List.range_succ_eq_map, List.map_cons, List.map_map]
  refine congr (congrArg List.cons (by simp)) (List.map_congr_left fun i _ => ?_)
  exact (later i).symm

end CountedLoop

inductive Comparison where
  | lt | le | gt | ge
  deriving DecidableEq, Repr

namespace Comparison

def ofText? (t : Text) : Option Comparison :=
  if t = "<" then some lt
  else if t = "<=" then some le
  else if t = ">" then some gt
  else if t = ">=" then some ge
  else none

def Holds (x y : Int) : Comparison → Prop
  | lt => x < y
  | le => x ≤ y
  | gt => x > y
  | ge => x ≥ y

end Comparison

/-- `for (<name> = <start>; <name> <test> <bound>; <name> += <step>) {`. -/
structure ForStatement where
  name : Text
  start : Int
  test : Comparison
  bound : Int
  step : Int
  deriving DecidableEq, Repr

namespace ForStatement

def ofTokens? : List Text → Option ForStatement
  | [word, opened, is, start, tested, test, bound, changed, op, step, brace] => do
      let name ← after? "(" opened
      let start ← (before? ';' start).bind integer?
      let test ← Comparison.ofText? test
      let bound ← (before? ';' bound).bind integer?
      let step ← (before? ')' step).bind integer?
      if [word, is, tested, changed, op, brace] =
          (["for", "=", name, name, "+=", CPlusPlus.openBrace] : List Text) then
        some ⟨name, start, test, bound, step⟩
      else none
  | _ => none

def read? (t : Text) : Option ForStatement := ofTokens? (tokenize t)

/-- The values with which the body is entered, from the one at hand on, if the body leaves the
    variable alone and the loop ends. -/
inductive Visits (f : ForStatement) : Int → List Int → Prop where
  | done {x : Int} (leaves : ¬ f.test.Holds x f.bound) : Visits f x []
  | pass {x : Int} {rest : List Int} (enters : f.test.Holds x f.bound)
      (next : Visits f (x + f.step) rest) : Visits f x (x :: rest)

variable {f : ForStatement}

theorem visits_values (test : f.test = .le) (up : 0 < f.step) (name : Text) (x : Int) :
    f.Visits x (CountedLoop.values ⟨name, x, f.bound, f.step⟩) := by
  have passed : ∀ x, CountedLoop.Passed ⟨name, x, f.bound, f.step⟩ x ↔ f.bound < x := by
    intro x
    simp [CountedLoop.Passed, up]
  have moves : f.step ≠ 0 := by omega
  generalize values : CountedLoop.values ⟨name, x, f.bound, f.step⟩ = vs
  -- by induction on the values that are left, of which each pass takes the first
  induction vs generalizing x with
  | nil =>
    refine .done fun enters => ?_
    rw [test] at enters
    have more := CountedLoop.values_of_not_passed moves (mt (passed x).mp (Int.not_lt.mpr enters))
    rw [values] at more
    cases more
  | cons y rest ih =>
    by_cases beyond : f.bound < x
    · have none := CountedLoop.values_of_passed moves ((passed x).mpr beyond)
      rw [values] at none
      cases none
    · have more := CountedLoop.values_of_not_passed moves (mt (passed x).mp beyond)
      rw [values] at more
      obtain ⟨rfl, later⟩ := List.cons.inj more
      refine .pass ?_ (ih (y + f.step) later.symm)
      rw [test]
      exact Int.not_lt.mp beyond

theorem Visits.not_le {x : Int} {vs : List Int} (visits : f.Visits x vs) (test : f.test = .le)
    (down : f.step < 0) : ¬ x ≤ f.bound := by
  induction visits with
  | done leaves =>
    rw [test] at leaves
    exact leaves
  | pass enters next ih =>
    intro within
    exact ih (by omega)

theorem visits_down_iff (test : f.test = .le) (down : f.step < 0) {x : Int} {vs : List Int} :
    f.Visits x vs ↔ f.bound < x ∧ vs = [] := by
  constructor
  · intro visits
    have beyond := visits.not_le test down
    refine ⟨by omega, ?_⟩
    cases visits with
    | done leaves => rfl
    | pass enters next =>
      rw [test] at enters
      exact absurd enters beyond
  · rintro ⟨beyond, rfl⟩
    refine .done ?_
    rw [test]
    exact Int.not_le.mpr beyond

theorem visits_values_iff (test : f.test = .le) (moves : f.step ≠ 0) (name : Text) :
    f.Visits f.start (CountedLoop.values ⟨name, f.start, f.bound, f.step⟩) ↔ 0 < f.step := by
  constructor
  · intro visits
    by_contra still
    have down : f.step < 0 := by omega
    obtain ⟨beyond, none⟩ := (visits_down_iff test down).mp visits
    have kept : ¬ CountedLoop.Passed ⟨name, f.start, f.bound, f.step⟩ f.start := by
      simp [CountedLoop.Passed, still]
      omega
    rw [CountedLoop.values_of_not_passed moves kept] at none
    cases none
  · intro up
    exact visits_values test up name f.start

end ForStatement

structure ForLoop.IsPlain (l : ForLoop) : Prop where
  name : l.name.IsWord
  start : l.start.IsWord
  stop : l.stop.IsWord
  step : l.step.IsWord

section Headers

variable {l : ForLoop} {name start stop step : Text} {a b s : Int}

theorem ForLoop.IsPlain.of_integers (named : name.IsWord) (first : integer? start = some a)
    (last : integer? stop = some b) (stride : integer? step = some s) :
    IsPlain ⟨name, start, stop, step⟩ :=
  ⟨named, isWord_of_integer? first, isWord_of_integer? last, isWord_of_integer? stride⟩

theorem CPlusPlus.forHeader_eq (l : ForLoop) : forHeader l =
    join " " ["for", "(" ++ l.name, "=", l.start ++ ";", l.name, "<=", l.stop ++ ";", l.name, "+=",
      l.step ++ ")", openBrace] := by
  unfold forHeader
  simp only [join_cons_cons, join_singleton, List.append_assoc, String.reduceToList,
    List.cons_append, List.nil_append]

theorem Pseudocode.forHeader_eq (l : ForLoop) : forHeader l =
    join " " ["Pour", l.name, "allant", "de", l.start, "à", l.stop, "avec", "un", "pas", "de",
      l.step] := by
  unfold forHeader
  simp only [join_cons_cons, join_singleton, List.append_assoc, String.reduceToList,
    List.cons_append, List.nil_append]

theorem ForStatement.read?_forHeader (named : name.IsWord) (first : integer? start = some a)
    (last : integer? stop = some b) (stride : integer? step = some s) :
    read? (CPlusPlus.forHeader ⟨name, start, stop, step⟩) = some ⟨name, a, .le, b, s⟩ := by
  have plain := ForLoop.IsPlain.of_integers named first last stride
  have cut := tokenize_join ["for", "(" ++ name, "=", start ++ ";", name, "<=", stop ++ ";", name,
    "+=", step ++ ")", CPlusPlus.openBrace]
    (by simp [plain.name.no_space, plain.start.no_space, plain.stop.no_space, plain.step.no_space,
      CPlusPlus.openBrace]) (List.cons_ne_nil _ _)
  have opened : after? "(" ("(" ++ name) = some name := after?_eq_some_iff.mpr rfl
  have ended : ∀ t : Text, before? ';' (t ++ ";") = some t := before?_concat ';'
  have closed : before? ')' (step ++ ")") = some step := before?_concat ')' step
  have test : Comparison.ofText? "<=" = some .le := by decide
  unfold read?
  rw [CPlusPlus.forHeader_eq, cut]
  simp only [ofTokens?, opened, ended, closed, first, last, stride, test, Option.bind_some,
    Option.bind_eq_bind, if_true]

theorem CountedLoop.read?_forHeader (named : name.IsWord) (first : integer? start = some a)
    (last : integer? stop = some b) (stride : integer? step = some s) :
    read? (Pseudocode.forHeader ⟨name, start, stop, step⟩) = some ⟨name, a, b, s⟩ := by
  have plain := ForLoop.IsPlain.of_integers named first last stride
  have cut := tokenize_join ["Pour", name, "allant", "de", start, "à", stop, "avec", "un", "pas",
    "de", step]
    (by simp [plain.name.no_space, plain.start.no_space, plain.stop.no_space, plain.step.no_space])
    (List.cons_ne_nil _ _)
  unfold read?
  rw [Pseudocode.forHeader_eq, cut]
  simp only [ofTokens?, first, last, stride, Option.bind_some, Option.bind_eq_bind, if_true]

theorem markFree_cons_paren (named : name.IsWord) : MarkFree ('(' :: name) := by
  have letters : '(' ∉ name ∧ ')' ∉ name :=
    ⟨named.not_mem (by decide) (by decide), named.not_mem (by decide) (by decide)⟩
  have parens : ∀ m ∈ marks, '(' ∈ m ∧ (m.head? = some '(' → ')' ∈ m) := by decide
  intro m mem found
  obtain ⟨opens, closes⟩ := parens m mem
  rcases List.infix_cons_iff.mp found with front | inside
  · have first : m.head? = some '(' := by
      obtain ⟨d, rest, rfl⟩ := List.exists_cons_of_ne_nil (List.ne_nil_of_mem opens)
      rw [List.cons_prefix_cons] at front
      rw [front.1]
      rfl
    have last := front.subset (closes first)
    simp [letters.2] at last
  · exact letters.1 (inside.subset opens)

theorem CPlusPlus.unmarked_forHeader (plain : l.IsPlain) :
    MarkFree (forHeader l) ∧ ':' ∉ forHeader l := by
  have rest := unmarked_join ["=", l.start ++ ";", l.name, "<=", l.stop ++ ";", l.name, "+=",
    l.step ++ ")", openBrace]
    (by simp [plain.name.no_mark, plain.start.no_mark, plain.stop.no_mark, plain.step.no_mark,
      openBrace])
  have whole : forHeader l = "for" ++ ' ' :: ('(' :: l.name) ++
      ' ' :: join " " ["=", l.start ++ ";", l.name, "<=", l.stop ++ ";", l.name, "+=",
        l.step ++ ")", openBrace] := by
    rw [forHeader_eq, join_cons_cons, join_cons_cons]
    simp only [String.reduceToList, List.append_assoc, List.cons_append, List.nil_append]
  rw [whole, markFree_append_cons_iff (by decide), markFree_append_cons_iff (by decide)]
  refine ⟨⟨⟨by decide, markFree_cons_paren plain.name⟩, rest.1⟩, ?_⟩
  have front : ':' ∉ ("for" : Text) ++ ' ' :: '(' :: l.name := by simp [plain.name.no_mark]
  intro colon
  rcases List.mem_append.mp colon with inside | inside
  · exact front inside
  · exact rest.2 (List.mem_of_ne_of_mem (by decide) inside)

theorem Pseudocode.unmarked_forHeader (plain : l.IsPlain) :
    MarkFree (forHeader l) ∧ ':' ∉ forHeader l := by
  rw [forHeader_eq]
  exact unmarked_join _ (by
    simp [plain.name.no_mark, plain.start.no_mark, plain.stop.no_mark, plain.step.no_mark])

theorem Settings.adds_forLoop {settings : Settings} {target : Target} {l : SourceLine}
    {header : Text} (word : l.instruction.name = "for") (bounds : ¬ l.instruction.params.length < 3)
    (renders : (settings.backend target).render .forLoop l.instruction none =
      .ok (.ofLine header))
    (solid : header.isBlank = false) (free : MarkFree header) (foreign : ':' ∉ header) :
    (settings.backend target).Adds l fun stack =>
      settings.padding target (.keyword .forLoop) stack ++ header := by
  have resolved : (settings.backend target).resolve l.instruction = .keyword .forLoop := by
    unfold Backend.resolve
    rw [word]
    cases target <;> rfl
  have acts : (settings.backend target).action l = .ok (.opens .forLoop) := by
    rw [Backend.action_of_keyword resolved, BlockAction.ofLine_forLoop_eq_ok_iff]
    exact ⟨bounds, rfl⟩
  have ends : ended target (.keyword .forLoop) header = header := by
    cases target <;> rfl
  have adds := adds_of_markFree resolved acts (.inr ⟨_, rfl⟩)
    ((Backend.written_of_keyword resolved none).trans renders) solid free foreign
  rw [ends] at adds
  exact adds

end Headers

/-- The header of a loop from `start` to `stop` by `step`, integers without leading zeros, reads in
    both targets as it was written. Over the unbounded integers C++ visits what the pseudocode
    announces exactly when the step is positive. With a negative one it visits nothing at all, and
    it ends only where the start is beyond the end. -/
theorem Settings.loop_values_iff (settings : Settings) (l : SourceLine)
    (name start stop step : Text) (a b s : Int)
    (tokens : l.instruction.tokens = (["for", name, start, stop, step] : List Text))
    (named : name.IsName) (first : integer? start = some a) (last : integer? stop = some b)
    (stride : integer? step = some s) (moves : s ≠ 0) :
    let statement := CPlusPlus.forHeader ⟨name, start, stop, step⟩
    let announced := Pseudocode.forHeader ⟨name, start, stop, step⟩
    let f : ForStatement := ⟨name, a, .le, b, s⟩
    let loop : CountedLoop := ⟨name, a, b, s⟩
    ((settings.backend .cpp).Adds l fun stack =>
        settings.padding .cpp (.keyword .forLoop) stack ++ statement) ∧
      ((settings.backend .pseudocode).Adds l fun stack =>
        settings.padding .pseudocode (.keyword .forLoop) stack ++ announced) ∧
      ForStatement.read? statement = some f ∧ CountedLoop.read? announced = some loop ∧
      (f.Visits a loop.values ↔ 0 < s) ∧
      (s < 0 → ∀ vs, f.Visits a vs ↔ b < a ∧ vs = []) := by
  intro statement announced f loop
  have word := named.isWord
  have plain := ForLoop.IsPlain.of_integers word first last stride
  obtain ⟨headed, bounds⟩ : l.instruction.name = "for" ∧
      l.instruction.params = [name, start, stop, step] := List.cons.inj tokens
  have read : ForLoop.read l.instruction.params = .ok ⟨name, start, stop, step⟩ := by
    rw [bounds]
    simp [ForLoop.read, plain.step.1]
  have enough : ¬ l.instruction.params.length < 3 := by
    rw [bounds]
    simp
  have states : (settings.backend .cpp).Adds l fun stack =>
      settings.padding .cpp (.keyword .forLoop) stack ++ statement := by
    have renders : settings.cpp.render .forLoop l.instruction none = .ok (.ofLine statement) := by
      simp only [CPlusPlus.render, read]
      rfl
    obtain ⟨free, foreign⟩ := CPlusPlus.unmarked_forHeader plain
    exact adds_forLoop headed enough renders (CPlusPlus.not_isBlank_openBrace _) free foreign
  have announces : (settings.backend .pseudocode).Adds l fun stack =>
      settings.padding .pseudocode (.keyword .forLoop) stack ++ announced := by
    have renders : settings.pseudocode.render .forLoop l.instruction none =
        .ok (.ofLine announced) := by
      simp only [Pseudocode.render, read]
      rfl
    obtain ⟨free, foreign⟩ := Pseudocode.unmarked_forHeader plain
    exact adds_forLoop headed enough renders rfl free foreign
  refine ⟨states, announces, ForStatement.read?_forHeader word first last stride,
    CountedLoop.read?_forHeader word first last stride, ?_, ?_⟩
  · exact ForStatement.visits_values_iff (f := f) rfl moves name
  · intro down vs
    exact ForStatement.visits_down_iff (f := f) rfl down

theorem Settings.loop_values_iff_by_two :
    let settings : Settings := {}
    ForStatement.Visits ⟨"i", 0, .le, 7, 2⟩ 0 [0, 2, 4, 6] ∧
      ∃ after, (settings.backend .cpp).step ⟨"for i 0 7 2", 1⟩ {} = .ok () after ∧
        after.body = [("for (i = 0; i <= 7; i += 2) \x7b" : Text)] := by
  intro settings
  obtain ⟨states, _, _, _, visits, _⟩ := Settings.loop_values_iff settings ⟨"for i 0 7 2", 1⟩
    "i" "0" "7" "2" 0 7 2 (by decide) (by decide) (by decide) (by decide) (by decide) (by decide)
  obtain ⟨after, steps, _, body⟩ := states {}
  cases steps
  exact ⟨visits.mpr (by decide), _, rfl, body.trans (by decide +kernel)⟩

/-- Counting down, the statement visits nothing from 10 to 0, and does not end from 0 to 0. -/
theorem Settings.downward_loop :
    let settings : Settings := {}
    (settings.backend .cpp).compile ["for i 10 0 -1", "end"] =
        .ok ("#include <iostream>\n\nint main() \x7b\n" ++
          "\tfor (i = 10; i <= 0; i += -1) \x7b\n\t\x7d\n\treturn 0;\n\x7d") ∧
      ForStatement.read? "for (i = 10; i <= 0; i += -1) \x7b" = some ⟨"i", 10, .le, 0, -1⟩ ∧
      CountedLoop.values ⟨"i", 10, 0, -1⟩ = [10, 9, 8, 7, 6, 5, 4, 3, 2, 1, 0] ∧
      (∀ vs, ForStatement.Visits ⟨"i", 10, .le, 0, -1⟩ 10 vs ↔ vs = []) ∧
      ∀ vs, ¬ ForStatement.Visits ⟨"i", 0, .le, 0, -1⟩ 0 vs := by
  intro settings
  refine ⟨by decide +kernel, by decide +kernel, by decide, ?_, ?_⟩
  · intro vs
    rw [ForStatement.visits_down_iff rfl (by decide)]
    exact and_iff_right (by decide)
  · intro vs visits
    have beyond := ((ForStatement.visits_down_iff rfl (by decide)).mp visits).1
    exact absurd beyond (by decide)

end BlockScript
