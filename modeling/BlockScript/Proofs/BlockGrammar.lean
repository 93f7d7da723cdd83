import BlockScript.FrameStack

/-!
The grammar of nested blocks, and the stack that checks it symbol by symbol. Both read a program as
a sequence of symbols, one for each line; the main statement is that they accept the same sequences.
-/
namespace BlockScript.BlockGrammar

inductive Symbol where
  | plain
  | returns
  | starts
  | opens (frame : Frame)
  | ends
  deriving DecidableEq, Repr

/-- `case` and `default` stand only within a `switch`, however deep. -/
def MayOpen (around : List Frame) (f : Frame) : Prop :=
  f = .case ∨ f = .default → .switch ∈ around

instance (around : List Frame) (f : Frame) : Decidable (MayOpen around f) :=
  inferInstanceAs (Decidable (f = .case ∨ f = .default → .switch ∈ around))

def Closes (f : Frame) (s : Symbol) : Prop := s = .ends ∨ f = .vars ∧ s = .starts

def MayReturn (around : List Frame) : Prop := around.find? Frame.isFunction = some .fx

instance (around : List Frame) : Decidable (MayReturn around) :=
  inferInstanceAs (Decidable (around.find? Frame.isFunction = some .fx))

/-- A block within open frames, innermost first: no item, or an item and then a block. -/
inductive Block : List Frame → List Symbol → Prop where
  | empty {around : List Frame} : Block around []
  | plain {around : List Frame} {rest : List Symbol} (tail : Block around rest) :
      Block around (.plain :: rest)
  | returns {around : List Frame} {rest : List Symbol} (allowed : MayReturn around)
      (tail : Block around rest) : Block around (.returns :: rest)
  | starts {around : List Frame} {rest : List Symbol} (allowed : around.head? ≠ some .vars)
      (tail : Block around rest) : Block around (.starts :: rest)
  | nested {around : List Frame} {f : Frame} {closer : Symbol} {inner rest : List Symbol}
      (allowed : MayOpen around f) (body : Block (f :: around) inner) (closes : Closes f closer)
      (tail : Block around rest) : Block around (.opens f :: inner ++ closer :: rest)

def advance (open_ : List Frame) : Symbol → Option (List Frame)
  | .plain => some open_
  | .returns => if MayReturn open_ then some open_ else none
  | .starts => some (if open_.head? = some .vars then open_.tail else open_)
  | .opens f => if MayOpen open_ f then some (f :: open_) else none
  | .ends => open_.tail?

def run : List Frame → List Symbol → Option (List Frame)
  | frames, [] => some frames
  | frames, s :: rest => (advance frames s).bind (run · rest)

theorem run_append (frames : List Frame) (first rest : List Symbol) :
    run frames (first ++ rest) = (run frames first).bind (run · rest) := by
  induction first generalizing frames with
  | nil => rfl
  | cons s first ih =>
    simp only [List.cons_append, run]
    cases advance frames s with
    | none => rfl
    | some after => exact ih after

theorem advance_closes {f : Frame} {around : List Frame} {s : Symbol} (h : Closes f s) :
    advance (f :: around) s = some around := by
  rcases h with rfl | ⟨rfl, rfl⟩ <;> rfl

theorem run_block {around : List Frame} {word : List Symbol} (h : Block around word) :
    run around word = some around := by
  induction h with
  | empty => rfl
  | plain tail ih => exact ih
  | returns allowed tail ih => simpa [run, advance, allowed] using ih
  | starts allowed tail ih => simpa [run, advance, allowed] using ih
  | @nested around f closer inner rest allowed body closes tail ihBody ihTail =>
    have opened : advance around (.opens f) = some (f :: around) := by simp [advance, allowed]
    calc run around (.opens f :: inner ++ closer :: rest)
        = run (f :: around) (inner ++ closer :: rest) := by
          simp [run, opened]
      _ = run (f :: around) (closer :: rest) := by rw [run_append, ihBody]; rfl
      _ = run around rest := by rw [run, advance_closes closes]; rfl
      _ = some around := ihTail

/-- What remains of a program within open frames: the end of each block with its closer, from the
    innermost outwards. -/
inductive Unwinds : List Frame → List Symbol → Prop where
  | outermost {rest : List Symbol} (tail : Block [] rest) : Unwinds [] rest
  | closing {around : List Frame} {f : Frame} {closer : Symbol} {inner rest : List Symbol}
      (body : Block (f :: around) inner) (closes : Closes f closer) (tail : Unwinds around rest) :
      Unwinds (f :: around) (inner ++ closer :: rest)

theorem unwinds_prepend {around : List Frame} {word : List Symbol} (item : List Symbol)
    (extend : ∀ rest, Block around rest → Block around (item ++ rest))
    (h : Unwinds around word) : Unwinds around (item ++ word) := by
  cases h with
  | outermost tail => exact .outermost (extend _ tail)
  | @closing around f closer inner rest body closes tail =>
    rw [← List.append_assoc]
    exact .closing (extend inner body) closes tail

theorem unwinds_opens {around : List Frame} {f : Frame} {word : List Symbol}
    (allowed : MayOpen around f) (h : Unwinds (f :: around) word) :
    Unwinds around (.opens f :: word) := by
  cases h with
  | @closing _ _ closer inner rest body closes tail =>
    have extend : ∀ rest, Block around rest →
        Block around ((.opens f :: inner ++ [closer]) ++ rest) := by
      intro rest hrest
      simpa using Block.nested allowed body closes hrest
    simpa using unwinds_prepend _ extend tail

theorem unwinds_of_run {frames : List Frame} {word : List Symbol}
    (h : run frames word = some []) : Unwinds frames word := by
  induction word generalizing frames with
  | nil =>
    cases h
    exact .outermost .empty
  | cons s rest ih =>
    obtain ⟨after, step, h⟩ := Option.bind_eq_some_iff.mp h
    have tail := ih h
    cases s with
    | plain =>
      cases step
      exact unwinds_prepend [.plain] (fun _ => .plain) tail
    | returns =>
      simp only [advance, Option.ite_none_right_eq_some, Option.some.injEq] at step
      obtain ⟨allowed, rfl⟩ := step
      exact unwinds_prepend [.returns] (fun _ => .returns allowed) tail
    | starts =>
      cases step
      by_cases vars : frames.head? = some .vars
      · obtain ⟨around, rfl⟩ := List.head?_eq_some_iff.mp vars
        exact .closing .empty (.inr ⟨rfl, rfl⟩) tail
      · rw [if_neg vars] at tail
        exact unwinds_prepend [.starts] (fun _ => .starts vars) tail
    | opens f =>
      simp only [advance, Option.ite_none_right_eq_some, Option.some.injEq] at step
      obtain ⟨allowed, rfl⟩ := step
      exact unwinds_opens allowed tail
    | ends =>
      cases frames with
      | nil => cases step
      | cons f around =>
        cases step
        exact .closing .empty (.inl rfl) tail

/-- The stack accepts a whole program exactly when the grammar derives it. -/
theorem run_eq_some_nil_iff {word : List Symbol} : run [] word = some [] ↔ Block [] word := by
  constructor
  · intro h
    cases unwinds_of_run h with
    | outermost tail => exact tail
  · exact run_block

end BlockScript.BlockGrammar
