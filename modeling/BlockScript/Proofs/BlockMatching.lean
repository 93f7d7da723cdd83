import BlockScript.Proofs.BlockPrefix

/-!
Openers and their ends by position. An opener is matched if a block stands between it and an end of
its own; the last one without an end is what an unfinished program is left in.
-/
namespace BlockScript.BlockGrammar

variable {word : List Symbol} {around : List Frame} {f g : Frame} {s : Symbol} {i j : Nat}

/-- The symbol at the position opens a block that a later symbol ends. Only the bracketing counts,
    so the frames around may be any that suit the symbols between. -/
def Matched (word : List Symbol) (i : Nat) : Prop :=
  ∃ before f inner closer rest around, word = before ++ .opens f :: (inner ++ closer :: rest) ∧
    before.length = i ∧ Block (f :: around) inner ∧ Closes f closer

def AllMatched (word : List Symbol) : Prop :=
  ∀ i f, word[i]? = some (.opens f) → Matched word i

/-- The symbol at the position opens `f` and has no end, and every later opener has one. -/
structure LastUnmatched (word : List Symbol) (f : Frame) (i : Nat) : Prop where
  opens : word[i]? = some (.opens f)
  unmatched : ¬ Matched word i
  later : ∀ j g, i < j → word[j]? = some (.opens g) → Matched word j

theorem LastUnmatched.unique (h : LastUnmatched word f i) (h' : LastUnmatched word g j) :
    i = j ∧ f = g := by
  have same : i = j := by
    rcases Nat.lt_trichotomy i j with before | same | behind
    · exact absurd (h.later j g before h'.opens) h'.unmatched
    · exact same
    · exact absurd (h'.later i f behind h.opens) h.unmatched
  subst same
  have opener := h.opens
  rw [h'.opens] at opener
  cases opener
  exact ⟨rfl, rfl⟩

theorem Matched.append (h : Matched word i) (front back : List Symbol) :
    Matched (front ++ word ++ back) (front.length + i) := by
  obtain ⟨before, f, inner, closer, rest, around, rfl, rfl, block, closes⟩ := h
  exact ⟨front ++ before, f, inner, closer, rest ++ back, around, by simp, by simp, block, closes⟩

theorem Matched.append_left (h : Matched word i) (front : List Symbol) :
    Matched (front ++ word) (front.length + i) := by
  have longer := h.append front []
  rwa [List.append_nil] at longer

theorem AllMatched.cons (h : AllMatched word) (other : ∀ f, s ≠ .opens f) :
    AllMatched (s :: word) := by
  intro i f opener
  cases i with
  | zero => exact absurd (Option.some.inj opener) (other f)
  | succ i =>
    rw [Nat.add_comm]
    exact (h i f opener).append_left [s]

theorem AllMatched.append {more : List Symbol} (h : AllMatched word) (h' : AllMatched more) :
    AllMatched (word ++ more) := by
  intro i f opener
  rcases Nat.lt_or_ge i word.length with inside | behind
  · rw [List.getElem?_append_left inside] at opener
    have within := (h i f opener).append [] more
    rwa [List.length_nil, Nat.zero_add] at within
  · rw [List.getElem?_append_right behind] at opener
    have later := (h' _ f opener).append_left word
    rwa [Nat.add_sub_cancel' behind] at later

theorem allMatched_of_block (h : Block around word) : AllMatched word := by
  induction h with
  | empty => exact nofun
  | plain tail ih => exact ih.cons nofun
  | returns allowed tail ih => exact ih.cons nofun
  | starts allowed tail ih => exact ih.cons nofun
  | @nested around f closer inner rest allowed body closes tail ihBody ihTail =>
    have ends : ∀ g, closer ≠ .opens g := by
      rintro g rfl
      rcases closes with eq | ⟨_, eq⟩ <;> cases eq
    have behind := ihBody.append (ihTail.cons ends)
    intro i g opener
    cases i with
    | zero => exact ⟨[], f, inner, closer, rest, around, rfl, rfl, body, closes⟩
    | succ i =>
      rw [Nat.add_comm]
      exact (behind i g opener).append_left [.opens f]

end BlockScript.BlockGrammar
