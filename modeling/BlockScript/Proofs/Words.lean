import BlockScript.Instruction
import BlockScript.Text.Blank

/-!
The words of a program: names, and integers in decimal notation. Neither has a space or a mark of
punctuation in it, so a line is cut into the words that it was joined from.
-/
namespace BlockScript

namespace Text

def isNameChar (c : Char) : Bool :=
  c.isAlphanum || c == '_' || (0x80 ≤ c.toNat && !isBlankChar c)

def IsName (t : Text) : Prop := t ≠ [] ∧ ∀ c ∈ t, isNameChar c = true

instance (t : Text) : Decidable t.IsName :=
  decidable_of_iff (t ≠ [] ∧ t.all isNameChar) (by rw [List.all_eq_true]; rfl)

/-- A name that no number begins. -/
def IsVariable (t : Text) : Prop := t.IsName ∧ ∀ c ∈ t.head?, c.isDigit = false

instance (t : Text) : Decidable t.IsVariable :=
  decidable_of_iff (t.IsName ∧ t.head?.all (! ·.isDigit))
    (by simp [IsVariable, Option.all_eq_true])

/-- A number without leading zeros, with which C++ would begin an octal one. -/
def natural? (t : Text) : Option Nat :=
  if t ≠ [] ∧ t.all Char.isDigit ∧ (t.head? = some '0' → t = ['0']) then
    some (t.foldl (fun n c => 10 * n + (c.toNat - '0'.toNat)) 0)
  else none

def integer? : Text → Option Int
  | '-' :: digits => (natural? digits).map (-Int.ofNat ·)
  | '+' :: digits => (natural? digits).map Int.ofNat
  | digits => (natural? digits).map Int.ofNat

example : integer? "-42" = some (-42) ∧ integer? "042" = none := by decide

def IsWord (t : Text) : Prop := t ≠ [] ∧ ∀ c ∈ t, isNameChar c = true ∨ c = '-' ∨ c = '+'

variable {t : Text} {c : Char}

theorem IsName.isWord (h : t.IsName) : t.IsWord := ⟨h.1, fun c mem => .inl (h.2 c mem)⟩

theorem IsWord.not_mem (h : t.IsWord) (mark : isNameChar c = false) (signless : c ≠ '-' ∧ c ≠ '+') :
    c ∉ t := by
  intro mem
  rcases h.2 c mem with name | minus | plus
  · rw [mark] at name
    cases name
  · exact signless.1 minus
  · exact signless.2 plus

theorem IsWord.no_space (h : t.IsWord) : ' ' ∉ t := h.not_mem (by decide) (by decide)

theorem IsWord.no_mark (h : t.IsWord) : '(' ∉ t ∧ ':' ∉ t :=
  ⟨h.not_mem (by decide) (by decide), h.not_mem (by decide) (by decide)⟩

theorem toNat_of_isAlphanum (h : c.isAlphanum = true) :
    0x41 ≤ c.toNat ∧ c.toNat ≤ 0x5A ∨ 0x61 ≤ c.toNat ∧ c.toNat ≤ 0x7A ∨
      0x30 ≤ c.toNat ∧ c.toNat ≤ 0x39 := by
  rcases Bool.or_eq_true_iff.mp h with letter | digit
  · rcases Bool.or_eq_true_iff.mp letter with upper | lower
    · exact .inl (of_decide_eq_true upper)
    · obtain ⟨low, high⟩ := Bool.and_eq_true_iff.mp lower
      exact .inr (.inl ⟨of_decide_eq_true low, of_decide_eq_true high⟩)
  · exact .inr (.inr (Char.isDigit_iff_toNat.mp digit))

theorem isBlankChar_of_isNameChar (h : isNameChar c = true) : isBlankChar c = false := by
  rw [← Bool.not_eq_true]
  intro blank
  -- what is not ASCII is a name character only where it is not blank
  have ascii : c.isAlphanum = true ∨ c = '_' := by
    simpa [isNameChar, blank] using h
  rcases ascii with word | rfl
  · have range := toNat_of_isAlphanum word
    simp only [isBlankChar, Bool.or_eq_true, Bool.and_eq_true, decide_eq_true_eq,
      beq_iff_eq] at blank
    omega
  · cases blank

theorem IsWord.solid (h : t.IsWord) : ∀ c ∈ t, isBlankChar c = false := by
  intro c mem
  rcases h.2 c mem with name | rfl | rfl
  · exact isBlankChar_of_isNameChar name
  · rfl
  · rfl

theorem isWord_of_natural? {n : Nat} (h : natural? t = some n) : t.IsWord := by
  unfold natural? at h
  split at h
  · rename_i digits
    refine ⟨digits.1, fun c mem => .inl ?_⟩
    have digit := List.all_eq_true.mp digits.2.1 c mem
    simp [isNameChar, Char.isAlphanum, digit]
  · cases h

theorem isWord_of_integer? {n : Int} (h : integer? t = some n) : t.IsWord := by
  have signed : ∀ {sign : Char} {digits : Text} {m : Nat}, sign = '-' ∨ sign = '+' →
      natural? digits = some m → IsWord (sign :: digits) := by
    intro sign digits m mark read
    refine ⟨List.cons_ne_nil sign digits, ?_⟩
    intro c mem
    rcases List.mem_cons.mp mem with rfl | mem
    · exact .inr mark
    · exact (isWord_of_natural? read).2 c mem
  unfold integer? at h
  split at h
  · obtain ⟨m, read, _⟩ := Option.map_eq_some_iff.mp h
    exact signed (.inl rfl) read
  · obtain ⟨m, read, _⟩ := Option.map_eq_some_iff.mp h
    exact signed (.inr rfl) read
  · obtain ⟨m, read, _⟩ := Option.map_eq_some_iff.mp h
    exact isWord_of_natural? read

theorem integer?_of_isVariable (h : t.IsVariable) : integer? t = none := by
  obtain ⟨⟨some, letters⟩, start⟩ := h
  obtain ⟨first, rest, rfl⟩ := List.exists_cons_of_ne_nil some
  have name := letters first List.mem_cons_self
  have letter : first.isDigit = false := start first rfl
  have number : natural? (first :: rest) = none := by
    refine if_neg ?_
    rintro ⟨_, digits, _⟩
    rw [List.all_eq_true.mp digits first List.mem_cons_self] at letter
    cases letter
  unfold integer?
  split
  · rename_i sign
    cases sign
    cases name
  · rename_i sign
    cases sign
    cases name
  · rw [number]
    rfl

end Text

theorem eq_join_of_tokenize {t : Text} {tokens : List Text} (cut : tokenize t = tokens) :
    t = Text.join " " tokens := by
  rw [← cut]
  exact (List.intercalate_splitOn ' ').symm

theorem tokenize_join (parts : List Text) (apart : ∀ part ∈ parts, ' ' ∉ part)
    (some : parts ≠ []) : tokenize (Text.join " " parts) = parts :=
  List.splitOn_intercalate ' ' apart some

end BlockScript
