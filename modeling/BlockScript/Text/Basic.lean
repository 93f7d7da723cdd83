/-!
Text is a list of characters. Positions count characters; `utf8Length` gives the size in bytes.
The cuts used throughout are a split on a separator and the removal of characters at an end.
-/
namespace BlockScript

abbrev Text := List Char

instance : Coe String Text := ⟨String.toList⟩

namespace Text

def utf8Length : Text → Nat
  | [] => 0
  | c :: rest => c.utf8Size + utf8Length rest

def join (separator : Text) (parts : List Text) : Text := separator.intercalate parts

def ofNat (n : Nat) : Text := Nat.toDigits 10 n

def dropEndWhile (p : Char → Bool) (t : Text) : Text := (t.reverse.dropWhile p).reverse

def after? : Text → Text → Option Text
  | [], t => some t
  | _ :: _, [] => none
  | c :: front, d :: t => if c = d then after? front t else none

def endsWith (t : Text) (p : Char → Bool) : Bool := t.getLast?.any p

def occursIn (pattern : Text) : Text → Bool
  | [] => pattern.isEmpty
  | c :: rest => pattern.isPrefixOf (c :: rest) || occursIn pattern rest

def times (n : Nat) (t : Text) : Text := (List.replicate n t).flatten

def toAsciiLower (t : Text) : Text := t.map Char.toLower

theorem after?_eq_some_iff {front t rest : Text} :
    after? front t = some rest ↔ t = front ++ rest := by
  induction front generalizing t with
  | nil => simp [after?]
  | cons c front ih =>
    cases t with
    | nil => simp [after?]
    | cons d t =>
      simp only [after?, List.cons_append, List.cons.injEq]
      split <;> simp_all [eq_comm]

theorem dropEndWhile_of_endsWith_eq_false {p : Char → Bool} {t : Text}
    (h : t.endsWith p = false) : t.dropEndWhile p = t := by
  rw [endsWith, List.getLast?_eq_head?_reverse] at h
  unfold dropEndWhile
  cases ht : t.reverse with
  | nil => simpa using ht.symm
  | cons last front =>
    have kept : p last = false := by simpa [ht] using h
    rw [List.dropWhile_cons_of_neg (by simp [kept]), ← ht, List.reverse_reverse]

theorem utf8Length_append (s t : Text) :
    utf8Length (s ++ t) = utf8Length s + utf8Length t := by
  induction s with
  | nil => simp [utf8Length]
  | cons c s ih =>
    simp only [List.cons_append, utf8Length, ih]
    omega

theorem length_le_utf8Length (t : Text) : t.length ≤ utf8Length t := by
  induction t with
  | nil => simp
  | cons c t ih =>
    have := c.utf8Size_pos
    simp only [List.length_cons, utf8Length]
    omega

theorem occursIn_iff (pattern t : Text) : occursIn pattern t = true ↔ pattern <:+: t := by
  induction t with
  | nil => simp [occursIn]
  | cons c t ih =>
    simp only [occursIn, Bool.or_eq_true, ih, List.infix_cons_iff, List.isPrefixOf_iff_prefix]

end Text
end BlockScript
