import BlockScript.Text.LetterCase

/-!
Lowercase of a text in full Unicode. Two characters depend on more than themselves: the capital
sigma has a form of its own at the end of a word, and U+0130 becomes two characters.
-/
namespace BlockScript.Text

def meetsCased (t : Text) : Bool := (t.dropWhile isCaseIgnorable).head?.any isCased

/-- `before` is what precedes the character, nearest first. -/
def lowerChar (before : Text) (c : Char) (after : Text) : Text :=
  if c = 'Σ' then if meetsCased before && !meetsCased after then "ς" else "σ"
  else if c = 'İ' then "i̇"
  else match lowercaseRuns.find? (·.holds c.toNat) with
    | some run => [Char.ofNat (run.lower + (c.toNat - run.first))]
    | none => [c]

def lowerFrom (before : Text) : Text → Text
  | [] => []
  | c :: rest => lowerChar before c rest ++ lowerFrom (c :: before) rest

def toLowercase (t : Text) : Text := lowerFrom [] t

end BlockScript.Text
