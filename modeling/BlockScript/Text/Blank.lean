import BlockScript.Text.Basic

/-!
Blank characters are those with the Unicode property White_Space. Spaces of other scripts and the
separators U+0085, U+2028 and U+2029 count; the zero-width U+200B and U+FEFF do not.
-/
namespace BlockScript.Text

def isBlankChar (c : Char) : Bool :=
  let n := c.toNat
  (0x09 ≤ n && n ≤ 0x0D) || n == 0x20 || n == 0x85 || n == 0xA0 || n == 0x1680 ||
    (0x2000 ≤ n && n ≤ 0x200A) || n == 0x2028 || n == 0x2029 || n == 0x202F || n == 0x205F ||
    n == 0x3000

def trimStart (t : Text) : Text := t.dropWhile isBlankChar
def trimEnd (t : Text) : Text := t.dropEndWhile isBlankChar
def trim (t : Text) : Text := t.trimStart.trimEnd
def isBlank (t : Text) : Bool := t.all isBlankChar

end BlockScript.Text
