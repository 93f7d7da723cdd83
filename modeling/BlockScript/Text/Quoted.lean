import BlockScript.Text.Combining
import BlockScript.Text.Printable

/-!
Quoted text, as shown in messages: between double quotes, with escapes for what does not show.
-/
namespace BlockScript.Text

def codeEscape (c : Char) : Text := "\\u\x7b" ++ Nat.toDigits 16 c.toNat ++ "\x7d"

def quoteChar (c : Char) : Text :=
  if c = '\x00' then "\\0"
  else if c = '\t' then "\\t"
  else if c = '\n' then "\\n"
  else if c = '\r' then "\\r"
  else if c = '"' then "\\\""
  else if c = '\\' then "\\\\"
  else if isCombining c || !isPrintable c then codeEscape c
  else [c]

def quoted (t : Text) : Text := "\"" ++ t.flatMap quoteChar ++ "\""

end BlockScript.Text
