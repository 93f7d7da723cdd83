import BlockScript.SettingsFile.Cursor

/-!
Quoted text of a settings document, with and without escapes, on one line or on several.
-/
namespace BlockScript.SettingsFile

open Scan

def hexDigit (c : Char) : Nat := if c.isDigit then c.toNat - 48 else c.toLower.toNat - 87

def hexValue (digits : Text) : Nat := digits.foldl (fun n c => n * 16 + hexDigit c) 0

def isHexDigit (c : Char) : Bool :=
  c.isDigit || ('a' ≤ c && c ≤ 'f') || ('A' ≤ c && c ≤ 'F')

def exactly (n : Nat) (p : Char → Bool) : Scan Text := (List.replicate n p).mapM char

def codePoint (digits : Nat) : Scan Char := do
  let n := hexValue (← exactly digits isHexDigit)
  if n.isValidChar then return Char.ofNat n else failure

def escaped : Scan Char := do
  match ← char fun _ => true with
  | 'b' => return '\x08'
  | 't' => return '\t'
  | 'n' => return '\n'
  | 'f' => return '\x0c'
  | 'r' => return '\r'
  | '"' => return '"'
  | '\\' => return '\\'
  | 'u' => codePoint 4
  | 'U' => codePoint 8
  | _ => failure

def escape : Scan Char := do expect '\\'; escaped

def basicText : Scan Text := do
  expect '"'
  let content ← many (char (fun c => isPlain c && c != '"' && c != '\\') <|> escape)
  expect '"'
  return content

def literalText : Scan Text := do
  expect '\''
  let content ← takeWhile fun c => isPlain c && c != '\''
  expect '\''
  return content

def lineJoin : Scan Unit := do
  expect '\\'
  blanks
  newline
  discard (many (newline <|> discard (takeSome fun c => c == ' ' || c == '\t')))

def innerQuotes (quote : Char) : Scan Text := do
  let run ← takeSome (· == quote)
  if run.length < 3 then return run else failure

/-- Up to two quotes before the closing three belong to the text. -/
def closingQuotes (quote : Char) : Scan Text := do
  let run ← takeWhile (· == quote)
  if 3 ≤ run.length && run.length ≤ 5 then return run.drop 3 else failure

/-- A line end directly after the opening quotes is dropped. -/
def longText (quote : Char) (piece : Scan Text) : Scan Text := do
  expectText [quote, quote, quote]
  discard (opt newline)
  let pieces ← many (piece <|> (do newline; return ['\n']) <|> innerQuotes quote)
  let final ← closingQuotes quote
  return pieces.flatten ++ final

def longBasicText : Scan Text :=
  longText '"'
    (takeSome (fun c => isPlain c && c != '"' && c != '\\') <|>
      (do lineJoin; return []) <|> (do return [← escape]))

def longLiteralText : Scan Text := longText '\'' (takeSome fun c => isPlain c && c != '\'')

def quotation : Scan Text := longBasicText <|> basicText <|> longLiteralText <|> literalText

end BlockScript.SettingsFile
