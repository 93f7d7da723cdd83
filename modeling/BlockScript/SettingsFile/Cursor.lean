import BlockScript.Text.Lines

/-!
Reading a document from its start. A reader takes some characters or fails; the offset counts
bytes. What is read optionally is given back when it does not fit.
-/
namespace BlockScript.SettingsFile

/-- What is left to read, and the bytes before it. -/
structure Cursor where
  rest : Text
  offset : Nat := 0

abbrev Scan := StateT Cursor Option

namespace Scan

variable {α : Type}

def atEnd : Scan Bool := return (← get).rest.isEmpty

def char (p : Char → Bool) : Scan Char := do
  match (← get).rest with
  | c :: rest =>
      if p c then
        modify fun s => ⟨rest, s.offset + c.utf8Size⟩
        return c
      else failure
  | [] => failure

def expect (c : Char) : Scan Unit := discard (char (· == c))

def expectText (t : Text) : Scan Unit := t.forM expect

def takeWhile (p : Char → Bool) : Scan Text := do
  let taken := (← get).rest.takeWhile p
  modify fun s => ⟨s.rest.drop taken.length, s.offset + Text.utf8Length taken⟩
  return taken

def takeSome (p : Char → Bool) : Scan Text := do
  let taken ← takeWhile p
  guard (taken ≠ [])
  return taken

def accept (t : Text) : Scan Bool := (do expectText t; return true) <|> pure false

def spanned (x : Scan α) : Scan (α × Span) := do
  let start := (← get).offset
  let a ← x
  return (a, ⟨start, (← get).offset⟩)

def opt (x : Scan α) : Scan (Option α) := some <$> x <|> pure none

def manyUpTo (x : Scan α) : Nat → Scan (List α)
  | 0 => pure []
  | n + 1 => do
      match ← opt x with
      | none => return []
      | some a => return a :: (← manyUpTo x n)

/-- As many as there are. A reader that takes no character is not repeated without end. -/
def many (x : Scan α) : Scan (List α) := do manyUpTo x (← get).rest.length

def separatedBy (separator : Scan Unit) (x : Scan α) : Scan (List α) := do
  let first ← x
  let rest ← many (do separator; x)
  return first :: rest

def blanks : Scan Unit := discard (takeWhile fun c => c == ' ' || c == '\t')

def newline : Scan Unit := expectText "\n" <|> expectText "\r\n"

def isPlain (c : Char) : Bool := c == '\t' || (0x20 ≤ c.toNat && c.toNat ≠ 0x7F)

def comment : Scan Unit := do
  expect '#'
  discard (takeWhile isPlain)

def spacing : Scan Unit :=
  discard (many (newline <|> comment <|> discard (takeSome fun c => c == ' ' || c == '\t')))

def lineEnd : Scan Unit := do
  blanks
  discard (opt comment)
  if ← atEnd then return () else newline

end Scan
end BlockScript.SettingsFile
