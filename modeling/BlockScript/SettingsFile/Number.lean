import BlockScript.Decimal.Double
import BlockScript.SettingsFile.Quotation

/-!
Numbers and truth values of a settings document. Whole numbers have 64 bits. An underscore may
stand between two digits, and decimal numbers have no superfluous leading zero.
-/
namespace BlockScript.SettingsFile

inductive Number where
  | finite (negative : Bool) (magnitude : Double)
  | infinite (negative : Bool)
  | nan

open Scan

def digitRun (isDigit : Char → Bool) : Scan Text := do
  let first ← char isDigit
  let rest ← many (do discard (accept "_"); char isDigit)
  return first :: rest

def sign : Scan Bool := (do expect '-'; return true) <|> (do discard (accept "+"); return false)

def wholePart : Scan Text := do
  if (← get).rest.head? = some '0' then
    expect '0'
    return "0"
  else digitRun Char.isDigit

def inRange (n : Int) : Scan Int :=
  if -0x8000000000000000 ≤ n && n < 0x8000000000000000 then return n else failure

def decimalInteger : Scan Int := do
  let negative ← sign
  let n : Int := Nat.ofDigitChars 10 (← wholePart) 0
  inRange (if negative then -n else n)

def radixInteger (mark : Text) (base : Nat) (isDigit : Char → Bool) : Scan Int := do
  expectText mark
  let digits ← digitRun isDigit
  inRange (digits.foldl (fun n c => n * base + hexDigit c) 0 : Nat)

def integer : Scan Int :=
  radixInteger "0x" 16 isHexDigit <|> radixInteger "0o" 8 (fun c => '0' ≤ c && c ≤ '7') <|>
    radixInteger "0b" 2 (fun c => c == '0' || c == '1') <|> decimalInteger

def fractionPart : Scan Text := do expect '.'; digitRun Char.isDigit

def exponentPart : Scan Int := do
  discard (char fun c => c == 'e' || c == 'E')
  let negative ← sign
  let n : Int := Nat.ofDigitChars 10 (← digitRun Char.isDigit) 0
  return if negative then -n else n

/-- A positive number beyond the largest double is refused, a negative one infinite. -/
def float : Scan Number := do
  let negative ← sign
  let whole ← wholePart
  let fraction ← opt fractionPart
  let exponent ← opt exponentPart
  guard (fraction.isSome || exponent.isSome)
  let places := fraction.getD []
  let value : Decimal :=
    ⟨Nat.ofDigitChars 10 (whole ++ places) 0, exponent.getD 0 - (places.length : Int)⟩
  match Double.ofDecimal value, negative with
  | some magnitude, _ => return .finite negative magnitude
  | none, true => return .infinite true
  | none, false => failure

def specialFloat : Scan Number := do
  let negative ← sign
  (do expectText "inf"; return .infinite negative) <|> (do expectText "nan"; return .nan)

def boolean : Scan Bool :=
  (do expectText "true"; return true) <|> (do expectText "false"; return false)

end BlockScript.SettingsFile
