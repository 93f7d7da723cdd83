import BlockScript.SettingsFile.Number

/-!
Dates and times of a settings document, brought into one form: `T` between date and time, `Z` for
no offset, a plus sign before an offset of zero, and a fraction of at most nine digits without
zeros at its end.
-/
namespace BlockScript.SettingsFile

open Scan

def twoDigits (n : Nat) : Text := if n < 10 then '0' :: Text.ofNat n else Text.ofNat n

def numberUpTo (digits most : Nat) : Scan Nat := do
  let n := Nat.ofDigitChars 10 (← exactly digits Char.isDigit) 0
  if n ≤ most then return n else failure

def isLeapYear (year : Nat) : Bool := (year % 4 == 0 && year % 100 != 0) || year % 400 == 0

def daysInMonth (year month : Nat) : Nat :=
  if month = 2 then if isLeapYear year then 29 else 28
  else if month ∈ [4, 6, 9, 11] then 30
  else 31

def date : Scan Text := do
  let yearDigits ← exactly 4 Char.isDigit
  expect '-'
  let month ← numberUpTo 2 12
  expect '-'
  let day ← numberUpTo 2 (daysInMonth (Nat.ofDigitChars 10 yearDigits 0) month)
  guard (month ≠ 0 && day ≠ 0)
  return yearDigits ++ "-" ++ twoDigits month ++ "-" ++ twoDigits day

def secondFraction : Scan Text := do
  expect '.'
  let digits ← takeSome Char.isDigit
  let kept := Text.dropEndWhile (· == '0') (digits.take 9)
  return if kept = [] then [] else '.' :: kept

/-- A leap second is allowed. -/
def time : Scan Text := do
  let hour ← numberUpTo 2 23
  expect ':'
  let minute ← numberUpTo 2 59
  expect ':'
  let second ← numberUpTo 2 60
  let fraction ← opt secondFraction
  return twoDigits hour ++ ":" ++ twoDigits minute ++ ":" ++ twoDigits second ++ fraction.getD []

def utcOffset : Scan Text :=
  (do discard (char fun c => c == 'Z' || c == 'z'); return "Z") <|> do
    let mark ← char fun c => c == '+' || c == '-'
    let hour ← numberUpTo 2 23
    expect ':'
    let minute ← numberUpTo 2 59
    let sign := if hour = 0 && minute = 0 then '+' else mark
    return sign :: twoDigits hour ++ ":" ++ twoDigits minute

def timeOfDay : Scan Text := do
  discard (char fun c => c == 'T' || c == 't' || c == ' ')
  let t ← time
  let offset ← opt utcOffset
  return 'T' :: t ++ offset.getD []

def instant : Scan Text :=
  (do
    let day ← date
    let rest ← opt timeOfDay
    return day ++ rest.getD []) <|> time

end BlockScript.SettingsFile
