import BlockScript.Decimal.Double

/-!
The shortest decimal of a double: the fewest digits that read back as the same double, and of
those the nearest. For each number of digits the two neighbours of the value on the grid of such
decimals are tried; where both read back equally near, the greater is taken.
-/
namespace BlockScript

namespace Double

/-- Four times the value, and the ends of the numbers that round to it, over one denominator. -/
structure Interval where
  low : Nat
  value : Nat
  high : Nat
  den : Nat
  closed : Bool

/-- Below a power of two the neighbour is only half as far away. -/
def interval (d : Double) : Interval :=
  let (unit, den) := ratio 2 1 d.exponent
  let narrow := d.significand == leastNormal && leastExponent < d.exponent
  { low := (4 * d.significand - if narrow then 1 else 2) * unit
    value := 4 * d.significand * unit
    high := (4 * d.significand + 2) * unit
    den := 4 * den
    closed := d.significand % 2 == 0 }

def Interval.holds (i : Interval) (d : Decimal) : Bool :=
  let (n, m) := ratio 10 d.digits d.exponent
  let scaled := n * i.den
  if i.closed then i.low * m ≤ scaled && scaled ≤ i.high * m
  else i.low * m < scaled && scaled < i.high * m

def decimalOrder (i : Interval) : Int :=
  ((Nat.toDigits 10 (i.value * Nat.pow 10 400 / i.den)).length : Int) - 401

def withDigits (i : Interval) (order : Int) (count : Nat) : Option Decimal :=
  let exponent := order - (count - 1 : Nat)
  let (step, unit) := ratio 10 1 exponent
  let num := i.value * unit
  let den := i.den * step
  let below : Decimal := ⟨num / den, exponent⟩
  let above : Decimal := ⟨num / den + 1, exponent⟩
  let nearer := if den ≤ 2 * (num % den) then above else below
  if i.holds below && i.holds above then some nearer
  else if i.holds below then some below
  else if i.holds above then some above
  else none

/-- Seventeen digits are always enough. -/
def shortest (d : Double) : Decimal :=
  if d.significand = 0 then ⟨0, 0⟩
  else
    let i := d.interval
    ((List.range 17).findSome? fun n => withDigits i (decimalOrder i) (n + 1)).getD ⟨0, 0⟩

end Double

def Decimal.positional (d : Decimal) : Text :=
  let digits := Text.ofNat d.digits
  if 0 ≤ d.exponent then
    if d.digits = 0 then "0" else digits ++ List.replicate d.exponent.toNat '0'
  else
    let places := (-d.exponent).toNat
    let padded := List.replicate (places + 1 - digits.length) '0' ++ digits
    let whole := padded.take (padded.length - places)
    let fraction := Text.dropEndWhile (· == '0') (padded.drop (padded.length - places))
    if fraction = [] then whole else whole ++ "." ++ fraction

end BlockScript
