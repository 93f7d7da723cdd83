import BlockScript.Text.Basic

/-!
Doubles in exact arithmetic. A finite one has a significand below `2^53` and an exponent of at
least -1074; a decimal is read as the nearest of them, and a half goes to the even significand.
-/
namespace BlockScript

/-- The value `significand * 2^exponent`. -/
structure Double where
  significand : Nat
  exponent : Int
  deriving DecidableEq, Repr

structure Decimal where
  digits : Nat
  exponent : Int
  deriving DecidableEq, Repr

namespace Double

def leastExponent : Int := -1074
def greatestExponent : Int := 971

def leastNormal : Nat := Nat.pow 2 52
def significandBound : Nat := Nat.pow 2 53

def ratio (base n : Nat) (exponent : Int) : Nat × Nat :=
  (n * Nat.pow base exponent.toNat, Nat.pow base (-exponent).toNat)

def roundHalfEven (num den : Nat) : Nat :=
  let q := num / den
  let twice := 2 * (num % den)
  if den < twice || (twice == den && q % 2 == 1) then q + 1 else q

def binaryOrder (num den : Nat) : Int :=
  let guess : Int := (num.log2 : Int) - den.log2
  let (n, d) := ratio 2 den guess
  if num * d < n then guess - 1 else guess

/-- `none` is a value beyond the largest double. -/
def nearest (num den : Nat) : Option Double :=
  if num = 0 then some ⟨0, leastExponent⟩
  else
    let exponent := max (binaryOrder num den - 52) leastExponent
    let significand :=
      roundHalfEven (num * Nat.pow 2 (-exponent).toNat) (den * Nat.pow 2 exponent.toNat)
    let rounded : Double :=
      if significand = significandBound then ⟨leastNormal, exponent + 1⟩
      else ⟨significand, exponent⟩
    if greatestExponent < rounded.exponent then none else some rounded

/-- Decimals far outside the range are not written out to be rounded. -/
def ofDecimal (d : Decimal) : Option Double :=
  let order : Int := (Nat.toDigits 10 d.digits).length + d.exponent
  if d.digits = 0 then some ⟨0, leastExponent⟩
  else if 400 < order then none
  else if order < -400 then some ⟨0, leastExponent⟩
  else
    let (num, den) := ratio 10 d.digits d.exponent
    nearest num den

end Double
end BlockScript
