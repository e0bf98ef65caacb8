/-!
# Binary floating-point numbers

A number of 64 bits is zero, or a significand of at most 53 bits times a power of two, or one of the
infinities, or not a number. Decimals are read to the nearest such number; of two that are equally
near, the one with the even significand is taken.
-/

namespace CssTheming

/-- A binary floating-point number of 64 bits. -/
inductive Binary64 where
  /-- The number `significand * 2 ^ exponent`, negated if `negative`. -/
  | finite (negative : Bool) (significand : Nat) (exponent : Int)
  /-- An infinity. -/
  | infinite (negative : Bool)
  /-- Not a number. -/
  | nan
deriving DecidableEq, Repr

namespace Binary64

/-- The least exponent of a finite number. -/
def minExponent : Int := -1074

/-- The greatest exponent of a finite number. -/
def maxExponent : Int := 971

/-- The least significand of a number that is not too small for 53 bits, `2 ^ 52`. -/
def minSignificand : Nat := 0x10000000000000

/-- The fraction `num / den` divided by `base ^ e`, as a fraction. -/
def scaleDown (base num den : Nat) (e : Int) : Nat × Nat :=
  let power := Nat.pow base e.natAbs
  if e < 0 then (num * power, den) else (num, den * power)

/-- The natural number nearest to `num / den`, and of two that are equally near the even one. -/
def roundEven (num den : Nat) : Nat :=
  let q := num / den
  let twice := 2 * (num % den)
  if twice < den || twice == den && q % 2 == 0 then q else q + 1

/-- The exponent of the greatest power of two that is at most `num / den`. -/
def floorLog2 (num den : Nat) : Int :=
  let guess : Int := (num.log2 : Int) - den.log2
  let (n, d) := scaleDown 2 num den guess
  if n < d then guess - 1 else guess

/-- The number nearest to `num / den`. -/
def ofFraction (negative : Bool) (num den : Nat) : Binary64 :=
  if num = 0 then finite negative 0 minExponent
  else
    let exponent := max (floorLog2 num den - 52) minExponent
    let (n, d) := scaleDown 2 num den exponent
    let significand := roundEven n d
    -- rounding up may need one bit more, which leaves a power of two
    let (significand, exponent) :=
      if significand = 2 * minSignificand then (minSignificand, exponent + 1)
      else (significand, exponent)
    if maxExponent < exponent then infinite negative else finite negative significand exponent

/-- The number nearest to `digits * 10 ^ exponent`. Decimals whose exponent alone puts them far out
    of range are not written out. -/
def ofDecimal (negative : Bool) (digits : Nat) (exponent : Int) : Binary64 :=
  let magnitude := (Nat.toDigits 10 digits).length + exponent
  if digits = 0 || magnitude < -400 then finite negative 0 minExponent
  else if 400 < magnitude then infinite negative
  else
    let (num, den) := scaleDown 10 digits 1 (-exponent)
    ofFraction negative num den

end Binary64

end CssTheming
