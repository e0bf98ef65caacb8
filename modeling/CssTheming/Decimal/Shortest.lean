import CssTheming.Decimal.Binary64
import CssTheming.Text.Basic

/-!
# Shortest decimal text

A finite number is written with the fewest digits that read back as the same number; of the decimals
with that many digits, the one nearest to it is taken. Numbers from `0.0001` up to `10 ^ 16` are
written with a decimal point, and smaller or greater ones with an exponent of at least two digits.
-/

namespace CssTheming.Binary64

/-- A decimal `digits * 10 ^ exponent`. -/
structure Decimal where
  /-- The digits, read as one natural number. -/
  digits : Nat
  /-- The power of ten that the digits are multiplied by. -/
  exponent : Int
deriving DecidableEq, Repr

/-- The multiple of `10 ^ exponent` nearest to `significand * 2 ^ binaryExponent`, if some multiple
    reads back as that number.

    The reals that read back lie between the halfway points to the two neighbouring numbers, which
    count if the significand is even. All values are compared in quarters of the last binary place,
    because the gap below a power of two is only half as wide as the one above. -/
def onGrid? (significand : Nat) (binaryExponent exponent : Int) : Option Decimal :=
  let value := 4 * significand
  let low :=
    if significand = minSignificand ∧ minExponent < binaryExponent then value - 1 else value - 2
  let high := value + 2
  -- `step` and `unit` stand in the proportion of `10 ^ exponent` to a quarter of the last place
  let (step, unit) := scaleDown 2 1 1 (binaryExponent - 2)
  let (unit, step) := scaleDown 10 unit step exponent
  let readsBack (n : Nat) : Bool :=
    if significand % 2 = 0 then low * unit ≤ n * step && n * step ≤ high * unit
    else low * unit < n * step && n * step < high * unit
  -- only the two multiples next to the value can be nearest to it
  let below := value * unit / step
  let above := below + 1
  let overBelow := value * unit - below * step
  let underAbove := above * step - value * unit
  if readsBack below && below != 0 then
    if readsBack above && (underAbove < overBelow || underAbove == overBelow && above % 2 == 0) then
      some { digits := above, exponent }
    else some { digits := below, exponent }
  else if readsBack above then some { digits := above, exponent }
  else none

/-- The decimal with the fewest digits that reads back as `significand * 2 ^ exponent`. Grids of
    powers of ten are tried from the coarsest on; the first is coarser than the number itself, and
    17 digits always suffice. -/
def shortest (significand : Nat) (exponent : Int) : Decimal :=
  let coarsest := ((significand.log2 : Int) + exponent) * 30103 / 100000 + 2
  ((List.range 21).findSome? fun i : Nat => onGrid? significand exponent (coarsest - i)).getD
    { digits := 0, exponent := 0 }

/-- The exponent with its sign and at least two digits. -/
def exponentText (exponent : Int) : Text :=
  (if exponent < 0 then '-' else '+') :: (Text.ofNat exponent.natAbs).leftpad 2 '0'

/-- A decimal in positional notation, always with a digit on both sides of the point. -/
def Decimal.positional (d : Decimal) : Text :=
  let digits := Text.ofNat d.digits
  if 0 ≤ d.exponent then digits ++ List.replicate d.exponent.natAbs '0' ++ ".0"
  else
    let places := d.exponent.natAbs
    let padded := digits.leftpad (places + 1) '0'
    padded.take (padded.length - places) ++ "." ++ padded.drop (padded.length - places)

/-- A decimal with one digit before the point, and the exponent behind an `e`. -/
def Decimal.scientific (d : Decimal) : Text :=
  let digits := Text.ofNat d.digits
  let fraction := digits.tail
  digits.take 1 ++ (if fraction.isEmpty then [] else '.' :: fraction) ++ "e" ++
    exponentText (d.exponent + fraction.length)

/-- The text of a decimal, in positional notation if its leading digit counts for at least `10 ^ -4`
    and less than `10 ^ 16`. -/
def Decimal.toText (d : Decimal) : Text :=
  let leading := d.exponent + ((Text.ofNat d.digits).length - 1 : Nat)
  if -4 ≤ leading && leading < 16 then d.positional else d.scientific

/-- The text of a number. -/
def toText : Binary64 → Text
  | finite negative 0 _ => (if negative then "-0.0" else "0.0" : String).toList
  | finite negative significand exponent =>
    (if negative then ['-'] else []) ++ (shortest significand exponent).toText
  | infinite negative => (if negative then "-inf" else "inf" : String).toList
  | nan => "nan"

end CssTheming.Binary64
