import FilterLang.Number.Double
import FilterLang.Text.Basic

/-!
Rounding of exact ratios to double precision: the nearest number, and of two equally near ones the
one with the even last bit. Products, quotients and decimal literals are rounded once, from their
exact value.
-/

namespace FilterLang.Double

def roundHalfEven (num den : Nat) : Nat :=
  let whole := num / den
  let twice := 2 * (num % den)
  if twice < den || (twice == den && whole % 2 == 0) then whole else whole + 1

def scaledRatio (num den : Nat) (shift : Int) : Nat × Nat :=
  if 0 ≤ shift then (num * Nat.pow 2 shift.toNat, den) else (num, den * Nat.pow 2 (-shift).toNat)

/--
The nearest number to `num / den`. The power of two `q` is the one that leaves 53 bits before the
point, or the least one there is, and the rounded bits then count ranks from the first rank of `q`.
-/
def ofRatio (negative : Bool) (num den : Nat) : Double :=
  if num = 0 then ofRank negative 0
  else
    let low : Int := max (-1074) ((num.log2 : Int) - den.log2 - 53)
    let (n, d) := scaledRatio num den (-low)
    let q := if n / d < 2 * binadeSize then low else low + 1
    let (n, d) := scaledRatio num den (-q)
    ofRank negative ((q + 1074).toNat * binadeSize + roundHalfEven n d)

def ofNat (n : Nat) : Double := ofRatio false n 1

def ofInt (i : Int) : Double := ofRatio (i < 0) i.natAbs 1

def ratio (rank : Nat) : Nat × Nat :=
  let (m, q) := magnitude rank
  scaledRatio m 1 q

def magnitudeRatio : Double → Nat × Nat
  | nan => (0, 1)
  | signed _ rank => ratio rank

def mul (x y : Double) : Double :=
  ofRatio false (x.magnitudeRatio.1 * y.magnitudeRatio.1) (x.magnitudeRatio.2 * y.magnitudeRatio.2)

def div (x y : Double) : Double :=
  ofRatio false (x.magnitudeRatio.1 * y.magnitudeRatio.2) (x.magnitudeRatio.2 * y.magnitudeRatio.1)

/--
`digits · 10^exponent`. Past 10^310 and below 10^-330 the result is known without the power of ten,
which may be too large to write out.
-/
def ofScientific (negative : Bool) (digits : Nat) (exponent : Int) : Double :=
  let length : Int := (Text.decimal digits).length
  if digits = 0 || exponent + length < -330 then ofRank negative 0
  else if 310 < exponent + length then ofRank negative topRank
  else if 0 ≤ exponent then ofRatio negative (digits * Nat.pow 10 exponent.toNat) 1
  else ofRatio negative digits (Nat.pow 10 (-exponent).toNat)

end FilterLang.Double
