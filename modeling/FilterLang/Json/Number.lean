import FilterLang.Json.Basic
import FilterLang.Number.Reading
import FilterLang.Number.Word

/-!
Numbers in JSON documents. Whole numbers of 64 bits stay whole. Of any other number the digits are
kept while they fit into 64 bits, and the kept digits are scaled by one rounded multiplication or
division, so the last bit may differ from the nearest double.
-/

namespace FilterLang.Json

def digitValue (c : Char) : Nat := c.toNat - '0'.toNat

structure Gathered where
  significand : Nat
  exponent : Int
  rest : Text

/-- Whole digits; from the first that does not fit, each one only raises the exponent. -/
def gatherWhole (significand : Nat) (full : Bool) (exponent : Int) : Text → Gathered × Bool
  | [] => (⟨significand, exponent, []⟩, full)
  | c :: t =>
    if c.isDigit then
      let next := significand * 10 + digitValue c
      if full || greatestWord < next then gatherWhole significand true (exponent + 1) t
      else gatherWhole next false exponent t
    else (⟨significand, exponent, c :: t⟩, full)

/-- Digits after the point; from the first that does not fit, none counts. -/
def gatherFraction (significand : Nat) (full : Bool) (exponent : Int) : Text → Gathered
  | [] => ⟨significand, exponent, []⟩
  | c :: t =>
    if c.isDigit then
      let next := significand * 10 + digitValue c
      if full || greatestWord < next then gatherFraction significand true exponent t
      else gatherFraction next false (exponent - 1) t
    else ⟨significand, exponent, c :: t⟩

def powerOfTen (n : Nat) : Double := Double.ofScientific false 1 n

/--
`x · 10^exponent` for a finite `x`. Powers of ten end at 308; a lower exponent divides by the
greatest one first, which reaches zero after two rounds.
-/
def scale (rounds : Nat) (x : Double) (exponent : Int) : Double :=
  match rounds with
  | 0 => x
  | rounds + 1 =>
    if exponent < -308 then scale rounds (x.div (powerOfTen 308)) (exponent + 308)
    else if exponent < 0 then x.div (powerOfTen (-exponent).toNat)
    else x.mul (powerOfTen exponent.toNat)

def real? (negative : Bool) (significand : Nat) (exponent : Int) : Option Double :=
  let x :=
    if significand = 0 then Double.zero
    else if 308 < exponent then Double.ofRank false Double.topRank
    else scale 3 (Double.ofNat significand) exponent
  if x.isFinite then some (if negative then x.neg else x) else none

def exponentPart? : Text → Option (Option Int × Text)
  | [] => some (none, [])
  | c :: t =>
    if c = 'e' ∨ c = 'E' then
      let (negative, t) := Text.splitSign t
      let (digits, rest) := Text.splitDigits t
      if digits.isEmpty then none
      else
        let n : Int := Text.ofDecimal digits
        some (some (if negative then -n else n), rest)
    else some (none, c :: t)

def Number.readUnsigned? (negative : Bool) (t : Text) : Option (Number × Text) := do
  let (digits, after) := Text.splitDigits t
  if digits.isEmpty || (1 < digits.length && digits.head? == some '0') then none
  else
    let (leading, full) := gatherWhole 0 false 0 t
    let (kept, hasFraction) ← match after with
      | '.' :: fraction =>
        if (Text.splitDigits fraction).1.isEmpty then none
        else some (gatherFraction leading.significand false leading.exponent fraction, true)
      | _ => some (leading, false)
    let (exponent, rest) ← exponentPart? kept.rest
    if !hasFraction && exponent.isNone && !full &&
        (!negative || (kept.significand ≠ 0 && kept.significand ≤ UInt64.size / 2)) then
      let n : Int := kept.significand
      return (Number.whole (if negative then -n else n), rest)
    else
      let x ← real? negative kept.significand (kept.exponent + exponent.getD 0)
      return (real x, rest)

def Number.read? : Text → Option (Number × Text)
  | '-' :: t => readUnsigned? true t
  | t => readUnsigned? false t

end FilterLang.Json
