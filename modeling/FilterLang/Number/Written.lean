import FilterLang.Number.Shortest

/-!
Written forms of doubles. A form says when it turns to an exponent and how it shows one; the digits
are always the shortest ones that read back.
-/

namespace FilterLang.Double

structure Form where
  tie : Tie
  /-- Exponents of the leading digit that are written without an exponent. -/
  positional : Int → Bool
  /-- Whole numbers end in `.0`. -/
  fraction : Bool
  /-- Exponents from zero up carry a `+`. -/
  plus : Bool

def Form.plain : Form :=
  { tie := .away, positional := fun _ => true, fraction := false, plus := false }

/-- SQL literals always show that they are not whole. -/
def Form.sql : Form :=
  { tie := .away, positional := fun e => -4 ≤ e && e < 16, fraction := true, plus := false }

def Form.json : Form :=
  { tie := .even, positional := fun e => -5 ≤ e && e < 16, fraction := true, plus := true }

def Form.placePoint (form : Form) (digits : Text) (point : Int) : Text :=
  if point ≤ 0 then "0." ++ List.replicate (-point).toNat '0' ++ digits
  else
    let whole := point.toNat
    if digits.length ≤ whole then
      digits ++ List.replicate (whole - digits.length) '0' ++ (if form.fraction then ".0" else "")
    else digits.take whole ++ '.' :: digits.drop whole

def Form.scientific (form : Form) (digits : Text) (exponent : Int) : Text :=
  digits.take 1 ++ (if digits.length ≤ 1 then [] else '.' :: digits.drop 1) ++ 'e' ::
    (if form.plus && 0 ≤ exponent then ['+'] else []) ++ Text.decimalInt exponent

def Form.write (form : Form) : Double → Text
  | .nan => "NaN"
  | .signed negative rank =>
    let sign : Text := if negative then "-" else ""
    if rank.val = topRank then sign ++ "inf"
    else if rank.val = 0 then sign ++ (if form.fraction then "0.0" else "0")
    else
      let decimal := shortest form.tie rank
      let digits := Text.decimal decimal.digits
      let leading := decimal.exponent + digits.length - 1
      sign ++ (if form.positional leading then form.placePoint digits (leading + 1)
        else form.scientific digits leading)

end FilterLang.Double
