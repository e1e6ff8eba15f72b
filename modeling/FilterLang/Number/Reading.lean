import FilterLang.Number.Rounding

/-!
Number literals: a sign, digits with an optional point and exponent, or the words for infinity and
NaN in any case. A literal denotes the nearest double.
-/

namespace FilterLang

namespace Text

def splitSign : Text → Bool × Text
  | '-' :: t => (true, t)
  | '+' :: t => (false, t)
  | t => (false, t)

def splitDigits (t : Text) : Text × Text := (t.takeWhile Char.isDigit, t.dropWhile Char.isDigit)

def readInt? (t : Text) : Option Int :=
  let (negative, digits) := splitSign t
  if digits.isEmpty || !digits.all Char.isDigit then none
  else some (if negative then -(ofDecimal digits : Int) else ofDecimal digits)

def readExponent? : Text → Option Int
  | [] => some 0
  | c :: t => if c = 'e' ∨ c = 'E' then readInt? t else none

end Text

namespace Double

def readUnsigned? (negative : Bool) (t : Text) : Option Double :=
  let word := Text.lowerAscii t
  if word = "inf".toList ∨ word = "infinity".toList then some (ofRank negative topRank)
  else if word = "nan".toList then some .nan
  else
    let (whole, rest) := Text.splitDigits t
    let (fraction, rest) :=
      match rest with
      | '.' :: rest => Text.splitDigits rest
      | rest => ([], rest)
    if whole.isEmpty && fraction.isEmpty then none
    else
      (Text.readExponent? rest).map fun exponent =>
        ofScientific negative (Text.ofDecimal (whole ++ fraction)) (exponent - fraction.length)

def read? (t : Text) : Option Double :=
  let (negative, t) := Text.splitSign t
  readUnsigned? negative t

end Double

end FilterLang
