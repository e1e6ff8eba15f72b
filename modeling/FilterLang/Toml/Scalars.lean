import FilterLang.Calendar.Reading
import FilterLang.Number.Reading
import FilterLang.Number.Word
import FilterLang.Text.Hexadecimal
import FilterLang.Toml.Basic
import FilterLang.Toml.Strings

/-!
Numbers, truth values and moments of TOML. Digits may have single underscores between them.
-/

namespace FilterLang.Toml

def moreDigits? (isDigit : Char → Bool) : Text → Option (Text × Text)
  | [] => some ([], [])
  | ['_'] => none
  | '_' :: c :: t => if isDigit c then (moreDigits? isDigit t).map (push c) else none
  | c :: t => if isDigit c then (moreDigits? isDigit t).map (push c) else some ([], c :: t)

def digits? (isDigit : Char → Bool) : Text → Option (Text × Text)
  | [] => none
  | c :: t => if isDigit c then (moreDigits? isDigit t).map (push c) else none

def wholeDigits? : Text → Option (Text × Text)
  | '0' :: t => some (['0'], t)
  | t => digits? Char.isDigit t

def isBinaryDigit (c : Char) : Bool := c == '0' || c == '1'

def isOctalDigit (c : Char) : Bool := '0' ≤ c && c ≤ '7'

def radix? (base : Nat) (isDigit : Char → Bool) (t : Text) : Option (Int64 × Text) := do
  let (digits, t) ← digits? isDigit t
  return (← wordOfInt? (digits.foldl (fun n c => base * n + ((Text.hexValue? c).map Fin.val).getD 0) 0), t)

def fraction? : Text → Option (Text × Text)
  | '.' :: t => (digits? Char.isDigit t).map fun (digits, t) => ('.' :: digits, t)
  | t => some ([], t)

def exponent? : Text → Option (Text × Text)
  | [] => some ([], [])
  | c :: t =>
    if c = 'e' ∨ c = 'E' then
      let (negative, t) := Text.splitSign t
      (digits? Char.isDigit t).map fun (digits, t) =>
        ('e' :: (if negative then '-' :: digits else digits), t)
    else some ([], c :: t)

/-- A number too great for a double is refused, but not one too far below zero. -/
def float? (written : Text) : Option Toml :=
  match Double.read? written with
  | some x => if x = .ofRank false Double.topRank then none else some (.float x)
  | none => none

def decimal? (sign t : Text) : Option (Toml × Text) := do
  let (whole, t) ← wholeDigits? t
  let (fraction, t) ← fraction? t
  let (exponent, t) ← exponent? t
  if fraction.isEmpty && exponent.isEmpty then
    return (.integer (← wordOfInt? (← Text.readInt? (sign ++ whole))), t)
  else return (← float? (sign ++ whole ++ fraction ++ exponent), t)

def special? (sign : Text) : Text → Option (Toml × Text)
  | 'i' :: 'n' :: 'f' :: t => some (.float (.ofRank (sign == ['-']) Double.topRank), t)
  | 'n' :: 'a' :: 'n' :: t => some (.float .nan, t)
  | _ => none

def number? : Text → Option (Toml × Text)
  | '0' :: 'x' :: t => (radix? 16 (fun c => (Text.hexValue? c).isSome) t).map fun (n, t) => (.integer n, t)
  | '0' :: 'o' :: t => (radix? 8 isOctalDigit t).map fun (n, t) => (.integer n, t)
  | '0' :: 'b' :: t => (radix? 2 isBinaryDigit t).map fun (n, t) => (.integer n, t)
  | '+' :: t => (special? [] t).or (decimal? [] t)
  | '-' :: t => (special? ['-'] t).or (decimal? ['-'] t)
  | t => (special? [] t).or (decimal? [] t)

def boolean? : Text → Option (Toml × Text)
  | 't' :: 'r' :: 'u' :: 'e' :: t => some (.boolean true, t)
  | 'f' :: 'a' :: 'l' :: 's' :: 'e' :: t => some (.boolean false, t)
  | _ => none

def afterDate? (t : Text) : Option Text := do
  let (year, t) ← Calendar.digits? 4 4 t
  let (month, t) ← Calendar.digits? 2 2 (← Calendar.char? '-' t)
  let (day, t) ← Calendar.digits? 2 2 (← Calendar.char? '-' t)
  let _ ← Date.of? year month day
  return t

def afterTime? (t : Text) : Option Text := do
  let (hour, t) ← Calendar.digits? 2 2 t
  let (minute, t) ← Calendar.digits? 2 2 (← Calendar.char? ':' t)
  let (second, t) ← Calendar.digits? 2 2 (← Calendar.char? ':' t)
  let (_, t) ← Calendar.fraction? t
  let _ ← DateTime.ofWritten? Date.first hour minute second 0
  return t

def afterOffset (t : Text) : Text :=
  match t with
  | '−' :: _ => t
  | _ => ((Calendar.offset? t).map Prod.snd).getD t

def afterTimeOfDate (t : Text) : Text :=
  match t with
  | c :: u =>
    if c = 'T' ∨ c = 't' ∨ c = ' ' then ((afterTime? u).map afterOffset).getD t else t
  | [] => t

def moment? (t : Text) : Option (Toml × Text) := do
  let rest ← ((afterDate? t).map afterTimeOfDate).or (afterTime? t)
  return (.moment (t.take (t.length - rest.length)), rest)

def scalar? (t : Text) : Option (Toml × Text) :=
  (moment? t).or ((number? t).or (boolean? t))

end FilterLang.Toml
