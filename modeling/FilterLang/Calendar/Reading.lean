import FilterLang.Calendar.Zone
import FilterLang.Text.Blank

/-!
Literals for dates and date-times: the internet format with an offset, and lenient formats without
one, in which numbers may stand after blanks and have fewer digits. A reader gives what it read and
the text after it.
-/

namespace FilterLang.Calendar

def digits? (least most : Nat) (t : Text) : Option (Nat × Text) :=
  let run := (t.take most).takeWhile Char.isDigit
  if run.length < least then none else some (Text.ofDecimal run, t.drop run.length)

def char? (c : Char) : Text → Option Text
  | [] => none
  | d :: t => if c = d then some t else none

/-- Digits of a second: as many as there are, of which nine count. -/
def fraction? : Text → Option (Nat × Text)
  | '.' :: t =>
    let run := t.takeWhile Char.isDigit
    let counted := run.take 9
    if run.isEmpty then none
    else some (Text.ofDecimal counted * Nat.pow 10 (9 - counted.length), t.dropWhile Char.isDigit)
  | t => some (0, t)

/-- Minutes ahead of universal time: `Z`, or a sign, two digits, a colon and two digits. -/
def offset? : Text → Option (Int × Text)
  | [] => none
  | c :: t =>
    if c = 'Z' ∨ c = 'z' then some (0, t)
    else do
      let sign : Int ← if c = '+' then some 1 else if c = '-' ∨ c = '−' then some (-1) else none
      let (hours, t) ← digits? 2 2 t
      let t ← char? ':' t
      let (minutes, t) ← digits? 2 2 t
      if minutes < 60 ∧ hours < 24 then some (sign * (60 * hours + minutes : Nat), t) else none

/-- Date, `T`, time, fraction and offset, with every number at full width; read as universal time. -/
def readWithOffset? (t : Text) : Option DateTime := do
  let (year, t) ← digits? 4 4 t
  let t ← char? '-' t
  let (month, t) ← digits? 2 2 t
  let t ← char? '-' t
  let (day, t) ← digits? 2 2 t
  let t ← match t with
    | c :: t => if c = 'T' ∨ c = 't' ∨ c = ' ' then some t else none
    | [] => none
  let (hour, t) ← digits? 2 2 t
  let t ← char? ':' t
  let (minute, t) ← digits? 2 2 t
  let t ← char? ':' t
  let (second, t) ← digits? 2 2 t
  let (nanosecond, t) ← fraction? t
  let (offset, t) ← offset? t
  if t.isEmpty then
    let date ← Date.of? year month day
    (← DateTime.ofWritten? date hour minute second nanosecond).later? (-60 * offset)
  else none

def number? (most : Nat) (t : Text) : Option (Nat × Text) := digits? 1 most (Text.skipBlanks t)

def year? (t : Text) : Option (Int × Text) :=
  match Text.skipBlanks t with
  | '-' :: t => (digits? 1 t.length t).map fun (n, t) => (-(n : Int), t)
  | '+' :: t => (digits? 1 t.length t).map fun (n, t) => ((n : Int), t)
  | t => (digits? 1 4 t).map fun (n, t) => ((n : Int), t)

def date? (t : Text) : Option (Date × Text) := do
  let (year, t) ← year? t
  let t ← char? '-' t
  let (month, t) ← number? 2 t
  let t ← char? '-' t
  let (day, t) ← number? 2 t
  return (← Date.of? year month day, t)

inductive Separator
  | letter
  | blanks
deriving DecidableEq

def Separator.read? : Separator → Text → Option Text
  | .letter, t => char? 'T' t
  | .blanks, t => some (Text.skipBlanks t)

def formats : List (Separator × Bool) :=
  [(.letter, true), (.blanks, true), (.letter, false), (.blanks, false)]

def readFormat? (format : Separator × Bool) (t : Text) : Option DateTime := do
  let (date, t) ← date? t
  let t ← format.1.read? t
  let (hour, t) ← number? 2 t
  let t ← char? ':' t
  let (minute, t) ← number? 2 t
  let (second, nanosecond, t) ←
    if format.2 then do
      let t ← char? ':' t
      let (second, t) ← number? 2 t
      let (nanosecond, t) ← fraction? t
      some (second, nanosecond, t)
    else some (0, 0, t)
  if t.isEmpty then DateTime.ofWritten? date hour minute second nanosecond else none

def readWithoutOffset? (t : Text) : Option DateTime :=
  formats.findSome? fun format => readFormat? format t

def readDateAlone? (t : Text) : Option Date :=
  match date? t with
  | some (date, []) => some date
  | _ => none

end FilterLang.Calendar

namespace FilterLang

open Calendar

def Date.read? (t : Text) : Option Date :=
  (readDateAlone? t).or ((readWithoutOffset? t).map DateTime.date)

def DateTime.readZoneless? (t : Text) : Option DateTime :=
  (readWithoutOffset? t).or ((Date.read? t).map DateTime.midnight)

variable [Zone]

/-- An offset settles the zone; without one the literal is normalised as `kind` says. -/
def DateTime.read? (kind : Option DateTimeKind) (t : Text) : Option DateTime :=
  (readWithOffset? t).or ((readZoneless? t).bind (·.normalise? kind))

def DateTime.overflows (kind : Option DateTimeKind) (t : Text) : Bool :=
  (readWithOffset? t).isNone && (readZoneless? t).any fun x => (x.normalise? kind).isNone

end FilterLang
