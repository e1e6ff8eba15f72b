import FilterLang.Text.Hexadecimal
import FilterLang.Uuid.Basic

/-!
Literals of identifiers: 32 hexadecimal digits in any case, bare or hyphenated; the hyphenated form
may stand in braces or after `urn:uuid:` in any case.
-/

namespace FilterLang.Uuid

def hexDigits? : Nat → Text → Option (List (Fin 16) × Text)
  | 0, t => some ([], t)
  | _ + 1, [] => none
  | n + 1, c :: t => do
    let d ← Text.hexValue? c
    let (ds, rest) ← hexDigits? n t
    return (d :: ds, rest)

def hyphen? : Text → Option Text
  | '-' :: t => some t
  | _ => none

def readBare? (t : Text) : Option Uuid := do
  let (digits, rest) ← hexDigits? 32 t
  if rest.isEmpty then of? digits else none

def readHyphenated? (t : Text) : Option Uuid := do
  let (a, t) ← hexDigits? 8 t
  let (b, t) ← hexDigits? 4 (← hyphen? t)
  let (c, t) ← hexDigits? 4 (← hyphen? t)
  let (d, t) ← hexDigits? 4 (← hyphen? t)
  let (e, t) ← hexDigits? 12 (← hyphen? t)
  if t.isEmpty then of? (a ++ b ++ c ++ d ++ e) else none

def readBraced? : Text → Option Uuid
  | [] => none
  | c :: t =>
    if c = '\x7b' ∧ t.getLast? = some '\x7d' then readHyphenated? t.dropLast else none

def readNamed? (t : Text) : Option Uuid :=
  let scheme : Text := "urn:uuid:"
  if Text.sameIgnoringAsciiCase (t.take scheme.length) scheme then
    readHyphenated? (t.drop scheme.length)
  else none

def read? (t : Text) : Option Uuid :=
  (readBare? t).or ((readHyphenated? t).or ((readBraced? t).or (readNamed? t)))

/-- A text that is no identifier stands for one that is drawn for it. -/
def read (drawn : Uuid) (t : Text) : Uuid := (read? t).getD drawn

end FilterLang.Uuid
