import FilterLang.Json.Number
import FilterLang.Text.Hexadecimal

/-!
Reading JSON documents. Of two members with one key the later one counts.
-/

namespace FilterLang.Json

def isSpace (c : Char) : Bool := c == ' ' || c == '\n' || c == '\t' || c == '\r'

def skipSpace (t : Text) : Text := t.dropWhile isSpace

def plainEscape? : Char → Option Char
  | '"' => some '"'
  | '\\' => some '\\'
  | '/' => some '/'
  | 'b' => some '\x08'
  | 'f' => some '\x0c'
  | 'n' => some '\n'
  | 'r' => some '\r'
  | 't' => some '\t'
  | _ => none

def paired? (high low : Nat) : Option Char :=
  if 0xD800 ≤ high ∧ high < 0xDC00 ∧ 0xDC00 ≤ low ∧ low < 0xE000 then
    some (Char.ofNat (0x10000 + (high - 0xD800) * 0x400 + (low - 0xDC00)))
  else none

def isSurrogate (unit : Nat) : Bool := 0xD800 ≤ unit && unit < 0xE000

def stringChar? : Text → Option (Char × Text)
  | '\\' :: 'u' :: a :: b :: c :: d :: t => do
    let unit ← Text.ofHex? [a, b, c, d]
    if isSurrogate unit then
      match t with
      | '\\' :: 'u' :: e :: f :: g :: h :: t => return (← paired? unit (← Text.ofHex? [e, f, g, h]), t)
      | _ => none
    else return (Char.ofNat unit, t)
  | '\\' :: e :: t => (plainEscape? e).map fun c => (c, t)
  | c :: t => if c.toNat < 0x20 then none else some (c, t)
  | [] => none

/-- The rest of a string after its opening quote; `fuel` bounds the number of characters. -/
def stringBody? (fuel : Nat) (before : Text) (t : Text) : Option (Text × Text) :=
  match fuel, t with
  | 0, _ => none
  | _ + 1, '"' :: t => some (before.reverse, t)
  | fuel + 1, t => do
    let (c, t) ← stringChar? t
    stringBody? fuel (c :: before) t

def word? (word : String) (value : Json) (t : Text) : Option (Json × Text) :=
  if word.toList.isPrefixOf t then some (value, t.drop word.length) else none

/-- The members with the given one put last, in place of any with its key. -/
def insertMember (key : Text) (value : Json) (members : List (Text × Json)) : List (Text × Json) :=
  members.filter (fun member => member.1 ≠ key) ++ [(key, value)]

mutual

/-- A document after space; `fuel` bounds the depth and the number of items. -/
def value? (fuel : Nat) (t : Text) : Option (Json × Text) :=
  match fuel with
  | 0 => none
  | fuel + 1 =>
    match skipSpace t with
    | '[' :: t =>
      match skipSpace t with
      | ']' :: t => some (array [], t)
      | t => items? fuel [] t
    | '\x7b' :: t =>
      match skipSpace t with
      | '\x7d' :: t => some (object [], t)
      | t => members? fuel [] t
    | '"' :: t => (stringBody? (t.length + 1) [] t).map fun (s, t) => (string s, t)
    | 'n' :: t => word? "ull" null t
    | 't' :: t => word? "rue" (bool true) t
    | 'f' :: t => word? "alse" (bool false) t
    | t => (Number.read? t).map fun (n, t) => (number n, t)

def items? (fuel : Nat) (before : List Json) (t : Text) : Option (Json × Text) :=
  match fuel with
  | 0 => none
  | fuel + 1 => do
    let (item, t) ← value? fuel t
    match skipSpace t with
    | ',' :: t => items? fuel (item :: before) t
    | ']' :: t => some (array (item :: before).reverse, t)
    | _ => none

def members? (fuel : Nat) (before : List (Text × Json)) (t : Text) : Option (Json × Text) :=
  match fuel with
  | 0 => none
  | fuel + 1 =>
    match skipSpace t with
    | '"' :: t => do
      let (key, t) ← stringBody? (t.length + 1) [] t
      match skipSpace t with
      | ':' :: t => do
        let (item, t) ← value? fuel t
        let members := insertMember key item before
        match skipSpace t with
        | ',' :: t => members? fuel members t
        | '\x7d' :: t => some (object members, t)
        | _ => none
      | _ => none
    | _ => none

end

def read? (t : Text) : Option Json :=
  match value? (2 * t.length + 2) t with
  | some (json, rest) => if (skipSpace rest).isEmpty then some json else none
  | none => none

end FilterLang.Json
