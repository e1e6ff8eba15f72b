import FilterLang.Toml.Draft
import FilterLang.Toml.Scalars

/-!
Reading TOML documents.
-/

namespace FilterLang.Toml

/-- Keys have fewer names than this, and arrays and tables in values are nested less deep. -/
def depthLimit : Nat := 80

def skipSpaces (t : Text) : Text := t.dropWhile isSpace

def isBareKeyChar (c : Char) : Bool := c.isAlphanum || c == '_' || c == '-'

def name? (t : Text) : Option (Text × Text) :=
  match t with
  | '"' :: _ => quoted? t
  | '\'' :: _ => quoted? t
  | _ =>
    let name := t.takeWhile isBareKeyChar
    if name.isEmpty then none else some (name, t.dropWhile isBareKeyChar)

def names? (fuel : Nat) (t : Text) : Option (List Text × Text) :=
  match fuel with
  | 0 => none
  | fuel + 1 => do
    let (name, t) ← name? (skipSpaces t)
    match skipSpaces t with
    | '.' :: t => (names? fuel t).map fun (names, t) => (name :: names, t)
    | t => return ([name], t)

def key? (t : Text) : Option (Draft.Key × Text) := do
  let (names, t) ← names? (t.length + 1) t
  if names.length < depthLimit then return (⟨names.dropLast, ← names.getLast?⟩, t) else none

def skipLines (comment : Bool) : Text → Text
  | [] => []
  | '\n' :: t => skipLines false t
  | '\r' :: '\n' :: t => skipLines false t
  | c :: t =>
    if comment then (if isPlain c then skipLines true t else c :: t)
    else if c = '#' then skipLines true t
    else if isSpace c then skipLines false t
    else c :: t

def char? (c : Char) (t : Text) : Option Text :=
  match t with
  | d :: t => if c = d then some t else none
  | [] => none

mutual

/-- A value inside `depth` arrays and tables; `fuel` bounds the number of steps. -/
def value? (fuel depth : Nat) (t : Text) : Option (Toml × Text) :=
  match fuel with
  | 0 => none
  | fuel + 1 =>
    match t with
    | '"' :: _ => (string? t).map fun (s, t) => (.string s, t)
    | '\'' :: _ => (string? t).map fun (s, t) => (.string s, t)
    | '[' :: t =>
      if depth + 1 < depthLimit then (items? fuel (depth + 1) t).map fun (items, t) => (.array items, t)
      else none
    | '\x7b' :: t =>
      if depth + 1 < depthLimit then
        match skipSpaces t with
        | '\x7d' :: t => some (.table [], t)
        | t => (entries? fuel (depth + 1) [] t).map fun (entries, t) => (.table entries, t)
      else none
    | t => scalar? t

def items? (fuel depth : Nat) (t : Text) : Option (List Toml × Text) :=
  match fuel with
  | 0 => none
  | fuel + 1 =>
    match skipLines false t with
    | ']' :: t => some ([], t)
    | t => do
      let (item, t) ← value? fuel depth t
      match skipLines false t with
      | ',' :: t => (items? fuel depth t).map fun (items, t) => (item :: items, t)
      | t => return ([item], ← char? ']' t)

def entries? (fuel depth : Nat) (before : Draft.Entries) (t : Text) :
    Option (List (Text × Toml) × Text) :=
  match fuel with
  | 0 => none
  | fuel + 1 => do
    let (key, t) ← key? t
    let (value, t) ← value? fuel depth (skipSpaces (← char? '=' t))
    let entries ← Draft.set? key value .declared before
    match skipSpaces t with
    | ',' :: t => entries? fuel depth entries t
    | t => return (Draft.finishEntries entries, ← char? '\x7d' t)

end

def lineEnd? (t : Text) : Option Text :=
  let rest := match skipSpaces t with
    | '#' :: t => t.dropWhile isPlain
    | t => t
  if rest.isEmpty then some [] else newline? rest

def statement? (t : Text) : Option (Statement × Text) :=
  match t with
  | '[' :: '[' :: t => do
    let (key, t) ← key? t
    return (.arrayHeader key, ← lineEnd? (← char? ']' (← char? ']' t)))
  | '[' :: t => do
    let (key, t) ← key? t
    return (.header key, ← lineEnd? (← char? ']' t))
  | t => do
    let (key, t) ← key? t
    let t := skipSpaces (← char? '=' t)
    let (value, t) ← value? (2 * t.length + 2) 0 t
    return (.entry key value, ← lineEnd? t)

def lines? (fuel : Nat) (d : Document) (t : Text) : Option Document :=
  match fuel with
  | 0 => none
  | fuel + 1 =>
    match skipSpaces t with
    | [] => some d
    | c :: t =>
      if c = '#' || (newline? (c :: t)).isSome then do lines? fuel d (← lineEnd? (c :: t))
      else do
        let (statement, t) ← statement? (c :: t)
        lines? fuel (← d.add? statement) t

def skipMark : Text → Text
  | '\ufeff' :: t => t
  | t => t

def read? (t : Text) : Option Toml :=
  (lines? (t.length + 2) {} (skipMark t)).map Document.finish

end FilterLang.Toml
