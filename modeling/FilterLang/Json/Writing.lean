import FilterLang.Json.Basic

/-!
Writing JSON documents on one line.
-/

namespace FilterLang.Json

def escapedChar (c : Char) : Text :=
  match c with
  | '"' => ['\\', '"']
  | '\\' => ['\\', '\\']
  | c =>
    if c.toNat < 0x20 then
      ['\\', 'u', '0', '0', Nat.digitChar (c.toNat / 16), Nat.digitChar (c.toNat % 16)]
    else [c]

def stringText (t : Text) : Text := '"' :: t.flatMap escapedChar ++ ['"']

mutual

def text : Json → Text
  | null => "null"
  | bool b => if b then "true" else "false"
  | number n => n.text
  | string t => stringText t
  | array items => '[' :: itemsText items ++ [']']
  | object members => '\x7b' :: membersText members ++ ['\x7d']

def itemsText : List Json → Text
  | [] => []
  | [item] => item.text
  | item :: items => item.text ++ ',' :: itemsText items

def membersText : List (Text × Json) → Text
  | [] => []
  | [(key, item)] => stringText key ++ ':' :: item.text
  | (key, item) :: members => stringText key ++ ':' :: item.text ++ ',' :: membersText members

end

end FilterLang.Json
