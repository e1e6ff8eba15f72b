import FilterLang.Number.Written

/-!
JSON documents. A number keeps whether it was written as a whole number; the keys of an object are
distinct.
-/

namespace FilterLang

inductive Json.Number
  | whole (n : Int)
  | real (x : Double)
deriving DecidableEq

inductive Json
  | null
  | bool (b : Bool)
  | number (n : Json.Number)
  | string (t : Text)
  | array (items : List Json)
  | object (members : List (Text × Json))

namespace Json

instance : Inhabited Json := ⟨null⟩

def isNull : Json → Bool
  | null => true
  | _ => false

def get? (key : Text) : Json → Option Json
  | object members => (members.find? fun member => member.1 = key).map Prod.snd
  | _ => none

def Number.text : Number → Text
  | whole n => Text.decimalInt n
  | real x => Double.Form.json.write x

end Json

end FilterLang
