import FilterLang.Number.Double
import FilterLang.Text.Basic

/-!
TOML documents. The keys of a table are distinct.
-/

namespace FilterLang

inductive Toml
  | string (t : Text)
  | integer (n : Int64)
  | float (x : Double)
  | boolean (b : Bool)
  /-- A date, a time of day or both, as written. -/
  | moment (written : Text)
  | array (items : List Toml)
  | table (entries : List (Text × Toml))

namespace Toml

def get? (key : Text) : Toml → Option Toml
  | table entries => (entries.find? fun entry => entry.1 = key).map Prod.snd
  | _ => none

def asText? : Toml → Option Text
  | string t => some t
  | _ => none

def asBool? : Toml → Option Bool
  | boolean b => some b
  | _ => none

def asWord? : Toml → Option UInt64
  | integer n => if 0 ≤ n.toInt then some (UInt64.ofNat n.toInt.toNat) else none
  | _ => none

def isEmpty : Toml → Bool
  | array items => items.isEmpty
  | table entries => entries.isEmpty
  | _ => false

def asWordOfChoice? : Toml → Option Text
  | string t => some t
  | table [(word, content)] => if content.isEmpty then some word else none
  | _ => none

end Toml

end FilterLang
