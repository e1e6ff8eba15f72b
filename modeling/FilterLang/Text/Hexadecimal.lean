import FilterLang.Text.Basic

/-!
Hexadecimal digits in either case, and the characters that they number.
-/

namespace FilterLang.Text

def hexValue? (c : Char) : Option (Fin 16) :=
  if c.isDigit then some (Fin.ofNat 16 (c.toNat - 48))
  else if 'a' ≤ c ∧ c ≤ 'f' then some (Fin.ofNat 16 (c.toNat - 87))
  else if 'A' ≤ c ∧ c ≤ 'F' then some (Fin.ofNat 16 (c.toNat - 55))
  else none

def ofHex? (t : Text) : Option Nat :=
  t.foldlM (fun n c => (hexValue? c).map fun d => n * 16 + d.val) 0

def charOf? (n : Nat) : Option Char := if n.isValidChar then some (Char.ofNat n) else none

end FilterLang.Text
