import FilterLang.Text.Basic

/-!
White space, by the Unicode property of that name, and trimming.
-/

namespace FilterLang.Text

def isBlank (c : Char) : Bool :=
  let n := c.toNat
  (9 ≤ n && n ≤ 13) || n == 0x20 || n == 0x85 || n == 0xA0 || n == 0x1680 ||
    (0x2000 ≤ n && n ≤ 0x200A) || n == 0x2028 || n == 0x2029 || n == 0x202F || n == 0x205F ||
    n == 0x3000

def skipBlanks (t : Text) : Text := t.dropWhile isBlank

def dropBlanksAtEnd (t : Text) : Text := (t.reverse.dropWhile isBlank).reverse

def trim (t : Text) : Text := dropBlanksAtEnd (skipBlanks t)

def allBlank (t : Text) : Bool := t.all isBlank

theorem skipBlanks_suffix (t : Text) : skipBlanks t <:+ t := List.dropWhile_suffix _

end FilterLang.Text
