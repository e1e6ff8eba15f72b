import FilterLang.Text.Basic

/-!
Classes of characters given as a list of ranges of code points, both ends included.
-/

namespace FilterLang.Text

def inRanges (ranges : List (Nat × Nat)) (c : Char) : Bool :=
  ranges.any fun (first, last) => first ≤ c.toNat && c.toNat ≤ last

end FilterLang.Text
