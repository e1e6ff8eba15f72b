/-!
Whole numbers that fit into words of 64 bits.
-/

namespace FilterLang

def greatestWord : Nat := UInt64.size - 1

def wordOfInt? (i : Int) : Option Int64 :=
  if Int64.minValue.toInt ≤ i ∧ i ≤ Int64.maxValue.toInt then some (Int64.ofInt i) else none

theorem wordOfInt?_toInt (n : Int64) : wordOfInt? n.toInt = some n := by
  have fits : Int64.minValue.toInt ≤ n.toInt ∧ n.toInt ≤ Int64.maxValue.toInt :=
    ⟨Int64.minValue_le_toInt n, Int64.toInt_le n⟩
  rw [wordOfInt?, if_pos fits, Int64.ofInt_toInt]

theorem wordOfInt?_eq_some_iff {i : Int} {n : Int64} : wordOfInt? i = some n ↔ n.toInt = i := by
  constructor
  · intro h
    unfold wordOfInt? at h
    split at h
    · next fits => cases h; exact Int64.toInt_ofInt_of_le fits.1 (Int.lt_of_le_of_lt fits.2 (by decide))
    · cases h
  · intro h
    rw [← h, wordOfInt?_toInt]

end FilterLang
