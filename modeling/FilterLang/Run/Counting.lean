import FilterLang.Calendar.Eastern
import FilterLang.Run

/-!
A run that draws identifiers by number: first those of the literals, then those of the records.
-/

namespace FilterLang

def Uuid.lastDigits : Nat → Nat → List (Fin 16)
  | 0, _ => []
  | count + 1, n => lastDigits count (n / 16) ++ [⟨n % 16, Nat.mod_lt _ (by decide)⟩]

theorem Uuid.length_lastDigits (count n : Nat) : (lastDigits count n).length = count := by
  induction count generalizing n with
  | zero => rfl
  | succ count ih => simp [lastDigits, ih]

def Uuid.numbered (n : Nat) : Uuid :=
  ⟨lastDigits 32 (0x01900000000070008000000000000000 + n), length_lastDigits 32 _⟩

namespace Run.Counting

scoped instance run : Run where
  toZone := Zone.Eastern.zone
  literal := Uuid.numbered
  compared _ _ := Uuid.numbered 1000000
  sorted _ _ _ := (Uuid.numbered 2000000, Uuid.numbered 2000001)
  sort? cmp xs := some (StableSort.sort (fun a b => cmp a b == .lt) xs)
  perm_of_sort? h := by
    cases h
    exact StableSort.sort_perm _ _
  sort?_of_preorder _ := rfl

open Classical in
/-- The same run, but that a sort stops unless its order is a preorder. -/
@[reducible] noncomputable def stopping : Run :=
  { run with
    sort? cmp xs :=
      if StableSort.Preorders cmp xs then some (StableSort.sort (fun a b => cmp a b == .lt) xs) else none
    perm_of_sort? h := by
      obtain ⟨-, h⟩ := Option.ite_none_right_eq_some.1 h
      cases h
      exact StableSort.sort_perm _ _
    sort?_of_preorder h := if_pos h }

end Run.Counting

end FilterLang
