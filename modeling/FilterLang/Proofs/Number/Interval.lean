import FilterLang.Number.Shortest
import Mathlib.Algebra.Order.Field.Power
import Mathlib.Algebra.Order.Field.Rat
import Mathlib.Tactic.FieldSimp
import Mathlib.Tactic.Linarith
import Mathlib.Tactic.Positivity
import Mathlib.Tactic.Ring

/-!
The intervals of the reals that round to a number. The interval of a rank ends where that of the next rank
begins, and of two ranks that follow one another only one has an even last bit, so no real lies in the
intervals of two ranks.
-/

namespace FilterLang.Double

def quarters (rank count : Nat) : ℚ := count * 2 ^ ((magnitude rank).2 - 2)

def lowerEnd (rank : Nat) : ℚ := quarters rank (interval rank).low

def upperEnd (rank : Nat) : ℚ := quarters rank (interval rank).high

def Within (rank : Nat) (x : ℚ) : Prop :=
  lowerEnd rank ≤ x ∧ x ≤ upperEnd rank ∧
    ((interval rank).closed = false → lowerEnd rank < x ∧ x < upperEnd rank)

variable {rank rank' : Nat} {x : ℚ}

theorem binadeSize_eq : binadeSize = 4503599627370496 := rfl

theorem magnitude_of_lt (h : rank < binadeSize) : magnitude rank = (rank, -1074) := if_pos h

theorem magnitude_of_le (h : binadeSize ≤ rank) :
    magnitude rank = (binadeSize + rank % binadeSize, ((rank / binadeSize : Nat) : Int) - 1075) :=
  if_neg (Nat.not_lt.2 h)

theorem closed_eq (rank : Nat) : (interval rank).closed = (rank % 2 == 0) := by
  show ((magnitude rank).1 % 2 == 0) = _
  by_cases h : rank < binadeSize
  · rw [magnitude_of_lt h]
  · rw [magnitude_of_le (Nat.not_lt.1 h), binadeSize_eq]
    congr 1
    omega

theorem quarters_lt_iff {m n : Nat} : quarters rank m < quarters rank n ↔ m < n := by
  have hunit : (0 : ℚ) < 2 ^ ((magnitude rank).2 - 2) := by positivity
  rw [quarters, quarters, mul_lt_mul_iff_left₀ hunit, Nat.cast_lt]

theorem lowerEnd_lt_upperEnd (rank : Nat) : lowerEnd rank < upperEnd rank := by
  rw [lowerEnd, upperEnd, quarters_lt_iff]
  simp only [interval]
  split <;> omega

theorem low_of_not_boundary (h : ¬ (rank % binadeSize = 0 ∧ binadeSize < rank)) :
    (interval rank).low = 4 * (magnitude rank).1 - 2 := by
  simp [interval, h]

theorem low_of_boundary (h : rank % binadeSize = 0 ∧ binadeSize < rank) :
    (interval rank).low = 4 * (magnitude rank).1 - 1 := by
  simp [interval, h]

theorem upperEnd_eq (rank : Nat) : upperEnd rank = lowerEnd (rank + 1) := by
  have hhigh : (interval rank).high = 4 * (magnitude rank).1 + 2 := rfl
  rw [upperEnd, lowerEnd, quarters, quarters, hhigh]
  by_cases hsmall : rank + 1 < binadeSize
  · rw [low_of_not_boundary (by omega), magnitude_of_lt hsmall, magnitude_of_lt (Nat.lt_of_succ_lt hsmall)]
    rfl
  by_cases hfirst : rank + 1 = binadeSize
  · have hrank : rank < binadeSize := by omega
    rw [low_of_not_boundary (by omega), magnitude_of_lt hrank, magnitude_of_le (Nat.le_of_eq hfirst.symm),
      hfirst, Nat.mod_self, Nat.div_self (by decide)]
    have hcount : 4 * rank + 2 = 4 * (binadeSize + 0) - 2 := by omega
    rw [hcount]
    rfl
  have hlarge : binadeSize ≤ rank := by omega
  by_cases hboundary : (rank + 1) % binadeSize = 0
  · rw [low_of_boundary ⟨hboundary, by omega⟩, magnitude_of_le hlarge,
      magnitude_of_le (Nat.le_succ_of_le hlarge), hboundary]
    have hmod : rank % binadeSize = binadeSize - 1 := by
      rw [binadeSize_eq] at *
      omega
    have hdiv : (rank + 1) / binadeSize = rank / binadeSize + 1 := by
      rw [binadeSize_eq] at *
      omega
    have hcount : 4 * (binadeSize + (binadeSize - 1)) + 2 = 2 * (4 * (binadeSize + 0) - 1) := by
      rw [binadeSize_eq]
    have hplace : ((rank / binadeSize + 1 : Nat) : Int) - 1075 - 2 =
        ((rank / binadeSize : Nat) : Int) - 1075 - 2 + 1 := by
      push_cast
      ring
    rw [hmod, hdiv, hcount, hplace, zpow_add_one₀ two_ne_zero]
    push_cast
    ring
  · have hmod : (rank + 1) % binadeSize = rank % binadeSize + 1 := by
      rw [binadeSize_eq] at *
      omega
    have hdiv : (rank + 1) / binadeSize = rank / binadeSize := by
      rw [binadeSize_eq] at *
      omega
    rw [low_of_not_boundary (by omega), magnitude_of_le hlarge, magnitude_of_le (Nat.le_succ_of_le hlarge),
      hmod, hdiv]
    have hcount : 4 * (binadeSize + rank % binadeSize) + 2 =
        4 * (binadeSize + (rank % binadeSize + 1)) - 2 := by omega
    rw [hcount]

theorem lowerEnd_strictMono : StrictMono lowerEnd :=
  strictMono_nat_of_lt_succ fun rank => by
    rw [← upperEnd_eq]
    exact lowerEnd_lt_upperEnd rank

theorem upperEnd_le_lowerEnd (h : rank < rank') : upperEnd rank ≤ lowerEnd rank' := by
  rw [upperEnd_eq]
  exact lowerEnd_strictMono.monotone h

/-- No real lies in the intervals of two ranks. -/
theorem Within.not_lt (h : Within rank x) (h' : Within rank' x) : ¬ rank < rank' := by
  intro hlt
  have hends := upperEnd_le_lowerEnd hlt
  have hupper : x = upperEnd rank := le_antisymm h.2.1 (hends.trans h'.1)
  have hlower : x = lowerEnd rank' := le_antisymm (h.2.1.trans hends) h'.1
  -- the real is the end that both share, so the ranks follow one another and both are even
  have hnext : rank' = rank + 1 :=
    lowerEnd_strictMono.injective (by rw [← hlower, hupper, upperEnd_eq])
  have hclosed : (interval rank).closed = true := by
    rw [← Bool.not_eq_false]
    exact fun hopen => absurd hupper (h.2.2 hopen).2.ne
  have hclosed' : (interval rank').closed = true := by
    rw [← Bool.not_eq_false]
    exact fun hopen => absurd hlower (h'.2.2 hopen).1.ne'
  rw [closed_eq, beq_iff_eq] at hclosed hclosed'
  omega

theorem Within.unique (h : Within rank x) (h' : Within rank' x) : rank = rank' :=
  Nat.le_antisymm (Nat.not_lt.1 (h'.not_lt h)) (Nat.not_lt.1 (h.not_lt h'))

end FilterLang.Double
