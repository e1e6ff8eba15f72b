import FilterLang.Proofs.Number.Interval

/-!
The shortest decimals. They lie in the intervals of their numbers, so no two numbers have the same one.
-/

namespace FilterLang.Double

def Decimal.value (d : Decimal) : ℚ := d.digits * 10 ^ d.exponent

variable {rank n : Nat} {tie : Tie} {exponent : Int}

/-! A neighbour lies inside, and there is one wherever the unit is smaller than the interval. -/

def Interval.Inside (i : Interval) (place : Nat) : Prop :=
  i.low ≤ place ∧ place ≤ i.high ∧ (i.closed = false → i.low < place ∧ place < i.high)

instance (i : Interval) (place : Nat) : Decidable (i.Inside place) :=
  inferInstanceAs (Decidable (_ ∧ _))

theorem Interval.decide_inside (i : Interval) (place : Nat) :
    (if i.closed then decide (i.low ≤ place) && decide (place ≤ i.high)
      else decide (i.low < place) && decide (place < i.high)) = decide (i.Inside place) := by
  rw [Bool.eq_iff_iff, decide_eq_true_iff, Inside]
  cases i.closed with
  | true => simp
  | false =>
      simp only [Bool.false_eq_true, ↓reduceIte, Bool.and_eq_true, decide_eq_true_eq, forall_const]
      omega

theorem Interval.inside_of_neighbour? {i : Interval} {unit : Nat} (h : i.neighbour? tie unit = some n) :
    i.Inside (n * unit) := by
  unfold neighbour? at h
  simp only [decide_inside] at h
  split at h
  · rename_i hbelow habove
    split at h
    · cases h
      exact of_decide_eq_true hbelow
    · cases h
      exact of_decide_eq_true habove
  · rename_i hbelow _
    cases h
    exact of_decide_eq_true hbelow
  · rename_i _ habove
    cases h
    exact of_decide_eq_true habove
  · cases h

theorem Interval.isSome_neighbour? {i : Interval} {unit : Nat} (hunit : 0 < unit)
    (hvalue : i.low < i.value ∧ i.value < i.high) (hwidth : i.low + unit < i.high) :
    (i.neighbour? tie unit).isSome = true := by
  have hdivision := Nat.div_add_mod i.value unit
  have hremainder := Nat.mod_lt i.value hunit
  have hbelow : i.value / unit * unit = i.value - i.value % unit := by
    rw [Nat.mul_comm]
    omega
  have habove : (i.value / unit + 1) * unit = i.value - i.value % unit + unit := by
    rw [Nat.add_mul, hbelow, Nat.one_mul]
  have hinside : i.Inside (i.value / unit * unit) ∨ i.Inside ((i.value / unit + 1) * unit) := by
    rw [hbelow, habove]
    unfold Inside
    omega
  unfold neighbour?
  simp only [decide_inside]
  rcases hinside with h | h
  · rw [decide_eq_true h]
    cases decide (i.Inside ((i.value / unit + 1) * unit)) with
    | true => dsimp only; split <;> rfl
    | false => rfl
  · rw [decide_eq_true h]
    cases decide (i.Inside (i.value / unit * unit)) with
    | true => dsimp only; split <;> rfl
    | false => rfl

theorem scaledRatio_eq {num den : Nat} (hnum : 0 < num) (hden : 0 < den) (shift : Int) :
    0 < (scaledRatio num den shift).1 ∧ 0 < (scaledRatio num den shift).2 ∧
      ((scaledRatio num den shift).1 : ℚ) / (scaledRatio num den shift).2 = num / den * 2 ^ shift := by
  unfold scaledRatio
  split
  · rename_i hnonneg
    obtain ⟨k, rfl⟩ := Int.eq_ofNat_of_zero_le hnonneg
    refine ⟨Nat.mul_pos hnum (Nat.pow_pos (by decide)), hden, ?_⟩
    rw [Int.toNat_natCast, Nat.pow_eq, zpow_natCast]
    push_cast
    ring
  · rename_i hneg
    obtain ⟨k, hk⟩ : ∃ k : Nat, shift = -(k : Int) := ⟨(-shift).toNat, by omega⟩
    subst hk
    refine ⟨hnum, Nat.mul_pos hden (Nat.pow_pos (by decide)), ?_⟩
    rw [Int.neg_neg, Int.toNat_natCast, Nat.pow_eq, zpow_neg, zpow_natCast]
    push_cast
    field_simp

theorem onGrid_eq (rank : Nat) (exponent : Int) :
    ∃ wide unit, 0 < wide ∧ 0 < unit ∧
      onGrid rank exponent = ({ interval rank with
        low := (interval rank).low * wide, value := (interval rank).value * wide,
        high := (interval rank).high * wide }, unit) ∧
      (unit : ℚ) * 2 ^ ((magnitude rank).2 - 2) = wide * 10 ^ exponent := by
  obtain ⟨hup, hdown, hratio⟩ :=
    scaledRatio_eq (by decide : 0 < 1) (by decide : 0 < 1) ((magnitude rank).2 - 2)
  have hdown' : ((scaledRatio 1 1 ((magnitude rank).2 - 2)).2 : ℚ) ≠ 0 := by positivity
  rw [Nat.cast_one, div_one, one_mul, div_eq_iff hdown'] at hratio
  unfold onGrid
  dsimp only
  split
  · rename_i hnonneg
    obtain ⟨k, rfl⟩ := Int.eq_ofNat_of_zero_le hnonneg
    refine ⟨_, _, hup, Nat.mul_pos hdown (Nat.pow_pos (by decide)), rfl, ?_⟩
    rw [hratio, Int.toNat_natCast, zpow_natCast]
    push_cast
    ring
  · rename_i hneg
    obtain ⟨k, hk⟩ : ∃ k : Nat, exponent = -(k : Int) := ⟨(-exponent).toNat, by omega⟩
    subst hk
    refine ⟨_, _, Nat.mul_pos hup (Nat.pow_pos (by decide)), hdown, rfl, ?_⟩
    rw [Int.neg_neg, Int.toNat_natCast, zpow_neg, zpow_natCast]
    push_cast
    rw [hratio]
    field_simp

theorem quarters_compare {wide unit count : Nat} (hwide : 0 < wide)
    (hunit : (unit : ℚ) * 2 ^ ((magnitude rank).2 - 2) = wide * 10 ^ exponent) (n : Nat) :
    ((count * wide ≤ n * unit ↔ quarters rank count ≤ n * 10 ^ exponent) ∧
      (n * unit ≤ count * wide ↔ n * 10 ^ exponent ≤ quarters rank count)) := by
  have hpower : (0 : ℚ) < 2 ^ ((magnitude rank).2 - 2) := by positivity
  have hwide' : (0 : ℚ) < wide := by exact_mod_cast hwide
  have hplace : (wide : ℚ) * (n * 10 ^ exponent) = 2 ^ ((magnitude rank).2 - 2) * ((n * unit : Nat) : ℚ) := by
    rw [mul_left_comm, ← hunit]
    push_cast
    ring
  have hquarters : (wide : ℚ) * quarters rank count =
      2 ^ ((magnitude rank).2 - 2) * ((count * wide : Nat) : ℚ) := by
    rw [quarters]
    push_cast
    ring
  have hcast : ∀ a b : Nat, a ≤ b ↔ (a : ℚ) ≤ b := fun a b => Nat.cast_le.symm
  constructor
  · rw [hcast, ← mul_le_mul_iff_right₀ hpower, ← hplace, ← hquarters, mul_le_mul_iff_right₀ hwide']
  · rw [hcast, ← mul_le_mul_iff_right₀ hpower, ← hplace, ← hquarters, mul_le_mul_iff_right₀ hwide']

theorem within_of_neighbour? (h : (onGrid rank exponent).1.neighbour? tie (onGrid rank exponent).2 = some n) :
    Within rank (n * 10 ^ exponent) := by
  obtain ⟨wide, unit, hwide, _, hgrid, hunit⟩ := onGrid_eq rank exponent
  rw [hgrid] at h
  obtain ⟨hlow, hhigh, hopen⟩ := Interval.inside_of_neighbour? h
  have hends := fun count => @quarters_compare rank exponent wide unit count hwide hunit n
  refine ⟨(hends _).1.1 hlow, (hends _).2.1 hhigh, fun hclosed => ?_⟩
  obtain ⟨hlow, hhigh⟩ := hopen hclosed
  rw [← not_le, ← not_le, lowerEnd, upperEnd, ← (hends _).2, ← (hends _).1]
  exact ⟨Nat.not_le.2 hlow, Nat.not_le.2 hhigh⟩

/-! Seventeen digits suffice. -/

theorem pow_le_of_length {n : Nat} (hn : 0 < n) : 10 ^ ((Text.decimal n).length - 1) ≤ n := by
  rcases Nat.eq_zero_or_pos ((Text.decimal n).length - 1) with hzero | hpos
  · rw [hzero]
    exact hn
  · refine Nat.le_of_not_lt fun hlt => ?_
    have hlength := (Nat.length_toDigits_le_iff (by decide) hpos).2 hlt
    rw [← Text.decimal] at hlength
    omega

theorem lt_pow_length (n : Nat) : n < 10 ^ (Text.decimal n).length :=
  (Nat.length_toDigits_le_iff (by decide) (List.length_pos_iff.2 Nat.toDigits_ne_nil)).1 (Nat.le_refl _)

theorem pow_leadingExponent_le {num den : Nat} (hnum : 0 < num) (hden : 0 < den) :
    (10 : ℚ) ^ leadingExponent num den ≤ num / den := by
  have hden' : (0 : ℚ) < den := by exact_mod_cast hden
  rw [le_div_iff₀ hden']
  unfold leadingExponent
  split
  · rename_i hle
    have hwhole : 0 < num / den := Nat.div_pos hle hden
    have hlength : 0 < (Text.decimal (num / den)).length := List.length_pos_iff.2 Nat.toDigits_ne_nil
    have hexponent : ((Text.decimal (num / den)).length : Int) - 1 =
        (((Text.decimal (num / den)).length - 1 : Nat) : Int) := by omega
    have hle : 10 ^ ((Text.decimal (num / den)).length - 1) * den ≤ num :=
      (Nat.mul_le_mul_right den (pow_le_of_length hwhole)).trans (Nat.div_mul_le_self num den)
    rw [hexponent, zpow_natCast]
    exact_mod_cast hle
  · have hlt : den < 10 ^ (Text.decimal (den / num)).length * num :=
      (Nat.div_lt_iff_lt_mul hnum).1 (lt_pow_length (den / num))
    rw [zpow_neg, zpow_natCast, inv_mul_le_iff₀ (by positivity)]
    exact_mod_cast hlt.le

theorem magnitude_bounds (hrank : 0 < rank) :
    0 < (magnitude rank).1 ∧ (magnitude rank).1 < 2 * binadeSize ∧
      (rank % binadeSize = 0 ∧ binadeSize < rank → (magnitude rank).1 = binadeSize) := by
  by_cases h : rank < binadeSize
  · rw [magnitude_of_lt h]
    exact ⟨hrank, by omega, fun hboundary => absurd h (Nat.not_lt.2 hboundary.2.le)⟩
  · rw [magnitude_of_le (Nat.not_lt.1 h)]
    have hmod := Nat.mod_lt rank (show 0 < binadeSize by decide)
    exact ⟨by omega, by omega, fun hboundary => by rw [hboundary.1, Nat.add_zero]⟩

/-- On a scale of sixteen more digits than the number's first, the interval is wider than a unit. -/
theorem interval_width (hrank : 0 < rank) :
    4 * (magnitude rank).1 + 10 ^ 16 * (interval rank).low < 10 ^ 16 * (interval rank).high := by
  have hhigh : (interval rank).high = 4 * (magnitude rank).1 + 2 := rfl
  obtain ⟨hpos, hlt, hboundary⟩ := magnitude_bounds hrank
  rw [binadeSize_eq] at hlt hboundary
  by_cases h : rank % binadeSize = 0 ∧ binadeSize < rank
  · have hleast := hboundary (by rwa [binadeSize_eq] at h)
    rw [hhigh, low_of_boundary h, hleast]
    decide
  · rw [hhigh, low_of_not_boundary h]
    omega

theorem interval_value (hrank : 0 < rank) :
    (interval rank).low < (interval rank).value ∧ (interval rank).value < (interval rank).high := by
  have hvalue : (interval rank).value = 4 * (magnitude rank).1 := rfl
  have hhigh : (interval rank).high = 4 * (magnitude rank).1 + 2 := rfl
  have hpos := (magnitude_bounds hrank).1
  refine ⟨?_, by omega⟩
  by_cases h : rank % binadeSize = 0 ∧ binadeSize < rank
  · rw [low_of_boundary h]
    omega
  · rw [low_of_not_boundary h]
    omega

theorem ratio_eq (hrank : 0 < rank) :
    0 < (ratio rank).1 ∧ 0 < (ratio rank).2 ∧
      ((ratio rank).1 : ℚ) / (ratio rank).2 = quarters rank (4 * (magnitude rank).1) := by
  obtain ⟨hnum, hden, hratio⟩ :=
    scaledRatio_eq (magnitude_bounds hrank).1 (by decide : 0 < 1) (magnitude rank).2
  refine ⟨hnum, hden, hratio.trans ?_⟩
  rw [quarters, zpow_sub₀ two_ne_zero]
  push_cast
  norm_num
  ring

theorem unit_le {wide unit : Nat} (hrank : 0 < rank)
    (hexponent : exponent = leadingExponent (ratio rank).1 (ratio rank).2 - 16)
    (hunit : (unit : ℚ) * 2 ^ ((magnitude rank).2 - 2) = wide * 10 ^ exponent) :
    10 ^ 16 * unit ≤ wide * (4 * (magnitude rank).1) := by
  obtain ⟨hnum, hden, hratio⟩ := ratio_eq hrank
  have hleading := pow_leadingExponent_le hnum hden
  have hpower : (0 : ℚ) < 2 ^ ((magnitude rank).2 - 2) := by positivity
  have hshift : (10 : ℚ) ^ 16 * 10 ^ exponent = 10 ^ leadingExponent (ratio rank).1 (ratio rank).2 := by
    rw [hexponent, zpow_sub₀ (by norm_num)]
    norm_num
    ring
  rw [hratio, quarters, ← hshift] at hleading
  have hscaled : (10 ^ 16 * (unit : ℚ)) * 2 ^ ((magnitude rank).2 - 2) ≤
      (wide * ((4 * (magnitude rank).1 : Nat) : ℚ)) * 2 ^ ((magnitude rank).2 - 2) :=
    calc (10 ^ 16 * (unit : ℚ)) * 2 ^ ((magnitude rank).2 - 2)
        = wide * (10 ^ 16 * 10 ^ exponent) := by rw [mul_assoc, hunit]; ring
      _ ≤ wide * (((4 * (magnitude rank).1 : Nat) : ℚ) * 2 ^ ((magnitude rank).2 - 2)) :=
          mul_le_mul_of_nonneg_left hleading (Nat.cast_nonneg wide)
      _ = _ := (mul_assoc _ _ _).symm
  exact_mod_cast le_of_mul_le_mul_right hscaled hpower

theorem isSome_neighbour?_onGrid (hrank : 0 < rank)
    (hexponent : exponent = leadingExponent (ratio rank).1 (ratio rank).2 - 16) :
    ((onGrid rank exponent).1.neighbour? tie (onGrid rank exponent).2).isSome = true := by
  obtain ⟨wide, unit, hwide, hunit, hgrid, hscale⟩ := onGrid_eq rank exponent
  have hvalue := interval_value hrank
  rw [hgrid]
  refine Interval.isSome_neighbour? hunit ?_ ?_
  · exact ⟨Nat.mul_lt_mul_of_pos_right hvalue.1 hwide, Nat.mul_lt_mul_of_pos_right hvalue.2 hwide⟩
  · have hsmall := unit_le hrank hexponent hscale
    have hwidth := Nat.mul_lt_mul_of_pos_left (interval_width hrank) hwide
    rw [Nat.mul_add] at hwidth
    show (interval rank).low * wide + unit < (interval rank).high * wide
    have hlow : wide * (10 ^ 16 * (interval rank).low) = 10 ^ 16 * ((interval rank).low * wide) := by ring
    have hhigh : wide * (10 ^ 16 * (interval rank).high) = 10 ^ 16 * ((interval rank).high * wide) := by
      ring
    omega

theorem value_trimmed (n : Nat) (exponent : Int) :
    (if n % 10 = 0 then Decimal.mk (n / 10) (exponent + 1) else ⟨n, exponent⟩).value =
      n * 10 ^ exponent := by
  split
  · rename_i hzero
    have hn : n = 10 * (n / 10) := by omega
    rw [Decimal.value, zpow_add_one₀ (by norm_num)]
    conv_rhs => rw [hn]
    push_cast
    ring
  · rfl

/-- The shortest decimal of a number rounds to it. -/
theorem within_shortest (tie : Tie) (hrank : 0 < rank) : Within rank (shortest tie rank).value := by
  unfold shortest
  rw [if_neg hrank.ne']
  dsimp only
  generalize hfound : (List.range 17).findSome? _ = found
  cases found with
  | none =>
      have hlast := List.findSome?_eq_none_iff.1 hfound 16 (by decide)
      have hsome := @isSome_neighbour?_onGrid rank tie
        (leadingExponent (ratio rank).1 (ratio rank).2 - ((16 : Nat) : Int)) hrank rfl
      rw [Option.map_eq_none_iff.1 hlast] at hsome
      cases hsome
  | some d =>
      obtain ⟨extra, _, hextra⟩ := List.exists_of_findSome?_eq_some hfound
      obtain ⟨n, hn, rfl⟩ := Option.map_eq_some_iff.1 hextra
      rw [Option.getD_some, value_trimmed]
      exact within_of_neighbour? hn

theorem shortest_injective {rank' : Nat} (h : (shortest tie rank).value = (shortest tie rank').value) :
    rank = rank' := by
  have hzero : (shortest tie 0).value = 0 := by simp [shortest, Decimal.value]
  have hpos : ∀ {rank : Nat}, 0 < rank → 0 < (shortest tie rank).value := by
    intro rank hrank
    have hlow : lowerEnd 0 = 0 := by
      rw [lowerEnd, show (interval 0).low = 0 from rfl]
      simp [quarters]
    exact hlow ▸ (lowerEnd_strictMono hrank).trans_le (within_shortest tie hrank).1
  rcases Nat.eq_zero_or_pos rank with rfl | hrank
  · rcases Nat.eq_zero_or_pos rank' with rfl | hrank'
    · rfl
    · exact absurd h (hzero ▸ (hpos hrank').ne)
  · rcases Nat.eq_zero_or_pos rank' with rfl | hrank'
    · exact absurd h (hzero ▸ (hpos hrank).ne')
    · have hwithin := within_shortest tie hrank'
      rw [← h] at hwithin
      exact (within_shortest tie hrank).unique hwithin

end FilterLang.Double
