import FilterLang.Proofs.Number.Shortest
import FilterLang.Proofs.Number.Writing

/-!
Doubles can be told from their plain texts.
-/

namespace FilterLang.Double

def pointedValue (t : Text) : ℚ :=
  Text.ofDecimal (t.filter (· ≠ '.')) / 10 ^ (t.dropWhile (· ≠ '.')).tail.length

def Pointed (t : Text) : Prop := ∀ c ∈ t, c.isDigit = true ∨ c = '.'

def Digital (t : Text) : Prop := ∀ c ∈ t, c.isDigit = true

variable {n : Nat} {s t : Text}

theorem Digital.append (hs : Digital s) (ht : Digital t) : Digital (s ++ t) := List.forall_mem_append.2 ⟨hs, ht⟩

theorem Digital.of_append (h : Digital (s ++ t)) : Digital s ∧ Digital t := List.forall_mem_append.1 h

theorem digital_decimal (n : Nat) : Digital (Text.decimal n) := fun _ hc => Text.isDigit_of_mem_decimal hc

theorem digital_zeros (k : Nat) : Digital (List.replicate k '0') := by
  intro c hc
  rw [List.eq_of_mem_replicate hc]
  rfl

theorem Digital.ne_point (h : Digital t) : ∀ c ∈ t, decide (c ≠ '.') = true := by
  intro c hc
  refine decide_eq_true ?_
  rintro rfl
  exact absurd (h _ hc) (by decide)

theorem Digital.filter_eq (h : Digital t) : t.filter (· ≠ '.') = t := List.filter_eq_self.2 h.ne_point

theorem pointedValue_digital (h : Digital t) : pointedValue t = Text.ofDecimal t := by
  have hdrop : (t ++ []).dropWhile (· ≠ '.') = [] := Text.dropWhile_run h.ne_point nofun
  rw [List.append_nil] at hdrop
  rw [pointedValue, h.filter_eq, hdrop]
  simp

theorem pointedValue_point (hs : Digital s) (ht : Digital t) :
    pointedValue (s ++ '.' :: t) = Text.ofDecimal (s ++ t) / 10 ^ t.length := by
  have hpoint : ∀ c ∈ ('.' :: t).head?, decide (c ≠ '.') = false := by
    rintro c ⟨⟩
    rfl
  rw [pointedValue, Text.dropWhile_run hs.ne_point hpoint, List.filter_append,
    List.filter_cons_of_neg (by decide), hs.filter_eq, ht.filter_eq]
  rfl

theorem ofDecimal_zeros_append (k n : Nat) :
    Text.ofDecimal (List.replicate k '0' ++ Text.decimal n) = n := by
  rw [Text.ofDecimal, Nat.ofDigitChars_append, Nat.ofDigitChars_replicate_zero, Nat.mul_zero]
  exact Text.ofDecimal_decimal n

theorem ofDecimal_append_zeros (k n : Nat) :
    Text.ofDecimal (Text.decimal n ++ List.replicate k '0') = n * 10 ^ k := by
  rw [Text.ofDecimal, Nat.ofDigitChars_append, Nat.ofDigitChars_replicate_zero, Nat.mul_comm]
  exact congrArg (· * 10 ^ k) (Text.ofDecimal_decimal n)

theorem placePoint_cases (n : Nat) (point : Int) :
    (∃ k : Nat, point = -(k : Int) ∧ Form.plain.placePoint (Text.decimal n) point =
      List.replicate 1 '0' ++ '.' :: (List.replicate k '0' ++ Text.decimal n)) ∨
    (∃ k : Nat, point = (Text.decimal n).length + k ∧
      Form.plain.placePoint (Text.decimal n) point = Text.decimal n ++ List.replicate k '0') ∨
    ∃ front back : Text, Text.decimal n = front ++ back ∧ point = front.length ∧
      Form.plain.placePoint (Text.decimal n) point = front ++ '.' :: back := by
  unfold Form.placePoint
  dsimp only
  split
  · rename_i hpoint
    exact .inl ⟨(-point).toNat, by omega, rfl⟩
  · split
    · rename_i hpoint hlength
      refine .inr (.inl ⟨point.toNat - (Text.decimal n).length, by omega, ?_⟩)
      exact List.append_nil _
    · rename_i hpoint hlength
      refine .inr (.inr ⟨_, _, (List.take_append_drop point.toNat _).symm, ?_, rfl⟩)
      rw [List.length_take]
      omega

theorem pointedValue_placePoint (n : Nat) (point : Int) :
    pointedValue (Form.plain.placePoint (Text.decimal n) point) =
      n * 10 ^ (point - (Text.decimal n).length) := by
  rcases placePoint_cases n point with ⟨k, hpoint, htext⟩ | ⟨k, hpoint, htext⟩ | ⟨s, t, hdigits, hpoint, htext⟩
  · have hfront : List.replicate 1 '0' ++ (List.replicate k '0' ++ Text.decimal n) =
        List.replicate (k + 1) '0' ++ Text.decimal n := rfl
    rw [htext, pointedValue_point (digital_zeros 1) ((digital_zeros k).append (digital_decimal n)), hfront,
      ofDecimal_zeros_append, List.length_append, List.length_replicate, hpoint,
      show -(k : Int) - (Text.decimal n).length = -((k + (Text.decimal n).length : Nat) : Int) by push_cast; ring,
      zpow_neg, zpow_natCast]
    rfl
  · rw [htext, pointedValue_digital ((digital_decimal n).append (digital_zeros k)), ofDecimal_append_zeros,
      hpoint, add_sub_cancel_left, zpow_natCast]
    push_cast
    rfl
  · obtain ⟨hs, ht⟩ := Digital.of_append (hdigits ▸ digital_decimal n)
    rw [htext, pointedValue_point hs ht, ← hdigits, Text.ofDecimal_decimal, hpoint, hdigits, List.length_append,
      show (s.length : Int) - (s.length + t.length : Nat) = -(t.length : Int) by push_cast; ring,
      zpow_neg, zpow_natCast]
    rfl

theorem pointed_placePoint (n : Nat) (point : Int) :
    Pointed (Form.plain.placePoint (Text.decimal n) point) := by
  have hdigital : ∀ {s : Text}, Digital s → Pointed s := fun hs c hc => .inl (hs c hc)
  have hpoint : ∀ {s t : Text}, Digital s → Digital t → Pointed (s ++ '.' :: t) := by
    intro s t hs ht c hc
    rcases List.mem_append.1 hc with hc | hc
    · exact .inl (hs c hc)
    · exact (List.mem_cons.1 hc).elim .inr fun hc => .inl (ht c hc)
  have hdecimal := digital_decimal n
  rcases placePoint_cases n point with ⟨k, _, htext⟩ | ⟨k, _, htext⟩ | ⟨s, t, hdigits, _, htext⟩
  · rw [htext]
    exact hpoint (digital_zeros 1) ((digital_zeros k).append hdecimal)
  · rw [htext]
    exact hdigital (hdecimal.append (digital_zeros k))
  · obtain ⟨hs, ht⟩ := Digital.of_append (hdigits ▸ hdecimal)
    rw [htext]
    exact hpoint hs ht

def plainMagnitude (rank : Nat) : Text :=
  if rank = topRank then "inf"
  else if rank = 0 then "0"
  else Form.plain.placePoint (Text.decimal (shortest .away rank).digits)
    ((shortest .away rank).exponent + (Text.decimal (shortest .away rank).digits).length)

theorem write_plain (negative : Bool) (rank : Fin (topRank + 1)) :
    Form.plain.write (.signed negative rank) =
      if negative then '-' :: plainMagnitude rank.val else plainMagnitude rank.val := by
  have hmagnitude : ∀ sign : Text, (if rank.val = topRank then sign ++ "inf".toList
      else if rank.val = 0 then sign ++ "0".toList
      else sign ++ Form.plain.placePoint (Text.decimal (shortest .away rank.val).digits)
        ((shortest .away rank.val).exponent +
          (Text.decimal (shortest .away rank.val).digits).length - 1 + 1)) =
      sign ++ plainMagnitude rank.val := by
    intro sign
    rw [plainMagnitude, sub_add_cancel]
    split
    · rfl
    · split <;> rfl
  cases negative
  · exact hmagnitude []
  · exact hmagnitude ['-']

theorem pointed_plainMagnitude {rank : Nat} (h : rank ≠ topRank) : Pointed (plainMagnitude rank) := by
  rw [plainMagnitude, if_neg h]
  split
  · exact fun c hc => .inl (digital_zeros 1 c hc)
  · exact pointed_placePoint _ _

theorem pointedValue_plainMagnitude {rank : Nat} (h : rank ≠ topRank) :
    pointedValue (plainMagnitude rank) = (shortest .away rank).value := by
  rw [plainMagnitude, if_neg h]
  split
  · rename_i hzero
    rw [hzero]
    have hvalue : Text.ofDecimal ['0'] = 0 := rfl
    exact (pointedValue_digital (digital_zeros 1)).trans (by simp [hvalue, shortest, Decimal.value])
  · rw [pointedValue_placePoint, add_sub_cancel_right]
    rfl

theorem not_mem_of_ne_topRank {rank : Nat} (h : rank ≠ topRank) {c : Char} (hdigit : c.isDigit = false)
    (hpoint : c ≠ '.') :
    c ∉ plainMagnitude rank := by
  intro hc
  rcases pointed_plainMagnitude h c hc with h | h
  · rw [hdigit] at h
    cases h
  · exact hpoint h

theorem not_mem_plainMagnitude {c : Char} (hinf : c ∉ "inf".toList) (hdigit : c.isDigit = false)
    (hpoint : c ≠ '.') (rank : Nat) : c ∉ plainMagnitude rank := by
  by_cases h : rank = topRank
  · rw [plainMagnitude, if_pos h]
    exact hinf
  · exact not_mem_of_ne_topRank h hdigit hpoint

theorem plainMagnitude_injective {rank rank' : Nat} (h : plainMagnitude rank = plainMagnitude rank') :
    rank = rank' := by
  have hinf : 'i' ∈ plainMagnitude topRank := by decide
  by_cases htop : rank = topRank
  · by_cases htop' : rank' = topRank
    · rw [htop, htop']
    · rw [htop] at h
      exact absurd (h ▸ hinf) (not_mem_of_ne_topRank htop' rfl (by decide))
  · by_cases htop' : rank' = topRank
    · rw [htop'] at h
      exact absurd (h ▸ hinf) (not_mem_of_ne_topRank htop rfl (by decide))
    · exact shortest_injective (by
        rw [← pointedValue_plainMagnitude htop, h, pointedValue_plainMagnitude htop'])

theorem write_plain_ne_nan (negative : Bool) (rank : Fin (topRank + 1)) :
    Form.plain.write (.signed negative rank) ≠ Form.plain.write .nan := by
  intro h
  have hletter := not_mem_plainMagnitude (c := 'N') (by decide) rfl (by decide) rank.val
  have hmem : 'N' ∈ Form.plain.write (.signed negative rank) := by
    rw [h]
    decide
  rw [write_plain] at hmem
  cases negative with
  | false => exact hletter hmem
  | true => exact hletter ((List.mem_cons.1 hmem).resolve_left (by decide))

/-- Every double can be told from its plain text, the two zeros and NaN as well. -/
theorem write_plain_injective : Function.Injective Form.plain.write := by
  intro x y h
  cases x with
  | nan =>
      cases y with
      | nan => rfl
      | signed negative rank => exact absurd h.symm (write_plain_ne_nan negative rank)
  | signed negative rank =>
      cases y with
      | nan => exact absurd h (write_plain_ne_nan negative rank)
      | signed negative' rank' =>
          have hminus : ∀ rank t, plainMagnitude rank ≠ '-' :: t := by
            intro rank t hequal
            refine not_mem_plainMagnitude (c := '-') (by decide) rfl (by decide) rank ?_
            rw [hequal]
            exact List.mem_cons_self
          rw [write_plain, write_plain] at h
          cases negative with
          | false =>
              cases negative' with
              | false => rw [Fin.ext (plainMagnitude_injective h)]
              | true => exact absurd h (hminus _ _)
          | true =>
              cases negative' with
              | false => exact absurd h.symm (hminus _ _)
              | true => rw [Fin.ext (plainMagnitude_injective (List.cons.inj h).2)]

end FilterLang.Double
