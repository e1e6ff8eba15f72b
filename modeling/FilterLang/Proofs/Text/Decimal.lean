import FilterLang.Proofs.Text.Runs

/-!
Numbers in decimal digits can be told from their texts, whatever comes after them that is no digit.
-/

namespace FilterLang.Text

variable {width width' n n' : Nat} {rest rest' : Text}

theorem isDigit_of_mem_decimal {c : Char} (h : c ∈ decimal n) : c.isDigit = true :=
  Nat.isDigit_of_mem_toDigits (by decide) (by decide) h

theorem isDigit_of_mem_padded {c : Char} (h : c ∈ padded width n) : c.isDigit = true := by
  rcases List.mem_append.1 h with hzero | hdigit
  · rw [List.eq_of_mem_replicate hzero]
    rfl
  · exact isDigit_of_mem_decimal hdigit

theorem decimal_injective (h : decimal n = decimal n') : n = n' := by
  rw [← ofDecimal_decimal n, h, ofDecimal_decimal]

theorem ofDecimal_padded (width n : Nat) : ofDecimal (padded width n) = n := by
  rw [padded, ofDecimal, Nat.ofDigitChars_append, Nat.ofDigitChars_replicate_zero, Nat.mul_zero]
  exact ofDecimal_decimal n

theorem length_padded (h : (decimal n).length ≤ width) : (padded width n).length = width := by
  rw [padded, List.length_append, List.length_replicate]
  omega

theorem padded_append_inj (hrest : ∀ c ∈ rest.head?, c.isDigit = false)
    (hrest' : ∀ c ∈ rest'.head?, c.isDigit = false)
    (h : padded width n ++ rest = padded width' n' ++ rest') : n = n' ∧ rest = rest' := by
  obtain ⟨hpadded, hequal⟩ := run_append_inj (fun _ hc => isDigit_of_mem_padded hc)
    (fun _ hc => isDigit_of_mem_padded hc) hrest hrest' h
  refine ⟨?_, hequal⟩
  rw [← ofDecimal_padded width n, hpadded, ofDecimal_padded]

theorem padded_append_ne {c : Char} {t : Text} (hc : c.isDigit = false) :
    padded width n ++ rest ≠ c :: t := by
  intro h
  obtain ⟨d, digits, hcons⟩ := List.exists_cons_of_ne_nil
    (show padded width n ≠ [] from List.append_ne_nil_of_right_ne_nil _ Nat.toDigits_ne_nil)
  have hdigit : d.isDigit = true :=
    @isDigit_of_mem_padded width n d (by rw [hcons]; exact List.mem_cons_self)
  rw [hcons, List.cons_append] at h
  rw [(List.cons.inj h).1, hc] at hdigit
  cases hdigit

theorem mem_decimalInt {i : Int} {c : Char} (h : c ∈ decimalInt i) : c.isDigit = true ∨ c = '-' := by
  unfold decimalInt at h
  split at h
  · rcases List.mem_cons.1 h with hminus | hdigit
    · exact .inr hminus
    · exact .inl (isDigit_of_mem_decimal hdigit)
  · exact .inl (isDigit_of_mem_decimal h)

theorem decimalInt_injective {i j : Int} (h : decimalInt i = decimalInt j) : i = j := by
  have hminus : ∀ {n : Nat} {t : Text}, '-' :: t ≠ decimal n := by
    intro n t hequal
    have hdigit : Char.isDigit '-' = true :=
      @isDigit_of_mem_decimal n _ (by rw [← hequal]; exact List.mem_cons_self)
    exact absurd hdigit (by decide)
  unfold decimalInt at h
  split at h <;> split at h
  · have habs := decimal_injective (List.cons.inj h).2
    omega
  · exact absurd h hminus
  · exact absurd h.symm hminus
  · have habs := decimal_injective h
    omega

end FilterLang.Text
