import FilterLang.Calendar.DateTime
import FilterLang.Proofs.Text.Decimal

/-!
Days and times can be told from their texts.
-/

namespace FilterLang

open Text

theorem Date.yearText_cases (year : Int) :
    0 ≤ year ∧ yearText year = padded 4 year.natAbs ∨
    0 ≤ year ∧ yearText year = '+' :: padded 4 year.natAbs ∨
    year < 0 ∧ yearText year = '-' :: padded 4 year.natAbs := by
  unfold yearText
  by_cases hplain : 0 ≤ year ∧ year ≤ 9999
  · exact .inl ⟨hplain.1, if_pos hplain⟩
  · by_cases hnegative : year < 0
    · exact .inr (.inr ⟨hnegative, by rw [if_neg hplain, if_pos hnegative]⟩)
    · exact .inr (.inl ⟨by omega, by rw [if_neg hplain, if_neg hnegative]⟩)

theorem Date.yearText_append_inj {year year' : Int} {rest rest' : Text}
    (hrest : ∀ c ∈ rest.head?, c.isDigit = false) (hrest' : ∀ c ∈ rest'.head?, c.isDigit = false)
    (h : yearText year ++ rest = yearText year' ++ rest') : year = year' ∧ rest = rest' := by
  rcases yearText_cases year with ⟨hyear, htext⟩ | ⟨hyear, htext⟩ | ⟨hyear, htext⟩ <;>
  rcases yearText_cases year' with ⟨hyear', htext'⟩ | ⟨hyear', htext'⟩ | ⟨hyear', htext'⟩ <;>
  rw [htext, htext'] at h
  · obtain ⟨habs, hequal⟩ := padded_append_inj hrest hrest' h
    exact ⟨by omega, hequal⟩
  · exact absurd h (padded_append_ne rfl)
  · exact absurd h (padded_append_ne rfl)
  · exact absurd h.symm (padded_append_ne rfl)
  · obtain ⟨habs, hequal⟩ := padded_append_inj hrest hrest' (List.cons.inj h).2
    exact ⟨by omega, hequal⟩
  · cases (List.cons.inj h).1
  · exact absurd h.symm (padded_append_ne rfl)
  · cases (List.cons.inj h).1
  · obtain ⟨habs, hequal⟩ := padded_append_inj hrest hrest' (List.cons.inj h).2
    exact ⟨by omega, hequal⟩

theorem Date.text_append_inj {d d' : Date} {rest rest' : Text}
    (hrest : ∀ c ∈ rest.head?, c.isDigit = false) (hrest' : ∀ c ∈ rest'.head?, c.isDigit = false)
    (h : d.text ++ rest = d'.text ++ rest') : d = d' ∧ rest = rest' := by
  have hhyphen : ∀ {t : Text}, ∀ c ∈ ('-' :: t).head?, c.isDigit = false := by
    intro t c hc
    cases hc
    rfl
  simp only [text, List.append_assoc, List.cons_append] at h
  obtain ⟨hyear, h⟩ := yearText_append_inj hhyphen hhyphen h
  obtain ⟨hmonth, h⟩ := padded_append_inj hhyphen hhyphen (List.cons.inj h).2
  obtain ⟨hday, h⟩ := padded_append_inj hrest hrest' (List.cons.inj h).2
  refine ⟨?_, h⟩
  cases d
  cases d'
  cases hyear
  cases hmonth
  cases hday
  rfl

namespace DateTime

theorem fractionText_cases (n : Nat) :
    n = 0 ∧ fractionText n = [] ∨
    ∃ width unit, (width, unit) ∈ [(3, 1000000), (6, 1000), (9, 1)] ∧ n % unit = 0 ∧
      fractionText n = '.' :: padded width (n / unit) := by
  unfold fractionText
  split
  · rename_i hzero
    exact .inl ⟨hzero, rfl⟩
  · split
    · rename_i hmillis
      exact .inr ⟨3, 1000000, by simp, hmillis, rfl⟩
    · split
      · rename_i hmicros
        exact .inr ⟨6, 1000, by simp, hmicros, rfl⟩
      · exact .inr ⟨9, 1, by simp, Nat.mod_one n, by rw [Nat.div_one]⟩

theorem head_fractionText (n : Nat) : ∀ c ∈ (fractionText n).head?, c.isDigit = false := by
  intro c hc
  rcases fractionText_cases n with ⟨_, htext⟩ | ⟨_, _, _, _, htext⟩
  · rw [htext] at hc
    cases hc
  · rw [htext] at hc
    cases hc
    rfl

theorem length_fraction {n width unit : Nat} (hn : n < 1000000000)
    (h : (width, unit) ∈ [(3, 1000000), (6, 1000), (9, 1)]) :
    (padded width (n / unit)).length = width := by
  simp only [List.mem_cons, Prod.mk.injEq, List.not_mem_nil, or_false] at h
  rcases h with ⟨rfl, rfl⟩ | ⟨rfl, rfl⟩ | ⟨rfl, rfl⟩ <;>
    exact length_padded ((Nat.length_toDigits_le_iff (by decide) (by decide)).2 (by omega))

theorem fractionText_injective {n n' : Nat} (hn : n < 1000000000) (hn' : n' < 1000000000)
    (h : fractionText n = fractionText n') : n = n' := by
  rcases fractionText_cases n with ⟨hzero, htext⟩ | ⟨width, unit, hmem, hexact, htext⟩ <;>
  rcases fractionText_cases n' with ⟨hzero', htext'⟩ | ⟨width', unit', hmem', hexact', htext'⟩ <;>
  rw [htext, htext'] at h
  · rw [hzero, hzero']
  · cases h
  · cases h
  · have hpadded := (List.cons.inj h).2
    have hlength := congrArg List.length hpadded
    rw [length_fraction hn hmem, length_fraction hn' hmem'] at hlength
    have hquotient : n / unit = n' / unit' := by
      rw [← ofDecimal_padded width (n / unit), hpadded, ofDecimal_padded]
    have hunit : unit = unit' := by
      simp only [List.mem_cons, Prod.mk.injEq, List.not_mem_nil, or_false] at hmem hmem'
      omega
    rw [← Nat.div_add_mod n unit, ← Nat.div_add_mod n' unit', hexact, hexact', hquotient, hunit]

theorem lt_billion (n : Nat) : n % 1000000000 < 1000000000 := Nat.mod_lt n (by decide)

theorem timeText_fields_inj {t t' : DateTime} (h : t.timeText = t'.timeText) :
    t.hour = t'.hour ∧ t.minute = t'.minute ∧ t.writtenSecond = t'.writtenSecond ∧
      t.nanosecond.val % 1000000000 = t'.nanosecond.val % 1000000000 := by
  have hcolon : ∀ {u : Text}, ∀ c ∈ (':' :: u).head?, c.isDigit = false := by
    intro u c hc
    cases hc
    rfl
  simp only [timeText, List.append_assoc, List.cons_append] at h
  obtain ⟨hhour, h⟩ := padded_append_inj hcolon hcolon h
  obtain ⟨hminute, h⟩ := padded_append_inj hcolon hcolon (List.cons.inj h).2
  obtain ⟨hsecond, h⟩ := padded_append_inj (head_fractionText _) (head_fractionText _)
    (List.cons.inj h).2
  have hnanosecond := fractionText_injective (lt_billion _) (lt_billion _) h
  exact ⟨Fin.ext hhour, Fin.ext hminute, hsecond, hnanosecond⟩

theorem second_eq_of_written {t t' : DateTime} (ht : t.Tells) (ht' : t'.Tells)
    (hsecond : t.writtenSecond = t'.writtenSecond)
    (hnanosecond : t.nanosecond.val % 1000000000 = t'.nanosecond.val % 1000000000) :
    t.second = t'.second ∧ t.nanosecond = t'.nanosecond := by
  unfold writtenSecond at hsecond
  unfold Tells at ht ht'
  constructor
  · exact Fin.ext (by omega)
  · exact Fin.ext (by omega)

theorem textWith_injective {separator : Char} {t t' : DateTime} (ht : t.Tells) (ht' : t'.Tells)
    (hseparator : separator.isDigit = false) (h : t.textWith separator = t'.textWith separator) : t = t' := by
  have hhead : ∀ {u : Text}, ∀ c ∈ (separator :: u).head?, c.isDigit = false := by
    intro u c hc
    cases hc
    exact hseparator
  obtain ⟨hdate, h⟩ := Date.text_append_inj hhead hhead h
  obtain ⟨hhour, hminute, hsecond, hnanosecond⟩ := timeText_fields_inj (List.cons.inj h).2
  obtain ⟨hsecond, hnanosecond⟩ := second_eq_of_written ht ht' hsecond hnanosecond
  cases t
  cases t'
  simp only [mk.injEq]
  exact ⟨hdate, hhour, hminute, hsecond, hnanosecond⟩

theorem quote_not_mem_padded (width n : Nat) : '\'' ∉ padded width n := by
  intro hquote
  exact absurd (isDigit_of_mem_padded hquote) (by decide)

theorem quote_not_mem_date (d : Date) : '\'' ∉ d.text := by
  rcases Date.yearText_cases d.year with ⟨_, htext⟩ | ⟨_, htext⟩ | ⟨_, htext⟩ <;>
    simp [Date.text, htext, quote_not_mem_padded]

theorem quote_not_mem_textWith (t : DateTime) : '\'' ∉ t.textWith ' ' := by
  rcases fractionText_cases (t.nanosecond % 1000000000) with ⟨_, htext⟩ | ⟨_, _, _, _, htext⟩ <;>
    simp [textWith, timeText, htext, quote_not_mem_date, quote_not_mem_padded]

end DateTime

end FilterLang
