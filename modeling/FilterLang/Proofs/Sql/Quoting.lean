import FilterLang.Sql.Quoting

/-!
A quoted text can be told from what follows it, unless that begins with the same quote.
-/

namespace FilterLang.Sql

variable {quote : Char} {t t' rest rest' : Text}

theorem doubled_of_not_mem (h : quote ∉ t) : doubled quote t = t := by
  induction t with
  | nil => rfl
  | cons c t ih =>
      rw [List.mem_cons, not_or] at h
      rw [doubled, if_neg (Ne.symm h.1), ih h.2]

theorem doubled_append_inj (hrest : rest.head? ≠ some quote) (hrest' : rest'.head? ≠ some quote)
    (h : doubled quote t ++ quote :: rest = doubled quote t' ++ quote :: rest') :
    t = t' ∧ rest = rest' := by
  induction t generalizing t' with
  | nil =>
      cases t' with
      | nil => exact ⟨rfl, (List.cons.inj h).2⟩
      | cons c t' =>
          by_cases hc : c = quote
          · rw [doubled, doubled, if_pos hc] at h
            exact absurd (by rw [(List.cons.inj h).2]; rfl) hrest
          · rw [doubled, doubled, if_neg hc] at h
            exact absurd (List.cons.inj h).1.symm hc
  | cons c t ih =>
      cases t' with
      | nil =>
          by_cases hc : c = quote
          · rw [doubled, doubled, if_pos hc] at h
            exact absurd (by rw [← (List.cons.inj h).2]; rfl) hrest'
          · rw [doubled, doubled, if_neg hc] at h
            exact absurd (List.cons.inj h).1 hc
      | cons d t' =>
          by_cases hc : c = quote <;> by_cases hd : d = quote
          · rw [doubled, doubled, if_pos hc, if_pos hd] at h
            obtain ⟨htail, hequal⟩ := ih (List.cons.inj (List.cons.inj h).2).2
            exact ⟨by rw [hc, hd, htail], hequal⟩
          · rw [doubled, doubled, if_pos hc, if_neg hd] at h
            exact absurd (List.cons.inj h).1.symm hd
          · rw [doubled, doubled, if_neg hc, if_pos hd] at h
            exact absurd (List.cons.inj h).1 hc
          · rw [doubled, doubled, if_neg hc, if_neg hd] at h
            obtain ⟨hhead, h⟩ := List.cons.inj h
            obtain ⟨htail, hequal⟩ := ih h
            exact ⟨by rw [hhead, htail], hequal⟩

theorem enclosed_append_inj (hrest : rest.head? ≠ some quote) (hrest' : rest'.head? ≠ some quote)
    (h : enclosed quote t ++ rest = enclosed quote t' ++ rest') : t = t' ∧ rest = rest' := by
  simp only [enclosed, List.cons_append, List.append_assoc, List.nil_append, List.cons.injEq,
    true_and] at h
  exact doubled_append_inj hrest hrest' h

end FilterLang.Sql
