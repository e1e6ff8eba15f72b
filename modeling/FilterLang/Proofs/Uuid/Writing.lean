import FilterLang.Uuid.Basic

/-!
Identifiers can be told from their texts.
-/

namespace FilterLang.Uuid

theorem hexChar_ne (d : Fin 16) : Nat.digitChar d.val ∉ ['-', '\''] := by
  revert d
  decide

theorem filter_hexText (digits : List (Fin 16)) :
    (hexText digits).filter (· ≠ '-') = hexText digits := by
  rw [List.filter_eq_self]
  intro c hc
  obtain ⟨d, _, rfl⟩ := List.mem_map.1 hc
  have hne := hexChar_ne d
  simp only [List.mem_cons, not_or] at hne
  exact decide_eq_true hne.1

theorem groups_eq (u : Uuid) : u.digits.take 8 ++ ((u.digits.drop 8).take 4 ++ ((u.digits.drop 12).take 4 ++
    ((u.digits.drop 16).take 4 ++ u.digits.drop 20))) = u.digits := by
  have hdrop : ∀ n, (u.digits.drop n).take 4 ++ u.digits.drop (n + 4) = u.digits.drop n := by
    intro n
    rw [← List.drop_drop, List.take_append_drop]
  rw [hdrop 16, hdrop 12, hdrop 8, List.take_append_drop]

theorem filter_text (u : Uuid) : u.text.filter (· ≠ '-') = hexText u.digits := by
  have hjoined : hexText u.digits = hexText (u.digits.take 8) ++ (hexText ((u.digits.drop 8).take 4) ++
      (hexText ((u.digits.drop 12).take 4) ++ (hexText ((u.digits.drop 16).take 4) ++
        hexText (u.digits.drop 20)))) := by
    simp only [hexText, ← List.map_append, u.groups_eq]
  have hhyphen : ∀ t : Text, ('-' :: t).filter (· ≠ '-') = t.filter (· ≠ '-') := fun _ => rfl
  simp only [text, List.append_assoc, List.cons_append, List.filter_append, hhyphen,
    filter_hexText, hjoined]

theorem hexText_injective {ds ds' : List (Fin 16)} (h : hexText ds = hexText ds') : ds = ds' := by
  have hdigit : ∀ d d' : Fin 16, Nat.digitChar d.val = Nat.digitChar d'.val → d = d' := by decide
  exact (List.map_inj_right hdigit).1 h

theorem text_injective {u u' : Uuid} (h : u.text = u'.text) : u = u' := by
  have hdigits : u.digits = u'.digits := hexText_injective (by rw [← filter_text, h, filter_text])
  cases u
  cases u'
  cases hdigits
  rfl

theorem mem_text {u : Uuid} {c : Char} (h : c ∈ u.text) (hc : c ≠ '-') : c ∈ hexText u.digits := by
  rw [← filter_text]
  exact List.mem_filter.2 ⟨h, decide_eq_true hc⟩

theorem quote_not_mem_text (u : Uuid) : '\'' ∉ u.text := by
  intro hquote
  obtain ⟨digit, _, hdigit⟩ := List.mem_map.1 (mem_text hquote (by decide))
  exact hexChar_ne digit (by rw [hdigit]; decide)

end FilterLang.Uuid
