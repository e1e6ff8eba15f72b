import FilterLang.Text.Lowercase

/-!
Lower case of a part of a text. The small form of a character depends on its surroundings for a capital sigma
alone, so a part keeps its small form within a text but for a sigma at one of its ends.
-/

namespace FilterLang.Text

def smallAmid (before after : Text) (c : Char) : Text :=
  if c.toNat = 0x3A3 then
    [Char.ofNat (if meetsCased before && !meetsCased after then 0x3C2 else 0x3C3)]
  else lowerChar c

def lowerAmid (before after : Text) : Text → Text
  | [] => []
  | c :: v => smallAmid before (v ++ after) c ++ lowerAmid (c :: before) after v

/-- It begins with a sigma, but for what is ignorable, that ends its word as far as the text goes. -/
def beginsWithSigma (v : Text) : Bool :=
  match v.dropWhile isCaseIgnorable with
  | c :: rest => c.toNat == 0x3A3 && !meetsCased rest
  | [] => false

/-- It ends with a sigma, but for what is ignorable, that does not begin its word. -/
def endsWithSigma (v : Text) : Bool :=
  match v.reverse.dropWhile isCaseIgnorable with
  | c :: rest => c.toNat == 0x3A3 && meetsCased rest
  | [] => false

variable {before before' after after' v : Text} {c : Char}

theorem lowerAfter_eq (before v : Text) : lowerAfter before v = lowerAmid before [] v := by
  induction v generalizing before with
  | nil => rfl
  | cons c v ih => rw [lowerAmid, ← ih, List.append_nil]; rfl

theorem lowercase_eq (t : Text) : t.lowercase = lowerAmid [] [] t := lowerAfter_eq [] t

/-! The surroundings count only by whether a cased letter is the nearest one that is not ignorable. -/

theorem meetsCased_cons (c : Char) (t : Text) :
    meetsCased (c :: t) = if isCaseIgnorable c then meetsCased t else isCased c := by
  unfold meetsCased
  rw [List.dropWhile_cons]
  cases isCaseIgnorable c <;> rfl

theorem meetsCased_cons_congr (h : meetsCased before = meetsCased before') (c : Char) :
    meetsCased (c :: before) = meetsCased (c :: before') := by
  rw [meetsCased_cons, meetsCased_cons, h]

theorem meetsCased_append_congr (h : meetsCased after = meetsCased after') (v : Text) :
    meetsCased (v ++ after) = meetsCased (v ++ after') := by
  induction v with
  | nil => exact h
  | cons c v ih => exact meetsCased_cons_congr ih c

theorem meetsCased_append_of_meetsCased (h : meetsCased v = true) (after : Text) :
    meetsCased (v ++ after) = true := by
  induction v with
  | nil => cases h
  | cons c v ih =>
      rw [meetsCased_cons] at h
      rw [List.cons_append, meetsCased_cons]
      split at h
      · rename_i hignorable
        rw [if_pos hignorable, ih h]
      · rename_i hignorable
        rw [if_neg hignorable, h]

theorem smallAmid_congr (hbefore : meetsCased before = meetsCased before')
    (hafter : meetsCased after = meetsCased after') (c : Char) :
    smallAmid before after c = smallAmid before' after' c := by
  rw [smallAmid, smallAmid, hbefore, hafter]

theorem lowerAmid_congr (hbefore : meetsCased before = meetsCased before')
    (hafter : meetsCased after = meetsCased after') (v : Text) :
    lowerAmid before after v = lowerAmid before' after' v := by
  induction v generalizing before before' with
  | nil => rfl
  | cons c v ih =>
      rw [lowerAmid, lowerAmid, smallAmid_congr hbefore (meetsCased_append_congr hafter v),
        ih (meetsCased_cons_congr hbefore c)]

theorem lowerAmid_append (before after v w : Text) :
    lowerAmid before after (v ++ w) =
      lowerAmid before (w ++ after) v ++ lowerAmid (v.reverse ++ before) after w := by
  induction v generalizing before with
  | nil => rfl
  | cons c v ih => simp [lowerAmid, ih]

/-! An ignorable character is no sigma. -/

theorem isCaseIgnorable_sigma : isCaseIgnorable (Char.ofNat 0x3A3) = false := by
  decide +kernel

theorem ne_sigma_of_isCaseIgnorable (h : isCaseIgnorable c = true) : c.toNat ≠ 0x3A3 := by
  intro hsigma
  have hc : c = Char.ofNat 0x3A3 := by rw [← hsigma, Char.ofNat_toNat]
  rw [hc, isCaseIgnorable_sigma] at h
  cases h

theorem smallAmid_of_ignorable (h : isCaseIgnorable c = true) (before before' after after' : Text) :
    smallAmid before after c = smallAmid before' after' c := by
  rw [smallAmid, smallAmid, if_neg (ne_sigma_of_isCaseIgnorable h), if_neg (ne_sigma_of_isCaseIgnorable h)]

theorem beginsWithSigma_cons (c : Char) (v : Text) :
    beginsWithSigma (c :: v) =
      if isCaseIgnorable c then beginsWithSigma v else c.toNat == 0x3A3 && !meetsCased v := by
  unfold beginsWithSigma
  rw [List.dropWhile_cons]
  cases isCaseIgnorable c <;> rfl

theorem endsWithSigma_concat (v : Text) (c : Char) :
    endsWithSigma (v ++ [c]) =
      if isCaseIgnorable c then endsWithSigma v else c.toNat == 0x3A3 && meetsCased v.reverse := by
  unfold endsWithSigma
  rw [List.reverse_append, List.reverse_singleton, List.singleton_append, List.dropWhile_cons]
  cases isCaseIgnorable c <;> rfl

/-! Without a sigma at its beginning a part is the same after everything, and so at its end. -/

theorem lowerAmid_of_not_beginsWithSigma (h : beginsWithSigma v = false) (before before' after : Text) :
    lowerAmid before after v = lowerAmid before' after v := by
  induction v generalizing before before' with
  | nil => rfl
  | cons c v ih =>
      rw [beginsWithSigma_cons] at h
      split at h
      · rename_i hignorable
        rw [lowerAmid, lowerAmid, smallAmid_of_ignorable hignorable before before' _ (v ++ after),
          ih h (c :: before) (c :: before')]
      · rename_i hignorable
        have hmeets : meetsCased (c :: before) = meetsCased (c :: before') := by
          rw [meetsCased_cons, meetsCased_cons, if_neg hignorable, if_neg hignorable]
        have hsmall : smallAmid before (v ++ after) c = smallAmid before' (v ++ after) c := by
          unfold smallAmid
          split
          · rename_i hsigma
            have hcased : meetsCased v = true := by simpa [hsigma] using h
            rw [meetsCased_append_of_meetsCased hcased]
            simp
          · rfl
        rw [lowerAmid, lowerAmid, hsmall, lowerAmid_congr hmeets rfl]

theorem lowerAmid_of_not_endsWithSigma (h : endsWithSigma v = false) (after after' : Text) :
    lowerAmid [] after v = lowerAmid [] after' v := by
  induction hreverse : v.reverse generalizing v after after' with
  | nil => rw [List.reverse_eq_nil_iff.1 hreverse]; rfl
  | cons c u ih =>
      obtain rfl : v = u.reverse ++ [c] := by rw [← List.reverse_cons, ← hreverse, List.reverse_reverse]
      rw [endsWithSigma_concat, List.reverse_reverse] at h
      rw [lowerAmid_append, lowerAmid_append, List.reverse_reverse, List.append_nil]
      have hsingle : ∀ after, lowerAmid u after [c] = smallAmid u after c := fun after => by
        simp [lowerAmid]
      rw [hsingle, hsingle, List.singleton_append, List.singleton_append]
      split at h
      · rename_i hignorable
        rw [ih h (c :: after) (c :: after') (List.reverse_reverse u),
          smallAmid_of_ignorable hignorable u u after after']
      · rename_i hignorable
        have hmeets : meetsCased (c :: after) = meetsCased (c :: after') := by
          rw [meetsCased_cons, meetsCased_cons, if_neg hignorable, if_neg hignorable]
        have hsmall : smallAmid u after c = smallAmid u after' c := by
          unfold smallAmid
          split
          · rename_i hsigma
            have hcased : meetsCased u = false := by simpa [hsigma] using h
            rw [hcased]
            rfl
          · rfl
        rw [hsmall, lowerAmid_congr rfl hmeets]

theorem lowercase_append (v w : Text) :
    (v ++ w).lowercase = lowerAmid [] w v ++ lowerAmid v.reverse [] w := by
  rw [lowercase_eq, lowerAmid_append, List.append_nil, List.append_nil]

theorem isPrefix_lowercase {t : Text} (hends : endsWithSigma v = false) (h : v <+: t) :
    v.lowercase <+: t.lowercase := by
  obtain ⟨rest, rfl⟩ := h
  rw [lowercase_append, lowercase_eq, lowerAmid_of_not_endsWithSigma hends [] rest]
  exact List.prefix_append _ _

theorem isSuffix_lowercase {t : Text} (hbegins : beginsWithSigma v = false) (h : v <:+ t) :
    v.lowercase <:+ t.lowercase := by
  obtain ⟨front, rfl⟩ := h
  rw [lowercase_append, lowercase_eq, lowerAmid_of_not_beginsWithSigma hbegins [] front.reverse]
  exact List.suffix_append _ _

theorem isInfix_lowercase {t : Text} (hbegins : beginsWithSigma v = false) (hends : endsWithSigma v = false)
    (h : v <:+: t) : v.lowercase <:+: t.lowercase := by
  obtain ⟨front, rest, rfl⟩ := h
  have hsmall : lowerAmid (front.reverse ++ []) rest v = v.lowercase := by
    rw [lowerAmid_of_not_beginsWithSigma hbegins _ [], lowerAmid_of_not_endsWithSigma hends rest [],
      lowercase_eq]
  rw [lowercase_append, lowerAmid_append, hsmall]
  exact List.infix_append _ _ _

/-! A sigma at one of its ends tells a part from the same part within a longer text. -/

theorem length_smallAmid (before before' after after' : Text) (c : Char) :
    (smallAmid before after c).length = (smallAmid before' after' c).length := by
  unfold smallAmid
  split <;> rfl

theorem length_lowerAmid (before before' after after' v : Text) :
    (lowerAmid before after v).length = (lowerAmid before' after' v).length := by
  induction v generalizing before before' with
  | nil => rfl
  | cons c v ih =>
      rw [lowerAmid, lowerAmid, List.length_append, List.length_append, ih (c :: before) (c :: before'),
        length_smallAmid before before' (v ++ after) (v ++ after')]

theorem smallAmid_ne {before before' after after' : Text} (hsigma : c.toNat = 0x3A3)
    (h : (meetsCased before && !meetsCased after) = true)
    (h' : (meetsCased before' && !meetsCased after') = false) :
    smallAmid before after c ≠ smallAmid before' after' c := by
  rw [smallAmid, smallAmid, if_pos hsigma, if_pos hsigma, h, h']
  decide

theorem lowerAmid_ne_of_beginsWithSigma (h : beginsWithSigma v = true) (hcased : meetsCased before = true)
    (hbare : meetsCased before' = false) : lowerAmid before [] v ≠ lowerAmid before' [] v := by
  induction v generalizing before before' with
  | nil => cases h
  | cons c v ih =>
      intro hequal
      rw [lowerAmid, lowerAmid, List.append_nil] at hequal
      rw [beginsWithSigma_cons] at h
      split at h
      · rename_i hignorable
        rw [smallAmid_of_ignorable hignorable before before' v v] at hequal
        refine ih h ?_ ?_ (List.append_cancel_left hequal)
        · rw [meetsCased_cons, if_pos hignorable, hcased]
        · rw [meetsCased_cons, if_pos hignorable, hbare]
      · obtain ⟨hsigma, hrest⟩ := Bool.and_eq_true_iff.1 h
        exact smallAmid_ne (beq_iff_eq.1 hsigma) (by rw [hcased, hrest]; rfl) (by rw [hbare]; rfl)
          (List.append_inj hequal (length_smallAmid _ _ _ _ _)).1

theorem lowerAmid_ne_of_endsWithSigma (h : endsWithSigma v = true) (hcased : meetsCased after = true)
    (hbare : meetsCased after' = false) : lowerAmid [] after v ≠ lowerAmid [] after' v := by
  induction hreverse : v.reverse generalizing v after after' with
  | nil =>
      rw [List.reverse_eq_nil_iff.1 hreverse] at h
      cases h
  | cons c u ih =>
      obtain rfl : v = u.reverse ++ [c] := by rw [← List.reverse_cons, ← hreverse, List.reverse_reverse]
      rw [endsWithSigma_concat, List.reverse_reverse] at h
      intro hequal
      rw [lowerAmid_append, lowerAmid_append, List.reverse_reverse, List.append_nil] at hequal
      have hfront := List.append_inj hequal (length_lowerAmid _ _ _ _ _)
      split at h
      · rename_i hignorable
        refine ih h ?_ ?_ (List.reverse_reverse u) hfront.1
        · rw [List.singleton_append, meetsCased_cons, if_pos hignorable, hcased]
        · rw [List.singleton_append, meetsCased_cons, if_pos hignorable, hbare]
      · obtain ⟨hsigma, hmeets⟩ := Bool.and_eq_true_iff.1 h
        have hne : smallAmid u after' c ≠ smallAmid u after c :=
          smallAmid_ne (beq_iff_eq.1 hsigma) (by rw [hmeets, hbare]; rfl) (by rw [hmeets, hcased]; rfl)
        refine hne ?_
        simpa [lowerAmid] using hfront.2.symm

/-- Letters that are their own small form. -/
def Small (c : Char) : Prop := c = 'a' ∨ c = 'b'

theorem exists_small_ne (d : Option Char) : ∃ c, Small c ∧ d ≠ some c := by
  by_cases h : d = some 'a'
  · refine ⟨'b', .inr rfl, ?_⟩
    rw [h]
    decide
  · exact ⟨'a', .inl rfl, h⟩

theorem lowerAmid_small (h : Small c) (before after : Text) : lowerAmid before after [c] = [c] := by
  rcases h with rfl | rfl <;> rfl

theorem meetsCased_small (h : Small c) : meetsCased [c] = true := by
  rcases h with rfl | rfl <;> decide

theorem lowercase_small_cons (h : Small c) (v : Text) : lowercase (c :: v) = c :: lowerAmid [c] [] v := by
  rw [← List.singleton_append, lowercase_append, lowerAmid_small h]
  rfl

theorem lowercase_concat_small (h : Small c) (v : Text) :
    lowercase (v ++ [c]) = lowerAmid [] [c] v ++ [c] := by
  rw [lowercase_append, lowerAmid_small h]

theorem not_suffix_of_beginsWithSigma (h : beginsWithSigma v = true) (hc : Small c) :
    ¬ v.lowercase <:+ lowercase (c :: v) := by
  rw [lowercase_small_cons hc, lowercase_eq]
  intro hsuffix
  have hne := lowerAmid_ne_of_beginsWithSigma h (meetsCased_small hc) (show meetsCased [] = false from rfl)
  have hlength := length_lowerAmid [] [c] [] [] v
  rcases List.suffix_cons_iff.1 hsuffix with hwhole | hsuffix
  · have hlong := congrArg List.length hwhole
    rw [List.length_cons] at hlong
    omega
  · exact hne (hsuffix.eq_of_length hlength).symm

theorem not_prefix_of_endsWithSigma (h : endsWithSigma v = true) (hc : Small c) :
    ¬ v.lowercase <+: lowercase (v ++ [c]) := by
  rw [lowercase_concat_small hc, lowercase_eq]
  intro hprefix
  have hne := lowerAmid_ne_of_endsWithSigma h (meetsCased_small hc) (show meetsCased [] = false from rfl)
  have hlength := length_lowerAmid [] [] [] [c] v
  rcases List.prefix_concat_iff.1 hprefix with hwhole | hprefix
  · have hlong := congrArg List.length hwhole
    rw [List.length_append, List.length_singleton] at hlong
    omega
  · exact hne (List.IsPrefix.eq_of_length hprefix hlength).symm

theorem not_infix_of_beginsWithSigma (h : beginsWithSigma v = true) (hc : Small c)
    (hhead : v.lowercase.head? ≠ some c) : ¬ v.lowercase <:+: lowercase (c :: v) := by
  rw [lowercase_small_cons hc]
  rw [lowercase_eq] at hhead ⊢
  intro hinfix
  have hne := lowerAmid_ne_of_beginsWithSigma h (meetsCased_small hc) (show meetsCased [] = false from rfl)
  have hlength := length_lowerAmid [] [c] [] [] v
  rcases List.infix_cons_iff.1 hinfix with hprefix | hinfix
  · rcases List.prefix_cons_iff.1 hprefix with hnil | ⟨rest, hcons, _⟩
    · rw [hnil] at hlength
      exact hne (by rw [hnil, List.eq_nil_of_length_eq_zero hlength.symm])
    · rw [hcons] at hhead
      exact hhead rfl
  · exact hne (List.IsInfix.eq_of_length hinfix hlength).symm

theorem not_infix_of_endsWithSigma (h : endsWithSigma v = true) (hc : Small c)
    (hlast : v.lowercase.getLast? ≠ some c) : ¬ v.lowercase <:+: lowercase (v ++ [c]) := by
  rw [lowercase_concat_small hc]
  rw [lowercase_eq] at hlast ⊢
  intro hinfix
  have hne := lowerAmid_ne_of_endsWithSigma h (meetsCased_small hc) (show meetsCased [] = false from rfl)
  have hlength := length_lowerAmid [] [] [] [c] v
  rcases List.infix_concat_iff.1 hinfix with hsuffix | hinfix
  · rcases List.suffix_concat_iff.1 hsuffix with hnil | ⟨front, hconcat, _⟩
    · rw [hnil] at hlength
      exact hne (by rw [hnil, List.eq_nil_of_length_eq_zero hlength.symm])
    · rw [hconcat, List.getLast?_concat] at hlast
      exact hlast rfl
  · exact hne (List.IsInfix.eq_of_length hinfix hlength).symm

end FilterLang.Text
