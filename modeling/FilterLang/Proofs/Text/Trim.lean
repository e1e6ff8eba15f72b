import FilterLang.Text.Alphanumeric
import FilterLang.Text.Blank

/-!
Texts without blanks around them. No character of a name is a blank.
-/

namespace FilterLang.Text

theorem skipBlanks_cons {c : Char} {t : Text} (h : isBlank c = false) :
    skipBlanks (c :: t) = c :: t := by
  simp [skipBlanks, h]

theorem skipBlanks_of_not_blank {t : Text} (h : ∀ c ∈ t, isBlank c = false) : skipBlanks t = t := by
  cases t with
  | nil => rfl
  | cons c t => exact skipBlanks_cons (h c List.mem_cons_self)

theorem trim_of_not_blank {t : Text} (h : ∀ c ∈ t, isBlank c = false) : trim t = t := by
  have hreverse : skipBlanks t.reverse = t.reverse :=
    skipBlanks_of_not_blank fun c hc => h c (List.mem_reverse.1 hc)
  unfold skipBlanks at hreverse
  rw [trim, skipBlanks_of_not_blank h, dropBlanksAtEnd, hreverse, List.reverse_reverse]

theorem allBlank_cons {c : Char} {t : Text} :
    allBlank (c :: t) = true ↔ isBlank c = true ∧ allBlank t = true := by
  rw [allBlank, List.all_cons, Bool.and_eq_true, allBlank]

theorem isBlank_of_allBlank {c : Char} {t : Text} (h : allBlank t = true) (hc : c ∈ t) : isBlank c = true :=
  List.all_eq_true.1 h c hc

theorem skipBlanks_append {gap : Text} (h : allBlank gap = true) (t : Text) :
    skipBlanks (gap ++ t) = skipBlanks t :=
  List.dropWhile_append_of_pos (List.all_eq_true.1 h)

theorem skipBlanks_of_allBlank {gap : Text} (h : allBlank gap = true) : skipBlanks gap = [] := by
  have hnil := skipBlanks_append h []
  rwa [List.append_nil] at hnil

theorem isBlank_of_head_skipBlanks {c : Char} {t : Text} (h : c ∈ (skipBlanks t).head?) :
    isBlank c = false := by
  have hhead := List.head?_dropWhile_not isBlank t
  rw [skipBlanks] at h
  rw [h] at hhead
  simpa using hhead

theorem isBlank_of_skipBlanks {c : Char} {t u : Text} (h : skipBlanks t = c :: u) : isBlank c = false :=
  isBlank_of_head_skipBlanks (by rw [h]; rfl)

theorem skipBlanks_of_head {t : Text} (h : ∀ c ∈ t.head?, isBlank c = false) : skipBlanks t = t := by
  cases t with
  | nil => rfl
  | cons c t => exact skipBlanks_cons (h c rfl)

theorem skipBlanks_skipBlanks (t : Text) : skipBlanks (skipBlanks t) = skipBlanks t :=
  skipBlanks_of_head fun _ hc => isBlank_of_head_skipBlanks hc

theorem head?_skipBlanks_append {t t' : Text} (front : Text)
    (h : (skipBlanks t').head? = (skipBlanks t).head?) :
    (skipBlanks (front ++ t')).head? = (skipBlanks (front ++ t)).head? := by
  induction front with
  | nil => exact h
  | cons c front ih =>
      cases hc : isBlank c with
      | true => simpa [skipBlanks, hc] using ih
      | false => rw [List.cons_append, List.cons_append, skipBlanks_cons hc, skipBlanks_cons hc]; rfl

theorem dropBlanksAtEnd_append {gap : Text} (t : Text) (h : allBlank gap = true) :
    dropBlanksAtEnd (t ++ gap) = dropBlanksAtEnd t := by
  have hreverse : ∀ c ∈ gap.reverse, isBlank c = true := fun c hc =>
    List.all_eq_true.1 h c (List.mem_reverse.1 hc)
  rw [dropBlanksAtEnd, List.reverse_append, List.dropWhile_append_of_pos hreverse, dropBlanksAtEnd]

theorem trim_append {gap gap' : Text} (h : allBlank gap = true) (t : Text) (h' : allBlank gap' = true) :
    trim (gap ++ (t ++ gap')) = trim t := by
  rw [trim, skipBlanks_append h, trim, skipBlanks, List.dropWhile_append]
  split
  · rename_i hempty
    have hgap : gap'.dropWhile isBlank = [] := skipBlanks_of_allBlank h'
    rw [skipBlanks, List.isEmpty_iff.1 hempty, hgap]
  · rw [dropBlanksAtEnd_append _ h']
    rfl

theorem trim_trim (t : Text) : trim (trim t) = trim t := by
  have hbegins : trim t <+: skipBlanks t := by
    rw [trim, dropBlanksAtEnd, ← List.reverse_suffix, List.reverse_reverse]
    exact List.dropWhile_suffix _
  have hskip : skipBlanks (trim t) = trim t := by
    apply skipBlanks_of_head
    intro c hc
    obtain ⟨u, hu⟩ := List.head?_eq_some_iff.1 hc
    obtain ⟨more, hmore⟩ := hbegins
    have hskipped : skipBlanks t = c :: (u ++ more) := by rw [← hmore, hu, List.cons_append]
    exact isBlank_of_skipBlanks hskipped
  have hreverse : (trim t).reverse = skipBlanks (skipBlanks t).reverse := List.reverse_reverse _
  rw [trim, hskip, dropBlanksAtEnd, hreverse]
  exact congrArg List.reverse (skipBlanks_skipBlanks _)

theorem mem_of_mem_trim {c : Char} {t : Text} (h : c ∈ trim t) : c ∈ t := by
  have hkept := (List.dropWhile_sublist isBlank).subset (List.mem_reverse.1 h)
  exact (List.dropWhile_sublist isBlank).subset (List.mem_reverse.1 hkept)

private def blankCodes : List Nat :=
  [9, 10, 11, 12, 13, 0x20, 0x85, 0xA0, 0x1680, 0x2000, 0x2001, 0x2002, 0x2003, 0x2004, 0x2005,
    0x2006, 0x2007, 0x2008, 0x2009, 0x200A, 0x2028, 0x2029, 0x202F, 0x205F, 0x3000]

private theorem mem_blankCodes {c : Char} (h : isBlank c = true) : c.toNat ∈ blankCodes := by
  simp only [isBlank, Bool.or_eq_true, Bool.and_eq_true, decide_eq_true_eq, beq_iff_eq] at h
  simp only [blankCodes, List.mem_cons, List.not_mem_nil, or_false]
  omega

private theorem isAlphanumeric_blankCodes :
    ∀ n ∈ blankCodes, isAlphanumeric (Char.ofNat n) = false := by
  decide +kernel

theorem isBlank_of_isAlphanumeric {c : Char} (h : isAlphanumeric c = true) : isBlank c = false := by
  cases hblank : isBlank c with
  | false => rfl
  | true =>
      have hcode := isAlphanumeric_blankCodes c.toNat (mem_blankCodes hblank)
      rw [Char.ofNat_toNat, h] at hcode
      cases hcode

end FilterLang.Text
