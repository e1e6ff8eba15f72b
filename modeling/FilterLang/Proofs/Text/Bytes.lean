import FilterLang.Text.Basic

/-!
Texts as bytes of UTF-8, whose lexicographic order is the order of the code points.
-/

namespace FilterLang.Text

def bytes (t : Text) : List UInt8 := t.flatMap String.utf8EncodeChar

inductive Before : List UInt8 → List UInt8 → Prop
  | here {a b : UInt8} (h : a < b) (s t : List UInt8) : Before (a :: s) (b :: t)
  | there (a : UInt8) {s t : List UInt8} (h : Before s t) : Before (a :: s) (a :: t)

theorem Before.append {s t : List UInt8} (h : Before s t) (s' t' : List UInt8) :
    Before (s ++ s') (t ++ t') := by
  induction h with
  | here h s t => exact .here h _ _
  | there a _ ih => exact .there a ih

theorem Before.lt {s t : List UInt8} (h : Before s t) : s < t := by
  induction h with
  | here h s t => exact List.Lex.rel h
  | there a _ ih => exact List.Lex.cons ih

theorem before_cons {m n : Nat} {s t : List UInt8} (hle : m ≤ n) (hn : n < 256)
    (h : m = n → Before s t) : Before (UInt8.ofNat m :: s) (UInt8.ofNat n :: t) := by
  rcases Nat.lt_or_eq_of_le hle with hlt | rfl
  · refine .here ?_ s t
    rw [UInt8.lt_iff_toNat_lt, UInt8.toNat_ofNat', UInt8.toNat_ofNat']
    omega
  · exact .there _ (h rfl)

/-- The characters with smaller code points come first in bytes as well: the first byte tells how many
there are, and the digits of the code point follow from the highest on. -/
theorem before_encode {c d : Char} (h : c.toNat < d.toNat) :
    Before (String.utf8EncodeChar c) (String.utf8EncodeChar d) := by
  have hd : d.val.toNat < 1114112 := by
    rcases d.valid with hlow | ⟨_, hhigh⟩
    · exact Nat.lt_trans hlow (by decide)
    · exact hhigh
  replace h : c.val.toNat < d.val.toNat := h
  simp only [String.utf8EncodeChar]
  generalize c.val.toNat = m at h ⊢
  generalize d.val.toNat = n at h hd ⊢
  -- Where the numbers of bytes differ, the first byte decides.
  split
  · split
    · exact before_cons (by omega) (by omega) fun _ => by omega
    · split
      · exact before_cons (by omega) (by omega) fun _ => by omega
      · split <;> exact before_cons (by omega) (by omega) fun _ => by omega
  · split
    · rw [if_neg (show ¬n ≤ 127 by omega)]
      split
      · refine before_cons (by omega) (by omega) fun _ => ?_
        exact before_cons (by omega) (by omega) fun _ => by omega
      · split <;> exact before_cons (by omega) (by omega) fun _ => by omega
    · rw [if_neg (show ¬n ≤ 127 by omega), if_neg (show ¬n ≤ 2047 by omega)]
      split
      · split
        · exact before_cons (by omega) (by omega) fun _ => before_cons (by omega) (by omega) fun _ =>
            before_cons (by omega) (by omega) fun _ => by omega
        · exact before_cons (by omega) (by omega) fun _ => by omega
      · rw [if_neg (show ¬n ≤ 65535 by omega)]
        exact before_cons (by omega) (by omega) fun _ => before_cons (by omega) (by omega) fun _ =>
          before_cons (by omega) (by omega) fun _ => before_cons (by omega) (by omega) fun _ => by omega

theorem bytes_cons (c : Char) (t : Text) : bytes (c :: t) = String.utf8EncodeChar c ++ bytes t := rfl

theorem nil_lt_bytes_cons (c : Char) (t : Text) : [] < bytes (c :: t) := by
  obtain ⟨b, rest, hbytes⟩ := List.exists_cons_of_ne_nil (@String.utf8EncodeChar_ne_nil c)
  rw [bytes_cons, hbytes]
  exact List.Lex.nil

/-- Texts are ordered as their bytes are. -/
theorem order_bytes (s t : Text) :
    match order s t with
    | .lt => bytes s < bytes t
    | .eq => s = t
    | .gt => bytes t < bytes s := by
  induction s generalizing t with
  | nil =>
      cases t with
      | nil => rfl
      | cons d t => exact nil_lt_bytes_cons d t
  | cons c s ih =>
      cases t with
      | nil => exact nil_lt_bytes_cons c s
      | cons d t =>
          rw [order, bytes_cons, bytes_cons]
          rcases Nat.lt_trichotomy c.toNat d.toNat with hlt | heq | hgt
          · rw [Nat.compare_eq_lt.2 hlt]
            exact ((before_encode hlt).append _ _).lt
          · have hrest := ih t
            cases Char.toNat_inj.1 heq
            rw [Nat.compare_eq_eq.2 rfl, Ordering.eq_then]
            cases horder : order s t <;> rw [horder] at hrest
            · exact List.append_left_lt hrest
            · exact congrArg (c :: ·) hrest
            · exact List.append_left_lt hrest
          · rw [Nat.compare_eq_gt.2 hgt]
            exact ((before_encode hgt).append _ _).lt

theorem order_eq_lt_iff {s t : Text} : order s t = .lt ↔ bytes s < bytes t := by
  have hbytes := order_bytes s t
  cases horder : order s t <;> rw [horder] at hbytes
  · exact iff_of_true rfl hbytes
  · cases hbytes
    exact iff_of_false nofun (List.lt_irrefl _)
  · exact iff_of_false nofun (List.lt_asymm hbytes)

theorem order_eq_gt_iff {s t : Text} : order s t = .gt ↔ bytes t < bytes s := by
  have hbytes := order_bytes s t
  cases horder : order s t <;> rw [horder] at hbytes
  · exact iff_of_false nofun (List.lt_asymm hbytes)
  · cases hbytes
    exact iff_of_false nofun (List.lt_irrefl _)
  · exact iff_of_true rfl hbytes

theorem order_eq_eq_iff {s t : Text} : order s t = .eq ↔ s = t := by
  have hbytes := order_bytes s t
  cases horder : order s t <;> rw [horder] at hbytes
  · refine iff_of_false nofun ?_
    rintro rfl
    exact List.lt_irrefl _ hbytes
  · exact iff_of_true rfl hbytes
  · refine iff_of_false nofun ?_
    rintro rfl
    exact List.lt_irrefl _ hbytes

end FilterLang.Text
