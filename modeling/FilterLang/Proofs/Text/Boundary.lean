import FilterLang.Token.Basic

/-!
Cutting a text at a byte. That is possible between two characters and at either end, and nowhere inside a
character.
-/

namespace FilterLang.Text

variable {whole t front back : Text} {n : Nat}

/-- A position in a text: no more bytes than the text has, and those of whole characters. -/
structure HasBoundary (t : Text) (n : Nat) : Prop where
  le_size : n ≤ size t
  between : ∃ front back, t = front ++ back ∧ n = size front

/-- The characters before a byte and those from there on, if no character is cut by that. -/
def cut? : Text → Nat → Option (Text × Text)
  | t, 0 => some ([], t)
  | [], _ + 1 => none
  | c :: t, n + 1 =>
    if c.utf8Size ≤ n + 1 then (cut? t (n + 1 - c.utf8Size)).map fun (front, back) => (c :: front, back)
    else none

def slice? (t : Text) (start stop : Nat) : Option Text :=
  if start ≤ stop then do
    let (_, back) ← cut? t start
    let (part, _) ← cut? back (stop - start)
    return part
  else none

theorem cut?_append (front back : Text) : cut? (front ++ back) (size front) = some (front, back) := by
  induction front with
  | nil => cases back <;> rfl
  | cons c front ih =>
      have hpos := c.utf8Size_pos
      obtain ⟨n, hn⟩ : ∃ n, size (c :: front) = n + 1 := ⟨size (c :: front) - 1, by rw [size_cons]; omega⟩
      have hle : c.utf8Size ≤ n + 1 := by rw [← hn, size_cons]; omega
      have hrest : n + 1 - c.utf8Size = size front := by rw [← hn, size_cons]; omega
      rw [hn, List.cons_append, cut?, if_pos hle, hrest, ih]
      rfl

theorem cut?_eq_some_iff : cut? t n = some (front, back) ↔ t = front ++ back ∧ n = size front := by
  constructor
  · intro h
    fun_induction cut? t n generalizing front back with
    | case1 =>
        cases h
        exact ⟨rfl, rfl⟩
    | case2 => cases h
    | case3 c t n hle ih =>
        obtain ⟨⟨front, back⟩, hcut, hequal⟩ := Option.map_eq_some_iff.1 h
        cases hequal
        obtain ⟨rfl, hn⟩ := ih hcut
        refine ⟨rfl, ?_⟩
        rw [size_cons]
        omega
    | case4 => cases h
  · rintro ⟨rfl, rfl⟩
    exact cut?_append front back

example : cut? "ö=" 1 = none ∧ cut? "ö=" 2 = some (['ö'], ['=']) := by decide

theorem hasBoundary_size (front back : Text) : HasBoundary (front ++ back) (size front) where
  le_size := by
    rw [size_append]
    exact Nat.le_add_right _ _
  between := ⟨front, back, rfl, rfl⟩

theorem hasBoundary_offset (h : t <:+ whole) : HasBoundary whole (offset whole t) := by
  obtain ⟨front, rfl⟩ := h
  rw [offset_append]
  exact hasBoundary_size front t

theorem cut?_offset (h : t <:+ whole) : ∃ front, cut? whole (offset whole t) = some (front, t) := by
  obtain ⟨front, rfl⟩ := h
  rw [offset_append]
  exact ⟨front, cut?_append front t⟩

theorem offset_add_size (h : front ++ back <:+ whole) :
    offset whole (front ++ back) + size front = offset whole back := by
  obtain ⟨before, rfl⟩ := h
  rw [offset_append, ← List.append_assoc, offset_append, size_append]

theorem slice?_offset (h : front ++ back <:+ whole) :
    slice? whole (offset whole (front ++ back)) (offset whole back) = some front := by
  obtain ⟨before, hbefore⟩ := cut?_offset h
  have hstop := offset_add_size h
  have hle : offset whole (front ++ back) ≤ offset whole back := by omega
  have hsize : offset whole back - offset whole (front ++ back) = size front := by omega
  rw [slice?, if_pos hle, hbefore]
  simp [hsize, cut?_append]

end FilterLang.Text
