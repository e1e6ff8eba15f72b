import FilterLang.Number.Written
import FilterLang.Proofs.Text.Decimal

/-!
The characters that written doubles are made of.
-/

namespace FilterLang.Double

def marks : List Char := ['.', '+', '-', 'e', 'i', 'n', 'f', 'N', 'a']

def isWritten (c : Char) : Bool := c.isDigit || marks.contains c

def Plain (t : Text) : Prop := ∀ c ∈ t, isWritten c = true

variable {s t : Text}

theorem plain_of_all (h : t.all isWritten = true) : Plain t := List.all_eq_true.1 h

theorem Plain.append (hs : Plain s) (ht : Plain t) : Plain (s ++ t) := by
  intro c hc
  rcases List.mem_append.1 hc with hc | hc
  · exact hs c hc
  · exact ht c hc

theorem Plain.take (ht : Plain t) (n : Nat) : Plain (t.take n) :=
  fun c hc => ht c (List.mem_of_mem_take hc)

theorem Plain.drop (ht : Plain t) (n : Nat) : Plain (t.drop n) :=
  fun c hc => ht c (List.mem_of_mem_drop hc)

theorem Plain.point (ht : Plain t) : Plain ('.' :: t) := (plain_of_all rfl : Plain ['.']).append ht

theorem plain_decimal (n : Nat) : Plain (Text.decimal n) := by
  intro c hc
  rw [isWritten, Text.isDigit_of_mem_decimal hc]
  rfl

theorem plain_decimalInt (i : Int) : Plain (Text.decimalInt i) := by
  intro c hc
  rcases Text.mem_decimalInt hc with hdigit | rfl
  · rw [isWritten, hdigit]
    rfl
  · rfl

theorem plain_zeros (n : Nat) : Plain (List.replicate n '0') := by
  intro c hc
  rw [List.eq_of_mem_replicate hc]
  rfl

theorem plain_placePoint (form : Form) (ht : Plain t) (point : Int) :
    Plain (form.placePoint t point) := by
  have hzero : Plain "0." := plain_of_all rfl
  have hfraction : Plain (if form.fraction then ".0" else "" : String) := by
    cases form.fraction <;> exact plain_of_all rfl
  unfold Form.placePoint
  dsimp only
  split
  · exact (hzero.append (plain_zeros _)).append ht
  · split
    · exact (ht.append (plain_zeros _)).append hfraction
    · exact (ht.take _).append (ht.drop _).point

theorem plain_scientific (form : Form) (ht : Plain t) (exponent : Int) :
    Plain (form.scientific t exponent) := by
  have hfraction : Plain (if t.length ≤ 1 then [] else '.' :: t.drop 1) := by
    split
    · exact plain_of_all rfl
    · exact (ht.drop 1).point
  have hplus : Plain ('e' :: if form.plus && 0 ≤ exponent then ['+'] else []) := by
    split <;> exact plain_of_all rfl
  exact (((ht.take 1).append hfraction).append hplus).append (plain_decimalInt exponent)

theorem plain_write (form : Form) (x : Double) : Plain (form.write x) := by
  cases x with
  | nan => exact plain_of_all rfl
  | signed negative rank =>
      have hsign : Plain (if negative then ("-" : String).toList else ("" : String).toList) := by
        cases negative <;> exact plain_of_all rfl
      have hinfinite : Plain "inf" := plain_of_all rfl
      have hzero : Plain (if form.fraction then "0.0" else "0" : String) := by
        cases form.fraction <;> exact plain_of_all rfl
      unfold Form.write
      dsimp only
      split
      · exact hsign.append hinfinite
      · split
        · exact hsign.append hzero
        · refine hsign.append ?_
          split
          · exact plain_placePoint form (plain_decimal _) _
          · exact plain_scientific form (plain_decimal _) _

end FilterLang.Double
