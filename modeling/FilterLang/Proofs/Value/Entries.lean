import FilterLang.Proofs.Calendar.Writing
import FilterLang.Proofs.Number.PlainForm
import FilterLang.Proofs.Uuid.Writing
import FilterLang.Proofs.Value.Reading

/-!
Keys and the entries that they select. Keys of one type that select one entry are the same, and are found to be
the same but for NaN; keys that are found to be the same select one entry but for the two zeros.
-/

namespace FilterLang

namespace Double

/-- Numbers are equal but for NaN, and different but for the zeros, as the doubles are. -/
theorem same_iff {x y : Double} :
    x.same y = true ↔ x = y ∧ x ≠ nan ∨ (x = zero ∧ y = zero.neg ∨ x = zero.neg ∧ y = zero) := by
  have hneg : zero.neg = .signed true 0 := rfl
  have hzero : zero = .signed false 0 := rfl
  rw [hneg, hzero]
  cases x with
  | nan => simp [same]
  | signed negative rank =>
      cases y with
      | nan => simp [same]
      | signed negative' rank' =>
          have hsame : same (.signed negative rank) (.signed negative' rank') = true ↔
              (if negative then -(rank.val : Int) else rank.val) =
                if negative' then -(rank'.val : Int) else rank'.val := by
            simp [same, order?, place?]
          have hnone : (0 : Fin (topRank + 1)).val = 0 := rfl
          simp only [hsame, ne_eq, reduceCtorEq, not_false_eq_true, and_true, signed.injEq, Fin.ext_iff, hnone]
          cases negative <;> cases negative' <;>
            simp only [Bool.false_eq_true, reduceCtorEq, ↓reduceIte, true_and, false_and, and_false, or_false,
              false_or] <;> omega

end Double

namespace Value

variable {k k' : Value}

/-- Both keys select the entry of one name. -/
def SameEntry (k k' : Value) : Prop := ∃ name, k.text? = some name ∧ k'.text? = some name

def OppositeZeros (k k' : Value) : Prop :=
  k = .float Double.zero ∧ k' = .float Double.zero.neg ∨ k = .float Double.zero.neg ∧ k' = .float Double.zero

instance : Decidable (OppositeZeros k k') := inferInstanceAs (Decidable (_ ∨ _))

theorem same_eq_beq (h : k.type? ≠ some .float) : k.same k' = (k == k') := by
  cases k <;> first | rfl | exact absurd rfl h

theorem SameEntry.eq (h : SameEntry k k') (htype : k.type? = k'.type?) (htells : k.Tells) (htells' : k'.Tells) :
    k = k' := by
  obtain ⟨name, hk, hk'⟩ := h
  cases k with
  | null => cases hk
  | bool b =>
      cases k' with
      | bool b' => cases b <;> cases b' <;> first | rfl | (cases hk; cases hk')
      | _ => cases htype
  | int n =>
      cases k' with
      | int n' =>
          have hint : n.toInt = n'.toInt := Text.decimalInt_injective (Option.some.inj (hk.trans hk'.symm))
          exact congrArg int (Option.some.inj (by rw [← wordOfInt?_toInt, hint, wordOfInt?_toInt]))
      | _ => cases htype
  | float x =>
      cases k' with
      | float y => exact congrArg float (Double.write_plain_injective (Option.some.inj (hk.trans hk'.symm)))
      | _ => cases htype
  | text t =>
      cases k' with
      | text t' => exact congrArg text (Option.some.inj (hk.trans hk'.symm))
      | _ => cases htype
  | uuid u =>
      cases k' with
      | uuid u' => exact congrArg uuid (Uuid.text_injective (Option.some.inj (hk.trans hk'.symm)))
      | _ => cases htype
  | dateTime t =>
      cases k' with
      | dateTime t' =>
          exact congrArg dateTime
            (DateTime.textWith_injective htells htells' rfl (Option.some.inj (hk.trans hk'.symm)))
      | _ => cases htype
  | date d =>
      cases k' with
      | date d' =>
          have htext : d.text ++ [] = d'.text ++ [] := by
            rw [List.append_nil, List.append_nil]
            exact Option.some.inj (hk.trans hk'.symm)
          have hend : ∀ c ∈ ([] : Text).head?, c.isDigit = false := fun c hc => by cases hc
          exact congrArg date (Date.text_append_inj hend hend htext).1
      | _ => cases htype

theorem same_iff (htype : k.type? = k'.type?) (hnull : k ≠ .null) (htells : k.Tells) (htells' : k'.Tells) :
    k.same k' = true ↔ SameEntry k k' ∧ k ≠ .float .nan ∨ OppositeZeros k k' := by
  by_cases hfloat : k.type? = some .float
  · obtain ⟨x, rfl⟩ : ∃ x, k = .float x := by cases k <;> first | exact ⟨_, rfl⟩ | cases hfloat
    obtain ⟨y, rfl⟩ : ∃ y, k' = .float y := by cases k' <;> first | exact ⟨_, rfl⟩ | cases htype
    have hentry : SameEntry (.float x) (.float y) ↔ x = y :=
      ⟨fun h => float.inj (h.eq htype htells htells'), fun h => ⟨_, rfl, h ▸ rfl⟩⟩
    simp only [hentry, OppositeZeros, ne_eq, float.injEq]
    exact Double.same_iff
  · have hzeros : ¬ OppositeZeros k k' := by
      rintro (⟨rfl, -⟩ | ⟨rfl, -⟩) <;> exact hfloat rfl
    have hnan : k ≠ .float .nan := fun h => hfloat (h ▸ rfl)
    rw [same_eq_beq hfloat, beq_iff_eq, or_iff_left hzeros, and_iff_left hnan]
    refine ⟨fun hequal => ?_, fun h => h.eq htype htells htells'⟩
    have hsome : k.text? ≠ none := fun hnone => hnull (text?_eq_none_iff.1 hnone)
    obtain ⟨name, hname⟩ := Option.ne_none_iff_exists'.1 hsome
    exact ⟨name, hname, hequal ▸ hname⟩

theorem same_iff_of_coerce [Zone] {drawn drawn' : Uuid} {type : FieldType} {t t' : Text}
    (hk : coerce drawn none type t = .ok k) (hk' : coerce drawn' none type t' = .ok k') :
    k.same k' = true ↔ SameEntry k k' ∧ k ≠ .float .nan ∨ OppositeZeros k k' := by
  refine same_iff ((type?_of_coerce hk).trans (type?_of_coerce hk').symm) ?_ (tells_of_coerce hk)
    (tells_of_coerce hk')
  rintro rfl
  cases type?_of_coerce hk

end Value

end FilterLang
