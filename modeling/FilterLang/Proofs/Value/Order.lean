import FilterLang.Proofs.StableSort
import FilterLang.Proofs.Value.Reading

/-!
Orders of values. Every kind of value is preordered by its own order. For sorting null comes before them all, and
NaN, which compares with nothing, ties with every number: but for it the values of one type are preordered too.
-/

namespace FilterLang

open Std

namespace Double

theorem order?_swap (x y : Double) : y.order? x = (x.order? y).map Ordering.swap := by
  unfold order?
  cases x.place? with
  | none => cases y.place? <;> rfl
  | some m =>
      cases y.place? with
      | none => rfl
      | some n => exact congrArg some (@OrientedCmp.eq_swap Int compare _ _ _)

theorem order?_isLE_trans {x y z : Double} (hnan : y ≠ nan) (hxy : ((x.order? y).getD .eq).isLE = true)
    (hyz : ((y.order? z).getD .eq).isLE = true) : ((x.order? z).getD .eq).isLE = true := by
  cases x with
  | nan => rfl
  | signed negative rank =>
      cases y with
      | nan => exact absurd rfl hnan
      | signed negative' rank' =>
          cases z with
          | nan => rfl
          | signed negative'' rank'' =>
              exact @TransCmp.isLE_trans Int compare _ _ _ _ hxy hyz

theorem exists_order? {x y : Double} (hx : x ≠ nan) (hy : y ≠ nan) : ∃ o, x.order? y = some o := by
  cases x with
  | nan => exact absurd rfl hx
  | signed negative rank =>
      cases y with
      | nan => exact absurd rfl hy
      | signed negative' rank' => exact ⟨_, rfl⟩

end Double

instance : TransCmp Text.order := by
  have hlex : Text.order = List.compareLex (compareOn Char.toNat) := by
    funext s t
    induction s generalizing t with
    | nil => cases t <;> rfl
    | cons c s ih =>
        cases t with
        | nil => rfl
        | cons d t => rw [Text.order, List.compareLex_cons_cons, ih]; rfl
  rw [hlex]
  infer_instance

namespace Uuid

instance : TransCmp orderDigits := by
  have hlex : orderDigits = List.compareLex (compareOn Fin.val) := by
    funext s t
    induction s generalizing t with
    | nil => cases t <;> rfl
    | cons a s ih =>
        cases t with
        | nil => rfl
        | cons b t => rw [orderDigits, List.compareLex_cons_cons, ih]; rfl
  rw [hlex]
  infer_instance

instance : TransCmp order where
  eq_swap {a b} := @OrientedCmp.eq_swap _ orderDigits _ a.digits b.digits
  isLE_trans {a b c} hab hbc := @TransCmp.isLE_trans _ orderDigits _ a.digits b.digits c.digits hab hbc

theorem orderDigits_eq_eq_iff {s t : List (Fin 16)} : orderDigits s t = .eq ↔ s = t := by
  induction s generalizing t with
  | nil => cases t <;> simp [orderDigits]
  | cons a s ih =>
      cases t with
      | nil => simp [orderDigits]
      | cons b t => rw [orderDigits, Ordering.then_eq_eq, Nat.compare_eq_eq, ih, List.cons.injEq, Fin.ext_iff]

theorem order_eq_eq_iff {a b : Uuid} : a.order b = .eq ↔ a = b := by
  rw [order, orderDigits_eq_eq_iff]
  refine ⟨fun h => ?_, congrArg digits⟩
  cases a
  cases b
  cases h
  rfl

end Uuid

instance : TransCmp Date.order :=
  inferInstanceAs (TransCmp (compareLex (compareOn Date.year)
    (compareLex (compareOn Date.month) (compareOn Date.day))))

instance : TransCmp DateTime.order :=
  inferInstanceAs (TransCmp (compareLex (Function.onFun Date.order DateTime.date)
    (compareLex (compareOn fun t => t.hour.val) (compareLex (compareOn fun t => t.minute.val)
      (compareLex (compareOn fun t => t.second.val) (compareOn fun t => t.nanosecond.val))))))

namespace Value

variable {type : FieldType} {a b c : Value}

theorem isNull_eq_false_iff : a.isNull = false ↔ a ≠ null := by
  cases a <;> simp [isNull]

theorem order?_swap (a b : Value) : b.order? a = (a.order? b).map Ordering.swap := by
  cases a <;> cases b
  case bool.bool => exact congrArg some (@OrientedCmp.eq_swap Nat compare _ _ _)
  case int.int => exact congrArg some (@OrientedCmp.eq_swap Int compare _ _ _)
  case text.text => exact congrArg some (@OrientedCmp.eq_swap _ Text.order _ _ _)
  case uuid.uuid => exact congrArg some (@OrientedCmp.eq_swap _ Uuid.order _ _ _)
  case dateTime.dateTime => exact congrArg some (@OrientedCmp.eq_swap _ DateTime.order _ _ _)
  case date.date => exact congrArg some (@OrientedCmp.eq_swap _ Date.order _ _ _)
  case float.float => exact Double.order?_swap _ _
  case int.float => exact Double.order?_swap _ _
  case float.int => exact Double.order?_swap _ _
  all_goals rfl

theorem sortOrder_null_left (h : b ≠ null) : sortOrder null b = .lt := by
  cases b with
  | null => exact absurd rfl h
  | _ => rfl

theorem sortOrder_null_right (h : a ≠ null) : sortOrder a null = .gt := by
  cases a with
  | null => exact absurd rfl h
  | _ => rfl

theorem sortOrder_of_ne_null (ha : a ≠ null) (hb : b ≠ null) :
    sortOrder a b = (a.order? b).getD .eq := by
  cases a with
  | null => exact absurd rfl ha
  | _ =>
      cases b with
      | null => exact absurd rfl hb
      | _ => rfl

instance : OrientedCmp sortOrder where
  eq_swap {a b} := by
    by_cases ha : a = null
    · subst ha
      by_cases hb : b = null
      · subst hb
        rfl
      · rw [sortOrder_null_left hb, sortOrder_null_right hb]
        rfl
    · by_cases hb : b = null
      · subst hb
        rw [sortOrder_null_left ha, sortOrder_null_right ha]
        rfl
      · rw [sortOrder_of_ne_null ha hb, sortOrder_of_ne_null hb ha, order?_swap a b]
        cases a.order? b with
        | none => rfl
        | some o => exact (Ordering.swap_swap).symm

theorem sortOrder_nan (hnull : a ≠ null) : sortOrder a (.float .nan) = .eq := by
  cases a with
  | null => exact absurd rfl hnull
  | int n => exact congrArg (Option.getD · .eq) (Double.order?_nan_right _)
  | float x => exact congrArg (Option.getD · .eq) (Double.order?_nan_right _)
  | _ => rfl

theorem exists_order? (htype : a.type? = b.type?) (hnull : b ≠ null) (ha : a ≠ .float .nan)
    (hb : b ≠ .float .nan) : ∃ o, a.order? b = some o := by
  cases b <;> cases a <;> cases htype
  case null => exact absurd rfl hnull
  case float x y =>
    exact Double.exists_order? (fun hnan => ha (congrArg float hnan)) fun hnan => hb (congrArg float hnan)
  all_goals exact ⟨_, rfl⟩

theorem order?_isLE_trans (htype : a.type? = b.type?) (htype' : b.type? = c.type?) (hnan : b ≠ .float .nan)
    (hab : ((a.order? b).getD .eq).isLE = true) (hbc : ((b.order? c).getD .eq).isLE = true) :
    ((a.order? c).getD .eq).isLE = true := by
  cases a <;> cases b <;> cases htype
  all_goals cases c <;> cases htype'
  case null => rfl
  case bool => exact @TransCmp.isLE_trans Nat compare _ _ _ _ hab hbc
  case int => exact @TransCmp.isLE_trans Int compare _ _ _ _ hab hbc
  case float => exact Double.order?_isLE_trans (fun h => hnan (congrArg float h)) hab hbc
  case text => exact @TransCmp.isLE_trans _ Text.order _ _ _ _ hab hbc
  case uuid => exact @TransCmp.isLE_trans _ Uuid.order _ _ _ _ hab hbc
  case dateTime => exact @TransCmp.isLE_trans _ DateTime.order _ _ _ _ hab hbc
  case date => exact @TransCmp.isLE_trans _ Date.order _ _ _ _ hab hbc

theorem OfType.type?_eq (ha : a.OfType type) (hb : b.OfType type) (hnull : a ≠ null) (hnull' : b ≠ null) :
    a.type? = b.type? := by
  rw [ha.resolve_left hnull, hb.resolve_left hnull']

theorem sortOrder_isLE_trans (ha : a.OfType type) (hb : b.OfType type) (hc : c.OfType type)
    (hnan : b ≠ .float .nan) (hab : (a.sortOrder b).isLE = true) (hbc : (b.sortOrder c).isLE = true) :
    (a.sortOrder c).isLE = true := by
  by_cases hnull : a = null
  · subst hnull
    cases c <;> rfl
  · have hnull' : b ≠ null := by
      rintro rfl
      rw [sortOrder_null_right hnull] at hab
      cases hab
    have hnull'' : c ≠ null := by
      rintro rfl
      rw [sortOrder_null_right hnull'] at hbc
      cases hbc
    rw [sortOrder_of_ne_null hnull hnull'] at hab
    rw [sortOrder_of_ne_null hnull' hnull''] at hbc
    rw [sortOrder_of_ne_null hnull hnull'']
    exact order?_isLE_trans (ha.type?_eq hb hnull hnull') (hb.type?_eq hc hnull' hnull'') hnan hab hbc

theorem OfType.ne_nan (h : a.OfType type) (hfloat : type ≠ .float) : a ≠ .float .nan := by
  rintro rfl
  rcases h with hnull | htype
  · cases hnull
  · exact hfloat (Option.some.inj htype).symm

/-- Values of one type, if it is not float, compare in the order that they are sorted in. -/
theorem order?_eq_sortOrder (hfloat : type ≠ .float) (ha : a.OfType type) (hb : b.OfType type)
    (hnull : b ≠ null) : a.order? b = if a.isNull then none else some (a.sortOrder b) := by
  by_cases hmissing : a = null
  · subst hmissing
    cases b <;> rfl
  · obtain ⟨o, ho⟩ := exists_order? (ha.type?_eq hb hmissing hnull) hnull (ha.ne_nan hfloat) (hb.ne_nan hfloat)
    rw [sortOrder_of_ne_null hmissing hnull, ho, isNull_eq_false_iff.2 hmissing]
    rfl

/-- What a field of the type is sorted by, unless it is NaN. -/
def Sortable (type : FieldType) : Type := { v : Value // v.OfType type ∧ v ≠ .float .nan }

namespace Sortable

def order (v w : Sortable type) : Ordering := v.val.sortOrder w.val

instance : TransCmp (@order type) where
  eq_swap {v w} := @OrientedCmp.eq_swap _ sortOrder _ v.val w.val
  isLE_trans {u v w} := sortOrder_isLE_trans u.property.1 v.property.1 w.property.1 v.property.2

def null : Sortable type := ⟨.null, .inl rfl, nofun⟩

theorem order_null (v : Sortable type) : v.order null = if v.val.isNull then .eq else .gt := by
  obtain ⟨v, -⟩ := v
  cases v <;> rfl

end Sortable

end Value

end FilterLang
