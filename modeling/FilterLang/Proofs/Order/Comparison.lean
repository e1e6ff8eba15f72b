import FilterLang.Order.SortKey
import FilterLang.Proofs.Value.Order
import FilterLang.Run.Counting

/-!
The order of records by one key. It is a preorder of those whose field is neither NaN nor a text that is read as a
new identifier every time.
-/

namespace FilterLang.SortKey

open Std

section Runs

variable [Run] {key : SortKey} {a b c record : Json}

/-- The field is null, whatever is drawn for it. -/
def Lacks (key : SortKey) (record : Json) : Prop := (key.path.readValue .nil record key.type).isNull = true

/-- What the record is sorted by is a new identifier at every reading. -/
def Draws (key : SortKey) (record : Json) : Prop :=
  key.nullOrder = .natural ∧ Json.Stray key.type (key.path.resolve? record)

/-- What the record is sorted by is NaN. -/
def IsNaN (key : SortKey) (record : Json) : Prop := key.valueOf .nil record = .float .nan

def nullsFirst (key : SortKey) : Bool := (key.direction == .ascending) != (key.nullOrder == .isNull)

instance (key : SortKey) (record : Json) : Decidable (key.Lacks record) :=
  inferInstanceAs (Decidable (_ = _))

instance (key : SortKey) (record : Json) : Decidable (key.IsNaN record) :=
  inferInstanceAs (Decidable (_ = _))

def sortedType (key : SortKey) : FieldType :=
  match key.nullOrder with
  | .natural => key.type
  | _ => .bool

theorem ofType_valueOf (key : SortKey) (drawn : Uuid) (record : Json) :
    (key.valueOf drawn record).OfType key.sortedType := by
  unfold valueOf sortedType
  cases key.nullOrder with
  | natural => exact Value.ofType_ofNode drawn key.type _
  | hasValue => exact .inr rfl
  | isNull => exact .inr rfl

theorem isNull_readValue (key : SortKey) (drawn : Uuid) (record : Json) :
    (key.path.readValue drawn record key.type).isNull = decide (key.Lacks record) := by
  rw [Path.readValue, Value.isNull_ofNode drawn .nil]
  exact Bool.decide_eq_true.symm

theorem valueOf_draw (h : ¬ key.Draws record) (drawn drawn' : Uuid) :
    key.valueOf drawn record = key.valueOf drawn' record := by
  unfold valueOf
  cases horder : key.nullOrder with
  | natural => exact Value.ofNode_draw (fun hstray => h ⟨horder, hstray⟩) drawn drawn'
  | hasValue => simp only [isNull_readValue]
  | isNull => simp only [isNull_readValue]

theorem valueOf_of_draws (h : key.Draws record) (drawn : Uuid) :
    key.valueOf drawn record = .uuid drawn := by
  simp only [valueOf, h.1]
  exact Value.ofNode_of_stray h.2 drawn

def compareValues (key : SortKey) (v w : Value) : Ordering :=
  match key.direction with
  | .ascending => v.sortOrder w
  | .descending => w.sortOrder v

instance (key : SortKey) : OrientedCmp key.compareValues where
  eq_swap {v w} := by
    unfold compareValues
    cases key.direction with
    | ascending => exact @OrientedCmp.eq_swap _ Value.sortOrder _ v w
    | descending => exact @OrientedCmp.eq_swap _ Value.sortOrder _ w v

omit [Run] in
theorem compareValues_isLE_trans {type : FieldType} {u v w : Value} (hu : u.OfType type) (hv : v.OfType type)
    (hw : w.OfType type) (hnan : v ≠ .float .nan) (huv : (key.compareValues u v).isLE = true)
    (hvw : (key.compareValues v w).isLE = true) : (key.compareValues u w).isLE = true := by
  unfold compareValues at huv hvw ⊢
  cases hdirection : key.direction with
  | ascending =>
      rw [hdirection] at huv hvw
      exact Value.sortOrder_isLE_trans hu hv hw hnan huv hvw
  | descending =>
      rw [hdirection] at huv hvw
      exact Value.sortOrder_isLE_trans hw hv hu hnan hvw huv

theorem order_eq (key : SortKey) (a b : Json) :
    key.order a b = key.compareValues (key.valueOf (Run.sorted key.path a b).1 a)
      (key.valueOf (Run.sorted key.path a b).2 b) := by
  unfold order compareValues
  cases key.direction with
  | ascending => rfl
  | descending => exact (@OrientedCmp.eq_swap _ Value.sortOrder _ _ _).symm

theorem order_of_not_draws (ha : ¬ key.Draws a) (hb : ¬ key.Draws b) :
    key.order a b = key.compareValues (key.valueOf .nil a) (key.valueOf .nil b) := by
  rw [order_eq, valueOf_draw ha _ .nil, valueOf_draw hb _ .nil]

/-! The laws of a preorder. -/

theorem order_self (h : ¬ key.Draws a) : key.order a a = .eq := by
  rw [order_of_not_draws h h]
  exact ReflCmp.compare_self

theorem order_swap (ha : ¬ key.Draws a) (hb : ¬ key.Draws b) : key.order b a = (key.order a b).swap := by
  rw [order_of_not_draws ha hb, order_of_not_draws hb ha]
  exact OrientedCmp.eq_swap

theorem order_isLE_trans (ha : ¬ key.Draws a) (hb : ¬ key.Draws b) (hc : ¬ key.Draws c) (hnan : ¬ key.IsNaN b)
    (hab : (key.order a b).isLE = true) (hbc : (key.order b c).isLE = true) :
    (key.order a c).isLE = true := by
  rw [order_of_not_draws ha hb] at hab
  rw [order_of_not_draws hb hc] at hbc
  rw [order_of_not_draws ha hc]
  exact compareValues_isLE_trans (ofType_valueOf key _ a) (ofType_valueOf key _ b) (ofType_valueOf key _ c)
    hnan hab hbc

theorem order_eq_iff (ha : ¬ key.Draws a) (hb : ¬ key.Draws b) :
    key.order a b = .eq ↔ (key.order a b).isLE = true ∧ (key.order b a).isLE = true := by
  rw [order_swap ha hb]
  cases key.order a b <;> decide

theorem order_tie_trans (ha : ¬ key.Draws a) (hb : ¬ key.Draws b) (hc : ¬ key.Draws c) (hnan : ¬ key.IsNaN b)
    (hab : key.order a b = .eq) (hbc : key.order b c = .eq) : key.order a c = .eq := by
  rw [order_eq_iff ha hb] at hab
  rw [order_eq_iff hb hc] at hbc
  rw [order_eq_iff ha hc]
  exact ⟨order_isLE_trans ha hb hc hnan hab.1 hbc.1, order_isLE_trans hc hb ha hnan hbc.2 hab.2⟩

theorem order_of_lacks (ha : key.Lacks a) (hb : ¬ key.Lacks b) :
    key.order a b = if key.nullsFirst then .lt else .gt := by
  rw [order_eq]
  generalize (Run.sorted key.path a b).1 = drawn
  generalize (Run.sorted key.path a b).2 = drawn'
  have hnull : (key.path.readValue drawn a key.type).isNull = true := by
    rw [isNull_readValue, decide_eq_true ha]
  have hvalue : (key.path.readValue drawn' b key.type).isNull = false := by
    rw [isNull_readValue, decide_eq_false hb]
  unfold compareValues valueOf nullsFirst
  generalize key.path.readValue drawn a key.type = v at hnull ⊢
  generalize key.path.readValue drawn' b key.type = w at hvalue ⊢
  have hlt : v.sortOrder w = .lt := by simp only [Value.sortOrder, hnull, hvalue]
  have hgt : w.sortOrder v = .gt := OrientedCmp.gt_of_lt hlt
  cases key.nullOrder with
  | natural =>
      dsimp only
      rw [hlt, hgt]
      cases key.direction <;> rfl
  | hasValue =>
      dsimp only
      rw [hnull, hvalue]
      cases key.direction <;> rfl
  | isNull =>
      dsimp only
      rw [hnull, hvalue]
      cases key.direction <;> rfl

theorem IsNaN.natural_float (h : key.IsNaN record) : key.nullOrder = .natural ∧ key.type = .float := by
  have htype := ofType_valueOf key .nil record
  rw [h] at htype
  have hsorted : key.sortedType = .float := (Option.some.inj (htype.resolve_left nofun)).symm
  unfold sortedType at hsorted
  cases horder : key.nullOrder <;> rw [horder] at hsorted
  · exact ⟨rfl, hsorted⟩
  · cases hsorted
  · cases hsorted

theorem IsNaN.not_draws (h : key.IsNaN record) (other : Json) : ¬ key.Draws other := by
  rintro ⟨-, huuid, -⟩
  rw [h.natural_float.2] at huuid
  cases huuid

theorem order_of_isNaN (ha : ¬ key.Lacks a) (hb : key.IsNaN b) : key.order a b = .eq := by
  have hnull : key.valueOf .nil a ≠ .null := by
    intro hnull
    simp only [valueOf, hb.natural_float.1] at hnull
    exact ha (congrArg Value.isNull hnull)
  have htie := Value.sortOrder_nan hnull
  rw [order_of_not_draws (hb.not_draws a) (hb.not_draws b), hb, compareValues]
  cases key.direction with
  | ascending => exact htie
  | descending => exact (@OrientedCmp.eq_swap _ Value.sortOrder _ _ _).trans (congrArg Ordering.swap htie)

theorem order_of_draws (ha : key.Draws a) (hb : key.Draws b) :
    key.order a b = key.compareValues (.uuid (Run.sorted key.path a b).1) (.uuid (Run.sorted key.path a b).2) := by
  rw [order_eq, valueOf_of_draws ha, valueOf_of_draws hb]

/--
A key preorders the records that draw nothing, but that NaN, which is no more and no less than any value, does not
pass a tie on. Records that draw are compared by what is drawn for them there and then. The records that lack a
value come first ascending and last descending, or the other way round by a key that asks for nulls.
-/
theorem order_preorder (key : SortKey) :
    (∀ a, ¬ key.Draws a → key.order a a = .eq) ∧
    (∀ a b, ¬ key.Draws a → ¬ key.Draws b → key.order b a = (key.order a b).swap) ∧
    (∀ a b c, ¬ key.Draws a → ¬ key.Draws b → ¬ key.Draws c → ¬ key.IsNaN b →
      ((key.order a b).isLE = true → (key.order b c).isLE = true → (key.order a c).isLE = true) ∧
      (key.order a b = .eq → key.order b c = .eq → key.order a c = .eq)) ∧
    (∀ a b, ¬ key.Lacks a → key.IsNaN b → key.order a b = .eq) ∧
    (∀ a b, key.Draws a → key.Draws b → key.order a b =
      key.compareValues (.uuid (Run.sorted key.path a b).1) (.uuid (Run.sorted key.path a b).2)) ∧
    ∀ a b, key.Lacks a → ¬ key.Lacks b → key.order a b = if key.nullsFirst then .lt else .gt :=
  ⟨fun _ => order_self, fun _ _ => order_swap,
    fun _ _ _ ha hb hc hnan => ⟨order_isLE_trans ha hb hc hnan, order_tie_trans ha hb hc hnan⟩,
    fun _ _ => order_of_isNaN, fun _ _ => order_of_draws, fun _ _ => order_of_lacks⟩

end Runs

open scoped Run.Counting

def holding (node : Json) : Json := .object [("x", node)]

def byNumber (direction : Direction) : SortKey := ⟨"x", [.member "x"], .float, direction, .natural⟩

theorem order_preorder_numbers :
    (∀ record, ¬ (byNumber .descending).Draws record) ∧
    ¬ (byNumber .descending).IsNaN (holding (.number (.whole 2))) ∧
    ((byNumber .descending).order (holding (.string "2.5")) (holding (.number (.whole 1)))).isLE = true ∧
    (byNumber .descending).order (holding (.number (.whole 1))) (holding (.string "nan")) = .eq ∧
    (byNumber .descending).order (holding .null) (holding (.string "nan")) = .gt := by
  have hdraws : ∀ record, ¬ (byNumber .descending).Draws record := by
    rintro record ⟨-, htype, -⟩
    cases htype
  have hnan : ¬ (byNumber .descending).IsNaN (holding (.number (.whole 2))) := by decide
  obtain ⟨-, -, htrans, htie, -, hlacks⟩ := order_preorder (byNumber .descending)
  refine ⟨hdraws, hnan, ?_, ?_, ?_⟩
  · exact (htrans _ _ _ (hdraws _) (hdraws _) (hdraws _) hnan).1 (by decide) (by decide)
  · exact htie _ _ (by decide) (by decide)
  · exact hlacks _ _ (by decide) (by decide)

/-- Two ties with NaN and NaN ties with one, but two is more than one. -/
theorem order_numbers_apart :
    (byNumber .ascending).order (holding (.number (.whole 2))) (holding (.string "nan")) = .eq ∧
    (byNumber .ascending).order (holding (.string "nan")) (holding (.number (.whole 1))) = .eq ∧
    (byNumber .ascending).order (holding (.number (.whole 2))) (holding (.number (.whole 1))) = .gt := by
  decide

end FilterLang.SortKey
