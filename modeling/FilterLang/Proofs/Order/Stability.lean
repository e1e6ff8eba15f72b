import FilterLang.Proofs.Order.Comparison
import FilterLang.Proofs.StableSort

/-!
Sorting by several keys, none of which can meet NaN or a new identifier. The first key that tells two items apart
settles which of them comes first, and items that no key tells apart keep their order.
-/

namespace FilterLang.SortKey

open Std
open Function (onFun)

section Runs

variable [Run] {key : SortKey} {keys keys' : List SortKey} {a b : Json} {α : Type}

def Ranks (key : SortKey) (record : Json) : Prop := ¬ key.Draws record ∧ ¬ key.IsNaN record

/-- By its values the key orders neither numbers with a fraction nor identifiers. -/
def Steady (key : SortKey) : Prop := key.nullOrder = .natural → key.type ≠ .float ∧ key.type ≠ .uuid

omit [Run] in
instance (key : SortKey) : Decidable key.Steady :=
  inferInstanceAs (Decidable (_ → _))

theorem Steady.ranks (h : key.Steady) (record : Json) : key.Ranks record :=
  ⟨fun hdraws => (h hdraws.1).2 hdraws.2.1, fun hnan => (h hnan.natural_float.1).1 hnan.natural_float.2⟩

/-- A key preorders the records that it settles. -/
theorem transCmp_order {record : α → Json} (h : ∀ x, key.Ranks (record x)) :
    TransCmp (onFun key.order record) where
  eq_swap {x y} := order_swap (h y).1 (h x).1
  isLE_trans {x y z} := order_isLE_trans (h x).1 (h y).1 (h z).1 (h y).2

theorem orderAll_append (keys keys' : List SortKey) :
    orderAll (keys ++ keys') = compareLex (orderAll keys) (orderAll keys') := by
  funext a b
  induction keys with
  | nil => rfl
  | cons key keys ih =>
      rw [List.cons_append, orderAll, ih]
      exact (Ordering.then_assoc _ _ _).symm

theorem transCmp_orderAll {record : α → Json} (h : ∀ key ∈ keys, ∀ x, key.Ranks (record x)) :
    TransCmp (onFun (orderAll keys) record) := by
  induction keys with
  | nil => exact { eq_swap := rfl, isLE_trans := fun _ _ => rfl }
  | cons key keys ih =>
      have hkey := transCmp_order (h key List.mem_cons_self)
      have hkeys := ih fun k hk => h k (List.mem_cons_of_mem key hk)
      exact inferInstanceAs (TransCmp (compareLex (onFun key.order record) (onFun (orderAll keys) record)))

/-- No key tells the two records apart. -/
def Ties (keys : List SortKey) (a b : Json) : Prop := ∀ key ∈ keys, key.order a b = .eq

/-- The first key that tells the two records apart puts the first one before the second. -/
def Precedes (keys : List SortKey) (a b : Json) : Prop :=
  ∃ before key after, keys = before ++ key :: after ∧ Ties before a b ∧ key.order a b = .lt

theorem orderAll_eq_eq_iff : orderAll keys a b = .eq ↔ Ties keys a b := by
  induction keys with
  | nil => exact ⟨fun _ => nofun, fun _ => rfl⟩
  | cons key keys ih => rw [orderAll, Ordering.then_eq_eq, ih, Ties, Ties, List.forall_mem_cons]

theorem orderAll_eq_lt_iff : orderAll keys a b = .lt ↔ Precedes keys a b := by
  induction keys with
  | nil =>
      refine ⟨nofun, ?_⟩
      rintro ⟨before, key, after, hkeys, -⟩
      cases before <;> cases hkeys
  | cons key keys ih =>
      rw [orderAll, Ordering.then_eq_lt, ih]
      constructor
      · rintro (hlt | ⟨heq, before, decider, after, rfl, hties, hlt⟩)
        · exact ⟨[], key, keys, rfl, nofun, hlt⟩
        · exact ⟨key :: before, decider, after, rfl, List.forall_mem_cons.2 ⟨heq, hties⟩, hlt⟩
      · rintro ⟨before, decider, after, hkeys, hties, hlt⟩
        cases before with
        | nil =>
            cases hkeys
            exact .inl hlt
        | cons first before =>
            cases hkeys
            obtain ⟨heq, hties⟩ := List.forall_mem_cons.1 hties
            exact .inr ⟨heq, before, decider, after, rfl, hties, hlt⟩

def sort (keys : List SortKey) (record : α → Json) (items : List α) : List α :=
  StableSort.sort (fun a b => orderAll keys (record a) (record b) == .lt) items

theorem preorders_orderAll {record : α → Json} {items : List α}
    (h : ∀ key ∈ keys, ∀ x ∈ items, key.Ranks (record x)) :
    StableSort.Preorders (onFun (orderAll keys) record) items :=
  StableSort.preorders_of_transCmp (transCmp_orderAll fun key hkey x => h key hkey x.val x.property)

theorem sort?_eq {record : α → Json} {items : List α}
    (h : ∀ key ∈ keys, ∀ x ∈ items, key.Ranks (record x)) :
    sort? keys record items = some (sort keys record items) := by
  unfold sort?
  split
  · rename_i hempty
    rw [List.isEmpty_iff.1 hempty]
    exact congrArg some (StableSort.sort_of_ties fun _ _ _ _ => rfl).symm
  · exact Run.sort?_of_preorder (preorders_orderAll h)

theorem pairwise_sort {record : α → Json} {items : List α}
    (h : ∀ key ∈ keys, ∀ x ∈ items, key.Ranks (record x)) :
    (sort keys record items).Pairwise fun x y => ¬ Precedes keys (record y) (record x) :=
  (preorders_orderAll h).pairwise_sort.imp fun hbehind hprecedes => hbehind (orderAll_eq_lt_iff.2 hprecedes)

theorem sort_sort (hkeys : ∀ key ∈ keys, key.Steady) (hkeys' : ∀ key ∈ keys', key.Steady) (record : α → Json)
    (items : List α) : sort keys record (sort keys' record items) = sort (keys ++ keys') record items := by
  have hfirst := transCmp_orderAll fun key hkey x => (hkeys key hkey).ranks (record x)
  have hsecond := transCmp_orderAll fun key hkey x => (hkeys' key hkey).ranks (record x)
  unfold sort
  rw [orderAll_append]
  exact StableSort.sort_sort (onFun (orderAll keys) record) (onFun (orderAll keys') record) items

/-- Each item of the result comes with the position at which it stood. -/
theorem exists_placed (hkeys : ∀ key ∈ keys, key.Steady) (record : α → Json) (items : List α) :
    ∃ placed : List (α × Nat), placed.Perm items.zipIdx ∧ placed.map Prod.fst = sort keys record items ∧
      placed.Pairwise fun x y => Precedes keys (record x.1) (record y.1) ∨
        Ties keys (record x.1) (record y.1) ∧ x.2 < y.2 := by
  have hordered := transCmp_orderAll fun key hkey x => (hkeys key hkey).ranks (record x)
  refine ⟨StableSort.sortPlaced (onFun (orderAll keys) record) items.zipIdx, StableSort.sort_perm _ _, ?_,
    (StableSort.pairwise_sortPlaced _ (StableSort.pairwise_zipIdx items)).imp ?_⟩
  · rw [StableSort.map_sortPlaced, List.zipIdx_map_fst]
    rfl
  · rintro x y (hlt | ⟨heq, hfirst⟩)
    · exact .inl (orderAll_eq_lt_iff.1 hlt)
    · exact .inr ⟨orderAll_eq_eq_iff.1 heq, hfirst⟩

/--
Sorting by steady keys comes to an end and only moves items. Of two items in the result, the first key that tells
them apart puts the earlier one first, or none does and it stood first before. So two sorts, the last keys first, sort
by all keys.
-/
theorem sort_stable (hkeys : ∀ key ∈ keys, key.Steady) (hkeys' : ∀ key ∈ keys', key.Steady) (record : α → Json)
    (items : List α) :
    sort? keys record items = some (sort keys record items) ∧ (sort keys record items).Perm items ∧
    (∃ placed : List (α × Nat), placed.Perm items.zipIdx ∧ placed.map Prod.fst = sort keys record items ∧
      placed.Pairwise fun x y => Precedes keys (record x.1) (record y.1) ∨
        Ties keys (record x.1) (record y.1) ∧ x.2 < y.2) ∧
    sort keys record (sort keys' record items) = sort (keys ++ keys') record items :=
  ⟨sort?_eq fun key hkey x _ => (hkeys key hkey).ranks (record x), StableSort.sort_perm _ items,
    exists_placed hkeys record items, sort_sort hkeys hkeys' record items⟩

end Runs

open scoped Run.Counting

def byTown : SortKey := ⟨"town", [.member "town"], .text, .descending, .natural⟩

def byHasAge : SortKey := ⟨"age", [.member "age"], .int, .ascending, .hasValue⟩

def resident : Nat → Json
  | 0 => .object [("town", .string "Ulm"), ("age", .number (.whole 30))]
  | 1 => .object [("age", .number (.whole 20))]
  | 2 => .object [("town", .string "Bern"), ("age", .null)]
  | _ => .object [("town", .string "Ulm")]

theorem sort_stable_residents :
    (∀ key ∈ [byTown], key.Steady) ∧ (∀ key ∈ [byHasAge], key.Steady) ∧
    sort? [byTown] resident (sort [byHasAge] resident [0, 1, 2, 3]) = some [3, 0, 2, 1] ∧
    ∃ placed : List (Nat × Nat), placed.map Prod.fst = sort [byHasAge] resident [0, 1, 2, 3] ∧
      placed.Pairwise fun x y => Precedes [byHasAge] (resident x.1) (resident y.1) ∨
        Ties [byHasAge] (resident x.1) (resident y.1) ∧ x.2 < y.2 := by
  have htown : ∀ key ∈ [byTown], key.Steady := by decide
  have hage : ∀ key ∈ [byHasAge], key.Steady := by decide
  obtain ⟨-, -, -, hsteps⟩ := sort_stable htown hage resident [0, 1, 2, 3]
  obtain ⟨hends, -⟩ := sort_stable htown hage resident (sort [byHasAge] resident [0, 1, 2, 3])
  obtain ⟨-, -, ⟨placed, -, hresult, hordered⟩, -⟩ := sort_stable hage htown resident [0, 1, 2, 3]
  refine ⟨htown, hage, ?_, placed, hresult, hordered⟩
  rw [hends, hsteps]
  decide

end FilterLang.SortKey
