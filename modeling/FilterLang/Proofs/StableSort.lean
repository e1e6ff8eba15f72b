import Mathlib.Logic.Function.Defs
import FilterLang.StableSort

/-!
Sorting by a preorder. The result is in order, what ties keeps the order that it had, and that settles the result.
Hence sorting by one order after another is sorting by both at once, and what comes before all else can be sorted
for itself.
-/

namespace FilterLang.StableSort

open Std

variable {α β : Type}

/-- The first item comes before the second, or they tie and are already in order. -/
def Comes (cmp : α → α → Ordering) (r : α → α → Prop) (x y : α) : Prop :=
  cmp x y = .lt ∨ cmp x y = .eq ∧ r x y

section Order

variable {cmp : α → α → Ordering} {r : α → α → Prop}

theorem Comes.isLE {x y : α} (h : Comes cmp r x y) : (cmp x y).isLE = true := by
  rcases h with hlt | ⟨heq, -⟩
  · rw [hlt]; rfl
  · rw [heq]; rfl

theorem comes_of_isLE {x y : α} (h : (cmp x y).isLE = true) (hr : r x y) : Comes cmp r x y := by
  cases horder : cmp x y with
  | lt => exact .inl horder
  | eq => exact .inr ⟨horder, hr⟩
  | gt => rw [horder] at h; cases h

theorem mem_insertBack {less : α → α → Bool} {x y : α} {ys : List α} :
    y ∈ insertBack less x ys ↔ y = x ∨ y ∈ ys := by
  rw [(insertBack_perm less x ys).mem_iff, List.mem_cons]

theorem pairwise_insertBack [TransCmp cmp] {x : α} {ys : List α}
    (hys : ys.Pairwise fun b a => Comes cmp r a b) (hx : ∀ y ∈ ys, r y x) :
    (insertBack (fun a b => cmp a b == .lt) x ys).Pairwise fun b a => Comes cmp r a b := by
  induction ys with
  | nil => exact List.pairwise_singleton _ _
  | cons y ys ih =>
      obtain ⟨hy, hrest⟩ := List.pairwise_cons.1 hys
      unfold insertBack
      split
      · next hless =>
        refine List.pairwise_cons.2 ⟨fun z hz => ?_, ih hrest fun z hz => hx z (List.mem_cons_of_mem y hz)⟩
        rcases mem_insertBack.1 hz with rfl | hz
        · exact .inl (eq_of_beq hless)
        · exact hy z hz
      · next hless =>
        have hyx : (cmp y x).isLE = true := by
          rw [Ordering.isLE_iff_ne_gt, OrientedCmp.gt_iff_lt]
          exact fun hlt => hless (beq_iff_eq.2 hlt)
        refine List.pairwise_cons.2 ⟨fun z hz => comes_of_isLE ?_ (hx z hz), hys⟩
        rcases List.mem_cons.1 hz with rfl | hz
        · exact hyx
        · exact TransCmp.isLE_trans (hy z hz).isLE hyx

theorem pairwise_foldl_insertBack [TransCmp cmp] {xs sorted : List α} (hxs : xs.Pairwise r)
    (hsorted : sorted.Pairwise fun b a => Comes cmp r a b) (hbefore : ∀ y ∈ sorted, ∀ x ∈ xs, r y x) :
    (xs.foldl (fun sorted x => insertBack (fun a b => cmp a b == .lt) x sorted) sorted).Pairwise
      fun b a => Comes cmp r a b := by
  induction xs generalizing sorted with
  | nil => exact hsorted
  | cons x xs ih =>
      obtain ⟨hx, hrest⟩ := List.pairwise_cons.1 hxs
      rw [List.foldl_cons]
      refine ih hrest (pairwise_insertBack hsorted fun y hy => hbefore y hy x List.mem_cons_self) ?_
      intro y hy z hz
      rcases mem_insertBack.1 hy with rfl | hy
      · exact hx z hz
      · exact hbefore y hy z (List.mem_cons_of_mem x hz)

theorem pairwise_sort (cmp : α → α → Ordering) [TransCmp cmp] {xs : List α} (h : xs.Pairwise r) :
    (sort (fun a b => cmp a b == .lt) xs).Pairwise (Comes cmp r) :=
  List.pairwise_reverse.2 (pairwise_foldl_insertBack h List.Pairwise.nil nofun)

/-- Where no item comes both before and after another one, there is one such result alone. -/
theorem eq_of_pairwise_comes (cmp : α → α → Ordering) [OrientedCmp cmp] (hr : ∀ x y, r x y → ¬ r y x)
    {xs ys : List α} (hperm : xs.Perm ys) (hxs : xs.Pairwise (Comes cmp r)) (hys : ys.Pairwise (Comes cmp r)) :
    xs = ys := by
  refine hperm.eq_of_pairwise (fun x y _ _ hxy hyx => ?_) hxs hys
  rcases hxy with hlt | ⟨heq, hbefore⟩
  · exact absurd hyx.isLE (OrientedCmp.not_isLE_of_lt hlt)
  · rcases hyx with hlt | ⟨-, hafter⟩
    · exact absurd (OrientedCmp.gt_of_lt hlt) (by rw [heq]; decide)
    · exact absurd hafter (hr x y hbefore)

end Order

section Carried

variable {less : β → β → Bool} {f : α → β}

theorem map_insertBack (x : α) (ys : List α) :
    (insertBack (fun a b => less (f a) (f b)) x ys).map f = insertBack less (f x) (ys.map f) := by
  induction ys with
  | nil => rfl
  | cons y ys ih =>
      simp only [insertBack, List.map_cons]
      split
      · rw [List.map_cons, ih]
      · rw [List.map_cons, List.map_cons]

theorem map_foldl_insertBack (xs sorted : List α) :
    (xs.foldl (fun sorted x => insertBack (fun a b => less (f a) (f b)) x sorted) sorted).map f =
      (xs.map f).foldl (fun sorted x => insertBack less x sorted) (sorted.map f) := by
  induction xs generalizing sorted with
  | nil => rfl
  | cons x xs ih => rw [List.foldl_cons, List.map_cons, List.foldl_cons, ih, map_insertBack]

theorem map_sort (less : β → β → Bool) (f : α → β) (xs : List α) :
    (sort (fun a b => less (f a) (f b)) xs).map f = sort less (xs.map f) := by
  rw [sort, List.map_reverse, map_foldl_insertBack]
  rfl

end Carried

def StoodFirst (x y : α × Nat) : Prop := x.2 < y.2

theorem pairwise_zipIdx (xs : List α) : xs.zipIdx.Pairwise StoodFirst := by
  rw [List.pairwise_iff_getElem]
  intro i j hi hj hij
  simpa [StoodFirst] using hij

section Sorted

open Function (onFun)

instance transCmp_onFun {cmp : β → β → Ordering} [TransCmp cmp] (f : α → β) : TransCmp (onFun cmp f) where
  eq_swap {a b} := @OrientedCmp.eq_swap _ cmp _ (f a) (f b)
  isLE_trans {a b c} := @TransCmp.isLE_trans _ cmp _ (f a) (f b) (f c)

variable (cmp cmp' : α → α → Ordering)

def sortPlaced (xs : List (α × Nat)) : List (α × Nat) := sort (fun x y => cmp x.1 y.1 == .lt) xs

theorem map_sortPlaced (xs : List (α × Nat)) :
    (sortPlaced cmp xs).map Prod.fst = sort (fun a b => cmp a b == .lt) (xs.map Prod.fst) :=
  map_sort (fun a b => cmp a b == .lt) Prod.fst xs

theorem pairwise_sortPlaced [TransCmp cmp] {r : α × Nat → α × Nat → Prop} {xs : List (α × Nat)}
    (h : xs.Pairwise r) : (sortPlaced cmp xs).Pairwise (Comes (onFun cmp Prod.fst) r) :=
  pairwise_sort (onFun cmp Prod.fst) h

/-- Sorting by the second of two orders and then by the first sorts by both. -/
theorem sort_sort [TransCmp cmp] [TransCmp cmp'] (xs : List α) :
    sort (fun a b => cmp a b == .lt) (sort (fun a b => cmp' a b == .lt) xs) =
      sort (fun a b => compareLex cmp cmp' a b == .lt) xs := by
  have hplaced : sortPlaced cmp (sortPlaced cmp' xs.zipIdx) = sortPlaced (compareLex cmp cmp') xs.zipIdx := by
    refine eq_of_pairwise_comes (onFun (compareLex cmp cmp') Prod.fst) (r := StoodFirst)
      (fun x y => Nat.lt_asymm) ?_ ?_ (pairwise_sortPlaced _ (pairwise_zipIdx xs))
    · exact (sort_perm _ _).trans ((sort_perm _ _).trans (sort_perm _ _).symm)
    · refine (pairwise_sortPlaced cmp (pairwise_sortPlaced cmp' (pairwise_zipIdx xs))).imp ?_
      rintro x y (hlt | ⟨heq, hlt | ⟨heq', hfirst⟩⟩)
      · exact .inl (Ordering.then_eq_lt.2 (.inl hlt))
      · exact .inl (Ordering.then_eq_lt.2 (.inr ⟨heq, hlt⟩))
      · exact .inr ⟨Ordering.then_eq_eq.2 ⟨heq, heq'⟩, hfirst⟩
  have hmap := congrArg (List.map Prod.fst) hplaced
  rwa [map_sortPlaced, map_sortPlaced, map_sortPlaced, List.zipIdx_map_fst] at hmap

end Sorted

section Items

variable {cmp : α → α → Ordering} {xs : List α}

open Function (onFun)

theorem Preorders.transCmp (h : Preorders cmp xs) : TransCmp (onFun cmp (Subtype.val : { x // x ∈ xs } → α)) where
  eq_swap {x y} := h.swap y.val y.property x.val x.property
  isLE_trans {x y z} := h.trans x.val x.property y.val y.property z.val z.property

theorem preorders_of_transCmp (h : TransCmp (onFun cmp (Subtype.val : { x // x ∈ xs } → α))) : Preorders cmp xs where
  swap x hx y hy := @OrientedCmp.eq_swap _ _ h.toOrientedCmp ⟨y, hy⟩ ⟨x, hx⟩
  trans x hx y hy z hz := @TransCmp.isLE_trans _ _ h ⟨x, hx⟩ ⟨y, hy⟩ ⟨z, hz⟩

theorem Preorders.pairwise_sort (h : Preorders cmp xs) :
    (sort (fun a b => cmp a b == .lt) xs).Pairwise fun x y => cmp y x ≠ .lt := by
  have hordered := h.transCmp
  have hsorted := StableSort.pairwise_sort (onFun cmp (Subtype.val : { x // x ∈ xs } → α))
    (List.pairwise_of_forall (R := fun _ _ => True) (l := xs.attach) fun _ _ => trivial)
  have hmap := map_sort (fun a b => cmp a b == .lt) (Subtype.val : { x // x ∈ xs } → α) xs.attach
  rw [List.attach_map_subtype_val] at hmap
  rw [← hmap, List.pairwise_map]
  refine hsorted.imp fun {x y} hcomes hlt => ?_
  have hgt : cmp x.val y.val = .gt := hordered.gt_of_lt hlt
  have hle : (cmp x.val y.val).isLE = true := hcomes.isLE
  rw [hgt] at hle
  cases hle

end Items

section Pieces

variable {less : α → α → Bool} {p : α → Bool}

theorem insertBack_of_not_less {x : α} {ys : List α} (h : ∀ y ∈ ys, less x y = false) :
    insertBack less x ys = x :: ys := by
  cases ys with
  | nil => rfl
  | cons y ys =>
      have hy := h y List.mem_cons_self
      simp only [insertBack, hy, Bool.false_eq_true, ↓reduceIte]

theorem insertBack_append {x : α} {ys zs : List α} (h : ∀ y ∈ ys, less x y = true) :
    insertBack less x (ys ++ zs) = ys ++ insertBack less x zs := by
  induction ys with
  | nil => rfl
  | cons y ys ih =>
      have hy := h y List.mem_cons_self
      rw [List.cons_append, insertBack, if_pos hy, ih fun z hz => h z (List.mem_cons_of_mem y hz)]
      rfl

theorem insertBack_append_of_not_less {x : α} {ys zs : List α} (h : ∀ z ∈ zs, less x z = false) :
    insertBack less x (ys ++ zs) = insertBack less x ys ++ zs := by
  induction ys with
  | nil => exact insertBack_of_not_less h
  | cons y ys ih =>
      simp only [List.cons_append, insertBack]
      split
      · rw [ih]
        rfl
      · rfl

theorem foldl_insertBack_of_ties {xs sorted : List α} (h : ∀ x ∈ xs, ∀ y ∈ xs, less x y = false)
    (hsorted : ∀ x ∈ xs, ∀ y ∈ sorted, less x y = false) :
    xs.foldl (fun sorted x => insertBack less x sorted) sorted = xs.reverse ++ sorted := by
  induction xs generalizing sorted with
  | nil => rfl
  | cons x xs ih =>
      rw [List.foldl_cons, insertBack_of_not_less (hsorted x List.mem_cons_self), List.reverse_cons,
        List.append_assoc, List.singleton_append]
      refine ih (fun z hz y hy => h z (List.mem_cons_of_mem x hz) y (List.mem_cons_of_mem x hy)) ?_
      intro z hz y hy
      rcases List.mem_cons.1 hy with rfl | hy
      · exact h z (List.mem_cons_of_mem y hz) y List.mem_cons_self
      · exact hsorted z (List.mem_cons_of_mem x hz) y hy

theorem sort_of_ties {xs : List α} (h : ∀ x ∈ xs, ∀ y ∈ xs, less x y = false) : sort less xs = xs := by
  rw [sort, foldl_insertBack_of_ties h fun _ _ _ hy => (List.not_mem_nil hy).elim, List.append_nil,
    List.reverse_reverse]

theorem foldl_insertBack_append (h : ∀ x y, p x = true → p y = false → less x y = true ∧ less y x = false)
    (xs firsts lasts : List α) (hfirsts : ∀ x ∈ firsts, p x = true) (hlasts : ∀ y ∈ lasts, p y = false) :
    xs.foldl (fun sorted x => insertBack less x sorted) (lasts ++ firsts) =
      (xs.filter fun x => !p x).foldl (fun sorted x => insertBack less x sorted) lasts ++
        (xs.filter p).foldl (fun sorted x => insertBack less x sorted) firsts := by
  induction xs generalizing firsts lasts with
  | nil => rfl
  | cons x xs ih =>
      cases hx : p x with
      | true =>
          simp only [List.filter_cons, hx, Bool.not_true, Bool.false_eq_true, ↓reduceIte, List.foldl_cons]
          rw [insertBack_append fun y hy => (h x y hx (hlasts y hy)).1]
          refine ih _ _ (fun y hy => ?_) hlasts
          rcases mem_insertBack.1 hy with rfl | hy
          · exact hx
          · exact hfirsts y hy
      | false =>
          simp only [List.filter_cons, hx, Bool.not_false, Bool.false_eq_true, ↓reduceIte, List.foldl_cons]
          rw [insertBack_append_of_not_less fun y hy => (h y x (hfirsts y hy) hx).2]
          refine ih _ _ hfirsts fun y hy => ?_
          rcases mem_insertBack.1 hy with rfl | hy
          · exact hx
          · exact hlasts y hy

theorem sort_eq_append (h : ∀ x y, p x = true → p y = false → less x y = true ∧ less y x = false)
    (xs : List α) : sort less xs = sort less (xs.filter p) ++ sort less (xs.filter fun x => !p x) := by
  have hfold := foldl_insertBack_append h xs [] [] nofun nofun
  rw [sort, sort, sort, ← List.reverse_append, ← hfold, List.append_nil]

end Pieces

section Cut

variable (cmp : β → β → Ordering) [TransCmp cmp] (f : α → β) (b : β)

theorem less_of_lt {x y : α} (h : cmp (f x) (f y) = .lt) :
    (cmp (f x) (f y) == .lt) = true ∧ (cmp (f y) (f x) == .lt) = false := by
  rw [h, OrientedCmp.gt_of_lt h]
  exact ⟨rfl, rfl⟩

theorem sort_tied (xs : List α) :
    sort (fun x y => cmp (f x) (f y) == .lt) (xs.filter fun x => cmp (f x) b == .eq) =
      xs.filter fun x => cmp (f x) b == .eq := by
  refine sort_of_ties fun x hx y hy => ?_
  have hxb : cmp (f x) b = .eq := eq_of_beq (List.mem_filter.1 hx).2
  have hyb : cmp (f y) b = .eq := eq_of_beq (List.mem_filter.1 hy).2
  rw [TransCmp.congr_left hxb, OrientedCmp.eq_comm.1 hyb]
  rfl

/-- Wherever it is cut, there come first what is less, then what ties as it stood, and then what is more. -/
theorem sort_eq_cut (xs : List α) :
    sort (fun x y => cmp (f x) (f y) == .lt) xs =
      sort (fun x y => cmp (f x) (f y) == .lt) (xs.filter fun x => cmp (f x) b == .lt) ++
        xs.filter (fun x => cmp (f x) b == .eq) ++
        sort (fun x y => cmp (f x) (f y) == .lt) (xs.filter fun x => cmp (f x) b == .gt) := by
  have hlow : ∀ x y, (cmp (f x) b == .lt) = true → (cmp (f y) b == .lt) = false →
      (cmp (f x) (f y) == .lt) = true ∧ (cmp (f y) (f x) == .lt) = false := by
    intro x y hx hy
    refine less_of_lt cmp f (TransCmp.lt_of_lt_of_isLE (eq_of_beq hx) ?_)
    rw [← OrientedCmp.isGE_iff_isLE, Ordering.isGE_iff_ne_lt]
    exact beq_eq_false_iff_ne.1 hy
  have hhigh : ∀ x y, (cmp (f x) b != .gt) = true → (cmp (f y) b != .gt) = false →
      (cmp (f x) (f y) == .lt) = true ∧ (cmp (f y) (f x) == .lt) = false := by
    intro x y hx hy
    refine less_of_lt cmp f (TransCmp.lt_of_isLE_of_lt (b := b) ?_ ?_)
    · rw [Ordering.isLE_iff_ne_gt]
      exact bne_iff_ne.1 hx
    · rw [← OrientedCmp.gt_iff_lt]
      exact bne_eq_false_iff_eq.1 hy
  have heq : (fun x => (cmp (f x) b != .gt) && !(cmp (f x) b == .lt)) = fun x => cmp (f x) b == .eq := by
    funext x
    cases cmp (f x) b <;> rfl
  have hgt : (fun x => (!(cmp (f x) b != .gt)) && !(cmp (f x) b == .lt)) = fun x => cmp (f x) b == .gt := by
    funext x
    cases cmp (f x) b <;> rfl
  rw [sort_eq_append hlow xs, sort_eq_append hhigh (xs.filter fun x => !(cmp (f x) b == .lt)), List.filter_filter,
    List.filter_filter, heq, hgt, sort_tied, List.append_assoc]

end Cut

end FilterLang.StableSort
