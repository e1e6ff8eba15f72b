/-!
Sorting by insertion from the back: each item moves forward past the items that it is less than.
For a preorder the result is the stable sort.
-/

namespace FilterLang.StableSort

structure Preorders {α : Type} (cmp : α → α → Ordering) (xs : List α) : Prop where
  swap : ∀ x ∈ xs, ∀ y ∈ xs, cmp y x = (cmp x y).swap
  trans : ∀ x ∈ xs, ∀ y ∈ xs, ∀ z ∈ xs,
    (cmp x y).isLE = true → (cmp y z).isLE = true → (cmp x z).isLE = true

def insertBack {α : Type} (less : α → α → Bool) (x : α) : List α → List α
  | [] => [x]
  | y :: ys => if less x y then y :: insertBack less x ys else x :: y :: ys

def sort {α : Type} (less : α → α → Bool) (xs : List α) : List α :=
  (xs.foldl (fun sorted x => insertBack less x sorted) []).reverse

theorem insertBack_perm {α : Type} (less : α → α → Bool) (x : α) (ys : List α) :
    (insertBack less x ys).Perm (x :: ys) := by
  induction ys with
  | nil => exact List.Perm.refl _
  | cons y ys ih =>
    simp only [insertBack]
    split
    · exact (ih.cons y).trans (List.Perm.swap x y ys)
    · exact List.Perm.refl _

private theorem foldl_insertBack_perm {α : Type} (less : α → α → Bool) (xs sorted : List α) :
    (xs.foldl (fun sorted x => insertBack less x sorted) sorted).Perm (xs ++ sorted) := by
  induction xs generalizing sorted with
  | nil => exact List.Perm.refl _
  | cons x xs ih =>
    refine (ih (insertBack less x sorted)).trans ?_
    exact ((insertBack_perm less x sorted).append_left xs).trans List.perm_middle

theorem sort_perm {α : Type} (less : α → α → Bool) (xs : List α) : (sort less xs).Perm xs :=
  (List.reverse_perm _).trans (by simpa using foldl_insertBack_perm less xs [])

end FilterLang.StableSort
