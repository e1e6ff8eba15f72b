import FilterLang.Calendar.Zone
import FilterLang.Json.Basic
import FilterLang.Query.Comparison
import FilterLang.StableSort

/-!
What a run of the program takes from outside: the local zone, the identifiers that are drawn for
malformed ones, and how a list is sorted by an order that is none.
-/

namespace FilterLang

/--
An identifier is drawn every time that a malformed one is met. Literals are numbered in the order in
which a compilation reads them, and texts of records are told apart by what they are read for.
-/
class Run extends Zone where
  /-- For the literal with that number. -/
  literal : Nat → Uuid
  /-- For the text of a record or an element that a comparison reads. -/
  compared : Comparison → Json → Uuid
  /-- For the texts at the path of two records that are put in order. -/
  sorted : Path → Json → Json → Uuid × Uuid
  /-- The items in order, or nothing if the sort stops at a contradiction. -/
  sort? : {α : Type} → (α → α → Ordering) → List α → Option (List α)
  /-- Sorting only moves items. -/
  perm_of_sort? : ∀ {α : Type} {cmp : α → α → Ordering} {xs ys : List α}, sort? cmp xs = some ys → ys.Perm xs
  /-- A preorder is no contradiction, and sorting by it is stable. -/
  sort?_of_preorder : ∀ {α : Type} {cmp : α → α → Ordering} {xs : List α}, StableSort.Preorders cmp xs →
    sort? cmp xs = some (StableSort.sort (fun a b => cmp a b == .lt) xs)

end FilterLang
