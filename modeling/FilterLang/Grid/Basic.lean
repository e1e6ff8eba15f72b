import FilterLang.Number.Word
import FilterLang.Order.SortKey
import FilterLang.Predicate.Target

/-!
Requests for a page of records: a filter, an ordering, and which page of which size. Sizes and
offsets are words of 64 bits, at whose greatest value an offset stays.
-/

namespace FilterLang

structure GridQuery where
  page : Int64 := 0
  pageSize : Int64 := 0
  orderBy : Option Text := none
  filter : Option Text := none
deriving DecidableEq

structure Page (α : Type) where
  count : Nat
  items : List α
deriving DecidableEq, Repr

namespace GridQuery

def take (q : GridQuery) (settings : Settings) : Nat :=
  if 0 < q.pageSize.toInt then q.pageSize.toInt.toNat else settings.defaultPageSize.toNat

/-- The number of records before the page. Pages count from one, and lower numbers mean the first. -/
def skip (q : GridQuery) (settings : Settings) : Nat :=
  min greatestWord (((max q.page.toInt 1).toNat - 1) * q.take settings)

def filterText (q : GridQuery) : Text := q.filter.getD []

def orderText (q : GridQuery) : Text := q.orderBy.getD []

variable [Run]

def apply {α : Type} (q : GridQuery) (mapper : Mapper) (record : α → Json) (items : List α) :
    Except Error (Page α) := do
  let predicate ← Predicate.ofText mapper q.filterText
  let keys ← SortKey.ofText mapper q.orderText
  let matching := items.filter fun item => predicate.holds (record item)
  match SortKey.sort? keys record matching with
  | none => throw .stopped
  | some sorted =>
    return ⟨matching.length, (sorted.drop (q.skip mapper.settings)).take (q.take mapper.settings)⟩

end GridQuery

end FilterLang
