import FilterLang.Predicate.Basic
import FilterLang.Query.Target

/-!
Compiling filters to predicates.
-/

namespace FilterLang.Predicate

def combine : Connective → Predicate → Predicate → Predicate
  | .and => and
  | .or => or

def ofScope : Scope → Predicate
  | .any collection guarded body => any collection guarded (ofScope body)
  | .compare c => compare c
  | .never => never

/-- One predicate about one element, where both sides are about elements of the same collection. -/
def merge? (connective : Connective) (left right : Compiled Predicate) : Option Predicate :=
  match left, right with
  | ⟨any c guarded body, true⟩, ⟨any c' _ body', true⟩ =>
    if c.same c' then some (any c guarded (combine connective body body')) else none
  | _, _ => none

def target : Target Id Predicate where
  combine := combine
  always := always
  never _ := never
  compare c := some (compare c)
  nested n := some (ofScope n.scope)
  merge := merge?
  hasKey := hasKey
  nullCheck := nullCheck

def ofExpr [Run] (mapper : Mapper) (e : Expr) : Except Error Predicate := target.compile mapper e

def ofText [Run] (mapper : Mapper) (t : Text) : Except Error Predicate := target.compileText mapper t

theorem merge?_of_not_nested {connective : Connective} {left right : Compiled Predicate}
    (h : (left.nested && right.nested) = false) : merge? connective left right = none := by
  unfold merge?
  split
  · cases h
  · rfl

theorem merge?_any (connective : Connective) (collection collection' : Path)
    (guarded guarded' : Bool) (body body' : Predicate) :
    merge? connective ⟨any collection guarded body, true⟩ ⟨any collection' guarded' body', true⟩ =
      if collection.same collection' then
        some (any collection guarded (combine connective body body'))
      else none := rfl

end FilterLang.Predicate
