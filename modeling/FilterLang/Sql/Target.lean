import FilterLang.Query.Target
import FilterLang.Sql.Condition

/-!
Compiling filters to SQL conditions. Collections become filtered lists, whose elements are named by
their depth.
-/

namespace FilterLang.Sql

def elementName (depth : Nat) : Text := 'e' :: Text.decimal depth

/-- A scope under that many elements, of which the innermost is the root. -/
def ofScope? (root : Option Text) (depth : Nat) : Scope → Option Condition
  | .any collection guarded body =>
    let element := elementName depth
    (ofScope? (some element) (depth + 1) body).map
      (Condition.any (column root collection) element guarded)
  | .compare c => (clause? root c).map Condition.clause
  | .never => some .never

namespace Condition

def combine : Connective → Condition → Condition → Condition
  | .and => and
  | .or => or

/-- One condition on one element, where both sides filter the same list under the same name. -/
def merge? (connective : Connective) (left right : Compiled Condition) : Option Condition :=
  match left, right with
  | ⟨any collection element guarded body, true⟩, ⟨any collection' element' _ body', true⟩ =>
    if collection = collection' ∧ element = element' then
      some (any collection element guarded (combine connective body body'))
    else none
  | _, _ => none

def target : Target Id Condition where
  combine := combine
  always := always
  never _ := never
  compare c := (clause? none c).map clause
  nested n := ofScope? none 0 n.scope
  merge := merge?
  hasKey map key := clause (hasKeyClause map key)
  nullCheck path check := clause (nullClauseOf path check)

def ofExpr [Run] (mapper : Mapper) (e : Expr) : Except Error Condition := target.compile mapper e

def ofText [Run] (mapper : Mapper) (t : Text) : Except Error Condition := target.compileText mapper t

theorem merge?_of_not_nested {connective : Connective} {left right : Compiled Condition}
    (h : (left.nested && right.nested) = false) : merge? connective left right = none := by
  unfold merge?
  split
  · cases h
  · rfl

theorem merge?_any (connective : Connective) (collection collection' element : Text)
    (guarded guarded' : Bool) (body body' : Condition) :
    merge? connective ⟨any collection element guarded body, true⟩
        ⟨any collection' element guarded' body', true⟩ =
      if collection = collection' then
        some (any collection element guarded (combine connective body body'))
      else none := by
  simp only [merge?, and_true]

end Condition

end FilterLang.Sql
