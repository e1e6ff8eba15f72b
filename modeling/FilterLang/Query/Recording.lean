import FilterLang.Query.Target

/-!
A target that builds nothing and keeps a list of what it is asked. A query is the place in the list
of the call that made it.
-/

namespace FilterLang

inductive Call
  | combine (connective : Connective) (left right : Nat)
  | always
  | never (path : Path)
  | compare (c : Comparison)
  | nested (n : Nested)
  | hasKey (map : Path) (key : Value)
  | nullCheck (path : Path) (check : NullCheck)
  | merge (connective : Connective) (left right : Compiled Nat)

namespace Recording

abbrev Log := StateM (List Call)

def record (call : Call) : Log Nat := fun calls => (calls.length, calls ++ [call])

/-- `merges` lets any two queries about elements merge; operators in `refused` have no form. -/
def target (merges : Bool) (refused : List Text) : Target Log Nat where
  combine connective left right := record (.combine connective left right)
  always := record .always
  never path := record (.never path)
  compare c := do
    let place ← record (.compare c)
    return if refused.contains c.operator.symbol then none else some place
  nested n := do
    let place ← record (.nested n)
    return if refused.contains n.operator.symbol then none else some place
  merge connective left right := do
    if merges then
      let place ← record (.merge connective left right)
      return if left.nested && right.nested then some place else none
    else return none
  hasKey map key := record (.hasKey map key)
  nullCheck path check := record (.nullCheck path check)

variable [Run]

def ofExpr (merges : Bool) (refused : List Text) (mapper : Mapper) (e : Expr) :
    Except Error Nat × List Call :=
  ((target merges refused).compile mapper e).run.run []

end Recording

end FilterLang
