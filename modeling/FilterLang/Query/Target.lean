import FilterLang.Expr.Reading
import FilterLang.Query.Plan

/-!
Compiling an expression for a target. The target decides how queries are represented and what it
can merge; what a filter means is settled here, once for all targets.
-/

namespace FilterLang

/-- A query, and whether it is about some element of a collection. -/
structure Compiled (Q : Type) where
  query : Q
  nested : Bool

/-- What compiling needs of a target. Its operations may have effects in `m`. -/
structure Target (m : Type → Type) (Q : Type) where
  combine : Connective → Q → Q → m Q
  always : m Q
  /-- For a leaf that can never hold, on the field at the path. -/
  never : Path → m Q
  /-- Nothing if the target has no form for the comparison. -/
  compare : Comparison → m (Option Q)
  nested : Nested → m (Option Q)
  /-- One query about one element, where both sides are about the elements of one collection. -/
  merge : Connective → Compiled Q → Compiled Q → m (Option Q)
  hasKey : Path → Value → m Q
  nullCheck : Path → NullCheck → m Q

namespace Target

variable [Run] {m : Type → Type} {Q : Type} [Monad m]

def guarded (target : Target m Q) (query : Q) : Guard → m Q
  | .hasKey map key => do target.combine .and (← target.hasKey map key) query
  | .hasValue path => do target.combine .and (← target.nullCheck path .hasValue) query
  | .orNull path => do target.combine .or (← target.nullCheck path .isNull) query

def realize (target : Target m Q) (name : Text) : Plan → ExceptT Error m (Compiled Q)
  | .always => do return ⟨← target.always, false⟩
  | .never path => do return ⟨← target.never path, false⟩
  | .nested n => do
    match ← target.nested n with
    | some query => return ⟨query, true⟩
    | none => throw (.invalidExpression (.collection name))
  | .compare c guards => do
    match ← target.compare c with
    | some query =>
      let guarded : m Q := guards.foldlM target.guarded query
      return ⟨← guarded, false⟩
    | none => throw (.invalidExpression (.comparison c.operator.symbol name))

def buildLeaf (target : Target m Q) (mapper : Mapper) (serial : Nat) (l : Leaf) :
    ExceptT Error m (Compiled Q) := do
  target.realize (Mapper.fieldName l) (← mapper.plan serial l)

/--
Compiles an expression whose first leaf has the given serial number. A chain standing directly in
parentheses is offered for merging.
-/
def build (target : Target m Q) (mapper : Mapper) (inParens : Bool) (serial : Nat) :
    Expr → ExceptT Error m (Compiled Q)
  | .leaf l => target.buildLeaf mapper serial l
  | .paren inner => target.build mapper true serial inner
  | .binary left connective right => do
    let l ← target.build mapper false serial left
    let r ← target.build mapper false (serial + left.leafCount) right
    let merged ← if inParens then target.merge connective l r else pure none
    match merged with
    | some query => return ⟨query, true⟩
    | none => return ⟨← target.combine connective l.query r.query, false⟩

def compile (target : Target m Q) (mapper : Mapper) (e : Expr) : ExceptT Error m Q := do
  return (← target.build mapper false 0 e).query

/-- Compiles the text of a filter; a blank text matches everything. -/
def compileText (target : Target m Q) (mapper : Mapper) (t : Text) : ExceptT Error m Q := do
  if Text.allBlank t then target.always
  else target.compile mapper (← Expr.read mapper.registry mapper.settings.maxDepth.toNat t)

end Target

end FilterLang
