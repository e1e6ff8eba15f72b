import FilterLang.Token.Basic

/-!
Filter expressions: comparisons of a field with a literal, joined by `and` and `or`, and
parentheses, which stay in the expression because they decide what may be merged.
-/

namespace FilterLang

/-- `,` is and, `|` is or. -/
inductive Connective
  | and
  | or
deriving DecidableEq, Repr

def Connective.symbol : Connective → Text
  | and => ","
  | or => "|"

structure Leaf where
  field : Text
  /-- The key between brackets after the field. -/
  indexer : Option Text
  fieldIgnoresCase : Bool
  position : Nat
  /-- The operator as it is written; which one it is is settled when the leaf is compiled. -/
  symbol : Text
  symbolPosition : Nat
  value : Text
  valueIgnoresCase : Bool
deriving DecidableEq, Repr

inductive Expr
  | leaf (l : Leaf)
  | binary (left : Expr) (connective : Connective) (right : Expr)
  | paren (inner : Expr)
deriving DecidableEq, Repr

namespace Expr

def leaves : Expr → List Leaf
  | leaf l => [l]
  | binary left _ right => left.leaves ++ right.leaves
  | paren inner => inner.leaves

def leafCount : Expr → Nat
  | leaf _ => 1
  | binary left _ right => left.leafCount + right.leafCount
  | paren inner => inner.leafCount

def depth : Expr → Nat
  | leaf _ => 1
  | binary left _ right => max left.depth right.depth + 1
  | paren inner => inner.depth + 1

@[simp] theorem length_leaves (e : Expr) : e.leaves.length = e.leafCount := by
  induction e <;> simp_all [leaves, leafCount]

end Expr

end FilterLang
