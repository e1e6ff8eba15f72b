import FilterLang.Text.Quoted
import FilterLang.Value.Basic

/-!
Comparison operators: equality, the four orderings, the three relations between texts, all with
their negations where they have one, and operators of the user's own.
-/

namespace FilterLang

/--
An operator of the user's own. `holds` compares a field's value with a literal, and `sql?` renders
the comparison of a column with a literal where it can. Two operators with the same symbol are told
apart by their identity.
-/
structure CustomOperator where
  identity : Nat
  symbol : Text
  holds : Value → Value → Bool
  sql? : Text → Text → Option Text

inductive Bound
  | greater
  | greaterOrEqual
  | less
  | lessOrEqual
deriving DecidableEq

inductive TextRelation
  | contains
  | startsWith
  | endsWith
deriving DecidableEq

inductive Operator
  | equality (negated : Bool)
  | ordering (bound : Bound)
  | textual (relation : TextRelation) (negated : Bool)
  | custom (own : CustomOperator)

namespace Bound

def symbol : Bound → Text
  | greater => ">"
  | greaterOrEqual => ">="
  | less => "<"
  | lessOrEqual => "<="

def accepts : Bound → Ordering → Bool
  | greater, o => o == .gt
  | greaterOrEqual, o => o != .lt
  | less, o => o == .lt
  | lessOrEqual, o => o != .gt

end Bound

def TextRelation.holds : TextRelation → Text → Text → Bool
  | contains, t, part => Text.occurs part t
  | startsWith, t, part => part.isPrefixOf t
  | endsWith, t, part => part.isSuffixOf t

namespace Operator

def builtIns : List (Text × Operator) := [
  ("=", equality false), ("!=", equality true),
  (">", ordering .greater), (">=", ordering .greaterOrEqual),
  ("<", ordering .less), ("<=", ordering .lessOrEqual),
  ("=*", textual .contains false), ("!*", textual .contains true),
  ("^", textual .startsWith false), ("!^", textual .startsWith true),
  ("$", textual .endsWith false), ("!$", textual .endsWith true)]

/-- `*` is a second spelling of `=*`. -/
def builtIn? (symbol : Text) : Option Operator :=
  if symbol = ['*'] then some (textual .contains false)
  else (builtIns.find? fun entry => entry.1 = symbol).map Prod.snd

def symbol : Operator → Text
  | equality false => "="
  | equality true => "!="
  | ordering bound => bound.symbol
  | textual .contains false => "=*"
  | textual .contains true => "!*"
  | textual .startsWith false => "^"
  | textual .startsWith true => "!^"
  | textual .endsWith false => "$"
  | textual .endsWith true => "!$"
  | custom own => own.symbol

def isEquality : Operator → Bool
  | equality _ => true
  | _ => false

def isOrdering : Operator → Bool
  | ordering _ => true
  | _ => false

def isTextual : Operator → Bool
  | textual _ _ => true
  | _ => false

def isNegated : Operator → Bool
  | equality negated => negated
  | textual _ negated => negated
  | _ => false

def isCustom : Operator → Bool
  | custom _ => true
  | _ => false

/-- Custom operators are the same only if they are one and the same. -/
def same : Operator → Operator → Bool
  | custom a, custom b => a.identity == b.identity
  | custom _, _ => false
  | _, custom _ => false
  | a, b => a.symbol == b.symbol

def quotedSymbol (op : Operator) : Text :=
  if op.isCustom then "Custom(" ++ op.symbol.quoted ++ ")" else op.symbol.quoted

theorem builtIn?_symbol {op : Operator} (h : op.isCustom = false) : builtIn? op.symbol = some op := by
  rcases op with negated | bound | ⟨relation, negated⟩ | own
  · cases negated <;> rfl
  · cases bound <;> rfl
  · cases relation <;> cases negated <;> rfl
  · simp [isCustom] at h

theorem isCustom_of_builtIn? {symbol : Text} {op : Operator} (h : builtIn? symbol = some op) :
    op.isCustom = false := by
  have hbuiltIns : ∀ entry ∈ builtIns, entry.2.isCustom = false := by decide
  unfold builtIn? at h
  split at h
  · cases h
    rfl
  · obtain ⟨entry, hentry, rfl⟩ := Option.map_eq_some_iff.1 h
    exact hbuiltIns entry (List.mem_of_find?_eq_some hentry)

end Operator

end FilterLang
