import FilterLang.Operator.Basic
import FilterLang.StableSort
import FilterLang.Text.Alphanumeric
import FilterLang.Text.Blank

/-!
The registry of custom operators: at most one operator for a symbol. A symbol is a `#` and one or
more characters that neither belong to names nor delimit the parts of a filter.
-/

namespace FilterLang

structure Registry where
  operators : List CustomOperator := []

structure Registry.BadSymbol where
  symbol : Text
deriving DecidableEq

namespace Registry

def BadSymbol.message (e : BadSymbol) : Text :=
  "Custom operator '" ++ e.symbol ++ "' must start with '#' followed by symbol characters"

def reserved : List Char := [',', '|', '(', ')', '\\']

def isSymbolChar (c : Char) : Bool :=
  !Text.isBlank c && !Text.isAlphanumeric c && !reserved.contains c

def isSymbol : Text → Bool
  | '#' :: rest => !rest.isEmpty && rest.all isSymbolChar
  | _ => false

def empty : Registry := {}

def get? (r : Registry) (symbol : Text) : Option CustomOperator :=
  r.operators.find? fun own => own.symbol = symbol

def erase (r : Registry) (symbol : Text) : Registry :=
  ⟨r.operators.filter fun own => own.symbol ≠ symbol⟩

/-- An operator with the same symbol is replaced. -/
def register (r : Registry) (own : CustomOperator) : Except BadSymbol Registry :=
  if isSymbol own.symbol then .ok ⟨(r.erase own.symbol).operators ++ [own]⟩
  else .error ⟨own.symbol⟩

def remove (r : Registry) (symbol : Text) : Registry × Option CustomOperator :=
  (r.erase symbol, r.get? symbol)

/-- Takes an operator out only if it is the very one that its symbol stands for. -/
def removeInstance (r : Registry) (own : CustomOperator) : Registry × Bool :=
  if (r.get? own.symbol).any fun current => current.identity == own.identity then
    (r.erase own.symbol, true)
  else (r, false)

/-- Built-in operators come first, so that none can be hidden. -/
def resolve? (r : Registry) (symbol : Text) : Option Operator :=
  (Operator.builtIn? symbol).or ((r.get? symbol).map Operator.custom)

/-- Longer symbols come first, and symbols of one length in alphabetical order. -/
def symbolPrecedes (a b : Text) : Bool :=
  ((compare (Text.size b) (Text.size a)).then (Text.order a b)) == .lt

def symbols (r : Registry) : List Text :=
  StableSort.sort symbolPrecedes (r.operators.map CustomOperator.symbol)

def description (r : Registry) : Text :=
  "OperatorRegistry \x7b custom: [" ++ Text.joined ", " (r.symbols.map Text.quoted) ++ "] \x7d"

@[simp] theorem get?_erase_self (r : Registry) (symbol : Text) : (r.erase symbol).get? symbol = none := by
  simp [erase, get?]

theorem resolve?_of_builtIn {r : Registry} {symbol : Text} {op : Operator}
    (h : Operator.builtIn? symbol = some op) : r.resolve? symbol = some op := by
  simp [resolve?, h]

theorem isCustom_of_no_operators {r : Registry} (h : r.operators = []) {symbol : Text} {op : Operator}
    (hop : r.resolve? symbol = some op) : op.isCustom = false := by
  rw [resolve?, get?, h, List.find?_nil, Option.map_none, Option.or_none] at hop
  exact Operator.isCustom_of_builtIn? hop

end Registry

end FilterLang
