import FilterLang.Grid.Basic
import FilterLang.Sql.Target

/-!
Whole statements: the rows of one table that satisfy a condition, in order, from an offset up to a
limit, and the count of all of them.
-/

namespace FilterLang.Sql

def directionWord : Direction → Text
  | .ascending => "ASC"
  | .descending => "DESC"

/-- Nulls come first ascending and last descending, as they sort in memory. -/
def nullsWord : Direction → Text
  | .ascending => "NULLS FIRST"
  | .descending => "NULLS LAST"

def orderTerm (key : SortKey) : Text :=
  let column := column none key.path
  let direction := directionWord key.direction
  match key.nullOrder with
  | .natural => column ++ ' ' :: direction ++ ' ' :: nullsWord key.direction
  | .hasValue => '(' :: column ++ " IS NOT NULL) " ++ direction
  | .isNull => '(' :: column ++ " IS NULL) " ++ direction

/-- What stands after the words that begin an ordering; no key, no ordering. -/
def orderTerms? : List SortKey → Option Text
  | [] => none
  | keys => some (Text.joined ", " (keys.map orderTerm))

structure Select where
  table : Text
  /-- None means all. -/
  columns : List Text := []
  filter : Condition := .always
  order : List SortKey := []
  limit : Option Nat := none
  offset : Option Nat := none
deriving DecidableEq

namespace Select

def ofGrid [Run] (table : Text) (query : GridQuery) (mapper : Mapper) : Except Error Select := do
  return {
    table := table
    filter := ← Condition.ofText mapper query.filterText
    order := ← SortKey.ofText mapper query.orderText
    limit := some (query.take mapper.settings)
    offset := some (query.skip mapper.settings) }

def tableText (s : Select) : Except Error Text :=
  if Text.allBlank s.table then .error (.invalidIdentifier s.table) else .ok (identifier s.table)

def columnsText (s : Select) : Text :=
  if s.columns.isEmpty then ['*'] else Text.joined ", " (s.columns.map identifier)

def whereText (s : Select) : Text :=
  match s.filter with
  | .always => []
  | filter => " WHERE " ++ filter.text

def orderText (s : Select) : Text :=
  match orderTerms? s.order with
  | some terms => " ORDER BY " ++ terms
  | none => []

def limitText (s : Select) : Text :=
  match s.limit with
  | some n => " LIMIT " ++ Text.decimal n
  | none => []

def offsetText (s : Select) : Text :=
  match s.offset with
  | some (n + 1) => " OFFSET " ++ Text.decimal (n + 1)
  | _ => []

def text (s : Select) : Except Error Text := do
  return "SELECT " ++ s.columnsText ++ " FROM " ++ (← s.tableText) ++ s.whereText ++ s.orderText ++
    s.limitText ++ s.offsetText

def countText (s : Select) : Except Error Text := do
  return "SELECT COUNT(*) FROM " ++ (← s.tableText) ++ s.whereText

end Select

end FilterLang.Sql
