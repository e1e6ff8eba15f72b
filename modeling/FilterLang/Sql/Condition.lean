import FilterLang.Query.Comparison
import FilterLang.Sql.Column

/-!
Conditions of SQL, and the clause that a comparison is written as.
-/

namespace FilterLang.Sql

inductive Condition
  | always
  | never
  | clause (sql : Text)
  | and (left right : Condition)
  | or (left right : Condition)
  /-- Some element of the list `collection`, called `element` in the body, satisfies the body. -/
  | any (collection : Text) (element : Text) (guarded : Bool) (body : Condition)
deriving DecidableEq

namespace Condition

def text : Condition → Text
  | always => "TRUE"
  | never => "FALSE"
  | clause sql => sql
  | and left right => '(' :: left.text ++ " AND " ++ right.text ++ [')']
  | or left right => '(' :: left.text ++ " OR " ++ right.text ++ [')']
  | any collection element guarded body =>
    let found := "len(list_filter(" ++ collection ++ ", " ++ element ++ " -> " ++ body.text ++ ")) > 0"
    if guarded then '(' :: collection ++ " IS NOT NULL AND " ++ found ++ [')'] else found

end Condition

def call (function subject value : Text) : Text := function ++ '(' :: subject ++ ", " ++ value ++ [')']

def relationName : TextRelation → Text
  | .contains => "contains"
  | .startsWith => "starts_with"
  | .endsWith => "suffix"

/-- A column as its comparison sees it: cast to text for a text operator, and folded if asked. -/
def subject (c : Comparison) (column : Text) : Text :=
  let cast :=
    if c.operator.isTextual && c.type != .text then "CAST(" ++ column ++ " AS VARCHAR)" else column
  if c.ignoresCase && (c.operator.isTextual || c.type == .text) then "lower(" ++ cast ++ [')']
  else cast

def absenceClause (op : Operator) (column : Text) : Text :=
  match op with
  | .equality true => '(' :: column ++ " IS NOT NULL AND " ++ column ++ " <> '')"
  | _ => '(' :: column ++ " IS NULL OR " ++ column ++ " = '')"

/-- Comparing with null asks for null under equality, and never holds otherwise. -/
def nullClause (op : Operator) (column : Text) : Text :=
  match op with
  | .equality false => column ++ " IS NULL"
  | .equality true => column ++ " IS NOT NULL"
  | _ => "FALSE"

def valueClause? (op : Operator) (column subject literal : Text) : Option Text :=
  match op with
  | .equality false => some (subject ++ " = " ++ literal)
  | .equality true => some (subject ++ " IS DISTINCT FROM " ++ literal)
  | .ordering bound => some (subject ++ ' ' :: bound.symbol ++ ' ' :: literal)
  | .textual relation false => some (call (relationName relation) subject literal)
  | .textual relation true =>
    some ('(' :: column ++ " IS NULL OR NOT " ++ call (relationName relation) subject literal ++ [')'])
  | .custom own => own.sql? subject literal

def clause? (root : Option Text) (c : Comparison) : Option Text :=
  let column := column root c.path
  if c.matchesAbsent then some (absenceClause c.operator column)
  else if c.value.isNull then some (nullClause c.operator column)
  else valueClause? c.operator column (subject c column) (literal c.value)

def hasKeyClause (map : Path) (key : Value) : Text := call "map_contains" (column none map) (literal key)

def nullClauseOf (path : Path) : NullCheck → Text
  | .hasValue => column none path ++ " IS NOT NULL"
  | .isNull => column none path ++ " IS NULL"

theorem isSome_clause? {root : Option Text} {c : Comparison} (h : c.operator.isCustom = false) :
    (clause? root c).isSome := by
  unfold clause? valueClause?
  split
  · rfl
  · split
    · rfl
    · split <;> first | rfl | simp_all [Operator.isCustom]

end FilterLang.Sql
