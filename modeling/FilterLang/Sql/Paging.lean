import FilterLang.Sql.Select

/-!
Answering a request for a page over a connection: the count first, then the rows.
-/

namespace FilterLang.Sql

/-- What a database answers. Each row is read on its own, and a failure is its message. -/
structure Connection (m : Type → Type) (α : Type) where
  count : Text → m (Except Text Int)
  rows : Text → m (Except Text (List (Except Text α)))

namespace Connection

variable [Run] {m : Type → Type} {α : Type} [Monad m]

def countRows (connection : Connection m α) (select : Select) : ExceptT Error m Nat := do
  let sql ← select.countText
  match ← connection.count sql with
  | .ok n => return n.toNat
  | .error message => throw (.database message)

/-- The rows, or the failure of the first that cannot be read. -/
def readRows (connection : Connection m α) (select : Select) : ExceptT Error m (List α) := do
  let sql ← select.text
  match (← connection.rows sql).bind (List.mapM id) with
  | .ok items => return items
  | .error message => throw (.database message)

/-- The requested page of a table. Nothing is sent if the request cannot be compiled. -/
def page (connection : Connection m α) (table : Text) (query : GridQuery) (mapper : Mapper) :
    ExceptT Error m (Page α) := do
  let select ← Select.ofGrid table query mapper
  let count ← connection.countRows select
  return ⟨count, ← connection.readRows select⟩

end Connection

end FilterLang.Sql
