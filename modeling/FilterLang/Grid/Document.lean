import FilterLang.Grid.Basic
import FilterLang.Json.Basic

/-!
Page requests as JSON documents: an object, in which every member may be missing and unknown ones do
not count, or an array of the members in order, in which the last ones may be missing.
-/

namespace FilterLang.GridQuery

def numberOf? : Option Json → Option Int64
  | none => some 0
  | some (.number (.whole n)) => wordOfInt? n
  | some _ => none

def textOf? : Option Json → Option (Option Text)
  | none => some none
  | some .null => some none
  | some (.string t) => some (some t)
  | some _ => none

def ofMembers? (page pageSize orderBy filter : Option Json) : Option GridQuery := do
  return {
    page := ← numberOf? page
    pageSize := ← numberOf? pageSize
    orderBy := ← textOf? orderBy
    filter := ← textOf? filter }

def ofDocument? (document : Json) : Option GridQuery :=
  match document with
  | .object _ =>
    ofMembers? (document.get? "page") (document.get? "pageSize") (document.get? "orderBy")
      (document.get? "filter")
  | .array items =>
    if items.length ≤ 4 then ofMembers? items[0]? items[1]? items[2]? items[3]? else none
  | _ => none

def ofDocument (document : Json) : Except Error GridQuery :=
  match ofDocument? document with
  | some query => .ok query
  | none => .error .malformedRequest

def document (q : GridQuery) : Json :=
  let text (t : Option Text) : Json := (t.map Json.string).getD .null
  .object [
    ("page", .number (.whole q.page.toInt)),
    ("pageSize", .number (.whole q.pageSize.toInt)),
    ("orderBy", text q.orderBy),
    ("filter", text q.filter)]

end FilterLang.GridQuery
