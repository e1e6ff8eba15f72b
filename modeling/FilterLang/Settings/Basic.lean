import FilterLang.Calendar.Zone

/-!
Options of compiling filters and orderings.
-/

namespace FilterLang

structure Settings where
  /-- Leaves on unmapped fields are always true and do not fail. -/
  ignoreUnmappedFields : Bool := false
  /-- The literal `null` searches for null under `=` and `!=`. -/
  allowNullSearch : Bool := true
  /-- Every comparison of a text field folds case, not only a marked one. -/
  caseInsensitiveFiltering : Bool := false
  /-- Collections and map entries are reached without a guard. -/
  disableCollectionNullChecks : Bool := false
  /-- Every intermediate hop of a path is guarded against null. -/
  avoidNullReference : Bool := false
  defaultDateTimeKind : Option DateTimeKind := none
  /-- Field names must be written as they are mapped, letter for letter. -/
  caseSensitiveMapping : Bool := true
  /-- The page size of a request that gives none. -/
  defaultPageSize : UInt64 := 20
  /-- The deepest expression that is accepted. -/
  maxDepth : UInt64 := 256
deriving DecidableEq

namespace DateTimeKind

def name : DateTimeKind → Text
  | utc => "utc"
  | wall => "local"
  | unspecified => "unspecified"

def all : List DateTimeKind := [utc, wall, unspecified]

def ofName? (name : Text) : Option DateTimeKind := all.find? fun kind => kind.name = name

theorem ofName?_name (kind : DateTimeKind) : ofName? kind.name = some kind := by
  cases kind <;> decide

end DateTimeKind

end FilterLang
