import FilterLang.Error
import FilterLang.Settings.Basic
import FilterLang.Toml.Reading

/-!
Settings files: TOML documents with a key for each option. Missing keys keep their defaults and
unknown ones do not count.
-/

namespace FilterLang.Settings

def keyOr {α : Type} (document : Toml) (key : Text) (default : α) (read? : Toml → Option α) : Option α :=
  match document.get? key with
  | none => some default
  | some value => read? value

def kindOf? (value : Toml) : Option (Option DateTimeKind) :=
  (value.asWordOfChoice?.bind DateTimeKind.ofName?).map some

def ofDocument? (document : Toml) : Option Settings := do
  let default : Settings := {}
  let flag (key : Text) (value : Bool) := keyOr document key value Toml.asBool?
  let size (key : Text) (value : UInt64) := keyOr document key value Toml.asWord?
  return {
    ignoreUnmappedFields := ← flag "ignore_unmapped_fields" default.ignoreUnmappedFields
    allowNullSearch := ← flag "allow_null_search" default.allowNullSearch
    caseInsensitiveFiltering := ← flag "case_insensitive_filtering" default.caseInsensitiveFiltering
    disableCollectionNullChecks :=
      ← flag "disable_collection_null_checks" default.disableCollectionNullChecks
    avoidNullReference := ← flag "avoid_null_reference" default.avoidNullReference
    defaultDateTimeKind :=
      ← keyOr document "default_date_time_kind" default.defaultDateTimeKind kindOf?
    caseSensitiveMapping := ← flag "case_sensitive_mapping" default.caseSensitiveMapping
    defaultPageSize := ← size "default_page_size" default.defaultPageSize
    maxDepth := ← size "max_depth" default.maxDepth }

def read (t : Text) : Except Error Settings :=
  match (Toml.read? t).bind ofDocument? with
  | some settings => .ok settings
  | none => .error (.configuration .unreadableSettings)

def line (key value : Text) : Text := key ++ " = " ++ value ++ ['\n']

def flagText (b : Bool) : Text := if b then "true" else "false"

def text (s : Settings) : Text :=
  line "ignore_unmapped_fields" (flagText s.ignoreUnmappedFields) ++
    line "allow_null_search" (flagText s.allowNullSearch) ++
    line "case_insensitive_filtering" (flagText s.caseInsensitiveFiltering) ++
    line "disable_collection_null_checks" (flagText s.disableCollectionNullChecks) ++
    line "avoid_null_reference" (flagText s.avoidNullReference) ++
    (match s.defaultDateTimeKind with
      | some kind => line "default_date_time_kind" ('"' :: kind.name ++ ['"'])
      | none => []) ++
    line "case_sensitive_mapping" (flagText s.caseSensitiveMapping) ++
    line "default_page_size" (Text.decimal s.defaultPageSize.toNat) ++
    line "max_depth" (Text.decimal s.maxDepth.toNat)

/-- The settings of the file that is named for the program; without one, or if it is missing, the defaults. -/
def load (named : Bool) (file : Option Text) : Except Error Settings :=
  match named, file with
  | true, some t => read t
  | _, _ => .ok {}

def loadFrom (file : Option Text) : Except Error Settings :=
  match file with
  | some t => read t
  | none => .error .missingFile

end FilterLang.Settings
