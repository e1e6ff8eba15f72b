import FilterLang.Toml.Basic

/-!
Building tables from keys and headers. A draft remembers how each table came about, since that
decides what may still be added to it: no key is set twice, no header is repeated, and the dots of
a key do not reach into a table that has a header.
-/

namespace FilterLang.Toml

inductive Origin
  /-- By the header of a table inside it. -/
  | implied
  /-- By the dots of a key. -/
  | dotted
  /-- By a header of its own, or as the whole document. -/
  | declared
deriving DecidableEq

inductive Draft
  /-- Nothing can be added to it. -/
  | closed (value : Toml)
  | table (origin : Origin) (entries : List (Text × Draft))
  /-- An array of tables, the latest first. -/
  | tables (items : List (List (Text × Draft)))

namespace Draft

abbrev Entries := List (Text × Draft)

def lookup (key : Text) (entries : Entries) : Option Draft :=
  (entries.find? fun entry => entry.1 = key).map Prod.snd

def insert (key : Text) (draft : Draft) : Entries → Entries
  | [] => [(key, draft)]
  | entry :: entries => if entry.1 = key then (key, draft) :: entries else entry :: insert key draft entries

/--
Changes the table that a path leads to, making tables on the way where there are none. An array of
tables stands for its latest one. `byDots` says that the path is written inside a key.
-/
def change? (byDots : Bool) (f : Origin → Entries → Option Entries) :
    List Text → Origin → Entries → Option Entries
  | [], origin, entries => f origin entries
  | key :: path, _, entries =>
    match lookup key entries with
    | none =>
      let origin := if byDots then Origin.dotted else Origin.implied
      (change? byDots f path origin []).map fun inner => insert key (table origin inner) entries
    | some (table origin inner) =>
      if byDots && origin = .declared then none
      else (change? byDots f path origin inner).map fun inner => insert key (table origin inner) entries
    | some (tables (latest :: earlier)) =>
      (change? byDots f path .declared latest).map fun latest =>
        insert key (tables (latest :: earlier)) entries
    | some _ => none

structure Key where
  before : List Text
  last : Text

def Key.names (key : Key) : List Text := key.before ++ [key.last]

def set? (key : Key) (value : Toml) : Origin → Entries → Option Entries :=
  change? true
    (fun origin entries =>
      if (origin == .dotted) == key.before.isEmpty then none
      else
        match lookup key.last entries with
        | none => some (insert key.last (closed value) entries)
        | some _ => none)
    key.before

def declare? (key : Key) : Entries → Option Entries :=
  change? false
    (fun _ entries =>
      match lookup key.last entries with
      | none => some (insert key.last (table .declared []) entries)
      | some (table .implied inner) => some (insert key.last (table .declared inner) entries)
      | some _ => none)
    key.before .declared

def append? (key : Key) : Entries → Option Entries :=
  change? false
    (fun _ entries =>
      match lookup key.last entries with
      | none => some (insert key.last (tables [[]]) entries)
      | some (tables items) => some (insert key.last (tables ([] :: items)) entries)
      | some _ => none)
    key.before .declared

mutual

def finish : Draft → Toml
  | closed value => value
  | table _ entries => .table (finishEntries entries)
  | tables items => .array (finishTables items).reverse

def finishEntries : List (Text × Draft) → List (Text × Toml)
  | [] => []
  | (key, draft) :: entries => (key, draft.finish) :: finishEntries entries

def finishTables : List (List (Text × Draft)) → List Toml
  | [] => []
  | entries :: items => .table (finishEntries entries) :: finishTables items

end

end Draft

inductive Statement
  | header (key : Draft.Key)
  | arrayHeader (key : Draft.Key)
  | entry (key : Draft.Key) (value : Toml)

structure Document where
  entries : Draft.Entries := []
  current : List Text := []

def Document.add? (d : Document) : Statement → Option Document
  | .header key => (Draft.declare? key d.entries).map fun entries => ⟨entries, key.names⟩
  | .arrayHeader key => (Draft.append? key d.entries).map fun entries => ⟨entries, key.names⟩
  | .entry key value =>
    (Draft.change? false (Draft.set? key value) d.current .declared d.entries).map fun entries =>
      ⟨entries, d.current⟩

def Document.finish (d : Document) : Toml := .table (Draft.finishEntries d.entries)

end FilterLang.Toml
