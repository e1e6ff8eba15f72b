import FilterLang.Calendar.Reading
import FilterLang.Number.Reading
import FilterLang.Number.Word
import FilterLang.Uuid.Reading
import FilterLang.Value.Basic

/-!
From the text of a literal to a value of a declared type. Text stands for itself; for the other
types white space around the literal does not count. A malformed identifier is no failure: it
stands for one that is drawn for it.
-/

namespace FilterLang

inductive CoercionError
  /-- It is outside the grammar of its type. -/
  | malformed (literal : Text) (type : FieldType)
  /-- Its wall time lies outside the calendar. There is no answer then: the program stops. -/
  | overflow
deriving DecidableEq

def CoercionError.message : CoercionError → Text
  | malformed literal type => "'" ++ literal ++ "' is not a valid " ++ type.name
  | overflow => "Local time out of range for `NaiveDateTime`"

namespace Value

variable [Zone]

def readBool? (t : Text) : Option Bool :=
  let word := Text.lowerAscii t
  if word = "true".toList ∨ word = "1".toList then some true
  else if word = "false".toList ∨ word = "0".toList then some false
  else none

/-- A trimmed literal as a value. `drawn` is the identifier that a malformed one stands for. -/
def readTrimmed? (drawn : Uuid) (kind : Option DateTimeKind) (type : FieldType) (t : Text) :
    Option Value :=
  match type with
  | .text => some (text t)
  | .int => ((Text.readInt? t).bind wordOfInt?).map int
  | .float => (Double.read? t).map float
  | .bool => (readBool? t).map bool
  | .uuid => some (uuid (Uuid.read drawn t))
  | .dateTime => (DateTime.read? kind t).map dateTime
  | .date => (Date.read? t).map date

def overflows (kind : Option DateTimeKind) (type : FieldType) (t : Text) : Bool :=
  type = .dateTime && DateTime.overflows kind t.trim

def coerce (drawn : Uuid) (kind : Option DateTimeKind) (type : FieldType) (t : Text) :
    Except CoercionError Value :=
  if type = .text then .ok (text t)
  else
    match readTrimmed? drawn kind type t.trim with
    | some v => .ok v
    | none => .error (if overflows kind type t then .overflow else .malformed t type)

theorem overflows_of_coerce {drawn : Uuid} {kind : Option DateTimeKind} {type : FieldType} {t : Text} {v : Value}
    (h : coerce drawn kind type t = .ok v) : overflows kind type t = false := by
  by_cases htype : type = .dateTime
  · subst htype
    simp only [coerce, readTrimmed?, DateTime.read?] at h
    simp only [overflows, DateTime.overflows]
    cases hoffset : Calendar.readWithOffset? t.trim with
    | some x => rfl
    | none =>
      cases hread : DateTime.readZoneless? t.trim with
      | none => rfl
      | some x =>
        cases hnormal : x.normalise? kind with
        | some y => simp [hnormal]
        | none => simp [hoffset, hread, hnormal] at h
  · simp [overflows, htype]

theorem coerce_uuid (drawn : Uuid) (kind : Option DateTimeKind) (t : Text) :
    coerce drawn kind .uuid t = .ok (uuid (Uuid.read drawn t.trim)) := rfl

theorem coerce_drawn {type : FieldType} (h : type ≠ .uuid) (drawn drawn' : Uuid)
    (kind : Option DateTimeKind) (t : Text) :
    coerce drawn kind type t = coerce drawn' kind type t := by
  cases type <;> first | rfl | exact absurd rfl h

theorem type?_of_readTrimmed? {drawn : Uuid} {kind : Option DateTimeKind} {type : FieldType}
    {t : Text} {v : Value} (h : readTrimmed? drawn kind type t = some v) : v.type? = some type := by
  cases type <;> simp only [readTrimmed?, Option.map_eq_some_iff, Option.some.injEq] at h
  case text => subst h; rfl
  case uuid => subst h; rfl
  all_goals obtain ⟨_, _, rfl⟩ := h; rfl

theorem type?_of_coerce {drawn : Uuid} {kind : Option DateTimeKind} {type : FieldType}
    {t : Text} {v : Value} (h : coerce drawn kind type t = .ok v) : v.type? = some type := by
  unfold coerce at h
  split at h
  · next isText => cases h; simp [isText, type?]
  · split at h
    · next read => cases h; exact type?_of_readTrimmed? read
    · cases h

end Value

end FilterLang
