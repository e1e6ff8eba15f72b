import FilterLang.Proofs.Calendar.Reading
import FilterLang.Proofs.Value.Reading
import FilterLang.Run.Counting

/-!
Literals of days beside literals of days with a time. Each literal of a day is one of a day with a time, and stands
for the day of that time. The other way round this holds of just the literals that name no offset.
-/

namespace FilterLang.Value

open Calendar

section Reading

variable [Zone] {drawn : Uuid} {t : Text}

theorem coerce_date_eq_ok_iff {d : Date} :
    coerce drawn none .date t = .ok (.date d) ↔ Date.read? t.trim = some d := by
  rw [coerce_eq_ok_iff (by decide), readTrimmed?]
  simp

theorem coerce_dateTime_eq_ok_iff {x : DateTime} :
    coerce drawn none .dateTime t = .ok (.dateTime x) ↔ DateTime.read? none t.trim = some x := by
  rw [coerce_eq_ok_iff (by decide), readTrimmed?]
  simp

/--
A literal is a day just if it is a day with a time and names no offset, and the day is that of the time. A literal
with an offset is the time in universal time, and no day.
-/
theorem coerce_date_iff (drawn : Uuid) (t : Text) :
    (∀ d, coerce drawn none .date t = .ok (.date d) ↔
      readWithOffset? t.trim = none ∧ ∃ x, coerce drawn none .dateTime t = .ok (.dateTime x) ∧ x.date = d) ∧
    ∀ x, readWithOffset? t.trim = some x →
      coerce drawn none .dateTime t = .ok (.dateTime x) ∧ coerce drawn none .date t = .error (.malformed t .date) := by
  constructor
  · intro d
    simp only [coerce_date_eq_ok_iff, coerce_dateTime_eq_ok_iff]
    cases hoffset : readWithOffset? t.trim with
    | none => simp [Date.read?_eq_map hoffset, Option.map_eq_some_iff]
    | some x => simp [(Date.read?_of_readWithOffset? hoffset).1]
  · intro x hoffset
    obtain ⟨hdate, hdateTime⟩ := Date.read?_of_readWithOffset? hoffset
    constructor
    · rw [coerce_dateTime_eq_ok_iff, hdateTime]
    · simp [coerce, readTrimmed?, hdate, overflows]

end Reading

open scoped Run.Counting

theorem coerce_date_iff_evening :
    coerce .nil none .date "2024-3-1 8:5" = .ok (.date ⟨2024, 3, 1, by decide⟩) ∧
    coerce .nil none .dateTime "2024-03-01T22:30:00-02:00" =
      .ok (.dateTime ⟨⟨2024, 3, 2, by decide⟩, 0, 30, 0, 0⟩) ∧
    coerce .nil none .date "2024-03-01T22:30:00-02:00" = .error (.malformed "2024-03-01T22:30:00-02:00" .date) := by
  constructor
  · apply ((coerce_date_iff _ _).1 _).2
    exact ⟨rfl, ⟨_, 8, 5, 0, 0⟩, rfl, rfl⟩
  · exact (coerce_date_iff _ _).2 _ rfl

/-- Half past ten in universal time is a time on a day, but no day. -/
theorem coerce_date_universal :
    coerce .nil none .dateTime "2024-03-01T10:30:00Z" =
      .ok (.dateTime ⟨⟨2024, 3, 1, by decide⟩, 10, 30, 0, 0⟩) ∧
    coerce .nil none .date "2024-03-01T10:30:00Z" = .error (.malformed "2024-03-01T10:30:00Z" .date) :=
  ⟨rfl, rfl⟩

end FilterLang.Value
