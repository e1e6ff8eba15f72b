import FilterLang.Calendar.Date

/-!
A day and a time of day to the nanosecond, without a zone. A fraction of a second or more behind second
59 is that of a leap second, which is written as second 60. Behind another second there is none: such a
fraction can be held, and is written as one in the second after.
-/

namespace FilterLang

structure DateTime where
  date : Date
  hour : Fin 24
  minute : Fin 60
  second : Fin 60
  nanosecond : Fin 2000000000
deriving DecidableEq

namespace DateTime

def of? (date : Date) (hour minute second nanosecond : Nat) : Option DateTime :=
  if h : hour < 24 ∧ minute < 60 ∧ second < 60 ∧ nanosecond < 2000000000 then
    some ⟨date, ⟨hour, h.1⟩, ⟨minute, h.2.1⟩, ⟨second, h.2.2.1⟩, ⟨nanosecond, h.2.2.2⟩⟩
  else none

/-- The time that is written with these numbers, where second 60 is a leap second of any minute. -/
def ofWritten? (date : Date) (hour minute second nanosecond : Nat) : Option DateTime :=
  if nanosecond < 1000000000 then
    if second = 60 then of? date hour minute 59 (nanosecond + 1000000000)
    else of? date hour minute second nanosecond
  else none

/-- A fraction of a second or more is that of a leap second. -/
def Tells (t : DateTime) : Prop := t.nanosecond.val < 1000000000 ∨ t.second.val = 59

instance (t : DateTime) : Decidable t.Tells := inferInstanceAs (Decidable (_ ∨ _))

def midnight (date : Date) : DateTime := ⟨date, 0, 0, 0, 0⟩

def order (a b : DateTime) : Ordering :=
  (a.date.order b.date).then ((compare a.hour.val b.hour.val).then
    ((compare a.minute.val b.minute.val).then ((compare a.second.val b.second.val).then
      (compare a.nanosecond.val b.nanosecond.val))))

/-- No digits for zero, otherwise the least of three, six and nine that is exact. -/
def fractionText (nanosecond : Nat) : Text :=
  if nanosecond = 0 then []
  else if nanosecond % 1000000 = 0 then '.' :: Text.padded 3 (nanosecond / 1000000)
  else if nanosecond % 1000 = 0 then '.' :: Text.padded 6 (nanosecond / 1000)
  else '.' :: Text.padded 9 nanosecond

/-- The second that is written, which behind a fraction of a second or more is the next one. -/
def writtenSecond (t : DateTime) : Nat := t.second.val + t.nanosecond.val / 1000000000

def timeText (t : DateTime) : Text :=
  Text.padded 2 t.hour ++ ':' :: Text.padded 2 t.minute ++ ':' :: Text.padded 2 t.writtenSecond ++
    fractionText (t.nanosecond % 1000000000)

def textWith (separator : Char) (t : DateTime) : Text := t.date.text ++ separator :: t.timeText

def text (t : DateTime) : Text := t.textWith 'T'

def later? (t : DateTime) (seconds : Int) : Option DateTime := do
  let ofDay := t.hour.val * 3600 + t.minute.val * 60 + t.second.val
  let total := t.date.dayNumber * 86400 + ofDay + seconds
  let date ← Date.ofDayNumber? (total / 86400)
  let ofDay := (total % 86400).toNat
  of? date (ofDay / 3600) (ofDay / 60 % 60) (ofDay % 60) t.nanosecond

end DateTime

end FilterLang
