import FilterLang.Calendar.Zone

/-!
A zone five hours behind universal time, and four from the second Sunday of March to the first Sunday
of November, in every year.
-/

namespace FilterLang.Zone.Eastern

def sunday (n : Nat) (year : Int) (month : Nat) : Nat :=
  match Date.of? year month 1 with
  | some first => 7 * (n - 1) + 1 + (7 - Date.weekday first.dayNumber) % 7
  | none => 1

def springDay (year : Int) : Nat := sunday 2 year 3

def autumnDay (year : Int) : Nat := sunday 1 year 11

def orderHour (t : DateTime) (month day hour : Nat) : Ordering :=
  (compare t.date.month month).then
    ((compare t.date.day day).then (compare t.hour.val hour))

def hoursBehindAt (t : DateTime) : Nat :=
  if (orderHour t 3 (springDay t.date.year) 7).isGE &&
      (orderHour t 11 (autumnDay t.date.year) 6).isLT then 4
  else 5

/--
Hours that a wall time is behind universal time. The hour skipped in spring does not exist, but for
its very first second; of the two readings of the hour repeated in autumn the later one is taken.
-/
def hoursBehind? (t : DateTime) : Option Nat :=
  let day := springDay t.date.year
  if orderHour t 3 day 2 = .eq then
    if t.minute.val = 0 ∧ t.second.val = 0 then some 5 else none
  else if (orderHour t 3 day 3).isGE && (orderHour t 11 (autumnDay t.date.year) 1).isLT then some 4
  else some 5

scoped instance zone : Zone where
  aheadAt t := -3600 * (hoursBehindAt t : Int)
  ahead? t := (hoursBehind? t).map fun hours => -3600 * (hours : Int)

end FilterLang.Zone.Eastern
