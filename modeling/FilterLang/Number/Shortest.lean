import FilterLang.Number.Rounding

/-!
The shortest decimal that reads back as a given double. The reals that round to the number form an
interval; on the grids of one, two, three and more digits the two neighbours of the number are
tried, and the first grid with a neighbour inside the interval gives the digits.
-/

namespace FilterLang.Double

inductive Tie
  | away
  | even
deriving DecidableEq

structure Decimal where
  digits : Nat
  exponent : Int
deriving DecidableEq, Repr

structure Interval where
  low : Nat
  value : Nat
  high : Nat
  /-- Whether the ends belong to it, which they do when the last bit of the number is even. -/
  closed : Bool

/-- Below a power of two the numbers lie twice as dense, so the lower half is half as wide. -/
def interval (rank : Nat) : Interval :=
  let (m, _) := magnitude rank
  { low := if rank % binadeSize = 0 && binadeSize < rank then 4 * m - 1 else 4 * m - 2
    value := 4 * m
    high := 4 * m + 2
    closed := m % 2 == 0 }

def leadingExponent (num den : Nat) : Int :=
  if den ≤ num then (Text.decimal (num / den)).length - 1
  else -((Text.decimal (den / num)).length : Int)

/-- The neighbour to take among multiples of `unit`, if one lies inside. -/
def Interval.neighbour? (i : Interval) (tie : Tie) (unit : Nat) : Option Nat :=
  let inside (n : Nat) : Bool :=
    if i.closed then i.low ≤ n * unit && n * unit ≤ i.high
    else i.low < n * unit && n * unit < i.high
  let below := i.value / unit
  let twice := 2 * (i.value % unit)
  match inside below, inside (below + 1) with
  | true, true =>
    if twice < unit || (twice == unit && tie == .even && below % 2 == 0) then some below
    else some (below + 1)
  | true, false => some below
  | false, true => some (below + 1)
  | false, false => none

def onGrid (rank : Nat) (exponent : Int) : Interval × Nat :=
  let i := interval rank
  let (up, down) := scaledRatio 1 1 ((magnitude rank).2 - 2)
  let (wide, unit) :=
    if 0 ≤ exponent then (up, down * Nat.pow 10 exponent.toNat) else (up * Nat.pow 10 (-exponent).toNat, down)
  ({ i with low := i.low * wide, value := i.value * wide, high := i.high * wide }, unit)

/-- The digits of a finite rank. Seventeen digits always suffice. -/
def shortest (tie : Tie) (rank : Nat) : Decimal :=
  if rank = 0 then ⟨0, 0⟩
  else
    let (num, den) := ratio rank
    let leading := leadingExponent num den
    let found := (List.range 17).findSome? fun (extra : Nat) =>
      let exponent := leading - (extra : Int)
      let (i, unit) := onGrid rank exponent
      (i.neighbour? tie unit).map fun n =>
        if n % 10 = 0 then Decimal.mk (n / 10) (exponent + 1) else ⟨n, exponent⟩
    found.getD ⟨0, 0⟩

end FilterLang.Double
