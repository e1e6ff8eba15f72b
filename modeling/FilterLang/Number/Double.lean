/-!
Numbers of double precision. Every such number but NaN is a sign and a rank: zero has rank 0, the
least positive number rank 1, and so on up to infinity. Ranks grow with magnitudes, so comparing
numbers is comparing ranks, and the magnitude of a rank is written m · 2^q.
-/

namespace FilterLang

def Double.binadeSize : Nat := Nat.pow 2 52

def Double.topRank : Nat := 2047 * Double.binadeSize

inductive Double
  | nan
  | signed (negative : Bool) (rank : Fin (Double.topRank + 1))
deriving DecidableEq, Repr

namespace Double

def ofRank (negative : Bool) (rank : Nat) : Double :=
  .signed negative ⟨min rank topRank, Nat.lt_succ_of_le (Nat.min_le_right _ _)⟩

def zero : Double := ofRank false 0

def isFinite : Double → Bool
  | nan => false
  | signed _ rank => rank.val < topRank

def neg : Double → Double
  | nan => nan
  | signed negative rank => signed (!negative) rank

/-- The exact magnitude of a finite rank, as `(m, q)` for m · 2^q. -/
def magnitude (rank : Nat) : Nat × Int :=
  if rank < binadeSize then (rank, -1074)
  else (binadeSize + rank % binadeSize, (rank / binadeSize : Nat) - 1075)

def place? : Double → Option Int
  | nan => none
  | signed negative rank => some (if negative then -(rank.val : Int) else rank.val)

/-- NaN compares with nothing, not even with itself. -/
def order? (a b : Double) : Option Ordering := do
  return compare (← a.place?) (← b.place?)

/-- Equality as numbers: the zeros are equal, NaN differs from itself. -/
def same (a b : Double) : Bool := a.order? b == some .eq

@[simp] theorem order?_nan_left (b : Double) : order? nan b = none := rfl

@[simp] theorem order?_nan_right (a : Double) : order? a nan = none := by
  cases a <;> rfl

end Double

end FilterLang
