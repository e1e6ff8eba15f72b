/-!
Text is a list of characters, so that scanning it is recursion on data. Its size counts the bytes
of its UTF-8 form, the unit of every position that the library reports.
-/

namespace FilterLang

abbrev Text := List Char

instance : Coe String Text := ⟨String.toList⟩

namespace Text

def size : Text → Nat
  | [] => 0
  | c :: t => c.utf8Size + size t

@[simp] theorem size_nil : size [] = 0 := rfl

@[simp] theorem size_cons (c : Char) (t : Text) : size (c :: t) = c.utf8Size + size t := rfl

@[simp] theorem size_append (s t : Text) : size (s ++ t) = size s + size t := by
  induction s with
  | nil => simp
  | cons c s ih => rw [List.cons_append, size_cons, size_cons, ih, Nat.add_assoc]

/-- Order by code points, which is the order of the UTF-8 bytes. -/
def order : Text → Text → Ordering
  | [], [] => .eq
  | [], _ :: _ => .lt
  | _ :: _, [] => .gt
  | a :: s, b :: t => (compare a.toNat b.toNat).then (order s t)

def occurs (part : Text) : Text → Bool
  | [] => part.isEmpty
  | c :: t => part.isPrefixOf (c :: t) || occurs part t

def lowerAscii (t : Text) : Text := t.map Char.toLower

def upperAscii (t : Text) : Text := t.map Char.toUpper

/-- The letters `A` to `Z` are taken for `a` to `z`; no other letter has a second form here. -/
def sameIgnoringAsciiCase (s t : Text) : Bool := lowerAscii s == lowerAscii t

def decimal (n : Nat) : Text := Nat.toDigits 10 n

def decimalInt (i : Int) : Text :=
  if i < 0 then '-' :: decimal i.natAbs else decimal i.natAbs

def padded (width n : Nat) : Text :=
  List.replicate (width - (decimal n).length) '0' ++ decimal n

def ofDecimal (t : Text) : Nat := Nat.ofDigitChars 10 t 0

/-- The pieces between the separators, of which there is always one more. -/
def splitAt (separator : Char) : Text → List Text
  | [] => [[]]
  | c :: t =>
    if c = separator then [] :: splitAt separator t
    else
      match splitAt separator t with
      | [] => [[c]]
      | piece :: pieces => (c :: piece) :: pieces

def joined (separator : Text) : List Text → Text
  | [] => []
  | [t] => t
  | t :: ts => t ++ separator ++ joined separator ts

theorem ofDecimal_decimal (n : Nat) : ofDecimal (decimal n) = n :=
  Nat.ofDigitChars_toDigits (by decide) (by decide)

end Text

end FilterLang
