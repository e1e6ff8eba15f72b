import FilterLang.Text.Basic

/-!
Universally unique identifiers.
-/

namespace FilterLang

structure Uuid where
  digits : List (Fin 16)
  length_eq : digits.length = 32
deriving DecidableEq

namespace Uuid

def of? (digits : List (Fin 16)) : Option Uuid :=
  if h : digits.length = 32 then some ⟨digits, h⟩ else none

@[simp] theorem of?_digits (u : Uuid) : of? u.digits = some u := by
  simp [of?, u.length_eq]

def nil : Uuid := ⟨List.replicate 32 ⟨0, by decide⟩, List.length_replicate⟩

def orderDigits : List (Fin 16) → List (Fin 16) → Ordering
  | [], [] => .eq
  | [], _ :: _ => .lt
  | _ :: _, [] => .gt
  | a :: s, b :: t => (compare a.val b.val).then (orderDigits s t)

def order (a b : Uuid) : Ordering := orderDigits a.digits b.digits

def hexText (digits : List (Fin 16)) : Text := digits.map fun d => Nat.digitChar d.val

def text (u : Uuid) : Text :=
  hexText (u.digits.take 8) ++ '-' :: hexText ((u.digits.drop 8).take 4) ++
    '-' :: hexText ((u.digits.drop 12).take 4) ++ '-' :: hexText ((u.digits.drop 16).take 4) ++
    '-' :: hexText (u.digits.drop 20)

end Uuid

end FilterLang
