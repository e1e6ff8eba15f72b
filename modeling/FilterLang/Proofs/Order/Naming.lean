import FilterLang.Order.SortKey
import FilterLang.Proofs.Outcome
import FilterLang.Proofs.Token.Escape
import FilterLang.Proofs.Token.Scanning
import FilterLang.Proofs.Text.Runs

/-!
The ordering that is a field's name and nothing else: the field's values ascending, unless the name is one of the
words for a direction.
-/

namespace FilterLang

variable {name : Text}

namespace Token

theorem orderMark?_of_isFieldChar {c : Char} (h : isFieldChar c = true) : orderMark? c = none := by
  unfold orderMark?
  split
  · cases h
  · cases h
  · cases h
  · rfl

theorem scanOrder_word {rest : Text} (hne : name ≠ []) (hchars : ∀ c ∈ name, isFieldChar c = true)
    (hrest : ∀ c ∈ rest.head?, isFieldChar c = false) :
    scanOrder (name ++ rest) = (scanOrder rest).map ([⟨wordKind name, name, name ++ rest⟩] ++ ·) := by
  have hword := Text.takeWhile_run hchars hrest
  have hafter := Text.dropWhile_run hchars hrest
  obtain ⟨c, t, rfl⟩ := List.exists_cons_of_ne_nil hne
  have hc : isFieldChar c = true := hchars c List.mem_cons_self
  have hbracket : c ≠ '[' := by
    rintro rfl
    cases hc
  rw [List.cons_append] at hword hafter ⊢
  have hitem : scanOrderItem c (t ++ rest) = .ok ([⟨wordKind (c :: t), c :: t, c :: (t ++ rest)⟩], rest) := by
    simp only [scanOrderItem, orderMark?_of_isFieldChar hc, hbracket, hc, ↓reduceIte, hword, hafter]
  exact scanOrder_item (isBlank_of_isFieldChar hc) hitem

theorem scanOrder_name (hne : name ≠ []) (hchars : ∀ c ∈ name, isFieldChar c = true) :
    scanOrder name = .ok [⟨wordKind name, name, name⟩] := by
  have hword : scanOrder (name ++ []) = (scanOrder []).map ([⟨wordKind name, name, name ++ []⟩] ++ ·) :=
    scanOrder_word hne hchars nofun
  rwa [List.append_nil, scanOrder_nil] at hword

end Token

theorem OrderEntry.readAll_name (hne : name ≠ []) (hchars : ∀ c ∈ name, Token.isFieldChar c = true)
    (hword : Token.wordKind name = .identifier) :
    readAll name = .ok [⟨name, none, .ascending, .natural, 0⟩] := by
  have hposition : Text.offset name name = 0 := by simp [Text.offset]
  rw [readAll, Token.ofOrdering, Token.scanOrder_name hne hchars, hword]
  simp only [List.map_cons, List.map_nil, Lexeme.place, hposition]
  rfl

namespace SortKey

variable {m : Mapper} {f : Field}

def ofField (f : Field) : SortKey := ⟨f.name, f.path, f.type, .ascending, .natural⟩

variable [Run]

theorem ofText_name (hne : name ≠ []) (hchars : ∀ c ∈ name, Token.isFieldChar c = true)
    (hword : Token.wordKind name = .identifier) (hfield : m.get? name = some f) (hflat : f.isNested = false)
    (hkeyless : f.path.hasKeySlot = false) : ofText m name = .ok [ofField f] := by
  rw [ofText, OrderEntry.readAll_name hne hchars hword]
  simp only [bind, Except.bind, ofEntries, ofEntry?, hfield, hflat, bindIndexer, hkeyless]
  rfl

end SortKey

end FilterLang
