import FilterLang.Token.Indexer

/-!
Scanning orderings: names, indexers, the markers `?` and `!`, the two direction words in any case,
and commas, with blanks between them wherever there are any.
-/

namespace FilterLang.Token

def wordKind (word : Text) : Kind :=
  if Text.sameIgnoringAsciiCase word "asc" then .ascending
  else if Text.sameIgnoringAsciiCase word "desc" then .descending
  else .identifier

def orderMark? : Char → Option Kind
  | ',' => some .comma
  | '?' => some .hasValue
  | '!' => some .isNull
  | _ => none

def scanOrderItem (c : Char) (t : Text) : Except Lexeme.Fault (List Lexeme × Text) :=
  match orderMark? c with
  | some kind => .ok ([⟨kind, [c], c :: t⟩], t)
  | none =>
    if c = '[' then scanIndexer (c :: t)
    else if isFieldChar c then
      let word := (c :: t).takeWhile isFieldChar
      .ok ([⟨wordKind word, word, c :: t⟩], (c :: t).dropWhile isFieldChar)
    else .error ⟨.unexpectedCharacter c, c :: t⟩

theorem scanOrderItem_suffix {c : Char} {t rest : Text} {ls : List Lexeme}
    (h : scanOrderItem c t = .ok (ls, rest)) : rest <:+ t := by
  unfold scanOrderItem at h
  split at h
  · cases h; exact List.suffix_refl _
  · split at h
    · unfold scanIndexer at h
      split at h
      · cases h
      · next found => cases h; exact (List.suffix_cons _ _).trans (scanKey?_suffix found)
    · split at h
      · next field =>
        cases h
        rw [List.dropWhile_cons_of_pos field]
        exact List.dropWhile_suffix _
      · cases h

def scanOrder (t : Text) : Except Lexeme.Fault (List Lexeme) :=
  match _blanks : Text.skipBlanks t with
  | [] => .ok []
  | c :: u =>
    match _item : scanOrderItem c u with
    | .error fault => .error fault
    | .ok (ls, rest) => (scanOrder rest).map (ls ++ ·)
termination_by t.length
decreasing_by
  have whole := (Text.skipBlanks_suffix t).length_le
  have part := (scanOrderItem_suffix _item).length_le
  rw [_blanks] at whole
  exact Nat.lt_of_lt_of_le (Nat.lt_succ_of_le part) whole

end FilterLang.Token
