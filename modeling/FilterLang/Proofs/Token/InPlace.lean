import FilterLang.Expr.Reading
import FilterLang.Order.Entry
import FilterLang.Proofs.Token.Cursor

/-!
Whole filters and orderings, scanned in place. The loop over their items moves the cursor with each of them, so that it
comes to an end; no character is cut on the way, and the tokens and errors are those of the scanner of characters.
-/

namespace FilterLang.Token.Cursor

open Outcome

section Items

variable {whole t : Text} {symbols : List Text} {c : Char}

def lexOperator (whole : Text) (symbols : List Text) (pos : Nat) : Except Failure (Token × Nat) := do
  match symbolAt symbols (← rest whole pos) with
  | .ok symbol => return (⟨.operator, symbol, pos⟩, pos + Text.size symbol)
  | .error f => fault pos f.cause

def lexComparison (whole : Text) (symbols : List Text) (pos : Nat) : Except Failure (List Token × Nat) := do
  let (operator, pos) ← lexOperator whole symbols pos
  let (value, pos) ← lexValue whole pos
  return (operator :: value, pos)

def lexIndexer? (whole : Text) (pos : Nat) : Except Failure (List Token × Nat) := do
  if (← peek whole pos) = some '[' then
    let (ts, pos) ← lexIndexer whole pos
    return (ts, ← skipWhile whole Text.isBlank pos)
  else return ([], pos)

def lexFieldMarker? (whole name : Text) (pos : Nat) : Except Failure (List Token × Nat) := do
  if (← peek whole pos) = some '/' then
    if endsField (← rest whole pos) then
      return ([⟨.caseInsensitive, ['/', 'i'], pos⟩], ← skipWhile whole Text.isBlank (pos + 2))
    else fault pos (.strayMarker name)
  else return ([], pos)

def lexRest (whole : Text) (symbols : List Text) (pos : Nat) : Except Failure (List Token × Nat) := do
  match ← peek whole pos with
  | none => return ([], pos)
  | some c =>
    if isDelimiter c || c = '(' then return ([], pos)
    else if isOperatorStart c then lexComparison whole symbols pos
    else fault pos (.unexpectedCharacter c)

def lexField (whole : Text) (symbols : List Text) (start : Nat) : Except Failure (List Token × Nat) := do
  let stop ← skipWhile whole isFieldChar start
  let name ← slice whole start stop
  let pos ← skipWhile whole Text.isBlank stop
  let (indexer, pos) ← lexIndexer? whole pos
  let (marker, pos) ← lexFieldMarker? whole name pos
  let (comparison, pos) ← lexRest whole symbols pos
  return (⟨.identifier, name, start⟩ :: indexer ++ marker ++ comparison, pos)

def lexItem (whole : Text) (symbols : List Text) (c : Char) (pos : Nat) : Except Failure (List Token × Nat) :=
  match punctuation? c with
  | some kind => do return ([⟨kind, [c], pos⟩], ← bump whole pos)
  | none =>
    if isFieldChar c then lexField whole symbols pos
    else if isOperatorStart c then lexComparison whole symbols pos
    else fault pos (.unexpectedCharacter c)

theorem lexIndexer_offset (h : '[' :: t <:+ whole) :
    lexIndexer whole (Text.offset whole ('[' :: t)) = placed whole id (scanIndexer ('[' :: t)) := by
  have ht := (List.suffix_cons '[' t).trans h
  rw [lexIndexer, bump_offset h, ok_bind, lexKey_offset _ [] ht, scanIndexer, List.tail_cons]
  cases hkey : scanKey? t with
  | none => rfl
  | some found =>
      obtain ⟨key, behind⟩ := found
      have hclose := offset_cons ((scanKey?_suffix hkey).trans ht)
      have hone : Char.utf8Size ']' = 1 := rfl
      have hbefore : Text.offset whole behind - 1 = Text.offset whole (']' :: behind) := by omega
      simp only [ok_bind, hbefore]
      rfl

theorem symbolAt_fault {f : Lexeme.Fault} (h : symbolAt symbols t = .error f) : f.start = t := by
  unfold symbolAt at h
  split at h <;> split at h <;> cases h
  · rfl
  · rfl

theorem lexOperator_offset (h : t <:+ whole) :
    lexOperator whole symbols (Text.offset whole t) =
      match symbolAt symbols t with
      | .ok symbol =>
        .ok (⟨.operator, symbol, Text.offset whole t⟩, Text.offset whole (t.drop symbol.length))
      | .error f => placedFault whole f := by
  rw [lexOperator, rest_offset h, ok_bind]
  cases hsymbol : symbolAt symbols t with
  | error f =>
      dsimp only
      rw [placedFault, symbolAt_fault hsymbol]
  | ok symbol =>
      obtain ⟨behind, rfl⟩ := (symbolAt_eq_ok hsymbol).1
      dsimp only
      rw [Text.offset_add_size h, List.drop_left]
      rfl

theorem lexComparison_offset (h : t <:+ whole) :
    lexComparison whole symbols (Text.offset whole t) =
      placed whole Text.skipBlanks (scanComparison symbols t) := by
  rw [lexComparison, lexOperator_offset h]
  cases hsymbol : symbolAt symbols t with
  | error f =>
      simp only [scanComparison, hsymbol, error_bind]
      rfl
  | ok symbol =>
      simp only [scanComparison, hsymbol, ok_bind]
      rw [lexValue_offset ((List.drop_suffix _ _).trans h)]
      exact placed_bind fun _ _ _ => rfl

theorem lexIndexer?_offset (h : t <:+ whole) :
    lexIndexer? whole (Text.offset whole t) = placed whole id (scanIndexer? t) := by
  rw [lexIndexer?, peek_offset h, ok_bind, scanIndexer?]
  split
  · rename_i hhead
    obtain ⟨u, rfl⟩ := List.head?_eq_some_iff.1 hhead
    rw [lexIndexer_offset h]
    cases hindexer : scanIndexer ('[' :: u) with
    | error f => rfl
    | ok found =>
        have hbehind := (scanIndexer_suffix hindexer).trans h
        simp only [placed, ok_bind, id_eq, Except.map, skipBlanks_offset hbehind]
        rfl
  · rfl

theorem lexFieldMarker?_offset (name : Text) (h : t <:+ whole) :
    lexFieldMarker? whole name (Text.offset whole t) = placed whole id (scanFieldMarker? name t) := by
  rw [lexFieldMarker?, peek_offset h, ok_bind, scanFieldMarker?]
  split
  · rw [rest_offset h, ok_bind]
    split
    · rename_i hends
      obtain ⟨u, rfl⟩ := endsField_cons_slash hends
      have hu := (List.suffix_append ['/', 'i'] u).trans h
      rw [offset_marker h, skipBlanks_offset hu]
      rfl
    · rfl
  · rfl

theorem lexRest_offset (h : t <:+ whole) :
    lexRest whole symbols (Text.offset whole t) = placed whole Text.skipBlanks (scanRest symbols t) := by
  rw [lexRest, peek_offset h, ok_bind]
  cases t with
  | nil => rfl
  | cons c t =>
      rw [scanRest, List.head?_cons]
      dsimp only
      split
      · rename_i hend
        have hblank : Text.isBlank c = false := by
          rw [Bool.or_eq_true, decide_eq_true_eq] at hend
          rcases hend with hdelimiter | rfl
          · exact isBlank_of_isDelimiter hdelimiter
          · rfl
        rw [placed, Text.skipBlanks_cons hblank]
        rfl
      · split
        · exact lexComparison_offset h
        · rfl

theorem lexField_offset (h : t <:+ whole) :
    lexField whole symbols (Text.offset whole t) = placed whole Text.skipBlanks (scanField symbols t) := by
  have hbehind := (List.dropWhile_suffix isFieldChar).trans h
  have hstart := (Text.skipBlanks_suffix _).trans hbehind
  rw [lexField, skipWhile_offset isFieldChar h, ok_bind, slice_takeWhile isFieldChar h, ok_bind,
    skipBlanks_offset hbehind, ok_bind, lexIndexer?_offset hstart]
  refine placed_bind fun is r₁ hindexer => ?_
  have h₁ := (scanIndexer?_suffix hindexer).trans hstart
  dsimp only [id_eq]
  rw [lexFieldMarker?_offset _ h₁]
  refine placed_bind fun ms r₂ hmarker => ?_
  have h₂ := (scanFieldMarker?_suffix hmarker).trans h₁
  dsimp only [id_eq]
  rw [lexRest_offset h₂]
  refine placed_bind fun cs r₃ _ => ?_
  simp only [placed, pure, Except.pure, List.map_cons, List.map_append]
  rfl

/-- Behind an item only blanks may have been passed already. -/
def behindItem (c : Char) : Text → Text := if (punctuation? c).isSome then id else Text.skipBlanks

theorem behindItem_suffix (c : Char) (t : Text) : behindItem c t <:+ t := by
  unfold behindItem
  split
  · exact List.suffix_refl t
  · exact Text.skipBlanks_suffix t

theorem skipBlanks_behindItem (c : Char) (t : Text) : Text.skipBlanks (behindItem c t) = Text.skipBlanks t := by
  unfold behindItem
  split
  · rfl
  · exact Text.skipBlanks_skipBlanks t

theorem lexItem_offset (h : c :: t <:+ whole) :
    lexItem whole symbols c (Text.offset whole (c :: t)) = placed whole (behindItem c) (scanItem symbols c t) := by
  rw [lexItem, scanItem, behindItem]
  cases hkind : punctuation? c with
  | some kind =>
      dsimp only
      rw [bump_offset h]
      rfl
  | none =>
      dsimp only [Option.isSome_none]
      rw [if_neg (by decide : ¬false = true)]
      split
      · exact lexField_offset h
      · split
        · exact lexComparison_offset h
        · rfl

end Items

section Ordering

variable {whole t : Text} {c : Char}

def lexOrderItem (whole : Text) (c : Char) (pos : Nat) : Except Failure (List Token × Nat) :=
  match orderMark? c with
  | some kind => do return ([⟨kind, [c], pos⟩], ← bump whole pos)
  | none =>
    if c = '[' then lexIndexer whole pos
    else if isFieldChar c then do
      let stop ← skipWhile whole isFieldChar pos
      let word ← slice whole pos stop
      return ([⟨wordKind word, word, pos⟩], stop)
    else fault pos (.unexpectedCharacter c)

theorem lexOrderItem_offset (h : c :: t <:+ whole) :
    lexOrderItem whole c (Text.offset whole (c :: t)) = placed whole id (scanOrderItem c t) := by
  rw [lexOrderItem, scanOrderItem]
  cases hkind : orderMark? c with
  | some kind =>
      dsimp only
      rw [bump_offset h]
      rfl
  | none =>
      dsimp only
      split
      · rename_i hbracket
        subst hbracket
        exact lexIndexer_offset h
      · split
        · rw [skipWhile_offset isFieldChar h, ok_bind, slice_takeWhile isFieldChar h, ok_bind]
          rfl
        · rfl

end Ordering

section Runs

/-- What is read at a character that is not a blank, with the cursor behind it, which has moved. -/
structure Reader (whole : Text) where
  read : Char → Nat → Except Failure (List Token × Nat)
  moves : ∀ {c : Char} {pos next : Nat} {ts : List Token},
    peek whole pos = .ok (some c) → read c pos = .ok (ts, next) → pos < next

variable {whole t u : Text} {symbols : List Text} {c : Char} {pos start : Nat}

theorem le_of_skipWhile {p : Char → Bool} (h : skipWhile whole p pos = .ok start) : pos ≤ start := by
  fun_induction skipWhile whole p pos with
  | case1 => cases h
  | case2 =>
      cases h
      exact Nat.le_refl _
  | case3 pos c _ _ ih => exact Nat.le_of_add_right_le (ih h)
  | case4 =>
      cases h
      exact Nat.le_refl _

def run (reader : Reader whole) (pos : Nat) : Except Failure (List Token) :=
  match _blanks : skipWhile whole Text.isBlank pos with
  | .error failure => .error failure
  | .ok start =>
    match _next : peek whole start with
    | .error failure => .error failure
    | .ok none => .ok []
    | .ok (some c) =>
      match _item : reader.read c start with
      | .error failure => .error failure
      | .ok (ts, next) => (run reader next).map (ts ++ ·)
termination_by Text.size whole - pos
decreasing_by
  have hle := le_of_skipWhile _blanks
  have hlt := reader.moves _next _item
  have hleft := left_lt _next
  omega

theorem run_blanks (reader : Reader whole) (h : t <:+ whole) (hblanks : Text.skipBlanks t = []) :
    run reader (Text.offset whole t) = .ok [] := by
  have hstart := skipBlanks_offset h
  rw [hblanks] at hstart
  rw [run]
  split <;> rename_i hskip <;> rw [hstart] at hskip <;> cases hskip
  split <;> rename_i hpeek <;> rw [peek_offset List.nil_suffix] at hpeek <;> cases hpeek

theorem suffix_of_skipBlanks (h : t <:+ whole) (hblanks : Text.skipBlanks t = c :: u) : c :: u <:+ whole := by
  rw [← hblanks]
  exact (Text.skipBlanks_suffix t).trans h

theorem run_item (reader : Reader whole) (h : t <:+ whole) (hblanks : Text.skipBlanks t = c :: u) :
    run reader (Text.offset whole t) =
      (reader.read c (Text.offset whole (c :: u)) >>= fun (ts, next) => (run reader next).map (ts ++ ·)) := by
  have hstart := skipBlanks_offset h
  rw [hblanks] at hstart
  rw [run]
  split <;> rename_i hskip <;> rw [hstart] at hskip <;> cases hskip
  split <;> rename_i hpeek <;> rw [peek_offset (suffix_of_skipBlanks h hblanks)] at hpeek <;> cases hpeek
  split <;> rename_i hread <;> rw [hread]
  · rfl
  · rfl

theorem run_congr (reader : Reader whole) (ht : t <:+ whole) (hu : u <:+ whole)
    (h : Text.skipBlanks t = Text.skipBlanks u) :
    run reader (Text.offset whole t) = run reader (Text.offset whole u) := by
  cases hblanks : Text.skipBlanks u with
  | nil => rw [run_blanks reader ht (h.trans hblanks), run_blanks reader hu hblanks]
  | cons c v => rw [run_item reader ht (h.trans hblanks), run_item reader hu hblanks]

theorem offset_lt_of_placed {after : Text → Text} {x : Except Lexeme.Fault (List Lexeme × Text)} {next : Nat}
    {ts : List Token} (h : c :: t <:+ whole) (hafter : ∀ u, after u <:+ u)
    (hx : ∀ {ls u}, x = .ok (ls, u) → u <:+ t) (hplaced : placed whole after x = .ok (ts, next)) :
    Text.offset whole (c :: t) < next := by
  cases x with
  | error f => cases hplaced
  | ok found =>
      obtain ⟨ls, u⟩ := found
      cases hplaced
      obtain ⟨front, hfront⟩ := (hafter u).trans (hx rfl)
      have hitem := offset_cons h
      have hpos := c.utf8Size_pos
      have ht := (List.suffix_cons c t).trans h
      rw [← hfront] at ht
      have hpassed := Text.offset_add_size ht
      rw [hfront] at hpassed
      omega

def filterReader (whole : Text) (symbols : List Text) : Reader whole where
  read := lexItem whole symbols
  moves := by
    intro c pos next ts hpeek hread
    obtain ⟨t, ht, rfl⟩ := exists_of_peek hpeek
    rw [lexItem_offset ht] at hread
    exact offset_lt_of_placed ht (behindItem_suffix c) scanItem_suffix hread

def orderReader (whole : Text) : Reader whole where
  read := lexOrderItem whole
  moves := by
    intro c pos next ts hpeek hread
    obtain ⟨t, ht, rfl⟩ := exists_of_peek hpeek
    rw [lexOrderItem_offset ht] at hread
    exact offset_lt_of_placed ht List.suffix_refl scanOrderItem_suffix hread

def filter (symbols : List Text) (whole : Text) : Except Failure (List Token) :=
  run (filterReader whole symbols) 0

def ordering (whole : Text) : Except Failure (List Token) := run (orderReader whole) 0

def placedAll (whole : Text) : Except Lexeme.Fault (List Lexeme) → Except Failure (List Token)
  | .ok ls => .ok (ls.map (Lexeme.place whole))
  | .error f => placedFault whole f

theorem placedAll_map (ls : List Lexeme) (x : Except Lexeme.Fault (List Lexeme)) :
    placedAll whole (x.map (ls ++ ·)) = (placedAll whole x).map (ls.map (Lexeme.place whole) ++ ·) := by
  cases x with
  | error f => rfl
  | ok more => exact congrArg Except.ok List.map_append

theorem run_filter (h : t <:+ whole) :
    run (filterReader whole symbols) (Text.offset whole t) = placedAll whole (scan symbols t) := by
  fun_induction scan symbols t with
  | case1 t hblanks => exact run_blanks _ h hblanks
  | case2 t c u hblanks f hitem =>
      have hread := @lexItem_offset whole u symbols c (suffix_of_skipBlanks h hblanks)
      rw [hitem] at hread
      rw [run_item _ h hblanks]
      exact congrArg (· >>= _) hread
  | case3 t c u hblanks ls rest hitem ih =>
      have hu := suffix_of_skipBlanks h hblanks
      have hrest := (scanItem_suffix hitem).trans ((List.suffix_cons c u).trans hu)
      have hbehind := run_congr (filterReader whole symbols) ((behindItem_suffix c rest).trans hrest) hrest
        (skipBlanks_behindItem c rest)
      have hread := @lexItem_offset whole u symbols c hu
      rw [hitem] at hread
      rw [run_item _ h hblanks, placedAll_map, ← ih hrest, ← hbehind]
      exact congrArg (· >>= _) hread

theorem run_ordering (h : t <:+ whole) :
    run (orderReader whole) (Text.offset whole t) = placedAll whole (scanOrder t) := by
  fun_induction scanOrder t with
  | case1 t hblanks => exact run_blanks _ h hblanks
  | case2 t c u hblanks f hitem =>
      have hread := @lexOrderItem_offset whole u c (suffix_of_skipBlanks h hblanks)
      rw [hitem] at hread
      rw [run_item _ h hblanks]
      exact congrArg (· >>= _) hread
  | case3 t c u hblanks ls rest hitem ih =>
      have hu := suffix_of_skipBlanks h hblanks
      have hrest := (scanOrderItem_suffix hitem).trans ((List.suffix_cons c u).trans hu)
      have hread := @lexOrderItem_offset whole u c hu
      rw [hitem] at hread
      rw [run_item _ h hblanks, placedAll_map, ← ih hrest]
      exact congrArg (· >>= _) hread

/-- Scanning in place never cuts a character, and gives the tokens and errors of scanning character by character. -/
theorem filter_eq (symbols : List Text) (t : Text) :
    filter symbols t = (ofFilter symbols t).mapError Failure.error := by
  have hrun := @run_filter t t symbols (List.suffix_refl t)
  rw [Text.offset, Nat.sub_self] at hrun
  rw [filter, hrun, ofFilter]
  cases scan symbols t <;> rfl

theorem ordering_eq (t : Text) : ordering t = (ofOrdering t).mapError Failure.error := by
  have hrun := @run_ordering t t (List.suffix_refl t)
  rw [Text.offset, Nat.sub_self] at hrun
  rw [ordering, hrun, ofOrdering]
  cases scanOrder t <;> rfl

end Runs

end FilterLang.Token.Cursor
