import FilterLang.Error
import FilterLang.Proofs.Text.Boundary
import FilterLang.Proofs.Token.Respaced

/-!
Scanning in place. A cursor is a number of bytes; it moves by the bytes of the characters that it passes, by the two
bytes of a marker and by the bytes of an operator symbol, and all that is read is cut out of the one text at such
numbers. No cut is ever made inside a character, and the tokens and errors are those of the scanner that takes the
text apart character by character.
-/

namespace FilterLang.Token.Cursor

open Outcome

/-- Why a cursor stops short: a character would be cut, or there is something wrong with the text. -/
inductive Failure
  | cutsCharacter
  | error (error : Error)

def fault {α : Type} (pos : Nat) (cause : LexicalCause) : Except Failure α :=
  .error (.error (.lexical pos cause))

section Movement

variable (whole : Text)

def rest (pos : Nat) : Except Failure Text :=
  match Text.cut? whole pos with
  | some (_, back) => .ok back
  | none => .error .cutsCharacter

def slice (start stop : Nat) : Except Failure Text :=
  match Text.slice? whole start stop with
  | some part => .ok part
  | none => .error .cutsCharacter

def peek (pos : Nat) : Except Failure (Option Char) := (rest whole pos).map List.head?

def bump (pos : Nat) : Except Failure Nat := do
  match ← peek whole pos with
  | some c => return pos + c.utf8Size
  | none => return pos

variable {whole} {c : Char} {t front : Text} {pos : Nat}

theorem rest_eq_ok_iff : rest whole pos = .ok t ↔ t <:+ whole ∧ pos = Text.offset whole t := by
  constructor
  · intro h
    unfold rest at h
    split at h
    · rename_i front back hcut
      cases h
      obtain ⟨rfl, rfl⟩ := Text.cut?_eq_some_iff.1 hcut
      exact ⟨List.suffix_append front t, (Text.offset_append front t).symm⟩
    · cases h
  · rintro ⟨ht, rfl⟩
    obtain ⟨front, hcut⟩ := Text.cut?_offset ht
    rw [rest, hcut]

theorem rest_offset (h : t <:+ whole) : rest whole (Text.offset whole t) = .ok t :=
  rest_eq_ok_iff.2 ⟨h, rfl⟩

theorem slice_offset (h : front ++ t <:+ whole) :
    slice whole (Text.offset whole (front ++ t)) (Text.offset whole t) = .ok front := by
  rw [slice, Text.slice?_offset h]

theorem peek_offset (h : t <:+ whole) : peek whole (Text.offset whole t) = .ok t.head? := by
  rw [peek, rest_offset h]
  rfl

theorem exists_of_peek (h : peek whole pos = .ok (some c)) :
    ∃ t, c :: t <:+ whole ∧ pos = Text.offset whole (c :: t) := by
  obtain ⟨u, hrest, hhead⟩ := map_eq_ok_iff.1 h
  obtain ⟨t, rfl⟩ := List.head?_eq_some_iff.1 hhead
  exact ⟨t, rest_eq_ok_iff.1 hrest⟩

theorem offset_cons (h : c :: t <:+ whole) :
    Text.offset whole (c :: t) + c.utf8Size = Text.offset whole t := by
  have hsize := @Text.offset_add_size whole [c] t h
  simpa using hsize

theorem bump_offset (h : c :: t <:+ whole) : bump whole (Text.offset whole (c :: t)) = .ok (Text.offset whole t) := by
  rw [bump, peek_offset h, ← offset_cons h]
  rfl

theorem offset_marker (h : '/' :: 'i' :: t <:+ whole) :
    Text.offset whole ('/' :: 'i' :: t) + 2 = Text.offset whole t :=
  @Text.offset_add_size whole ['/', 'i'] t h

theorem left_lt (h : peek whole pos = .ok (some c)) :
    Text.size whole - (pos + c.utf8Size) < Text.size whole - pos := by
  obtain ⟨t, ht, rfl⟩ := exists_of_peek h
  have hpos := c.utf8Size_pos
  have hle := (Text.hasBoundary_offset ((List.suffix_cons c t).trans ht)).le_size
  rw [← offset_cons ht] at hle
  omega

def skipWhile (whole : Text) (p : Char → Bool) (pos : Nat) : Except Failure Nat :=
  match _next : peek whole pos with
  | .error failure => .error failure
  | .ok none => .ok pos
  | .ok (some c) => if p c then skipWhile whole p (pos + c.utf8Size) else .ok pos
termination_by Text.size whole - pos
decreasing_by exact left_lt _next

theorem skipWhile_offset (p : Char → Bool) (h : t <:+ whole) :
    skipWhile whole p (Text.offset whole t) = .ok (Text.offset whole (t.dropWhile p)) := by
  induction t with
  | nil =>
      rw [skipWhile]
      split <;> rename_i hpeek <;> rw [peek_offset h] at hpeek <;> cases hpeek
      rfl
  | cons c t ih =>
      have ht := (List.suffix_cons c t).trans h
      rw [skipWhile]
      split <;> rename_i hpeek <;> rw [peek_offset h] at hpeek <;> cases hpeek
      rw [offset_cons h, ih ht, List.dropWhile_cons]
      split <;> rfl

theorem slice_takeWhile (p : Char → Bool) (h : t <:+ whole) :
    slice whole (Text.offset whole t) (Text.offset whole (t.dropWhile p)) = .ok (t.takeWhile p) := by
  have hparts : t.takeWhile p ++ t.dropWhile p <:+ whole := by rwa [List.takeWhile_append_dropWhile]
  have hslice := slice_offset hparts
  rwa [List.takeWhile_append_dropWhile] at hslice

theorem skipBlanks_offset (h : t <:+ whole) :
    skipWhile whole Text.isBlank (Text.offset whole t) = .ok (Text.offset whole (Text.skipBlanks t)) :=
  skipWhile_offset Text.isBlank h

end Movement

/-! Outcomes, with bytes for the endings of the text. -/

section Outcomes

variable {whole : Text} {after after' : Text → Text}

def placedFault {α : Type} (whole : Text) (f : Lexeme.Fault) : Except Failure α :=
  fault (Text.offset whole f.start) f.cause

/-- Some lexemes and what is scanned next, which `after` takes from the text behind them. -/
def placed (whole : Text) (after : Text → Text) :
    Except Lexeme.Fault (List Lexeme × Text) → Except Failure (List Token × Nat)
  | .ok (ls, t) => .ok (ls.map (Lexeme.place whole), Text.offset whole (after t))
  | .error f => placedFault whole f

theorem placed_bind {x : Except Lexeme.Fault (List Lexeme × Text)}
    {f : List Lexeme × Text → Except Lexeme.Fault (List Lexeme × Text)}
    {g : List Token × Nat → Except Failure (List Token × Nat)}
    (h : ∀ ls t, x = .ok (ls, t) →
      g (ls.map (Lexeme.place whole), Text.offset whole (after t)) = placed whole after' (f (ls, t))) :
    (placed whole after x >>= g) = placed whole after' (x >>= f) := by
  cases x with
  | error fault => rfl
  | ok found => exact h found.1 found.2 rfl

end Outcomes

section Indexers

variable {whole t : Text} {c : Char}

def lexKey (whole : Text) (opening : Nat) (key : Text) (pos : Nat) : Except Failure (Text × Nat) :=
  match _next : peek whole pos with
  | .error failure => .error failure
  | .ok none => fault opening .unterminatedIndexer
  | .ok (some c) =>
    if c = ']' then .ok (key, pos + c.utf8Size)
    else if c = '\\' then
      match _escaped : peek whole (pos + c.utf8Size) with
      | .error failure => .error failure
      | .ok none => lexKey whole opening (key ++ ['\\']) (pos + c.utf8Size)
      | .ok (some d) =>
        if isKeyEscapable d then lexKey whole opening (key ++ [d]) (pos + c.utf8Size + d.utf8Size)
        else lexKey whole opening (key ++ ['\\']) (pos + c.utf8Size)
    else lexKey whole opening (key ++ [c]) (pos + c.utf8Size)
termination_by Text.size whole - pos
decreasing_by
  · exact left_lt _next
  · exact (left_lt _escaped).trans (left_lt _next)
  · exact left_lt _next
  · exact left_lt _next

def lexIndexer (whole : Text) (pos : Nat) : Except Failure (List Token × Nat) := do
  let start ← bump whole pos
  let (key, next) ← lexKey whole pos [] start
  return ([⟨.indexerOpen, ['['], pos⟩, ⟨.literal, key.trim, start⟩, ⟨.indexerClose, [']'], next - 1⟩], next)

theorem lexKey_nil (opening : Nat) (key : Text) :
    lexKey whole opening key (Text.offset whole []) = fault opening .unterminatedIndexer := by
  rw [lexKey]
  split <;> rename_i hpeek <;> rw [peek_offset List.nil_suffix] at hpeek <;> cases hpeek

theorem lexKey_cons (opening : Nat) (key : Text) (h : c :: t <:+ whole) :
    lexKey whole opening key (Text.offset whole (c :: t)) =
      if c = ']' then .ok (key, Text.offset whole t)
      else if c = '\\' then
        match t with
        | [] => lexKey whole opening (key ++ ['\\']) (Text.offset whole [])
        | d :: u =>
          if isKeyEscapable d then lexKey whole opening (key ++ [d]) (Text.offset whole u)
          else lexKey whole opening (key ++ ['\\']) (Text.offset whole (d :: u))
      else lexKey whole opening (key ++ [c]) (Text.offset whole t) := by
  have ht := (List.suffix_cons c t).trans h
  rw [lexKey]
  split <;> rename_i hpeek <;> rw [peek_offset h] at hpeek <;> cases hpeek
  rw [offset_cons h]
  congr 2
  cases t with
  | nil => split <;> rename_i hpeek <;> rw [peek_offset ht] at hpeek <;> cases hpeek
  | cons d u =>
      split <;> rename_i hpeek <;> rw [peek_offset ht] at hpeek <;> cases hpeek
      rw [offset_cons ht]

theorem lexKey_offset (opening : Nat) (key : Text) (h : t <:+ whole) :
    lexKey whole opening key (Text.offset whole t) =
      match scanKey? t with
      | none => fault opening .unterminatedIndexer
      | some (more, rest) => .ok (key ++ more, Text.offset whole rest) := by
  fun_induction scanKey? t generalizing key with
  | case1 => exact lexKey_nil opening key
  | case2 t => simp [lexKey_cons opening key h]
  | case3 c t hescapable ih =>
      have ht := (List.suffix_cons c t).trans ((List.suffix_cons '\\' (c :: t)).trans h)
      have hround : lexKey whole opening key (Text.offset whole ('\\' :: c :: t)) =
          lexKey whole opening (key ++ [c]) (Text.offset whole t) := by simp [lexKey_cons opening key h, hescapable]
      rw [hround, ih _ ht]
      cases scanKey? t <;> simp
  | case4 c t hplain ih =>
      have ht := (List.suffix_cons '\\' (c :: t)).trans h
      have hround : lexKey whole opening key (Text.offset whole ('\\' :: c :: t)) =
          lexKey whole opening (key ++ ['\\']) (Text.offset whole (c :: t)) := by
        simp [lexKey_cons opening key h, hplain]
      rw [hround, ih _ ht]
      cases scanKey? (c :: t) <;> simp
  | case5 c t hclose hescape ih =>
      have hround : lexKey whole opening key (Text.offset whole (c :: t)) =
          lexKey whole opening (key ++ [c]) (Text.offset whole t) := by
        rw [lexKey_cons opening key h, if_neg fun hequal => hclose hequal]
        split
        · -- A backslash that no character follows.
          rename_i hslash
          subst hslash
          cases t with
          | nil => rfl
          | cons d u => exact absurd rfl (hescape d u rfl)
        · rfl
      rw [hround, ih _ ((List.suffix_cons c t).trans h)]
      cases scanKey? t <;> simp

end Indexers

section Values

variable {whole t : Text} {c : Char}

/-- A value at its end: its characters, their bytes up to the last that counts, its marker and the cursor. -/
structure RawValue where
  characters : Text
  kept : Nat
  marker : Option Nat
  next : Nat

def beginsMarker (whole : Text) (c : Char) (pos : Nat) : Except Failure Bool :=
  if c = '/' then (rest whole pos).map endsValue else .ok false

def lexMarks (whole characters : Text) (kept pos : Nat) : Except Failure RawValue :=
  match _next : peek whole pos with
  | .error failure => .error failure
  | .ok none => .ok ⟨characters, kept, none, pos⟩
  | .ok (some c) =>
    if isDelimiter c then .ok ⟨characters, kept, none, pos⟩
    else if c = '(' then fault pos .unescapedParenthesis
    else if c = '\\' then
      match _escaped : peek whole (pos + c.utf8Size) with
      | .error failure => .error failure
      | .ok none =>
        let more := characters ++ ['\\']
        lexMarks whole more (Text.size more) (pos + c.utf8Size)
      | .ok (some d) =>
        let more := characters ++ if isEscapable d then [d] else ['\\', d]
        lexMarks whole more (Text.size more) (pos + c.utf8Size + d.utf8Size)
    else
      match beginsMarker whole c pos with
      | .error failure => .error failure
      | .ok true =>
        (skipWhile whole Text.isBlank (pos + 2)).map fun next => ⟨characters, kept, some pos, next⟩
      | .ok false =>
        let more := characters ++ [c]
        lexMarks whole more (if Text.isBlank c then kept else Text.size more) (pos + c.utf8Size)
termination_by Text.size whole - pos
decreasing_by
  · exact left_lt _next
  · exact (left_lt _escaped).trans (left_lt _next)
  · exact left_lt _next

/-- The characters of a value end behind the last that counts, which is a cut at a byte as well. -/
def lexValue (whole : Text) (pos : Nat) : Except Failure (List Token × Nat) := do
  let start ← skipWhile whole Text.isBlank pos
  let raw ← lexMarks whole [] 0 start
  let text ← slice raw.characters 0 raw.kept
  let marker := raw.marker.toList.map fun pos => ⟨.caseInsensitive, ['/', 'i'], pos⟩
  return (⟨.literal, text, start⟩ :: marker, raw.next)

theorem significant_counts (marks : List Mark) (c : Char) :
    significant (marks ++ [(c, true)]) = (marks ++ [(c, true)]).map Prod.fst := by
  simp [significant]

theorem significant_blank (marks : List Mark) (c : Char) :
    significant (marks ++ [(c, false)]) = significant marks := by
  simp [significant]

def escapedMarks (c : Char) : List Mark := if isEscapable c then [(c, true)] else [('\\', true), (c, true)]

theorem significant_escapedMarks (marks : List Mark) (c : Char) :
    significant (marks ++ escapedMarks c) = (marks ++ escapedMarks c).map Prod.fst := by
  have hboth := significant_counts (marks ++ [('\\', true)]) c
  rw [List.append_assoc, List.singleton_append] at hboth
  unfold escapedMarks
  split
  · exact significant_counts marks c
  · exact hboth

theorem significant_prefix (marks : List Mark) : significant marks <+: marks.map Prod.fst := by
  apply List.IsPrefix.map
  rw [← List.reverse_suffix, List.reverse_reverse]
  exact List.dropWhile_suffix _

def rawValue (whole : Text) (marks : List Mark) (t : Text) : RawValue where
  characters := marks.map Prod.fst
  kept := Text.size (significant marks)
  marker := if endsValue t then some (Text.offset whole t) else none
  next := Text.offset whole (if endsValue t then Text.skipBlanks (t.drop 2) else t)

theorem beginsMarker_offset (h : c :: t <:+ whole) :
    beginsMarker whole c (Text.offset whole (c :: t)) = .ok (endsValue (c :: t)) := by
  unfold beginsMarker
  split
  · rw [rest_offset h]
    rfl
  · rename_i hslash
    rw [endsValue_cons_of_ne hslash]

theorem rawValue_of_not_endsValue (marks : List Mark) (hends : endsValue t = false) :
    rawValue whole marks t =
      ⟨marks.map Prod.fst, Text.size (significant marks), none, Text.offset whole t⟩ := by
  simp [rawValue, hends]

theorem lexMarks_nil (characters : Text) (kept : Nat) :
    lexMarks whole characters kept (Text.offset whole []) = .ok ⟨characters, kept, none, Text.offset whole []⟩ := by
  rw [lexMarks]
  split <;> rename_i hpeek <;> rw [peek_offset List.nil_suffix] at hpeek <;> cases hpeek

theorem lexMarks_backslash_nil (marks : List Mark) (h : ['\\'] <:+ whole) :
    lexMarks whole (marks.map Prod.fst) (Text.size (significant marks)) (Text.offset whole ['\\']) =
      .ok (rawValue whole (marks ++ [('\\', true)]) []) := by
  have hends : endsValue [] = false := rfl
  rw [lexMarks]
  split <;> rename_i hpeek <;> rw [peek_offset h] at hpeek <;> cases hpeek
  rw [if_neg (by decide), if_neg (by decide), if_pos rfl, offset_cons h]
  split <;> rename_i hpeek <;> rw [peek_offset List.nil_suffix] at hpeek <;> cases hpeek
  simp [lexMarks_nil, rawValue_of_not_endsValue _ hends, significant_counts]

theorem lexMarks_backslash (marks : List Mark) (h : '\\' :: c :: t <:+ whole) :
    let more := marks ++ escapedMarks c
    lexMarks whole (marks.map Prod.fst) (Text.size (significant marks)) (Text.offset whole ('\\' :: c :: t)) =
      lexMarks whole (more.map Prod.fst) (Text.size (significant more)) (Text.offset whole t) := by
  have hnext := (List.suffix_cons '\\' (c :: t)).trans h
  rw [lexMarks]
  split <;> rename_i hpeek <;> rw [peek_offset h] at hpeek <;> cases hpeek
  rw [if_neg (by decide), if_neg (by decide), if_pos rfl, offset_cons h]
  split <;> rename_i hpeek <;> rw [peek_offset hnext] at hpeek <;> cases hpeek
  have hcharacters : (escapedMarks c).map Prod.fst = if isEscapable c then [c] else ['\\', c] := by
    unfold escapedMarks
    split <;> rfl
  dsimp only
  rw [offset_cons hnext, significant_escapedMarks, List.map_append, hcharacters]

theorem lexMarks_plain (marks : List Mark) (hslash : c ≠ '\\') (h : c :: t <:+ whole) :
    lexMarks whole (marks.map Prod.fst) (Text.size (significant marks)) (Text.offset whole (c :: t)) =
      if isDelimiter c || endsValue (c :: t) then .ok (rawValue whole marks (c :: t))
      else if c = '(' then fault (Text.offset whole (c :: t)) .unescapedParenthesis
      else
        let more := marks ++ [(c, !Text.isBlank c)]
        lexMarks whole (more.map Prod.fst) (Text.size (significant more)) (Text.offset whole t) := by
  rw [lexMarks]
  split <;> rename_i hpeek <;> rw [peek_offset h] at hpeek <;> cases hpeek
  rw [offset_cons h, beginsMarker_offset h, if_neg hslash]
  by_cases hdelimiter : isDelimiter c = true
  · have hends : endsValue (c :: t) = false := by
      apply endsValue_cons_of_ne
      rintro rfl
      exact absurd hdelimiter (by decide)
    rw [if_pos hdelimiter, hdelimiter, Bool.true_or, if_pos rfl, rawValue_of_not_endsValue marks hends]
  rw [if_neg hdelimiter, Bool.eq_false_iff.2 hdelimiter, Bool.false_or]
  cases hends : endsValue (c :: t) with
  | true =>
      obtain ⟨u, hu⟩ := endsValue_cons_slash hends
      cases hu
      have hu := (List.suffix_append ['/', 'i'] u).trans h
      rw [if_neg (by decide), if_pos rfl, offset_marker h, skipBlanks_offset hu]
      simp [rawValue, hends, Except.map]
  | false =>
      rw [if_neg (by decide : ¬false = true)]
      split
      · rfl
      · cases hblank : Text.isBlank c <;> simp [significant_counts, significant_blank]

theorem lexMarks_offset (marks : List Mark) (h : t <:+ whole) :
    lexMarks whole (marks.map Prod.fst) (Text.size (significant marks)) (Text.offset whole t) =
      match scanMarks t with
      | .error f => placedFault whole f
      | .ok (more, rest) => .ok (rawValue whole (marks ++ more) rest) := by
  fun_induction scanMarks t generalizing marks with
  | case1 =>
      have hends : endsValue [] = false := rfl
      simp [lexMarks_nil, rawValue_of_not_endsValue marks hends]
  | case2 => exact lexMarks_backslash_nil marks h
  | case3 c t ih =>
      have ht := (List.suffix_cons c t).trans ((List.suffix_cons '\\' (c :: t)).trans h)
      rw [lexMarks_backslash marks h, ih _ ht]
      cases hescapable : isEscapable c <;> cases scanMarks t <;> simp [Except.map, escapedMarks, hescapable]
  | case4 c t hlone hescape hstop =>
      rw [lexMarks_plain marks (ne_backslash hlone hescape) h, if_pos hstop]
      simp
  | case5 t hlone hescape hgoesOn =>
      rw [lexMarks_plain marks (by decide) h, if_neg hgoesOn, if_pos rfl]
      rfl
  | case6 c t hlone hescape hgoesOn hparen ih =>
      have ht := (List.suffix_cons c t).trans h
      rw [lexMarks_plain marks (ne_backslash hlone hescape) h, if_neg hgoesOn, if_neg hparen]
      dsimp only
      rw [ih _ ht]
      cases scanMarks t <;> simp [Except.map]

/-- The bytes up to the last character that counts are those of whole characters. -/
theorem slice_rawValue (marks : List Mark) (behind : Text) :
    slice (rawValue whole marks behind).characters 0 (rawValue whole marks behind).kept = .ok (significant marks) := by
  obtain ⟨dropped, hdropped⟩ := significant_prefix marks
  rw [rawValue, ← hdropped]
  have hkept := @slice_offset (significant marks ++ dropped) dropped (significant marks) (List.suffix_refl _)
  rw [Text.offset_append] at hkept
  simpa [Text.offset] using hkept

theorem lexValue_offset (h : t <:+ whole) :
    lexValue whole (Text.offset whole t) = placed whole Text.skipBlanks (scanValue t) := by
  have hloop : lexMarks whole [] 0 (Text.offset whole (Text.skipBlanks t)) = _ :=
    lexMarks_offset [] ((Text.skipBlanks_suffix t).trans h)
  rw [lexValue, skipBlanks_offset h, ok_bind, hloop]
  cases hmarks : scanMarks (Text.skipBlanks t) with
  | error f =>
      simp only [scanValue, hmarks, error_bind]
      rfl
  | ok found =>
      obtain ⟨marks, behind⟩ := found
      have hstops := stops_of_scanMarks hmarks
      simp only [scanValue, hmarks, ok_bind, List.nil_append, slice_rawValue]
      cases hends : endsValue behind with
      | true => simp [rawValue, hends, placed, Lexeme.place, pure, Except.pure]
      | false => simp [rawValue, hends, placed, Lexeme.place, hstops.skipBlanks_eq, pure, Except.pure]

end Values

end FilterLang.Token.Cursor
