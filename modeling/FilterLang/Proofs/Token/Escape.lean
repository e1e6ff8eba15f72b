import FilterLang.Proofs.Text.Trim
import FilterLang.Proofs.Token.Word

/-!
Escaped values and keys are scanned back as they were, whatever operator comes before them and
whatever delimiter or case marker after them.
-/

namespace FilterLang.Token

def escapeAll (special : Char → Bool) (t : Text) : Text := t.flatMap fun c => if special c then ['\\', c] else [c]

def escapeKey : Text → Text := escapeAll fun c => isEscapable c || c == ']'

def markerText : Bool → Text
  | false => []
  | true => ['/', 'i']

theorem isBlank_of_isFieldChar {c : Char} (h : isFieldChar c = true) : Text.isBlank c = false := by
  simp only [isFieldChar, Bool.or_eq_true, beq_iff_eq] at h
  rcases h with (h | rfl) | rfl
  · exact Text.isBlank_of_isAlphanumeric h
  · decide
  · decide

theorem isOperatorStart_cases {c : Char} (h : isOperatorStart c = true) :
    c = '=' ∨ c = '!' ∨ c = '<' ∨ c = '>' ∨ c = '^' ∨ c = '$' ∨ c = '*' ∨ c = '#' := by
  simpa [isOperatorStart] using h

theorem isBlank_of_isOperatorStart {c : Char} (h : isOperatorStart c = true) :
    Text.isBlank c = false := by
  rcases isOperatorStart_cases h with rfl | rfl | rfl | rfl | rfl | rfl | rfl | rfl <;> rfl

theorem isFieldChar_of_isOperatorStart {c : Char} (h : isOperatorStart c = true) :
    isFieldChar c = false := by
  rcases isOperatorStart_cases h with rfl | rfl | rfl | rfl | rfl | rfl | rfl | rfl <;> rfl

theorem isDelimiter_cases {c : Char} (h : isDelimiter c = true) : c = ',' ∨ c = '|' ∨ c = ')' := by
  simpa [isDelimiter] using h

theorem isBlank_of_isDelimiter {c : Char} (h : isDelimiter c = true) : Text.isBlank c = false := by
  rcases isDelimiter_cases h with rfl | rfl | rfl <;> rfl

theorem isDelimiter_of_not_isEscapable {c : Char} (h : isEscapable c = false) :
    isDelimiter c = false := by
  cases hdelimiter : isDelimiter c with
  | false => rfl
  | true => rcases isDelimiter_cases hdelimiter with rfl | rfl | rfl <;> cases h

theorem ne_of_not_isEscapable {c d : Char} (h : isEscapable c = false) (hd : isEscapable d = true) :
    c ≠ d := by
  intro hequal
  rw [hequal, hd] at h
  cases h

theorem isBlank_of_isEscapable {c : Char} (h : isEscapable c = true) : Text.isBlank c = false := by
  have hnone : [',', '|', '(', ')', '=', '!', '<', '>', '^', '$', '*', '/', '\\'].any Text.isBlank =
      false := by decide
  exact Bool.eq_false_iff.2 (List.any_eq_false.1 hnone c (List.contains_iff_mem.1 h))

theorem isEscapable_of_isBlank {c : Char} (h : Text.isBlank c = true) : isEscapable c = false := by
  cases hescapable : isEscapable c with
  | false => rfl
  | true =>
      rw [isBlank_of_isEscapable hescapable] at h
      cases h

def Ended (rest : Text) : Prop := ∀ c ∈ rest.head?, isDelimiter c = true

theorem ended_nil : Ended [] := by simp [Ended]

theorem ended_cons {c : Char} {t : Text} (h : isDelimiter c = true) : Ended (c :: t) := by
  simp [Ended, h]

theorem endsValue_cons_of_ne {c : Char} {t : Text} (h : c ≠ '/') : endsValue (c :: t) = false := by
  cases hends : endsValue (c :: t) with
  | false => rfl
  | true =>
      obtain ⟨u, hslash⟩ := endsValue_cons_slash hends
      exact absurd (List.cons.inj hslash).1 h

theorem endsValue_markerText {rest : Text} (marked : Bool) (h : Ended rest) :
    endsValue (markerText marked ++ rest) = marked := by
  cases rest with
  | nil => cases marked <;> rfl
  | cons c t =>
      have hdelimiter : isDelimiter c = true := h c rfl
      cases marked with
      | false =>
          apply endsValue_cons_of_ne
          rintro rfl
          exact absurd hdelimiter (by decide)
      | true =>
          simp only [markerText, List.cons_append, List.nil_append, endsValue]
          rw [Text.skipBlanks_cons (isBlank_of_isDelimiter hdelimiter)]
          exact hdelimiter

theorem scanMarks_stop {c : Char} {t : Text} (h : (isDelimiter c || endsValue (c :: t)) = true) :
    scanMarks (c :: t) = .ok ([], c :: t) := by
  have hplain : c ≠ '\\' := by
    rintro rfl
    rw [endsValue_cons_of_ne (by decide)] at h
    exact absurd h (by decide)
  unfold scanMarks
  split
  · rename_i hempty
    cases hempty
  · rename_i hlone
    exact absurd (List.cons.inj hlone).1 hplain
  · rename_i hescape
    exact absurd (List.cons.inj hescape).1 hplain
  · rename_i hcons
    obtain ⟨rfl, rfl⟩ := List.cons.inj hcons
    rw [if_pos h]

theorem scanMarks_end {rest : Text} (marked : Bool) (h : Ended rest) :
    scanMarks (markerText marked ++ rest) = .ok ([], markerText marked ++ rest) := by
  cases marked with
  | true =>
      have hends := endsValue_markerText true h
      simp only [markerText, List.cons_append, List.nil_append] at hends ⊢
      exact scanMarks_stop (by rw [hends, Bool.or_true])
  | false =>
      cases rest with
      | nil => rfl
      | cons c t => exact scanMarks_stop (by rw [h c rfl, Bool.true_or])

def mark (c : Char) : Mark := (c, isEscapable c || !Text.isBlank c)

theorem escapeAll_cons_of_special {special : Char → Bool} {c : Char} {t : Text} (h : special c = true) :
    escapeAll special (c :: t) = '\\' :: c :: escapeAll special t := by
  simp [escapeAll, h]

theorem escapeAll_cons_of_plain {special : Char → Bool} {c : Char} {t : Text} (h : special c = false) :
    escapeAll special (c :: t) = c :: escapeAll special t := by
  simp [escapeAll, h]

theorem escape_cons_of_escapable {c : Char} {v : Text} (h : isEscapable c = true) :
    escape (c :: v) = '\\' :: c :: escape v := escapeAll_cons_of_special h

theorem escape_cons_of_plain {c : Char} {v : Text} (h : isEscapable c = false) :
    escape (c :: v) = c :: escape v := escapeAll_cons_of_plain h

theorem scanMarks_escaped {c : Char} {t : Text} (h : isEscapable c = true) :
    scanMarks ('\\' :: c :: t) = (scanMarks t).map fun (marks, rest) => (mark c :: marks, rest) := by
  rw [scanMarks]
  simp only [h, ↓reduceIte, mark, Bool.true_or]

theorem scanMarks_plain {c : Char} {t : Text} (h : isEscapable c = false) :
    scanMarks (c :: t) = (scanMarks t).map fun (marks, rest) => (mark c :: marks, rest) := by
  have hends : (isDelimiter c || endsValue (c :: t)) = false := by
    rw [isDelimiter_of_not_isEscapable h,
      endsValue_cons_of_ne (ne_of_not_isEscapable h (by decide))]
    rfl
  have hparen : c ≠ '(' := ne_of_not_isEscapable h (by decide)
  have hslash : c ≠ '\\' := ne_of_not_isEscapable h (by decide)
  rw [scanMarks]
  · rw [hends]
    simp only [Bool.false_eq_true, ↓reduceIte, hparen, mark, h, Bool.false_or]
  · intro hequal
    exact absurd hequal hslash
  · intro _ _ hequal
    exact absurd hequal hslash

theorem scanMarks_escape {v rest : Text} (marked : Bool) (h : Ended rest) :
    scanMarks (escape v ++ (markerText marked ++ rest)) =
      .ok (v.map mark, markerText marked ++ rest) := by
  induction v with
  | nil => exact scanMarks_end marked h
  | cons c v ih =>
      cases hescapable : isEscapable c with
      | true =>
          rw [escape_cons_of_escapable hescapable, List.cons_append, List.cons_append,
            scanMarks_escaped hescapable, ih]
          rfl
      | false =>
          rw [escape_cons_of_plain hescapable, List.cons_append, scanMarks_plain hescapable, ih]
          rfl

theorem significant_map_mark (v : Text) : significant (v.map mark) = Text.dropBlanksAtEnd v := by
  have hcounts : (fun m : Mark => !m.2) ∘ mark = Text.isBlank := by
    funext c
    cases hescapable : isEscapable c with
    | true => simp [mark, hescapable, isBlank_of_isEscapable hescapable]
    | false => simp [mark, hescapable]
  have hchars : Prod.fst ∘ mark = id := rfl
  rw [significant, ← List.map_reverse, List.dropWhile_map, hcounts, ← List.map_reverse, List.map_map,
    hchars, List.map_id]
  rfl

theorem skipBlanks_escape {v rest : Text} (h : ∀ c ∈ rest.head?, Text.isBlank c = false) :
    Text.skipBlanks (escape v ++ rest) = escape (Text.skipBlanks v) ++ rest := by
  induction v with
  | nil => exact Text.skipBlanks_of_head h
  | cons c v ih =>
      cases hblank : Text.isBlank c with
      | true =>
          have hplain := isEscapable_of_isBlank hblank
          have hdropped : ∀ t : Text, Text.skipBlanks (c :: t) = Text.skipBlanks t := by
            intro t
            simp [Text.skipBlanks, hblank]
          rw [escape_cons_of_plain hplain, List.cons_append, hdropped, hdropped, ih]
      | false =>
          rw [Text.skipBlanks_cons hblank]
          apply Text.skipBlanks_of_head
          intro d hd
          cases hescapable : isEscapable c with
          | true =>
              rw [escape_cons_of_escapable hescapable] at hd
              cases hd
              decide
          | false =>
              rw [escape_cons_of_plain hescapable] at hd
              cases hd
              exact hblank

theorem head_markerText {rest : Text} {c : Char} (marked : Bool) (hrest : Ended rest)
    (hc : c ∈ (markerText marked ++ rest).head?) : Text.isBlank c = false ∧ c ∉ ['=', '*'] := by
  cases marked with
  | true =>
      cases hc
      decide
  | false => rcases isDelimiter_cases (hrest c hc) with rfl | rfl | rfl <;> decide

theorem head_escape {v rest : Text} {c : Char} (marked : Bool) (hrest : Ended rest)
    (hc : c ∈ (escape v ++ (markerText marked ++ rest)).head?) : c ∉ ['=', '*'] := by
  cases v with
  | nil => exact (head_markerText marked hrest hc).2
  | cons d v =>
      cases hescapable : isEscapable d with
      | true =>
          rw [escape_cons_of_escapable hescapable] at hc
          cases hc
          decide
      | false =>
          rw [escape_cons_of_plain hescapable] at hc
          cases hc
          intro hmem
          simp only [List.mem_cons, List.not_mem_nil, or_false] at hmem
          rcases hmem with rfl | rfl <;> cases hescapable

theorem scanValue_escape {v rest : Text} (marked : Bool) (hrest : Ended rest) :
    ∃ ls, scanValue (escape v ++ (markerText marked ++ rest)) = .ok (ls, rest) ∧
      ls.map Lexeme.word = (.literal, v.trim) :: markerWords marked := by
  have hstart := skipBlanks_escape (v := v) fun c hc => (head_markerText marked hrest hc).1
  unfold scanValue
  simp only [hstart, scanMarks_escape marked hrest, significant_map_mark, bind, Except.bind]
  rw [endsValue_markerText marked hrest]
  cases marked with
  | false => exact ⟨_, rfl, rfl⟩
  | true => exact ⟨_, rfl, rfl⟩

theorem symbolAt_builtIn (symbols : List Text) {symbol t : Text}
    (hsymbol : symbol ∈ builtInSymbols) (ht : ∀ c ∈ t.head?, c ∉ ['=', '*']) :
    symbolAt symbols (symbol ++ t) = .ok symbol := by
  simp only [builtInSymbols, List.mem_cons, List.not_mem_nil, or_false] at hsymbol
  cases t with
  | nil =>
      rcases hsymbol with
        rfl | rfl | rfl | rfl | rfl | rfl | rfl | rfl | rfl | rfl | rfl | rfl | rfl <;> rfl
  | cons c t =>
      have hc := ht c rfl
      simp only [List.mem_cons, List.not_mem_nil, or_false, not_or] at hc
      obtain ⟨hequals, hstar⟩ := hc
      have hnotEquals : ('=' == c) = false := beq_eq_false_iff_ne.2 (Ne.symm hequals)
      have hnotStar : ('*' == c) = false := beq_eq_false_iff_ne.2 (Ne.symm hstar)
      rcases hsymbol with
        rfl | rfl | rfl | rfl | rfl | rfl | rfl | rfl | rfl | rfl | rfl | rfl | rfl <;>
      simp [symbolAt, builtInSymbols, List.find?, List.isPrefixOf, hnotEquals, hnotStar]

theorem isOperatorStart_builtIn {symbol : Text} (h : symbol ∈ builtInSymbols) :
    ∃ c t, symbol = c :: t ∧ isOperatorStart c = true := by
  have hall : ∀ symbol ∈ builtInSymbols, symbol.head?.any isOperatorStart = true := by decide
  have hstart := hall symbol h
  cases symbol with
  | nil => cases hstart
  | cons c t => exact ⟨c, t, rfl, hstart⟩

theorem scanKey?_plain {c : Char} (hclose : c ≠ ']') (hslash : c ≠ '\\') (t : Text) :
    scanKey? (c :: t) = (scanKey? t).map fun (key, rest) => (c :: key, rest) := by
  rw [scanKey?]
  · exact fun hequal => hclose hequal
  · exact fun _ _ hequal => absurd hequal hslash

theorem scanKey?_backslash (c : Char) (t : Text) :
    scanKey? ('\\' :: c :: t) =
      (scanKey? t).map fun (key, rest) => (if isKeyEscapable c then c :: key else '\\' :: c :: key, rest) := by
  rw [scanKey?]
  by_cases hc : isKeyEscapable c = true
  · simp only [hc, ↓reduceIte]
  · have hclose : c ≠ ']' := by
      rintro rfl
      exact hc rfl
    have hslash : c ≠ '\\' := by
      rintro rfl
      exact hc rfl
    rw [if_neg hc, scanKey?_plain hclose hslash, Option.map_map]
    simp only [hc, Bool.false_eq_true, ↓reduceIte]
    rfl

/-- Whatever else is escaped, a key comes back if no backslash and no closing bracket stands for itself. -/
theorem scanKey?_escapeAll {special : Char → Bool} (hspecial : ∀ c, special c = true → isKeyEscapable c = true)
    (hslash : special '\\' = true) (hclose : special ']' = true) (key rest : Text) :
    scanKey? (escapeAll special key ++ ']' :: rest) = some (key, rest) := by
  induction key with
  | nil => rfl
  | cons c key ih =>
      cases hc : special c with
      | true =>
          rw [escapeAll_cons_of_special hc, List.cons_append, List.cons_append, scanKey?_backslash, ih]
          simp only [Option.map_some, hspecial c hc, ↓reduceIte]
      | false =>
          have hbracket : c ≠ ']' := by
            rintro rfl
            cases hclose.symm.trans hc
          have hbackslash : c ≠ '\\' := by
            rintro rfl
            cases hslash.symm.trans hc
          rw [escapeAll_cons_of_plain hc, List.cons_append, scanKey?_plain hbracket hbackslash, ih]
          rfl

theorem scanKey?_escapeKey (key rest : Text) : scanKey? (escapeKey key ++ ']' :: rest) = some (key, rest) := by
  refine scanKey?_escapeAll (fun c hc => ?_) (by decide) (by decide) key rest
  rw [isKeyEscapable, Bool.or_assoc, Bool.or_left_comm, hc, Bool.or_true]

end FilterLang.Token
