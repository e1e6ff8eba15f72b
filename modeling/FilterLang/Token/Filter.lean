import FilterLang.Token.Indexer

/-!
Scanning filters. A field name is followed by its indexer, its case marker, an operator and a
value; the value runs to the next delimiter that no backslash precedes, and blanks around it do not
count.
-/

namespace FilterLang.Token

/-- The built-in operator symbols; each comes before the symbols that it begins with. -/
def builtInSymbols : List Text :=
  ["!=", ">=", "<=", "=*", "!*", "!^", "!$", "=", ">", "<", "^", "$", "*"]

/-- Whether `/i`, blanks and then a delimiter or the end stand at the start. -/
def endsValue : Text → Bool
  | '/' :: 'i' :: t =>
    match Text.skipBlanks t with
    | [] => true
    | c :: _ => isDelimiter c
  | _ => false

def endsField : Text → Bool
  | '/' :: 'i' :: t =>
    match Text.skipBlanks t with
    | [] => false
    | c :: _ => isOperatorStart c
  | _ => false

def longestSymbol? (symbols : List Text) (t : Text) : Option Text :=
  (symbols.filter (·.isPrefixOf t)).foldl (fun best symbol =>
    match best with
    | some other => if Text.size symbol < Text.size other then best else some symbol
    | none => some symbol) none

def symbolAt (symbols : List Text) (t : Text) : Except Lexeme.Fault Text :=
  if t.head? = some '#' then
    match longestSymbol? symbols t with
    | some symbol => .ok symbol
    | none => .error ⟨.unregisteredOperator, t⟩
  else
    match builtInSymbols.find? (·.isPrefixOf t) with
    | some symbol => .ok symbol
    | none => .error ⟨.unknownOperator, t⟩

/-- A character of a value, and whether it counts: an escaped one does, a plain blank does not. -/
abbrev Mark := Char × Bool

def scanMarks : Text → Except Lexeme.Fault (List Mark × Text)
  | [] => .ok ([], [])
  | ['\\'] => .ok ([('\\', true)], [])
  | '\\' :: c :: t =>
    (scanMarks t).map fun (marks, rest) =>
      (if isEscapable c then (c, true) :: marks else ('\\', true) :: (c, true) :: marks, rest)
  | c :: t =>
    if isDelimiter c || endsValue (c :: t) then .ok ([], c :: t)
    else if c = '(' then .error ⟨.unescapedParenthesis, c :: t⟩
    else (scanMarks t).map fun (marks, rest) => ((c, !Text.isBlank c) :: marks, rest)

def significant (marks : List Mark) : Text :=
  ((marks.reverse.dropWhile fun mark => !mark.2).reverse).map Prod.fst

def scanValue (t : Text) : Except Lexeme.Fault (List Lexeme × Text) := do
  let start := Text.skipBlanks t
  let (marks, rest) ← scanMarks start
  let value : Lexeme := ⟨.literal, significant marks, start⟩
  if endsValue rest then .ok ([value, ⟨.caseInsensitive, ['/', 'i'], rest⟩], rest.drop 2)
  else .ok ([value], rest)

def scanComparison (symbols : List Text) (t : Text) : Except Lexeme.Fault (List Lexeme × Text) := do
  let symbol ← symbolAt symbols t
  let (value, rest) ← scanValue (t.drop symbol.length)
  return (⟨.operator, symbol, t⟩ :: value, rest)

def scanIndexer? (t : Text) : Except Lexeme.Fault (List Lexeme × Text) :=
  if t.head? = some '[' then (scanIndexer t).map fun (ls, rest) => (ls, Text.skipBlanks rest)
  else .ok ([], t)

def scanFieldMarker? (name t : Text) : Except Lexeme.Fault (List Lexeme × Text) :=
  if t.head? = some '/' then
    if endsField t then .ok ([⟨.caseInsensitive, ['/', 'i'], t⟩], Text.skipBlanks (t.drop 2))
    else .error ⟨.strayMarker name, t⟩
  else .ok ([], t)

/-- What follows the parts of a field: a comparison, or an end that the parser will report. -/
def scanRest (symbols : List Text) (t : Text) : Except Lexeme.Fault (List Lexeme × Text) :=
  match t with
  | [] => .ok ([], [])
  | c :: _ =>
    if isDelimiter c || c = '(' then .ok ([], t)
    else if isOperatorStart c then scanComparison symbols t
    else .error ⟨.unexpectedCharacter c, t⟩

def scanField (symbols : List Text) (t : Text) : Except Lexeme.Fault (List Lexeme × Text) := do
  let name := t.takeWhile isFieldChar
  let (indexer, rest) ← scanIndexer? (Text.skipBlanks (t.dropWhile isFieldChar))
  let (marker, rest) ← scanFieldMarker? name rest
  let (comparison, rest) ← scanRest symbols rest
  return (⟨.identifier, name, t⟩ :: indexer ++ marker ++ comparison, rest)

def punctuation? : Char → Option Kind
  | '(' => some .openParen
  | ')' => some .closeParen
  | ',' => some .and
  | '|' => some .or
  | _ => none

def scanItem (symbols : List Text) (c : Char) (t : Text) :
    Except Lexeme.Fault (List Lexeme × Text) :=
  match punctuation? c with
  | some kind => .ok ([⟨kind, [c], c :: t⟩], t)
  | none =>
    if isFieldChar c then scanField symbols (c :: t)
    else if isOperatorStart c then scanComparison symbols (c :: t)
    else .error ⟨.unexpectedCharacter c, c :: t⟩

theorem endsValue_cons_slash {t : Text} (h : endsValue t = true) : ∃ u, t = '/' :: 'i' :: u := by
  unfold endsValue at h
  split at h
  · exact ⟨_, rfl⟩
  · cases h

theorem scanMarks_suffix {t rest : Text} {marks : List Mark}
    (h : scanMarks t = .ok (marks, rest)) : rest <:+ t := by
  fun_induction scanMarks t generalizing marks rest with
  | case1 => cases h; exact List.suffix_refl _
  | case2 => cases h; exact List.nil_suffix
  | case3 c t ih =>
    rcases scanned : scanMarks t with _ | ⟨ms, r⟩ <;> rw [scanned] at h <;> cases h
    exact (ih scanned).trans ((List.suffix_cons c t).trans (List.suffix_cons _ _))
  | case4 c t _ _ _ => cases h; exact List.suffix_refl _
  | case5 t => cases h
  | case6 c t _ _ _ _ ih =>
    rcases scanned : scanMarks t with _ | ⟨ms, r⟩ <;> rw [scanned] at h <;> cases h
    exact (ih scanned).trans (List.suffix_cons c t)

theorem scanValue_suffix {t rest : Text} {ls : List Lexeme}
    (h : scanValue t = .ok (ls, rest)) : rest <:+ t := by
  unfold scanValue at h
  rcases scanned : scanMarks (Text.skipBlanks t) with _ | ⟨ms, r⟩ <;>
    simp only [scanned, bind, Except.bind] at h
  · cases h
  · have before := (scanMarks_suffix scanned).trans (Text.skipBlanks_suffix t)
    split at h <;> cases h
    · exact (List.drop_suffix _ _).trans before
    · exact before

theorem scanComparison_suffix {symbols : List Text} {t rest : Text} {ls : List Lexeme}
    (h : scanComparison symbols t = .ok (ls, rest)) : rest <:+ t := by
  unfold scanComparison at h
  rcases at_ : symbolAt symbols t with _ | symbol <;> simp only [at_, bind, Except.bind] at h
  · cases h
  · rcases scanned : scanValue (t.drop symbol.length) with _ | ⟨vs, r⟩ <;>
      simp only [scanned] at h <;> cases h
    exact (scanValue_suffix scanned).trans (List.drop_suffix _ _)

private theorem skipBlanks_operatorStart {c : Char} {t : Text} (h : isOperatorStart c = true) :
    Text.skipBlanks (c :: t) = c :: t := by
  simp only [isOperatorStart, List.contains_eq_mem, List.mem_cons, List.not_mem_nil, or_false,
    decide_eq_true_eq] at h
  rcases h with rfl | rfl | rfl | rfl | rfl | rfl | rfl | rfl <;> rfl

private theorem scanMarks_operatorStart {c : Char} {t rest : Text} {marks : List Mark}
    (start : isOperatorStart c = true) (h : scanMarks (c :: t) = .ok (marks, rest)) :
    rest <:+ t := by
  have plain : scanMarks (c :: t) =
      (scanMarks t).map fun (marks, rest) => ((c, !Text.isBlank c) :: marks, rest) := by
    simp only [isOperatorStart, List.contains_eq_mem, List.mem_cons, List.not_mem_nil, or_false,
      decide_eq_true_eq] at start
    rcases start with rfl | rfl | rfl | rfl | rfl | rfl | rfl | rfl <;> cases t <;> rfl
  rw [plain] at h
  rcases scanned : scanMarks t with _ | ⟨ms, r⟩ <;> rw [scanned] at h <;> cases h
  exact scanMarks_suffix scanned

private theorem scanValue_operatorStart {c : Char} {t rest : Text} {ls : List Lexeme}
    (start : isOperatorStart c = true) (h : scanValue (c :: t) = .ok (ls, rest)) : rest <:+ t := by
  unfold scanValue at h
  rw [skipBlanks_operatorStart start] at h
  rcases scanned : scanMarks (c :: t) with _ | ⟨ms, r⟩ <;> simp only [scanned, bind, Except.bind] at h
  · cases h
  · have before := scanMarks_operatorStart start scanned
    split at h <;> cases h
    · exact (List.drop_suffix _ _).trans before
    · exact before

/-- Even an empty symbol does not keep a comparison from taking up its first character. -/
theorem scanComparison_tail {symbols : List Text} {c : Char} {t rest : Text} {ls : List Lexeme}
    (start : isOperatorStart c = true) (h : scanComparison symbols (c :: t) = .ok (ls, rest)) :
    rest <:+ t := by
  unfold scanComparison at h
  rcases found : symbolAt symbols (c :: t) with _ | symbol <;> simp only [found, bind, Except.bind] at h
  · cases h
  · rcases scanned : scanValue ((c :: t).drop symbol.length) with _ | ⟨vs, r⟩ <;>
      simp only [scanned] at h <;> cases h
    cases symbol with
    | nil => exact scanValue_operatorStart start scanned
    | cons d symbol => exact (scanValue_suffix scanned).trans (List.drop_suffix symbol.length t)

theorem scanIndexer?_suffix {t rest : Text} {ls : List Lexeme}
    (h : scanIndexer? t = .ok (ls, rest)) : rest <:+ t := by
  unfold scanIndexer? at h
  split at h
  · rcases scanned : scanIndexer t with _ | ⟨ls, r⟩ <;> rw [scanned] at h <;> cases h
    exact (Text.skipBlanks_suffix _).trans (scanIndexer_suffix scanned)
  · cases h; exact List.suffix_refl _

theorem scanFieldMarker?_suffix {name t rest : Text} {ls : List Lexeme}
    (h : scanFieldMarker? name t = .ok (ls, rest)) : rest <:+ t := by
  unfold scanFieldMarker? at h
  split at h
  · split at h <;> cases h
    exact (Text.skipBlanks_suffix _).trans (List.drop_suffix _ _)
  · cases h; exact List.suffix_refl _

theorem scanRest_suffix {symbols : List Text} {t rest : Text} {ls : List Lexeme}
    (h : scanRest symbols t = .ok (ls, rest)) : rest <:+ t := by
  unfold scanRest at h
  split at h
  · cases h; exact List.suffix_refl _
  · split at h
    · cases h; exact List.suffix_refl _
    · split at h
      · exact scanComparison_suffix h
      · cases h

theorem scanField_suffix {symbols : List Text} {t rest : Text} {ls : List Lexeme}
    (h : scanField symbols t = .ok (ls, rest)) : rest <:+ t.dropWhile isFieldChar := by
  unfold scanField at h
  rcases indexer : scanIndexer? (Text.skipBlanks (t.dropWhile isFieldChar)) with _ | ⟨is, r₁⟩ <;>
    simp only [indexer, bind, Except.bind] at h
  · cases h
  rcases marker : scanFieldMarker? (t.takeWhile isFieldChar) r₁ with _ | ⟨ms, r₂⟩ <;>
    simp only [marker] at h
  · cases h
  rcases comparison : scanRest symbols r₂ with _ | ⟨cs, r₃⟩ <;> simp only [comparison] at h <;> cases h
  exact (scanRest_suffix comparison).trans ((scanFieldMarker?_suffix marker).trans
    ((scanIndexer?_suffix indexer).trans (Text.skipBlanks_suffix _)))

theorem scanItem_suffix {symbols : List Text} {c : Char} {t rest : Text} {ls : List Lexeme}
    (h : scanItem symbols c t = .ok (ls, rest)) : rest <:+ t := by
  unfold scanItem at h
  split at h
  · cases h; exact List.suffix_refl _
  · split at h
    · next field =>
      have after := scanField_suffix h
      rw [List.dropWhile_cons_of_pos field] at after
      exact after.trans (List.dropWhile_suffix _)
    · split at h
      · next start => exact scanComparison_tail start h
      · cases h

def scan (symbols : List Text) (t : Text) : Except Lexeme.Fault (List Lexeme) :=
  match _blanks : Text.skipBlanks t with
  | [] => .ok []
  | c :: u =>
    match _item : scanItem symbols c u with
    | .error fault => .error fault
    | .ok (ls, rest) => (scan symbols rest).map (ls ++ ·)
termination_by t.length
decreasing_by
  have whole := (Text.skipBlanks_suffix t).length_le
  have part := (scanItem_suffix _item).length_le
  rw [_blanks] at whole
  exact Nat.lt_of_lt_of_le (Nat.lt_succ_of_le part) whole

end FilterLang.Token
