import FilterLang.Operator.Basic
import FilterLang.Proofs.Expr.Grammar
import FilterLang.Proofs.Text.Runs
import FilterLang.Proofs.Token.Escape
import FilterLang.Proofs.Token.Scanning

/-!
Filters written out as text, and what scanning makes of them. No blank is written that does not
belong to a key or a value, and a marker stands wherever case is ignored.
-/

namespace FilterLang

open Token

namespace Leaf

def indexerText : Option Text → Text
  | none => []
  | some key => '[' :: (escapeKey key ++ [']'])

def render (l : Leaf) : Text :=
  l.field ++ (indexerText l.indexer ++ (markerText l.fieldIgnoresCase ++
    (l.symbol ++ (escape l.value ++ markerText l.valueIgnoresCase))))

/-- What the scanner can give back: blanks around a key or a value are lost, escaped or not. -/
structure Writable (l : Leaf) : Prop where
  field_ne_nil : l.field ≠ []
  field_chars : ∀ c ∈ l.field, isFieldChar c = true
  key_trimmed : l.indexer.map Text.trim = l.indexer
  value_trimmed : l.value.trim = l.value
  builtIn : (Operator.builtIn? l.symbol).isSome = true

instance (l : Leaf) : Decidable l.Writable :=
  decidable_of_iff
    (l.field ≠ [] ∧ l.field.all isFieldChar = true ∧ l.indexer.map Text.trim = l.indexer ∧
      l.value.trim = l.value ∧ (Operator.builtIn? l.symbol).isSome = true)
    ⟨fun ⟨hfield, hchars, hkey, hvalue, hsymbol⟩ =>
        ⟨hfield, List.all_eq_true.1 hchars, hkey, hvalue, hsymbol⟩,
      fun h => ⟨h.field_ne_nil, List.all_eq_true.2 h.field_chars, h.key_trimmed, h.value_trimmed,
        h.builtIn⟩⟩

theorem Writable.emptied {l : Leaf} (h : l.Writable) : Writable { l with value := [] } where
  field_ne_nil := h.field_ne_nil
  field_chars := h.field_chars
  key_trimmed := h.key_trimmed
  value_trimmed := rfl
  builtIn := h.builtIn

end Leaf

def Expr.render : Expr → Text
  | leaf l => l.render
  | binary left connective right => left.render ++ (connective.symbol ++ right.render)
  | paren inner => '(' :: (inner.render ++ [')'])

namespace Token

theorem mem_builtInSymbols {symbol : Text} (h : (Operator.builtIn? symbol).isSome = true) :
    symbol ∈ builtInSymbols := by
  have hall : ∀ entry ∈ Operator.builtIns, entry.1 ∈ builtInSymbols := by decide
  unfold Operator.builtIn? at h
  split at h
  · rename_i hstar
    rw [hstar]
    decide
  · rw [Option.isSome_map, List.find?_isSome] at h
    obtain ⟨entry, hmem, hsymbol⟩ := h
    rw [← of_decide_eq_true hsymbol]
    exact hall entry hmem

def Operated (t : Text) : Prop := t.head?.any isOperatorStart = true

theorem operated_builtIn {symbol t : Text} (h : symbol ∈ builtInSymbols) : Operated (symbol ++ t) := by
  obtain ⟨c, u, rfl, hstart⟩ := isOperatorStart_builtIn h
  exact hstart

theorem scanComparison_escape (symbols : List Text) {symbol v rest : Text} (marked : Bool)
    (hsymbol : symbol ∈ builtInSymbols) (hrest : Ended rest) :
    ∃ ls, scanComparison symbols (symbol ++ (escape v ++ (markerText marked ++ rest))) =
      .ok (ls, rest) ∧
      ls.map Lexeme.word = (.operator, symbol) :: (.literal, v.trim) :: markerWords marked := by
  obtain ⟨ls, hvalue, hwords⟩ := scanValue_escape (v := v) marked hrest
  have hsymbolAt := symbolAt_builtIn symbols hsymbol fun c hc => head_escape (v := v) marked hrest hc
  unfold scanComparison
  simp only [hsymbolAt, List.drop_left, hvalue, bind, Except.bind]
  exact ⟨_, rfl, by rw [List.map_cons, hwords]; rfl⟩

theorem scanRest_operated {symbols : List Text} {t : Text} (h : Operated t) :
    scanRest symbols t = scanComparison symbols t := by
  cases t with
  | nil => cases h
  | cons c t =>
      have hstart : isOperatorStart c = true := h
      have hgoesOn : isDelimiter c = false ∧ c ≠ '(' := by
        rcases isOperatorStart_cases hstart with rfl | rfl | rfl | rfl | rfl | rfl | rfl | rfl <;> decide
      simp [scanRest, hgoesOn, hstart]

theorem scanFieldMarker?_marker (name : Text) {t : Text} (marked : Bool) (h : Operated t) :
    ∃ ls, scanFieldMarker? name (markerText marked ++ t) = .ok (ls, t) ∧
      ls.map Lexeme.word = markerWords marked := by
  cases t with
  | nil => cases h
  | cons c t =>
      have hstart : isOperatorStart c = true := h
      have hskip := Text.skipBlanks_cons (t := t) (isBlank_of_isOperatorStart hstart)
      cases marked with
      | true =>
          refine ⟨[⟨.caseInsensitive, ['/', 'i'], '/' :: 'i' :: c :: t⟩], ?_, rfl⟩
          simp only [scanFieldMarker?, markerText, List.cons_append, List.nil_append, List.head?_cons,
            ↓reduceIte, endsField, hskip, hstart, List.drop_succ_cons, List.drop_zero]
      | false =>
          have hslash : c ≠ '/' := by
            rintro rfl
            exact absurd hstart (by decide)
          refine ⟨[], ?_, rfl⟩
          simp [scanFieldMarker?, markerText, hslash]

theorem head_marker {t : Text} {c : Char} (marked : Bool) (h : Operated t)
    (hc : c ∈ (markerText marked ++ t).head?) :
    Text.isBlank c = false ∧ isFieldChar c = false ∧ c ≠ '[' := by
  cases marked with
  | true =>
      cases hc
      decide
  | false =>
      cases t with
      | nil => cases h
      | cons d t =>
          cases hc
          have hstart : isOperatorStart c = true := h
          refine ⟨isBlank_of_isOperatorStart hstart, isFieldChar_of_isOperatorStart hstart, ?_⟩
          rintro rfl
          exact absurd hstart (by decide)

theorem scanIndexer?_indexer {key : Option Text} {t : Text} (htrim : key.map Text.trim = key)
    (ht : ∀ c ∈ t.head?, Text.isBlank c = false ∧ isFieldChar c = false ∧ c ≠ '[') :
    ∃ ls, scanIndexer? (Leaf.indexerText key ++ t) = .ok (ls, t) ∧
      ls.map Lexeme.word = indexerWords key := by
  cases key with
  | none =>
      refine ⟨[], ?_, rfl⟩
      have hopen : t.head? ≠ some '[' := fun hopen => (ht '[' hopen).2.2 rfl
      simp [scanIndexer?, Leaf.indexerText, hopen]
  | some key =>
      have hskip := Text.skipBlanks_of_head fun c hc => (ht c hc).1
      have hkey : key.trim = key := by simpa using htrim
      simp only [Leaf.indexerText, List.cons_append, List.append_assoc, List.nil_append, scanIndexer?,
        List.head?_cons, ↓reduceIte, scanIndexer, List.tail_cons, scanKey?_escapeKey, Except.map, hskip]
      exact ⟨_, rfl, by simp only [List.map_cons, List.map_nil, Lexeme.word, hkey]; rfl⟩

theorem head_indexer (key : Option Text) {t : Text} {c : Char}
    (ht : ∀ c ∈ t.head?, Text.isBlank c = false ∧ isFieldChar c = false ∧ c ≠ '[')
    (hc : c ∈ (Leaf.indexerText key ++ t).head?) :
    Text.isBlank c = false ∧ isFieldChar c = false := by
  cases key with
  | none => exact ⟨(ht c hc).1, (ht c hc).2.1⟩
  | some key =>
      cases hc
      decide

theorem scanField_render (symbols : List Text) {l : Leaf} {rest : Text}
    (h : Leaf.Writable { l with value := [] }) (hrest : Ended rest) :
    ∃ ls, scanField symbols (l.render ++ rest) = .ok (ls, rest) ∧
      ls.map Lexeme.word = Leaf.words { l with value := l.value.trim } := by
  have hsymbol := mem_builtInSymbols h.builtIn
  obtain ⟨cs, hcomparison, hcs⟩ :=
    scanComparison_escape (v := l.value) symbols l.valueIgnoresCase hsymbol hrest
  have hoperated : Operated (l.symbol ++ (escape l.value ++ (markerText l.valueIgnoresCase ++ rest))) :=
    operated_builtIn hsymbol
  obtain ⟨ms, hmarker, hms⟩ :=
    scanFieldMarker?_marker l.field l.fieldIgnoresCase hoperated
  have hhead := fun c hc => head_marker (c := c) l.fieldIgnoresCase hoperated hc
  obtain ⟨is, hindexer, his⟩ := scanIndexer?_indexer h.key_trimmed hhead
  have hafter := fun c hc => head_indexer l.indexer (c := c) hhead hc
  unfold scanField
  simp only [Leaf.render, List.append_assoc]
  rw [Text.takeWhile_run h.field_chars fun c hc => (hafter c hc).2,
    Text.dropWhile_run h.field_chars fun c hc => (hafter c hc).2,
    Text.skipBlanks_of_head fun c hc => (hafter c hc).1]
  simp only [hindexer, hmarker, scanRest_operated hoperated, hcomparison, bind, Except.bind]
  refine ⟨_, rfl, ?_⟩
  rw [List.map_append, List.map_append, List.map_cons, his, hms, hcs, Leaf.words, List.append_assoc]
  rfl

theorem punctuation?_of_isFieldChar {c : Char} (h : isFieldChar c = true) : punctuation? c = none := by
  unfold punctuation?
  split <;> first | rfl | exact absurd h (by decide)

theorem scan_punctuation {symbols : List Text} {c : Char} {t : Text} {kind : Kind}
    (h : punctuation? c = some kind) :
    scan symbols (c :: t) = (scan symbols t).map ([⟨kind, [c], c :: t⟩] ++ ·) := by
  have hblank : Text.isBlank c = false := by
    unfold punctuation? at h
    split at h <;> first | decide | cases h
  exact scan_item hblank (by simp only [scanItem, h])

end Token

namespace Expr

theorem scan_leaf (symbols : List Text) {l : Leaf} {rest : Text}
    (h : Leaf.Writable { l with value := [] }) (hrest : Ended rest) :
    ∃ ls, ls.map Lexeme.word = Leaf.words { l with value := l.value.trim } ∧
      scan symbols (l.render ++ rest) = (scan symbols rest).map (ls ++ ·) := by
  obtain ⟨ls, hfield, hwords⟩ := scanField_render symbols h hrest
  obtain ⟨c, t, hcons⟩ := List.exists_cons_of_ne_nil h.field_ne_nil
  have hname : l.field = c :: t := hcons
  have hc : isFieldChar c = true := h.field_chars c (by rw [hcons]; exact List.mem_cons_self)
  refine ⟨ls, hwords, ?_⟩
  rw [Leaf.render, hname, List.cons_append, List.cons_append] at hfield ⊢
  apply scan_item (isBlank_of_isFieldChar hc)
  rw [scanItem, punctuation?_of_isFieldChar hc]
  simp only [hc, ↓reduceIte]
  exact hfield

/-- A written expression is scanned into its own words, however the text goes on after it. -/
theorem scan_render (symbols : List Text) {e : Expr} {rest : Text} (h : ∀ l ∈ e.leaves, l.Writable)
    (hrest : Ended rest) :
    ∃ ls, ls.map Lexeme.word = e.words ∧
      scan symbols (e.render ++ rest) = (scan symbols rest).map (ls ++ ·) := by
  induction e generalizing rest with
  | leaf l =>
      have hl := h l List.mem_cons_self
      obtain ⟨ls, hwords, hscan⟩ := scan_leaf symbols hl.emptied hrest
      rw [hl.value_trimmed] at hwords
      exact ⟨ls, hwords, hscan⟩
  | binary left connective right ihLeft ihRight =>
      obtain ⟨c, hsymbol, hdelimiter, hkind⟩ : ∃ c, connective.symbol = [c] ∧ isDelimiter c = true ∧
          punctuation? c = some connective.kind := by
        cases connective with
        | and => exact ⟨',', rfl, rfl, rfl⟩
        | or => exact ⟨'|', rfl, rfl, rfl⟩
      obtain ⟨rs, hrs, hright⟩ := ihRight (fun l hl => h l (List.mem_append_right _ hl)) hrest
      -- The left side's last value ends at the connective.
      obtain ⟨ls, hls, hleft⟩ := ihLeft (fun l hl => h l (List.mem_append_left _ hl))
        (ended_cons (t := right.render ++ rest) hdelimiter)
      refine ⟨ls ++ ⟨connective.kind, [c], c :: (right.render ++ rest)⟩ :: rs, ?_, ?_⟩
      · rw [List.map_append, List.map_cons, hls, hrs, words, hsymbol]
        rfl
      · rw [render, hsymbol, List.append_assoc, List.append_assoc, List.singleton_append, hleft,
          scan_punctuation hkind, hright]
        cases scan symbols rest <;> simp [Except.map]
  | paren inner ih =>
      obtain ⟨ls, hls, hinner⟩ := ih h (ended_cons (t := rest) (show isDelimiter ')' = true from rfl))
      refine ⟨⟨.openParen, ['('], '(' :: (inner.render ++ ')' :: rest)⟩ ::
        (ls ++ [⟨.closeParen, [')'], ')' :: rest⟩]), ?_, ?_⟩
      · rw [List.map_cons, List.map_append, hls]
        rfl
      · rw [render, List.cons_append, List.append_assoc, List.singleton_append,
          scan_punctuation (show punctuation? '(' = some .openParen from rfl), hinner,
          scan_punctuation (show punctuation? ')' = some .closeParen from rfl)]
        cases scan symbols rest <;> simp [Except.map]

theorem ofFilter_render (symbols : List Text) {e : Expr} (h : ∀ l ∈ e.leaves, l.Writable) :
    ∃ ts, Token.ofFilter symbols e.render = .ok ts ∧ ts.map Token.word = e.words := by
  obtain ⟨ls, hwords, hscan⟩ := scan_render symbols h ended_nil
  rw [List.append_nil, scan_nil] at hscan
  refine ⟨ls.map (Lexeme.place e.render), ?_, ?_⟩
  · rw [Token.ofFilter, hscan]
    simp only [Except.map, List.append_nil]
  · rw [map_word_place, hwords]

end Expr

end FilterLang
