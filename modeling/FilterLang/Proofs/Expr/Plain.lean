import FilterLang.Proofs.Expr.Acceptance
import FilterLang.Proofs.Expr.Written

/-!
Plain comparisons: a field, a built-in operator and a literal whose special characters are escaped. Such
a text is one comparison, whatever the literal, and nothing but the blanks around the literal is lost.
-/

namespace FilterLang

open Token

namespace Leaf

/-- A comparison as it is written from a raw literal. -/
def plainText (field symbol value : Text) : Text := field ++ (symbol ++ escape value)

def plain (offset : Nat) (field symbol value : Text) : Leaf where
  field := field
  indexer := none
  fieldIgnoresCase := false
  position := offset
  symbol := symbol
  symbolPosition := offset + Text.size field
  value := value.trim
  valueIgnoresCase := false

/-- A name that a filter can speak of, before a built-in operator. -/
structure Nameable (field symbol : Text) : Prop where
  ne_nil : field ≠ []
  chars : ∀ c ∈ field, isFieldChar c = true
  builtIn : (Operator.builtIn? symbol).isSome = true

instance (field symbol : Text) : Decidable (Nameable field symbol) :=
  decidable_of_iff
    (field ≠ [] ∧ field.all isFieldChar = true ∧ (Operator.builtIn? symbol).isSome = true)
    ⟨fun ⟨hne, hchars, hsymbol⟩ => ⟨hne, List.all_eq_true.1 hchars, hsymbol⟩,
      fun h => ⟨h.ne_nil, List.all_eq_true.2 h.chars, h.builtIn⟩⟩

/-- A comparison whose operator is found as it stands, whatever the literal begins with. -/
structure Legible (symbols : List Text) (field symbol value : Text) : Prop where
  ne_nil : field ≠ []
  chars : ∀ c ∈ field, isFieldChar c = true
  operated : Operated (symbol ++ escape value)
  symbolAt_eq : symbolAt symbols (symbol ++ escape value) = .ok symbol

theorem Nameable.legible {field symbol : Text} (h : Nameable field symbol) (symbols : List Text)
    (value : Text) : Legible symbols field symbol value where
  ne_nil := h.ne_nil
  chars := h.chars
  operated := operated_builtIn (mem_builtInSymbols h.builtIn)
  symbolAt_eq := symbolAt_builtIn symbols (mem_builtInSymbols h.builtIn) fun c hc =>
    head_escape (v := value) false ended_nil (by simpa [markerText] using hc)

theorem allBlank_plainText {field symbol : Text} (h : Nameable field symbol) (value : Text) :
    Text.allBlank (plainText field symbol value) = false := by
  obtain ⟨c, t, rfl⟩ := List.exists_cons_of_ne_nil h.ne_nil
  have hc : Text.isBlank c = false := isBlank_of_isFieldChar (h.chars c List.mem_cons_self)
  simp [plainText, Text.allBlank, hc]

end Leaf

variable {field symbol : Text}

theorem Token.scanField_legible {symbols : List Text} {value : Text}
    (h : Leaf.Legible symbols field symbol value) :
    ∃ literal : Lexeme, literal.word = (.literal, value.trim) ∧
      scanField symbols (Leaf.plainText field symbol value) =
        .ok ([⟨.identifier, field, Leaf.plainText field symbol value⟩,
          ⟨.operator, symbol, symbol ++ escape value⟩, literal], []) := by
  obtain ⟨literals, hvalue, hwords⟩ := scanValue_escape (v := value) false ended_nil
  simp only [markerText, List.append_nil] at hvalue
  obtain ⟨literal, hequal, hliteral⟩ := List.map_eq_singleton_iff.1 hwords
  subst hequal
  have hafter : ∀ c ∈ (symbol ++ escape value).head?,
      Text.isBlank c = false ∧ isFieldChar c = false ∧ c ≠ '[' :=
    fun c hc => head_marker false h.operated hc
  have hopen : (symbol ++ escape value).head? ≠ some '[' := fun hopen => (hafter '[' hopen).2.2 rfl
  have hslash : (symbol ++ escape value).head? ≠ some '/' := by
    intro hslash
    have hoperated := h.operated
    rw [Operated, hslash] at hoperated
    cases hoperated
  refine ⟨literal, hliteral, ?_⟩
  unfold scanField
  rw [Leaf.plainText, Text.takeWhile_run h.chars fun c hc => (hafter c hc).2.1,
    Text.dropWhile_run h.chars fun c hc => (hafter c hc).2.1,
    Text.skipBlanks_of_head fun c hc => (hafter c hc).1, scanIndexer?, if_neg hopen]
  simp only [bind, Except.bind, scanFieldMarker?, if_neg hslash, scanRest_operated h.operated,
    scanComparison, h.symbolAt_eq, List.drop_left, hvalue]
  rfl

theorem Token.scan_legible {symbols : List Text} {value : Text}
    (h : Leaf.Legible symbols field symbol value) :
    ∃ literal : Lexeme, literal.word = (.literal, value.trim) ∧
      scan symbols (Leaf.plainText field symbol value) =
        .ok [⟨.identifier, field, Leaf.plainText field symbol value⟩,
          ⟨.operator, symbol, symbol ++ escape value⟩, literal] := by
  obtain ⟨literal, hliteral, hfield⟩ := scanField_legible h
  refine ⟨literal, hliteral, ?_⟩
  obtain ⟨c, t, hcons⟩ := List.exists_cons_of_ne_nil h.ne_nil
  have hc : isFieldChar c = true := h.chars c (by rw [hcons]; exact List.mem_cons_self)
  have htext : Leaf.plainText field symbol value = c :: (t ++ (symbol ++ escape value)) := by
    rw [Leaf.plainText, hcons, List.cons_append]
  rw [htext] at hfield ⊢
  have hitem : scanItem symbols c (t ++ (symbol ++ escape value)) =
      .ok ([⟨.identifier, field, c :: (t ++ (symbol ++ escape value))⟩,
        ⟨.operator, symbol, symbol ++ escape value⟩, literal], []) := by
    rw [scanItem, punctuation?_of_isFieldChar hc]
    simp only [hc, ↓reduceIte]
    exact hfield
  rw [scan_item (isBlank_of_isFieldChar hc) hitem, scan_nil]
  rfl

theorem Token.scan_plain (symbols : List Text) (h : Leaf.Nameable field symbol) (value : Text) :
    ∃ literal : Lexeme, literal.word = (.literal, value.trim) ∧
      scan symbols (Leaf.plainText field symbol value) =
        .ok [⟨.identifier, field, Leaf.plainText field symbol value⟩,
          ⟨.operator, symbol, symbol ++ escape value⟩, literal] :=
  scan_legible (h.legible symbols value)

open Grammar

structure Token.SpellsPlain (offset : Nat) (field symbol value : Text) (name operator literal : Token) :
    Prop where
  name_eq : name = ⟨.identifier, field, offset⟩
  operator_eq : operator = ⟨.operator, symbol, offset + Text.size field⟩
  literal_word : literal.word = (.literal, value.trim)

theorem Grammar.derives_plain {offset : Nat} {value : Text} {name operator literal : Token}
    (h : SpellsPlain offset field symbol value name operator literal) :
    Derives .term [name, operator, literal] (.leaf (Leaf.plain offset field symbol value)) := by
  obtain ⟨rfl, rfl, hliteral⟩ := h
  obtain ⟨hkind, htext⟩ := Prod.mk.inj hliteral
  have hcomparison : Grammar.Comparison ⟨.identifier, field, offset⟩
      ([] ++ [] ++ [⟨.operator, symbol, offset + Text.size field⟩, literal]) _ :=
    .intro .absent .absent rfl hkind .absent
  rw [htext] at hcomparison
  exact .comparison rfl hcomparison

theorem Token.spellsPlain_place {before value : Text} {literal : Lexeme}
    (h : literal.word = (.literal, value.trim)) :
    SpellsPlain (Text.size before) field symbol value
      (Lexeme.place (before ++ Leaf.plainText field symbol value)
        ⟨.identifier, field, Leaf.plainText field symbol value⟩)
      (Lexeme.place (before ++ Leaf.plainText field symbol value)
        ⟨.operator, symbol, symbol ++ escape value⟩)
      (Lexeme.place (before ++ Leaf.plainText field symbol value) literal) where
  name_eq := by rw [Lexeme.place, Text.offset_append]
  operator_eq := by
    rw [Lexeme.place, Leaf.plainText, ← List.append_assoc, Text.offset_append, Text.size_append]
  literal_word := h

theorem Expr.read_legible {registry : Registry} (limit : Nat) {value : Text}
    (h : Leaf.Legible registry.symbols field symbol value) :
    read registry limit (Leaf.plainText field symbol value) =
      .ok (.leaf (Leaf.plain 0 field symbol value)) := by
  obtain ⟨literal, hliteral, hscan⟩ := scan_legible h
  have hspells : SpellsPlain 0 field symbol value _ _ _ :=
    @spellsPlain_place field symbol [] value literal hliteral
  have hparsed : ofTokens limit (Text.size (Leaf.plainText field symbol value)) _ = .ok _ :=
    ofTokens_eq_ok_iff.2 ⟨.first (derives_plain hspells), Nat.le_max_right _ _⟩
  unfold read Token.ofFilter
  rw [hscan]
  simp only [bind, Except.bind, List.map_cons, List.map_nil]
  exact congrArg (Except.mapError Error.syntactic) hparsed

theorem Expr.read_plainText (registry : Registry) (limit : Nat) (h : Leaf.Nameable field symbol)
    (value : Text) :
    read registry limit (Leaf.plainText field symbol value) =
      .ok (.leaf (Leaf.plain 0 field symbol value)) :=
  read_legible limit (h.legible registry.symbols value)

end FilterLang
