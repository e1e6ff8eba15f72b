import Mathlib
import FilterLang.Operator.ReadyMade
import FilterLang.Proofs.Expr.Plain
import FilterLang.Proofs.Expr.RoundTrip
import FilterLang.Proofs.Token.Symbols

/-!
Raw texts put into a filter through the escape for values, in places that have rules of their own: behind a
custom operator and between the brackets of an indexer. An operator takes up what prolongs it to a longer one,
and a bracket ends an indexer, for neither is escaped.
-/

namespace FilterLang

open Token Outcome

variable {registry : Registry} {field symbol value key : Text}

namespace Token

theorem exists_rest_of_prefix_escape {more : Text} (hslash : '\\' ∉ more) (h : more <+: escape value) :
    ∃ rest, value = more ++ rest ∧ escape value = more ++ escape rest := by
  induction more generalizing value with
  | nil => exact ⟨value, rfl, rfl⟩
  | cons c more ih =>
      rw [List.mem_cons, not_or] at hslash
      obtain ⟨hc, hmore⟩ := hslash
      cases value with
      | nil => exact absurd (List.prefix_nil.1 h) (by simp)
      | cons d value =>
          cases hescapable : isEscapable d with
          | true =>
              rw [escape_cons_of_escapable hescapable] at h
              exact absurd (List.cons_prefix_cons.1 h).1.symm hc
          | false =>
              rw [escape_cons_of_plain hescapable] at h ⊢
              obtain ⟨rfl, hbegins⟩ := List.cons_prefix_cons.1 h
              obtain ⟨rest, rfl, hrest⟩ := ih hmore hbegins
              exact ⟨rest, rfl, by rw [hrest, List.cons_append]⟩

end Token

theorem Registry.head?_of_isSymbol (h : isSymbol symbol = true) : symbol.head? = some '#' := by
  unfold isSymbol at h
  split at h
  · rfl
  · cases h

/-- In front of an escaped value the longest symbol is read that the symbol is the beginning of, and what
prolongs it stands at the beginning of the value. -/
theorem Token.exists_symbolAt_custom (hregistry : registry.WellFormed) (hsymbol : symbol ∈ registry.symbols)
    (value : Text) :
    ∃ more rest, value = more ++ rest ∧ escape value = more ++ escape rest ∧
      symbol ++ more ∈ registry.symbols ∧
      (∀ other ∈ registry.symbols, other <+: symbol ++ escape value → other <+: symbol ++ more) ∧
      symbolAt registry.symbols (symbol ++ escape value) = .ok (symbol ++ more) := by
  have hbegins : symbol <+: symbol ++ escape value := List.prefix_append _ _
  obtain ⟨found, hfound, _⟩ := exists_longestSymbol? hsymbol hbegins
  obtain ⟨hmem, hprefix, hlongest⟩ := longestSymbol?_eq_some_iff.1 hfound
  obtain ⟨more, rfl⟩ := hlongest symbol hsymbol hbegins
  have hslash : '\\' ∉ more := fun hslash => Registry.not_mem_of_isSymbol (by decide)
    (Registry.isSymbol_of_mem_symbols hregistry hmem) (List.mem_append_right symbol hslash)
  obtain ⟨rest, hvalue, hescaped⟩ :=
    exists_rest_of_prefix_escape hslash ((List.prefix_append_right_inj symbol).1 hprefix)
  have hsharp : (symbol ++ escape value).head? = some '#' := by
    rw [List.head?_append,
      Registry.head?_of_isSymbol (Registry.isSymbol_of_mem_symbols hregistry hsymbol)]
    rfl
  refine ⟨more, rest, hvalue, hescaped, hmem, hlongest, ?_⟩
  rw [symbolAt, if_pos hsharp, hfound]

/--
A name, a custom symbol and an escaped value are read as one comparison. Its operator is the longest symbol with
which the rest begins, and its value what is left behind that; so it is the operator meant, and the value meant,
exactly if no longer symbol goes on with the beginning of the value.
-/
theorem Expr.read_custom (hregistry : registry.Reachable) (limit : Nat) (hne : field ≠ [])
    (hchars : ∀ c ∈ field, isFieldChar c = true) (hsymbol : symbol ∈ registry.symbols) (value : Text) :
    (∃ more rest, value = more ++ rest ∧ symbol ++ more ∈ registry.symbols ∧
      (∀ other ∈ registry.symbols, other <+: symbol ++ escape value → other <+: symbol ++ more) ∧
      read registry limit (Leaf.plainText field symbol value) =
        .ok (.leaf (Leaf.plain 0 field (symbol ++ more) rest))) ∧
    (read registry limit (Leaf.plainText field symbol value) =
        .ok (.leaf (Leaf.plain 0 field symbol value)) ↔
      ∀ other ∈ registry.symbols, other <+: symbol ++ escape value → other <+: symbol) := by
  have hwellFormed := Registry.wellFormed_of_reachable hregistry
  obtain ⟨more, rest, hvalue, hescaped, hmem, hlongest, hsymbolAt⟩ :=
    exists_symbolAt_custom hwellFormed hsymbol value
  have hsame : symbol ++ escape value = symbol ++ more ++ escape rest := by
    rw [hescaped, List.append_assoc]
  have htext : Leaf.plainText field symbol value = Leaf.plainText field (symbol ++ more) rest := by
    rw [Leaf.plainText, hsame, Leaf.plainText]
  have hlegible : Leaf.Legible registry.symbols field (symbol ++ more) rest := by
    have hsharp := Registry.head?_of_isSymbol (Registry.isSymbol_of_mem_symbols hwellFormed hmem)
    refine ⟨hne, hchars, ?_, by rw [← hsame, hsymbolAt]⟩
    rw [Operated, List.head?_append, hsharp]
    rfl
  have hread := read_legible limit hlegible
  rw [← htext] at hread
  refine ⟨⟨more, rest, hvalue, hmem, hlongest, hread⟩, fun h => ?_, fun h => ?_⟩
  · have hnone : symbol ++ more = symbol := by
      rw [hread] at h
      exact congrArg Leaf.symbol (Expr.leaf.inj (Except.ok.inj h))
    rwa [hnone] at hlongest
  · have hprefix := h _ hmem (by rw [hsame]; exact List.prefix_append _ _)
    have hlength := hprefix.length_le
    rw [List.length_append] at hlength
    obtain rfl : more = [] := List.length_eq_zero_iff.1 (by omega)
    rw [hread, List.append_nil, hvalue, List.nil_append]

def waved : Registry :=
  ⟨[.ofRule 0 "#=" .sameTextIgnoringCase none, .ofRule 1 "#=~" .always none]⟩

theorem waved_reachable : Registry.Reachable waved := by
  have hfirst : Registry.register .empty (.ofRule 0 "#=" .sameTextIgnoringCase none) =
      .ok ⟨[.ofRule 0 "#=" .sameTextIgnoringCase none]⟩ := rfl
  have hsecond : Registry.register ⟨[.ofRule 0 "#=" .sameTextIgnoringCase none]⟩
      (.ofRule 1 "#=~" .always none) = .ok waved := rfl
  exact .register (.register .empty hfirst) hsecond

theorem Expr.read_custom_waved :
    waved.Reachable ∧ ("name" : Text) ≠ [] ∧ (∀ c ∈ ("name" : Text), isFieldChar c = true) ∧
    "#=".toList ∈ waved.symbols ∧
    read waved 1 (Leaf.plainText "name" "#=" "=~/i") = .ok (.leaf (Leaf.plain 0 "name" "#=" "=~/i")) := by
  have hchars : ∀ c ∈ ("name" : Text), isFieldChar c = true := List.all_eq_true.1 rfl
  have hsymbol : "#=".toList ∈ waved.symbols := by decide
  have halone : ∀ other ∈ waved.symbols, other <+: "#=".toList ++ escape "=~/i".toList →
      other <+: "#=".toList := by decide
  exact ⟨waved_reachable, by decide, hchars, hsymbol,
    (read_custom waved_reachable 1 (by decide) hchars hsymbol _).2.2 halone⟩

theorem Expr.read_custom_prolonged :
    waved.Reachable ∧ (∀ c ∈ ("name" : Text), isFieldChar c = true) ∧ "#=".toList ∈ waved.symbols ∧
    Text.trim "~x" = "~x".toList ∧
    read waved 256 (Leaf.plainText "name" "#=" "~x") = .ok (.leaf (Leaf.plain 0 "name" "#=~" "x")) ∧
    Leaf.plain 0 "name" "#=~" "x" ≠ Leaf.plain 0 "name" "#=" "~x" := by
  refine ⟨waved_reachable, List.all_eq_true.1 rfl, by decide, by decide, ?_, by decide⟩
  cbv

def Leaf.keyedText (field key value : Text) : Text :=
  field ++ '[' :: (escape key ++ ']' :: ('=' :: escape value))

def Leaf.keyed (field key value : Text) : Leaf where
  field := field
  indexer := some key
  fieldIgnoresCase := false
  position := 0
  symbol := "="
  symbolPosition := 0
  value := value.trim
  valueIgnoresCase := false

namespace Token

theorem escapeKey_of_not_mem (h : ']' ∉ key) : escapeKey key = escape key := by
  refine List.flatMap_congr fun c hc => ?_
  have hclose : (c == ']') = false := beq_eq_false_iff_ne.2 fun hequal => h (hequal ▸ hc)
  simp only [hclose, Bool.or_false]

theorem words_of_scan_keyedText {symbols : List Text} {before after : Text} {ls : List Lexeme}
    (hne : field ≠ []) (hchars : ∀ c ∈ field, isFieldChar c = true) (hbefore : ']' ∉ before)
    (h : scan symbols (Leaf.keyedText field (before ++ ']' :: after) value) = .ok ls) :
    ∃ more, ls.map Lexeme.word =
      (.identifier, field) :: (.indexerOpen, "[") :: (.literal, before.trim) :: more := by
  let rest := escape after ++ ']' :: ('=' :: escape value)
  have htext : Leaf.keyedText field (before ++ ']' :: after) value =
      field ++ '[' :: (escapeKey before ++ ']' :: rest) := by
    rw [escapeKey_of_not_mem hbefore]
    simp [Leaf.keyedText, rest, escape, show isEscapable ']' = false from rfl]
  have hafter : ∀ c ∈ ('[' :: (escapeKey before ++ ']' :: rest)).head?, isFieldChar c = false := by
    rintro c hc
    cases hc
    rfl
  obtain ⟨c, t, hcons⟩ := List.exists_cons_of_ne_nil hne
  have hc : isFieldChar c = true := hchars c (by rw [hcons]; exact List.mem_cons_self)
  rw [htext, hcons, List.cons_append] at h
  obtain ⟨found, after', more, hitem, _, rfl⟩ :=
    exists_item_of_scan (Text.skipBlanks_cons (isBlank_of_isFieldChar hc)) h
  rw [scanItem, punctuation?_of_isFieldChar hc] at hitem
  simp only [hc, ↓reduceIte] at hitem
  obtain ⟨⟨indexer, r₁⟩, hindexer, hitem⟩ := bind_eq_ok_iff.1 hitem
  obtain ⟨⟨marker, r₂⟩, _, hitem⟩ := bind_eq_ok_iff.1 hitem
  obtain ⟨⟨comparison, r₃⟩, _, hitem⟩ := bind_eq_ok_iff.1 hitem
  cases hitem
  rw [← List.cons_append, ← hcons, Text.dropWhile_run hchars hafter,
    Text.skipBlanks_cons (by rfl), scanIndexer?, if_pos (by rfl), scanIndexer, List.tail_cons,
    scanKey?_escapeKey] at hindexer
  cases hindexer
  rw [← List.cons_append, ← hcons, Text.takeWhile_run hchars hafter]
  exact ⟨_, rfl⟩

end Token

/--
A raw key between brackets is read back with the rest of the comparison exactly if there is no closing bracket
in it: that is not escaped, and ends the indexer.
-/
theorem Expr.read_keyedText_iff (registry : Registry) (limit : Nat) (value : Text) (hne : field ≠ [])
    (hchars : ∀ c ∈ field, isFieldChar c = true) (hkey : key.trim = key) :
    (∃ l, read registry limit (Leaf.keyedText field key value) = .ok (.leaf l) ∧
      l.unplaced = Leaf.keyed field key value) ↔ ']' ∉ key := by
  constructor
  · rintro ⟨l, hread, hequal⟩ hbracket
    obtain ⟨before, after, rfl, hbefore⟩ := List.eq_append_cons_of_mem hbracket
    obtain ⟨ts, hscanned, hparsed⟩ := bind_eq_ok_iff.1 hread
    have hwords := words_of_ofFilter hscanned (mapError_eq_ok_iff.1 hparsed)
    unfold ofFilter at hscanned
    split at hscanned
    · rename_i ls hls
      cases hscanned
      obtain ⟨more, hfirst⟩ := words_of_scan_keyedText hne hchars hbefore hls
      rw [map_word_place, hfirst] at hwords
      have hindexer : l.indexer = some (before ++ ']' :: after) := congrArg Leaf.indexer hequal
      simp only [words, Leaf.words, hindexer, indexerWords, List.cons_append, List.cons.injEq,
        Prod.mk.injEq, true_and] at hwords
      rw [hwords.2.1] at hbracket
      exact hbefore (Text.mem_of_mem_trim hbracket)
    · cases hscanned
  · intro hbracket
    let l : Leaf := { Leaf.keyed field key value with value := value }
    have hwritable : Leaf.Writable { l with value := [] } :=
      ⟨hne, hchars, by simp [l, Leaf.keyed, hkey], rfl, rfl⟩
    have hrender : l.render = Leaf.keyedText field key value := by
      simp only [Leaf.render, l, Leaf.keyed, Leaf.indexerText, markerText, Leaf.keyedText,
        escapeKey_of_not_mem hbracket]
      simp
    obtain ⟨l', hread, hequal⟩ := read_render_leaf registry limit hwritable
    rw [hrender] at hread
    exact ⟨l', hread, hequal⟩

theorem Expr.read_keyedText_iff_backslashed :
    ("props" : Text) ≠ [] ∧ (∀ c ∈ ("props" : Text), isFieldChar c = true) ∧ Text.trim "a[b\\" = "a[b\\".toList ∧
    ∃ l, read .empty 256 (Leaf.keyedText "props" "a[b\\" "v") = .ok (.leaf l) ∧
      l.unplaced = Leaf.keyed "props" "a[b\\" "v" := by
  have hne : ("props" : Text) ≠ [] := by decide
  have hchars : ∀ c ∈ ("props" : Text), isFieldChar c = true := List.all_eq_true.1 rfl
  have hkey : Text.trim "a[b\\" = "a[b\\".toList := by decide
  have hbracket : ']' ∉ "a[b\\".toList := by decide
  exact ⟨hne, hchars, hkey, (read_keyedText_iff .empty 256 "v" hne hchars hkey).2 hbracket⟩

/-- Behind the bracket in the key nothing is left to read as a comparison. -/
theorem Expr.read_keyedText_bracketed :
    (∀ c ∈ ("props" : Text), isFieldChar c = true) ∧ Text.trim "a]b" = "a]b".toList ∧
    Text.trim "v" = "v".toList ∧
    read .empty 256 (Leaf.keyedText "props" "a]b" "v") = .error (.lexical 8 (.unexpectedCharacter 'b')) := by
  refine ⟨List.all_eq_true.1 rfl, by decide, by decide, ?_⟩
  cbv

end FilterLang
