import FilterLang.Proofs.Order.Naming
import FilterLang.Proofs.Token.Respaced

/-!
Orderings written out as text, and what scanning makes of them: every entry becomes its own words, with commas in
between. Nothing else is ever scanned from an ordering but words of these sorts.
-/

namespace FilterLang

open Token Outcome

/-- An entry of an ordering as it is written: the name of a field, and the other parts where they are there. -/
structure WrittenEntry where
  field : Text
  key : Option Text
  nullOrder : NullOrder
  /-- The word for the direction. -/
  word : Option Text

namespace WrittenEntry

def IsDirection (word : Text) : Prop :=
  Text.sameIgnoringAsciiCase word "asc" = true ∨ Text.sameIgnoringAsciiCase word "desc" = true

instance (word : Text) : Decidable (IsDirection word) := inferInstanceAs (Decidable (_ ∨ _))

structure WellFormed (e : WrittenEntry) : Prop where
  field_ne_nil : e.field ≠ []
  field_chars : ∀ c ∈ e.field, isFieldChar c = true
  field_not_direction : ¬IsDirection e.field
  key_trimmed : e.key.map Text.trim = e.key
  word_direction : ∀ word ∈ e.word, IsDirection word

/-- The direction that a word stands for, or that stands where there is none. -/
def directionOf : Option Text → Direction
  | none => .ascending
  | some word => if Text.sameIgnoringAsciiCase word "desc" then .descending else .ascending

def entry (e : WrittenEntry) (position : Nat) : OrderEntry :=
  ⟨e.field, e.key, directionOf e.word, e.nullOrder, position⟩

def keyText : Option Text → Text
  | none => []
  | some key => '[' :: (escapeAll isKeyEscapable key ++ [']'])

def nullText : NullOrder → Text
  | .natural => []
  | .hasValue => ['?']
  | .isNull => ['!']

def wordText : Option Text → Text
  | none => []
  | some word => ' ' :: word

def render (e : WrittenEntry) : Text := e.field ++ (keyText e.key ++ (nullText e.nullOrder ++ wordText e.word))

def renderAll (es : List WrittenEntry) : Text := List.intercalate [','] (es.map render)

def nullWords : NullOrder → List Word
  | .natural => []
  | .hasValue => [(.hasValue, ['?'])]
  | .isNull => [(.isNull, ['!'])]

def directionWords : Option Text → List Word
  | none => []
  | some word => [(wordKind word, word)]

def words (e : WrittenEntry) : List Word :=
  (.identifier, e.field) :: (indexerWords e.key ++ (nullWords e.nullOrder ++ directionWords e.word))

def comma : Word := (.comma, [','])

def wordsOfAll (es : List WrittenEntry) : List Word := List.intercalate [comma] (es.map words)

variable {e : WrittenEntry} {es : List WrittenEntry} {t rest key word : Text} {c : Char} {ls : List Lexeme}

theorem renderAll_cons_cons (e e' : WrittenEntry) (es : List WrittenEntry) :
    renderAll (e :: e' :: es) = e.render ++ [','] ++ renderAll (e' :: es) := List.intercalate_cons_cons

theorem wordsOfAll_cons_cons (e e' : WrittenEntry) (es : List WrittenEntry) :
    wordsOfAll (e :: e' :: es) = e.words ++ [comma] ++ wordsOfAll (e' :: es) := List.intercalate_cons_cons

theorem wordKind_eq_identifier_iff : wordKind word = .identifier ↔ ¬IsDirection word := by
  unfold wordKind IsDirection
  cases Text.sameIgnoringAsciiCase word "asc" <;> cases Text.sameIgnoringAsciiCase word "desc" <;> simp

theorem directionOf_some (word : Text) :
    directionOf (some word) = if wordKind word = .descending then .descending else .ascending := by
  unfold wordKind
  cases hdesc : Text.sameIgnoringAsciiCase word "desc" with
  | false =>
      cases Text.sameIgnoringAsciiCase word "asc" <;>
        simp only [directionOf, hdesc, Bool.false_eq_true, ↓reduceIte, reduceCtorEq]
  | true =>
      have hasc : Text.sameIgnoringAsciiCase word "asc" = false := by
        have hlower : Text.lowerAscii word = Text.lowerAscii "desc" := by
          simpa [Text.sameIgnoringAsciiCase] using hdesc
        rw [Text.sameIgnoringAsciiCase, hlower]
        decide
      simp only [directionOf, hdesc, hasc, Bool.false_eq_true, ↓reduceIte]

theorem isAlphanum_of_toLower (h : c.toLower.isAlphanum = true) : c.isAlphanum = true := by
  unfold Char.toLower at h
  split at h
  · rename_i hupper
    have hletter : c.isUpper = true := by simpa [Char.isUpper] using hupper
    simp [Char.isAlphanum, Char.isAlpha, hletter]
  · exact h

theorem isFieldChar_of_sameIgnoringAsciiCase {letters : Text} (hletters : letters.all (·.toLower.isAlphanum) = true)
    (h : Text.sameIgnoringAsciiCase word letters = true) : ∀ c ∈ word, isFieldChar c = true := by
  intro c hc
  have hsame : word.map Char.toLower = letters.map Char.toLower := by
    simpa [Text.sameIgnoringAsciiCase, Text.lowerAscii] using h
  have hmem : c.toLower ∈ letters.map Char.toLower := by
    rw [← hsame]
    exact List.mem_map_of_mem hc
  obtain ⟨d, hd, hlower⟩ := List.mem_map.1 hmem
  have hplain : c.toLower.isAlphanum = true := by
    rw [← hlower]
    exact List.all_eq_true.1 hletters d hd
  have halphanumeric : Text.isAlphanumeric c = true := Text.isAlphanumeric_of_isAlphanum (isAlphanum_of_toLower hplain)
  simp [isFieldChar, halphanumeric]

theorem IsDirection.chars (h : IsDirection word) : ∀ c ∈ word, isFieldChar c = true := by
  rcases h with hasc | hdesc
  · exact isFieldChar_of_sameIgnoringAsciiCase (by decide) hasc
  · exact isFieldChar_of_sameIgnoringAsciiCase (by decide) hdesc

theorem IsDirection.ne_nil (h : IsDirection word) : word ≠ [] := by
  rintro rfl
  exact absurd h (by decide)

/-- A part of a text that is scanned as some words in front of the rest. -/
def Scans (part rest : Text) (ws : List Word) : Prop :=
  ∃ ls, scanOrder (part ++ rest) = (scanOrder rest).map (ls ++ ·) ∧ ls.map Lexeme.word = ws

namespace Scans

variable {part part' : Text} {ws ws' : List Word}

theorem nil (rest : Text) : Scans [] rest [] := by
  refine ⟨[], ?_, rfl⟩
  cases hscan : scanOrder rest with
  | error fault => rw [List.nil_append, hscan]; rfl
  | ok ls => rw [List.nil_append, hscan]; rfl

theorem append (h : Scans part (part' ++ rest) ws) (h' : Scans part' rest ws') :
    Scans (part ++ part') rest (ws ++ ws') := by
  obtain ⟨ls, hscan, rfl⟩ := h
  obtain ⟨ls', hscan', rfl⟩ := h'
  refine ⟨ls ++ ls', ?_, List.map_append⟩
  rw [List.append_assoc, hscan, hscan']
  cases scanOrder rest with
  | error fault => rfl
  | ok more => simp [Except.map]

theorem item {found : List Lexeme} (hblank : Text.isBlank c = false)
    (hitem : scanOrderItem c t = .ok (found, rest)) (htext : part ++ rest = c :: t) :
    Scans part rest (found.map Lexeme.word) :=
  ⟨found, by rw [htext, scanOrder_item hblank hitem], rfl⟩

theorem mark {kind : Kind} (h : orderMark? c = some kind) (rest : Text) : Scans [c] rest [(kind, [c])] := by
  have hblank : Text.isBlank c = false := by
    unfold orderMark? at h
    split at h <;> first | rfl | cases h
  have hitem : scanOrderItem c rest = .ok ([⟨kind, [c], c :: rest⟩], rest) := by
    rw [scanOrderItem, h]
  exact .item hblank hitem rfl

theorem name (hne : word ≠ []) (hchars : ∀ c ∈ word, isFieldChar c = true)
    (hrest : ∀ c ∈ rest.head?, isFieldChar c = false) : Scans word rest [(wordKind word, word)] :=
  ⟨_, scanOrder_word hne hchars hrest, rfl⟩

theorem keyText {key : Option Text} (hkey : key.map Text.trim = key) (rest : Text) :
    Scans (keyText key) rest (indexerWords key) := by
  cases key with
  | none => exact .nil rest
  | some key =>
      have htrim : key.trim = key := Option.some.inj hkey
      have hmark : orderMark? '[' = none := rfl
      have hitem : scanOrderItem '[' (escapeAll isKeyEscapable key ++ ']' :: rest) =
          .ok ([⟨.indexerOpen, ['['], '[' :: (escapeAll isKeyEscapable key ++ ']' :: rest)⟩,
            ⟨.literal, key, escapeAll isKeyEscapable key ++ ']' :: rest⟩,
            ⟨.indexerClose, [']'], ']' :: rest⟩], rest) := by
        simp only [scanOrderItem, hmark, ↓reduceIte, scanIndexer, List.tail_cons,
          scanKey?_escapeAll (fun _ hc => hc) rfl rfl key rest, htrim]
      exact .item rfl hitem (by simp [WrittenEntry.keyText])

theorem nullText (nullOrder : NullOrder) (rest : Text) :
    Scans (nullText nullOrder) rest (nullWords nullOrder) := by
  cases nullOrder with
  | natural => exact .nil rest
  | hasValue => exact .mark rfl rest
  | isNull => exact .mark rfl rest

theorem wordText {word : Option Text} (hword : ∀ w ∈ word, IsDirection w)
    (hrest : ∀ c ∈ rest.head?, isFieldChar c = false) : Scans (wordText word) rest (directionWords word) := by
  cases word with
  | none => exact .nil rest
  | some word =>
      have hdirection := hword word rfl
      obtain ⟨ls, hscan, hwords⟩ := Scans.name hdirection.ne_nil hdirection.chars hrest
      refine ⟨ls, ?_, hwords⟩
      rw [← hscan]
      exact scanOrder_blank rfl (word ++ rest)

theorem comma (rest : Text) : Scans [','] rest [comma] :=
  .mark rfl rest

end Scans

/-- Before a comma or the end, each part of an entry ends where it should. -/
theorem scans_render (h : e.WellFormed) (hrest : ∀ c ∈ rest.head?, c = ',') : Scans e.render rest e.words := by
  have hend : ∀ c ∈ rest.head?, isFieldChar c = false := by
    intro c hc
    rw [hrest c hc]
    rfl
  have hparts : ∀ c ∈ (keyText e.key ++ (nullText e.nullOrder ++ wordText e.word) ++ rest).head?,
      isFieldChar c = false := by
    cases e.key with
    | some key =>
        intro c hc
        cases hc
        rfl
    | none =>
        cases e.nullOrder with
        | hasValue =>
            intro c hc
            cases hc
            rfl
        | isNull =>
            intro c hc
            cases hc
            rfl
        | natural =>
            cases e.word with
            | none => exact hend
            | some word =>
                intro c hc
                cases hc
                rfl
  have hname := Scans.name h.field_ne_nil h.field_chars hparts
  rw [wordKind_eq_identifier_iff.2 h.field_not_direction] at hname
  exact hname.append ((Scans.keyText h.key_trimmed _).append
    ((Scans.nullText e.nullOrder _).append (Scans.wordText h.word_direction hend)))

theorem scans_renderAll (h : ∀ e ∈ es, e.WellFormed) : Scans (renderAll es) [] (wordsOfAll es) := by
  induction es with
  | nil => exact .nil []
  | cons e es ih =>
      obtain ⟨he, hes⟩ := List.forall_mem_cons.1 h
      cases es with
      | nil =>
          have hlast : Scans e.render [] e.words := scans_render he nofun
          simpa [renderAll, wordsOfAll] using hlast
      | cons e' es =>
          have hmore := (Scans.comma _).append (ih hes)
          have hfirst : Scans e.render ([','] ++ renderAll (e' :: es) ++ []) e.words := by
            refine scans_render he fun c hc => ?_
            cases hc
            rfl
          have hall := hfirst.append hmore
          rw [← List.append_assoc, ← List.append_assoc] at hall
          rwa [renderAll_cons_cons, wordsOfAll_cons_cons]

theorem ofOrdering_renderAll (h : ∀ e ∈ es, e.WellFormed) :
    ∃ ts, ofOrdering (renderAll es) = .ok ts ∧ ts.map Token.word = wordsOfAll es := by
  obtain ⟨ls, hscan, hwords⟩ := scans_renderAll h
  rw [List.append_nil, scanOrder_nil] at hscan
  refine ⟨ls.map (Lexeme.place (renderAll es)), ?_, ?_⟩
  · rw [ofOrdering, hscan]
    simp only [Except.map, List.append_nil]
  · rw [map_word_place, hwords]

end WrittenEntry

end FilterLang
