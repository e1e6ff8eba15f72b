import FilterLang.Expr.Reading
import FilterLang.Proofs.Outcome

/-!
Tokens without their positions. Most kinds leave no choice of text, and the scanner gives every
token of such a kind its one spelling.
-/

namespace FilterLang

abbrev Token.Word := Token.Kind × Text

namespace Token

def word (token : Token) : Word := (token.kind, token.text)

def indexerWords : Option Text → List Word
  | none => []
  | some key => [(.indexerOpen, "["), (.literal, key), (.indexerClose, "]")]

def markerWords : Bool → List Word
  | false => []
  | true => [(.caseInsensitive, "/i")]

def Kind.spelling? : Kind → Option Text
  | .and => some ","
  | .or => some "|"
  | .openParen => some "("
  | .closeParen => some ")"
  | .indexerOpen => some "["
  | .indexerClose => some "]"
  | .caseInsensitive => some "/i"
  | .hasValue => some "?"
  | .isNull => some "!"
  | .comma => some ","
  | .identifier | .literal | .operator | .ascending | .descending => none

def Word.respelled (w : Word) : Word := (w.1, w.1.spelling?.getD w.2)

theorem Word.respelled_of_fixed {kind : Kind} {t fixed : Text} (h : kind.spelling? = some fixed) :
    Word.respelled (kind, t) = (kind, fixed) := by
  simp [Word.respelled, h]

theorem Word.respelled_of_free {kind : Kind} {t : Text} (h : kind.spelling? = none) :
    Word.respelled (kind, t) = (kind, t) := by
  simp [Word.respelled, h]

end Token

def Lexeme.word (l : Lexeme) : Token.Word := (l.kind, l.text)

namespace Token

theorem map_word_place (whole : Text) (ls : List Lexeme) :
    (ls.map (Lexeme.place whole)).map word = ls.map Lexeme.word := by
  rw [List.map_map]
  rfl

/-- Every lexeme has the text that its kind fixes, if it fixes one. -/
def Spelled (ls : List Lexeme) : Prop := ∀ l ∈ ls, l.word.respelled = l.word

theorem spelled_nil : Spelled [] := by
  intro l hmem
  cases hmem

theorem spelled_cons {l : Lexeme} {ls : List Lexeme} (hl : l.word.respelled = l.word)
    (hls : Spelled ls) : Spelled (l :: ls) :=
  List.forall_mem_cons.2 ⟨hl, hls⟩

theorem spelled_append {ls ms : List Lexeme} (hls : Spelled ls) (hms : Spelled ms) :
    Spelled (ls ++ ms) :=
  List.forall_mem_append.2 ⟨hls, hms⟩

open Outcome

theorem spelled_scanIndexer {t rest : Text} {ls : List Lexeme}
    (h : scanIndexer t = .ok (ls, rest)) : Spelled ls := by
  unfold scanIndexer at h
  split at h <;> cases h
  exact spelled_cons rfl (spelled_cons rfl (spelled_cons rfl spelled_nil))

theorem spelled_scanIndexer? {t rest : Text} {ls : List Lexeme}
    (h : scanIndexer? t = .ok (ls, rest)) : Spelled ls := by
  unfold scanIndexer? at h
  split at h
  · obtain ⟨⟨found, r⟩, hfound, hequal⟩ := map_eq_ok_iff.1 h
    cases hequal
    exact spelled_scanIndexer hfound
  · cases h
    exact spelled_nil

theorem spelled_scanFieldMarker? {name t rest : Text} {ls : List Lexeme}
    (h : scanFieldMarker? name t = .ok (ls, rest)) : Spelled ls := by
  unfold scanFieldMarker? at h
  split at h
  · split at h <;> cases h
    exact spelled_cons rfl spelled_nil
  · cases h
    exact spelled_nil

theorem spelled_scanValue {t rest : Text} {ls : List Lexeme}
    (h : scanValue t = .ok (ls, rest)) : Spelled ls := by
  obtain ⟨⟨marks, r⟩, _, h⟩ := bind_eq_ok_iff.1 h
  dsimp only at h
  split at h <;> cases h
  · exact spelled_cons rfl (spelled_cons rfl spelled_nil)
  · exact spelled_cons rfl spelled_nil

theorem spelled_scanComparison {symbols : List Text} {t rest : Text} {ls : List Lexeme}
    (h : scanComparison symbols t = .ok (ls, rest)) : Spelled ls := by
  obtain ⟨symbol, _, h⟩ := bind_eq_ok_iff.1 h
  obtain ⟨⟨value, r⟩, hvalue, h⟩ := bind_eq_ok_iff.1 h
  cases h
  exact spelled_cons rfl (spelled_scanValue hvalue)

theorem spelled_scanRest {symbols : List Text} {t rest : Text} {ls : List Lexeme}
    (h : scanRest symbols t = .ok (ls, rest)) : Spelled ls := by
  unfold scanRest at h
  split at h
  · cases h
    exact spelled_nil
  · split at h
    · cases h
      exact spelled_nil
    · split at h
      · exact spelled_scanComparison h
      · cases h

theorem spelled_scanField {symbols : List Text} {t rest : Text} {ls : List Lexeme}
    (h : scanField symbols t = .ok (ls, rest)) : Spelled ls := by
  obtain ⟨⟨indexer, r₁⟩, hindexer, h⟩ := bind_eq_ok_iff.1 h
  obtain ⟨⟨marker, r₂⟩, hmarker, h⟩ := bind_eq_ok_iff.1 h
  obtain ⟨⟨comparison, r₃⟩, hcomparison, h⟩ := bind_eq_ok_iff.1 h
  cases h
  have hparts := spelled_append (spelled_scanIndexer? hindexer) (spelled_scanFieldMarker? hmarker)
  exact spelled_cons rfl (spelled_append hparts (spelled_scanRest hcomparison))

theorem spelled_scanItem {symbols : List Text} {c : Char} {t rest : Text} {ls : List Lexeme}
    (h : scanItem symbols c t = .ok (ls, rest)) : Spelled ls := by
  unfold scanItem at h
  split at h
  · rename_i kind hkind
    cases h
    refine spelled_cons ?_ spelled_nil
    unfold punctuation? at hkind
    split at hkind <;> cases hkind <;> rfl
  · split at h
    · exact spelled_scanField h
    · split at h
      · exact spelled_scanComparison h
      · cases h

theorem spelled_scan {symbols : List Text} {t : Text} {ls : List Lexeme}
    (h : scan symbols t = .ok ls) : Spelled ls := by
  fun_induction scan symbols t generalizing ls with
  | case1 => cases h; exact spelled_nil
  | case2 => cases h
  | case3 t c u _ found rest hitem ih =>
      obtain ⟨more, hmore, rfl⟩ := map_eq_ok_iff.1 h
      exact spelled_append (spelled_scanItem hitem) (ih hmore)

theorem respelled_of_ofFilter {symbols : List Text} {t : Text} {ts : List Token}
    (h : ofFilter symbols t = .ok ts) (token : Token) (hmem : token ∈ ts) :
    token.word.respelled = token.word := by
  unfold ofFilter at h
  split at h
  · rename_i ls hls
    cases h
    obtain ⟨l, hl, rfl⟩ := List.mem_map.1 hmem
    exact spelled_scan hls l hl
  · cases h

end Token

end FilterLang
