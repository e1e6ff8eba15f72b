import Mathlib
import FilterLang.Proofs.Token.Resumption

/-!
No character of a filter is lost. A text that can be scanned is made of the pieces of its tokens, one after the
other with nothing but blanks between them; a literal stands for its piece without the backslashes that make
characters plain and without the blanks around it.
-/

namespace FilterLang.Token

open Outcome

/--
The characters that a written literal stands for, each with whether it counts at the ends: a blank does not. A
backslash goes where it makes a character plain. Before any other it stands for itself, and in a value the
character behind it counts then, blank or not.
-/
def unescape (inKey : Bool) : Text → List Mark
  | [] => []
  | '\\' :: c :: t =>
    if isEscapable c || inKey && (c == '[' || c == ']') then (c, true) :: unescape inKey t
    else if inKey then ('\\', true) :: unescape inKey (c :: t)
    else ('\\', true) :: (c, true) :: unescape inKey t
  | c :: t => (c, !Text.isBlank c) :: unescape inKey t

def trimMarks (marks : List Mark) : Text :=
  (((marks.dropWhile fun mark => !mark.2).reverse.dropWhile fun mark => !mark.2).reverse).map Prod.fst

/-- A literal is written with backslashes and blanks, in a key or in a value; all else is written as it is. -/
def Word.WrittenAs (w : Word) (inKey : Bool) (piece : Text) : Prop :=
  if w.1 = .literal then trimMarks (unescape inKey piece) = w.2 else piece = w.2

instance (w : Word) (inKey : Bool) (piece : Text) : Decidable (w.WrittenAs inKey piece) :=
  inferInstanceAs (Decidable (if w.1 = .literal then trimMarks (unescape inKey piece) = w.2 else piece = w.2))

/--
Tokens at the beginning of a text that is an ending of `whole`, and what the text is left as behind them: blanks,
and for every token its piece, which begins where the token says. The two Booleans tell whether the token right
before opens an indexer, at the beginning and at the end.
-/
inductive Covers (whole : Text) : Bool → Text → List Token → Bool → Text → Prop
  | done {inKey : Bool} {rest : Text} : Covers whole inKey rest [] inKey rest
  | blank {c : Char} {inKey inKey' : Bool} {t rest : Text} {ts : List Token} (hc : Text.isBlank c = true)
      (h : Covers whole inKey t ts inKey' rest) : Covers whole inKey (c :: t) ts inKey' rest
  | piece {kind : Kind} {text piece : Text} {inKey inKey' : Bool} {t rest : Text} {ts : List Token}
      (hpiece : Word.WrittenAs (kind, text) inKey piece)
      (h : Covers whole (kind == .indexerOpen) t ts inKey' rest) :
      Covers whole inKey (piece ++ t) (⟨kind, text, Text.offset whole (piece ++ t)⟩ :: ts) inKey' rest

variable {whole t rest mid : Text} {inKey inKey' inKey'' : Bool} {ts us : List Token} {ls : List Lexeme}
  {symbols : List Text}

namespace Covers

theorem append (first : Covers whole inKey t ts inKey' mid) (last : Covers whole inKey' mid us inKey'' rest) :
    Covers whole inKey t (ts ++ us) inKey'' rest := by
  induction first with
  | done => exact last
  | blank hc _ ih => exact .blank hc (ih last)
  | piece hpiece _ ih => exact .piece hpiece (ih last)

theorem skipBlanks (h : Covers whole inKey (Text.skipBlanks t) ts inKey' rest) :
    Covers whole inKey t ts inKey' rest := by
  induction t with
  | nil => exact h
  | cons c t ih =>
      cases hc : Text.isBlank c with
      | false => rwa [Text.skipBlanks_cons hc] at h
      | true =>
          apply Covers.blank hc
          apply ih
          simpa [Text.skipBlanks, hc] using h

theorem verbatim {kind : Kind} (text : Text) (hliteral : kind ≠ .literal) (hopen : kind ≠ .indexerOpen)
    (h : Covers whole false t ts inKey' rest) :
    Covers whole inKey (text ++ t) (⟨kind, text, Text.offset whole (text ++ t)⟩ :: ts) inKey' rest := by
  have hpiece : Word.WrittenAs (kind, text) inKey text := by rw [Word.WrittenAs, if_neg hliteral]
  refine .piece hpiece ?_
  rwa [beq_false_of_ne hopen]

theorem literal {text piece : Text} (htext : trimMarks (unescape inKey piece) = text)
    (h : Covers whole false t ts inKey' rest) :
    Covers whole inKey (piece ++ t) (⟨.literal, text, Text.offset whole (piece ++ t)⟩ :: ts) inKey' rest := by
  have hpiece : Word.WrittenAs (.literal, text) inKey piece := by rwa [Word.WrittenAs, if_pos rfl]
  exact .piece hpiece h

theorem caseMarker (h : Covers whole false t ts inKey' rest) :
    Covers whole inKey ('/' :: 'i' :: t)
      (⟨.caseInsensitive, ['/', 'i'], Text.offset whole ('/' :: 'i' :: t)⟩ :: ts) inKey' rest :=
  verbatim ['/', 'i'] nofun nofun h

theorem blanks (t : Text) : Covers whole inKey t [] inKey (Text.skipBlanks t) := skipBlanks .done

end Covers

theorem size_le_of_suffix (h : rest <:+ t) : Text.size rest ≤ Text.size t := by
  obtain ⟨front, rfl⟩ := h
  rw [Text.size_append]
  exact Nat.le_add_left _ _

namespace Covers

theorem exists_position (h : Covers whole inKey t ts inKey' rest) {token : Token} (hmem : token ∈ ts) :
    ∃ u, u <:+ t ∧ token.position = Text.offset whole u := by
  induction h with
  | done => exact absurd hmem List.not_mem_nil
  | blank _ _ ih =>
      obtain ⟨u, hu, hposition⟩ := ih hmem
      exact ⟨u, hu.trans (List.suffix_cons _ _), hposition⟩
  | piece _ _ ih =>
      rcases List.mem_cons.1 hmem with rfl | hlater
      · exact ⟨_, List.suffix_refl _, rfl⟩
      · obtain ⟨u, hu, hposition⟩ := ih hlater
        exact ⟨u, hu.trans (List.suffix_append _ _), hposition⟩

theorem pairwise_position (h : Covers whole inKey t ts inKey' rest) :
    ts.Pairwise fun token later => token.position ≤ later.position := by
  induction h with
  | done => exact .nil
  | blank _ _ ih => exact ih
  | piece _ hlater ih =>
      refine List.pairwise_cons.2 ⟨fun later hmem => ?_, ih⟩
      obtain ⟨u, hu, hposition⟩ := hlater.exists_position hmem
      rw [hposition]
      apply Nat.sub_le_sub_left
      apply size_le_of_suffix
      exact hu.trans (List.suffix_append _ _)

end Covers

theorem unescape_cons {c : Char} (hc : c ≠ '\\') (inKey : Bool) (t : Text) :
    unescape inKey (c :: t) = (c, !Text.isBlank c) :: unescape inKey t := by
  rw [unescape]
  rintro d u rfl
  exact absurd rfl hc

theorem unescape_backslash (inKey : Bool) (c : Char) (t : Text) :
    unescape inKey ('\\' :: c :: t) =
      if isEscapable c || inKey && (c == '[' || c == ']') then (c, true) :: unescape inKey t
      else if inKey then ('\\', true) :: unescape inKey (c :: t)
      else ('\\', true) :: (c, true) :: unescape inKey t := by
  rw [unescape]

theorem ne_backslash {c : Char} (hlast : c = '\\' → t = [] → False)
    (hescape : ∀ d u, c = '\\' → t = d :: u → False) : c ≠ '\\' := by
  rintro rfl
  cases t with
  | nil => exact hlast rfl rfl
  | cons d u => exact hescape d u rfl rfl

theorem isKeyEscapable_eq (c : Char) : isKeyEscapable c = (isEscapable c || true && (c == '[' || c == ']')) := by
  simp [isKeyEscapable, Bool.or_assoc]

theorem isBlank_of_isKeyEscapable {c : Char} (h : isKeyEscapable c = true) : Text.isBlank c = false := by
  simp only [isKeyEscapable, Bool.or_eq_true, beq_iff_eq] at h
  rcases h with (hescapable | rfl) | rfl
  · exact isBlank_of_isEscapable hescapable
  · rfl
  · rfl

theorem exists_piece_of_scanKey? {key : Text} (h : scanKey? t = some (key, rest)) :
    ∃ piece, t = piece ++ ']' :: rest ∧ unescape true piece = key.map fun c => (c, !Text.isBlank c) := by
  fun_induction scanKey? t generalizing key rest with
  | case1 => cases h
  | case2 t =>
      cases h
      exact ⟨[], rfl, rfl⟩
  | case3 c t hescapable ih =>
      obtain ⟨⟨key, rest⟩, hfound, hequal⟩ := Option.map_eq_some_iff.1 h
      cases hequal
      obtain ⟨piece, rfl, hpiece⟩ := ih hfound
      refine ⟨'\\' :: c :: piece, rfl, ?_⟩
      have hblank := isBlank_of_isKeyEscapable hescapable
      rw [isKeyEscapable_eq] at hescapable
      rw [unescape_backslash, if_pos hescapable, hpiece, List.map_cons, hblank]
      rfl
  | case4 c t hplain ih =>
      obtain ⟨⟨key, rest⟩, hfound, hequal⟩ := Option.map_eq_some_iff.1 h
      cases hequal
      obtain ⟨piece, hbegins, hpiece⟩ := ih hfound
      refine ⟨'\\' :: piece, by rw [hbegins, List.cons_append], ?_⟩
      rw [isKeyEscapable_eq] at hplain
      cases piece with
      | nil =>
          obtain ⟨rfl, -⟩ := List.cons.inj hbegins
          exact absurd rfl hplain
      | cons d piece =>
          obtain ⟨rfl, -⟩ := List.cons.inj hbegins
          rw [unescape_backslash, if_neg hplain, if_pos rfl, hpiece]
          rfl
  | case5 c t hclose hescape ih =>
      obtain ⟨⟨key, rest⟩, hfound, hequal⟩ := Option.map_eq_some_iff.1 h
      cases hequal
      obtain ⟨piece, rfl, hpiece⟩ := ih hfound
      refine ⟨c :: piece, rfl, ?_⟩
      have hplain := ne_backslash (fun _ => by simp) hescape
      rw [unescape_cons hplain, hpiece, List.map_cons]

theorem exists_piece_of_scanMarks {marks : List Mark} (h : scanMarks t = .ok (marks, rest)) :
    ∃ piece, t = piece ++ rest ∧ unescape false piece = marks := by
  fun_induction scanMarks t generalizing marks rest with
  | case1 =>
      cases h
      exact ⟨[], rfl, rfl⟩
  | case2 =>
      cases h
      exact ⟨['\\'], rfl, by decide⟩
  | case3 c t ih =>
      obtain ⟨⟨more, after⟩, hmore, hequal⟩ := map_eq_ok_iff.1 h
      obtain ⟨rfl, rfl⟩ := Prod.mk.inj hequal
      obtain ⟨piece, rfl, rfl⟩ := ih hmore
      refine ⟨'\\' :: c :: piece, rfl, ?_⟩
      simp [unescape]
  | case4 c t _ _ _ =>
      cases h
      exact ⟨[], rfl, rfl⟩
  | case5 t => cases h
  | case6 c t hlone hescape _ _ ih =>
      obtain ⟨⟨more, after⟩, hmore, hequal⟩ := map_eq_ok_iff.1 h
      cases hequal
      obtain ⟨piece, rfl, rfl⟩ := ih hmore
      refine ⟨c :: piece, rfl, ?_⟩
      rw [unescape_cons (ne_backslash hlone hescape)]

theorem trimMarks_map (key : Text) : trimMarks (key.map fun c => (c, !Text.isBlank c)) = key.trim := by
  have hcounts : ((fun mark : Mark => !mark.2) ∘ fun c => (c, !Text.isBlank c)) = Text.isBlank := by
    funext c
    exact Bool.not_not _
  have hchar : (Prod.fst ∘ fun c : Char => (c, !Text.isBlank c)) = id := rfl
  simp only [trimMarks, List.dropWhile_map, ← List.map_reverse, List.map_map, hcounts, hchar, List.map_id]
  rfl

theorem exists_unescape_cons {c : Char} (hc : Text.isBlank c = false) (inKey : Bool) (t : Text) :
    ∃ d marks, unescape inKey (c :: t) = (d, true) :: marks := by
  by_cases hescape : c = '\\'
  · subst hescape
    cases t with
    | nil => exact ⟨'\\', [], rfl⟩
    | cons d u =>
        rw [unescape_backslash]
        split
        · exact ⟨_, _, rfl⟩
        · split
          · exact ⟨_, _, rfl⟩
          · exact ⟨_, _, rfl⟩
  · rw [unescape_cons hescape, hc]
    exact ⟨c, unescape inKey t, rfl⟩

theorem trimMarks_value {marks : List Mark} (h : scanMarks (Text.skipBlanks t) = .ok (marks, rest)) :
    trimMarks marks = significant marks := by
  obtain ⟨piece, hpiece, rfl⟩ := exists_piece_of_scanMarks h
  cases piece with
  | nil => rfl
  | cons c piece =>
      have hc := List.head?_dropWhile_not Text.isBlank t
      unfold Text.skipBlanks at hpiece
      rw [hpiece] at hc
      obtain ⟨d, marks, hmarks⟩ := exists_unescape_cons hc false piece
      rw [hmarks]
      rfl

theorem covers_scanIndexer (h : scanIndexer ('[' :: t) = .ok (ls, rest)) :
    Covers whole false ('[' :: t) (ls.map (Lexeme.place whole)) false rest := by
  unfold scanIndexer at h
  split at h
  · cases h
  · rename_i key after hkey
    cases h
    obtain ⟨piece, hpiece, hmarks⟩ := exists_piece_of_scanKey? hkey
    obtain rfl : t = piece ++ ']' :: rest := hpiece
    have hopen : Word.WrittenAs (.indexerOpen, ['[']) false ['['] := rfl
    have hkeyed : trimMarks (unescape true piece) = key.trim := by rw [hmarks, trimMarks_map]
    exact .piece hopen (.literal hkeyed (.verbatim [']'] nofun nofun .done))

theorem covers_scanIndexer? (h : scanIndexer? t = .ok (ls, rest)) :
    Covers whole false t (ls.map (Lexeme.place whole)) false rest := by
  unfold scanIndexer? at h
  split at h
  · rename_i hhead
    obtain ⟨⟨found, after⟩, hfound, hequal⟩ := map_eq_ok_iff.1 h
    cases hequal
    cases t with
    | nil => cases hhead
    | cons c t =>
        cases hhead
        have hblanks := @Covers.blanks whole false after
        simpa using (covers_scanIndexer hfound).append hblanks
  · cases h
    exact .done

theorem covers_scanFieldMarker? {name : Text} (h : scanFieldMarker? name t = .ok (ls, rest)) :
    Covers whole false t (ls.map (Lexeme.place whole)) false rest := by
  unfold scanFieldMarker? at h
  split at h
  · split at h
    · rename_i hends
      obtain ⟨u, rfl⟩ := endsField_cons_slash hends
      cases h
      exact (Covers.blanks u).caseMarker
    · cases h
  · cases h
    exact .done

theorem covers_scanValue (h : scanValue t = .ok (ls, rest)) :
    Covers whole false t (ls.map (Lexeme.place whole)) false rest := by
  obtain ⟨⟨marks, after⟩, hmarks, h⟩ := bind_eq_ok_iff.1 h
  obtain ⟨piece, hpiece, hunescaped⟩ := exists_piece_of_scanMarks hmarks
  have hvalue : trimMarks (unescape false piece) = significant marks := by
    rw [hunescaped, trimMarks_value hmarks]
  apply Covers.skipBlanks
  dsimp only at h
  split at h
  · rename_i hends
    obtain ⟨u, rfl⟩ := endsValue_cons_slash hends
    cases h
    rw [hpiece]
    exact .literal hvalue (.caseMarker .done)
  · cases h
    rw [hpiece]
    exact .literal hvalue .done

theorem covers_scanComparison (h : scanComparison symbols t = .ok (ls, rest)) :
    Covers whole false t (ls.map (Lexeme.place whole)) false rest := by
  obtain ⟨symbol, hsymbol, h⟩ := bind_eq_ok_iff.1 h
  obtain ⟨⟨value, after⟩, hvalue, h⟩ := bind_eq_ok_iff.1 h
  cases h
  obtain ⟨u, rfl⟩ := (symbolAt_eq_ok hsymbol).1
  rw [List.drop_left] at hvalue
  exact .verbatim symbol nofun nofun (covers_scanValue hvalue)

theorem covers_scanRest (h : scanRest symbols t = .ok (ls, rest)) :
    Covers whole false t (ls.map (Lexeme.place whole)) false rest := by
  unfold scanRest at h
  split at h
  · cases h
    exact .done
  · split at h
    · cases h
      exact .done
    · split at h
      · exact covers_scanComparison h
      · cases h

theorem covers_scanField (h : scanField symbols t = .ok (ls, rest)) :
    Covers whole false t (ls.map (Lexeme.place whole)) false rest := by
  obtain ⟨⟨indexer, r₁⟩, hindexer, h⟩ := bind_eq_ok_iff.1 h
  obtain ⟨⟨marker, r₂⟩, hmarker, h⟩ := bind_eq_ok_iff.1 h
  obtain ⟨⟨comparison, r₃⟩, hcomparison, h⟩ := bind_eq_ok_iff.1 h
  cases h
  have hparts : Covers whole false (t.dropWhile isFieldChar)
      ((indexer ++ marker ++ comparison).map (Lexeme.place whole)) false rest := by
    rw [List.map_append, List.map_append]
    exact ((covers_scanIndexer? hindexer).skipBlanks.append (covers_scanFieldMarker? hmarker)).append
      (covers_scanRest hcomparison)
  have hfield := @Covers.verbatim _ _ _ false _ _ .identifier (t.takeWhile isFieldChar) nofun nofun hparts
  rwa [List.takeWhile_append_dropWhile] at hfield

theorem punctuation?_kind {c : Char} {kind : Kind} (h : punctuation? c = some kind) :
    kind ≠ .literal ∧ kind ≠ .indexerOpen := by
  unfold punctuation? at h
  split at h <;> cases h <;> decide

theorem covers_scanItem {c : Char} (h : scanItem symbols c t = .ok (ls, rest)) :
    Covers whole false (c :: t) (ls.map (Lexeme.place whole)) false rest := by
  unfold scanItem at h
  split at h
  · rename_i kind hkind
    cases h
    obtain ⟨hliteral, hopen⟩ := punctuation?_kind hkind
    exact .verbatim [c] hliteral hopen .done
  · split at h
    · exact covers_scanField h
    · split at h
      · exact covers_scanComparison h
      · cases h

theorem covers_scan (h : scan symbols t = .ok ls) :
    Covers whole false t (ls.map (Lexeme.place whole)) false [] := by
  fun_induction scan symbols t generalizing ls with
  | case1 t hblanks =>
      cases h
      have hcovers := @Covers.blanks whole false t
      rwa [hblanks] at hcovers
  | case2 => cases h
  | case3 t c u hblanks found rest hitem ih =>
      obtain ⟨more, hmore, rfl⟩ := map_eq_ok_iff.1 h
      apply Covers.skipBlanks
      rw [hblanks, List.map_append]
      exact (covers_scanItem hitem).append (ih hmore)

/--
The tokens of a filter cover its text: nothing lies between their pieces but blanks, and every piece begins where
its token says, in the order of the tokens and never inside a character.
-/
theorem ofFilter_covers (h : ofFilter symbols t = .ok ts) :
    Covers t false t ts false [] ∧ (ts.Pairwise fun token later => token.position ≤ later.position) ∧
      ∀ token ∈ ts, ∃ front back, t = front ++ back ∧ token.position = Text.size front := by
  unfold ofFilter at h
  split at h
  · rename_i found
    cases h
    have hcovers := @covers_scan t t _ symbols found
    refine ⟨hcovers, hcovers.pairwise_position, fun token hmem => ?_⟩
    obtain ⟨back, ⟨front, hfront⟩, hposition⟩ := hcovers.exists_position hmem
    refine ⟨front, back, hfront.symm, ?_⟩
    rw [hposition, ← hfront, Text.offset_append]
  · cases h

/-- A key with a bracket in it and blanks around it, two markers, a backslash before a blank, and two bytes for `ö`. -/
def tangled : Text := " ö [ a\\]b ]/i = \\ x\\,y /i , z#="

def tangledTokens : List Token :=
  [⟨.identifier, "ö", 1⟩, ⟨.indexerOpen, "[", 4⟩, ⟨.literal, "a]b", 5⟩, ⟨.indexerClose, "]", 11⟩,
    ⟨.caseInsensitive, "/i", 12⟩, ⟨.operator, "=", 15⟩, ⟨.literal, "\\ x,y", 17⟩, ⟨.caseInsensitive, "/i", 24⟩,
    ⟨.and, ",", 27⟩, ⟨.identifier, "z", 29⟩, ⟨.operator, "#=", 30⟩, ⟨.literal, [], 32⟩]

set_option maxRecDepth 4000 in
theorem ofFilter_covers_tangled :
    ofFilter ["#="] tangled = .ok tangledTokens ∧ Covers tangled false tangled tangledTokens false [] ∧
      (tangledTokens.Pairwise fun token later => token.position ≤ later.position) ∧
      ∀ token ∈ tangledTokens, ∃ front back, tangled = front ++ back ∧ token.position = Text.size front := by
  have hscanned : ofFilter ["#="] tangled = .ok tangledTokens := by cbv
  exact ⟨hscanned, ofFilter_covers hscanned⟩

end FilterLang.Token
