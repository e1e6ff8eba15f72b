import Mathlib
import FilterLang.Proofs.Order.Written

/-!
Tokens of an ordering and the entries read from them. Each run of tokens between commas is an entry exactly if its
words are those of one that is written well, and then that entry is read, so what is read determines the words.
-/

namespace FilterLang

open Token Outcome

theorem Outcome.mapM_eq_ok_iff {ε α β : Type} {f : α → Except ε β} {xs : List α} {ys : List β} :
    xs.mapM f = .ok ys ↔ List.Forall₂ (fun x y => f x = .ok y) xs ys := by
  induction xs generalizing ys with
  | nil =>
      rw [List.mapM_nil, List.forall₂_nil_left_iff]
      constructor
      · intro h
        cases h
        rfl
      · rintro rfl
        rfl
  | cons x xs ih =>
      rw [List.mapM_cons]
      constructor
      · intro h
        obtain ⟨y, hy, h⟩ := bind_eq_ok_iff.1 h
        obtain ⟨more, hmore, h⟩ := bind_eq_ok_iff.1 h
        cases h
        exact .cons hy (ih.1 hmore)
      · rintro (_ | ⟨hy, hmore⟩)
        rw [hy, ih.2 hmore]
        rfl

theorem Outcome.exists_of_mapM_eq_error {ε α β : Type} {f : α → Except ε β} {xs : List α} {fault : ε}
    (h : xs.mapM f = .error fault) : ∃ x ∈ xs, f x = .error fault := by
  induction xs with
  | nil => cases h
  | cons x xs ih =>
      rw [List.mapM_cons] at h
      rcases bind_eq_error_iff.1 h with hfirst | ⟨y, -, h⟩
      · exact ⟨x, List.mem_cons_self, hfirst⟩
      rcases bind_eq_error_iff.1 h with hlater | ⟨ys, -, hdone⟩
      · obtain ⟨x', hmem, hfault⟩ := ih hlater
        exact ⟨x', List.mem_cons_of_mem x hmem, hfault⟩
      · cases hdone

namespace Token

/-- A word as the scanner of orderings makes it: names and directions apart, keys trimmed, all else in its spelling. -/
def Word.Ordered (w : Word) : Prop :=
  match w.1 with
  | .identifier | .ascending | .descending =>
    w.2 ≠ [] ∧ (∀ c ∈ w.2, isFieldChar c = true) ∧ wordKind w.2 = w.1
  | .literal => w.2.trim = w.2
  | kind => kind.spelling? = some w.2

variable {t rest word : Text} {c : Char} {ls : List Lexeme} {ts : List Token}

theorem Word.ordered_word (hne : word ≠ []) (hchars : ∀ c ∈ word, isFieldChar c = true) :
    Word.Ordered (wordKind word, word) := by
  have hcases := wordKind_cases word
  generalize hkind : wordKind word = kind at hcases ⊢
  rcases hcases with rfl | rfl | rfl <;> exact ⟨hne, hchars, hkind⟩

theorem ordered_scanOrderItem (h : scanOrderItem c t = .ok (ls, rest)) : ∀ l ∈ ls, l.word.Ordered := by
  unfold scanOrderItem at h
  split at h
  · rename_i kind hkind
    cases h
    intro l hl
    rw [List.mem_singleton.1 hl]
    unfold orderMark? at hkind
    split at hkind <;> cases hkind <;> rfl
  · split at h
    · unfold scanIndexer at h
      split at h
      · cases h
      · rename_i key after hkey
        cases h
        have htrim : Word.Ordered (.literal, key.trim) := Text.trim_trim key
        exact List.forall_mem_cons.2 ⟨rfl, List.forall_mem_cons.2 ⟨htrim, List.forall_mem_singleton.2 rfl⟩⟩
    · split at h
      · rename_i hfield
        cases h
        refine List.forall_mem_singleton.2 (Word.ordered_word ?_ fun d hd => List.mem_takeWhile_imp hd)
        rw [List.takeWhile_cons_of_pos hfield]
        exact List.cons_ne_nil _ _
      · cases h

theorem ordered_scanOrder (h : scanOrder t = .ok ls) : ∀ l ∈ ls, l.word.Ordered := by
  fun_induction scanOrder t generalizing ls with
  | case1 =>
      cases h
      exact List.forall_mem_nil _
  | case2 => cases h
  | case3 t c u _ found rest hitem ih =>
      obtain ⟨more, hmore, rfl⟩ := map_eq_ok_iff.1 h
      exact List.forall_mem_append.2 ⟨ordered_scanOrderItem hitem, ih hmore⟩

theorem ordered_ofOrdering (h : ofOrdering t = .ok ts) : ∀ token ∈ ts, token.word.Ordered := by
  unfold ofOrdering at h
  split at h
  · rename_i found hls
    cases h
    intro token hmem
    obtain ⟨l, hl, rfl⟩ := List.mem_map.1 hmem
    exact ordered_scanOrder hls l hl
  · cases h

end Token

namespace OrderEntry

open WrittenEntry

variable {ts rest : List Token} {ws : List Word} {name : Token} {key word : Option Text} {nullOrder : NullOrder}
  {direction : Direction} {entry : OrderEntry} {e : WrittenEntry} {stop : Nat}

theorem map_splitCommas (h : ∀ token ∈ ts, token.word.Ordered) :
    (splitCommas ts).map (·.map Token.word) = (ts.map Token.word).splitOn comma := by
  induction ts with
  | nil => rfl
  | cons token ts ih =>
      obtain ⟨htoken, hts⟩ := List.forall_mem_cons.1 h
      have hmore := ih hts
      rw [List.map_cons, List.splitOn, List.splitOnP_cons_eq_if_modifyHead, ← List.splitOn, ← hmore, splitCommas]
      by_cases hkind : token.kind = .comma
      · have hcomma : token.word = comma := by
          obtain ⟨kind, text, position⟩ := token
          cases hkind
          exact congrArg (Kind.comma, ·) (Option.some.inj htoken).symm
        rw [if_pos hkind, hcomma]
        simp
      · have hcomma : (token.word == comma) = false := by
          rw [beq_eq_false_iff_ne]
          exact fun hequal => hkind (congrArg Prod.fst hequal)
        rw [if_neg hkind, hcomma]
        generalize splitCommas ts = runs at hmore ⊢
        cases runs with
        | nil => exact absurd hmore.symm (List.splitOn_ne_nil _ _)
        | cons run runs => rfl

theorem readIndexer_sound (h : readIndexer name ts = .ok (key, rest)) (hts : ∀ token ∈ ts, token.word.Ordered) :
    ∃ front, ts = front ++ rest ∧ front.map Token.word = indexerWords key ∧ key.map Text.trim = key := by
  unfold readIndexer at h
  split at h
  · cases h
    exact ⟨[], rfl, rfl, rfl⟩
  · rename_i opening more
    split at h
    · rename_i hopen
      split at h
      · rename_i literal closing behind
        split at h
        · rename_i hkinds
          cases h
          obtain ⟨hliteral, hclose⟩ := hkinds
          obtain ⟨hopening, hclosing, htrim⟩ : opening.word.Ordered ∧ closing.word.Ordered ∧ literal.word.Ordered :=
            ⟨hts _ (by simp), hts _ (by simp), hts _ (by simp)⟩
          obtain ⟨kind, text, position⟩ := opening
          obtain ⟨kind', text', position'⟩ := literal
          obtain ⟨kind'', text'', position''⟩ := closing
          cases hopen
          cases hliteral
          cases hclose
          cases hopening
          cases hclosing
          exact ⟨[_, _, _], rfl, rfl, congrArg some htrim⟩
        · cases h
      · cases h
    · cases h
      exact ⟨[], rfl, rfl, rfl⟩

theorem readNullOrder_sound (h : readNullOrder ts = (nullOrder, rest)) (hts : ∀ token ∈ ts, token.word.Ordered) :
    ∃ front, ts = front ++ rest ∧ front.map Token.word = nullWords nullOrder := by
  unfold readNullOrder at h
  split at h
  · cases h
    exact ⟨[], rfl, rfl⟩
  · rename_i token more
    have htoken := hts token List.mem_cons_self
    obtain ⟨kind, text, position⟩ := token
    dsimp only at h
    split at h
    · cases h
      cases htoken
      exact ⟨[_], rfl, rfl⟩
    · cases h
      cases htoken
      exact ⟨[_], rfl, rfl⟩
    · cases h
      exact ⟨[], rfl, rfl⟩

theorem readDirection_sound (h : readDirection ts = (direction, rest)) (hts : ∀ token ∈ ts, token.word.Ordered) :
    ∃ word front, ts = front ++ rest ∧ front.map Token.word = directionWords word ∧
      (∀ w ∈ word, IsDirection w) ∧ directionOf word = direction := by
  have hnone : ∀ w ∈ (none : Option Text), IsDirection w := by simp
  unfold readDirection at h
  split at h
  · cases h
    exact ⟨none, [], rfl, rfl, hnone, rfl⟩
  · rename_i token more
    have htoken := hts token List.mem_cons_self
    obtain ⟨kind, text, position⟩ := token
    have hword : ∀ {kind : Kind}, kind = .ascending ∨ kind = .descending → wordKind text = kind →
        directionWords (some text) = [(kind, text)] ∧ ∀ w ∈ some text, IsDirection w := by
      rintro kind hkind rfl
      refine ⟨rfl, fun w hw => ?_⟩
      obtain rfl : text = w := Option.some.inj hw
      by_contra hnot
      rw [wordKind_eq_identifier_iff.2 hnot] at hkind
      rcases hkind with hkind | hkind <;> cases hkind
    dsimp only at h
    split at h
    · cases h
      have hkind : wordKind text = .ascending := htoken.2.2
      obtain ⟨hwords, hdirection⟩ := hword (.inl rfl) hkind
      exact ⟨some text, [_], rfl, hwords.symm, hdirection, by rw [directionOf_some, hkind]; rfl⟩
    · cases h
      have hkind : wordKind text = .descending := htoken.2.2
      obtain ⟨hwords, hdirection⟩ := hword (.inr rfl) hkind
      exact ⟨some text, [_], rfl, hwords.symm, hdirection, by rw [directionOf_some, hkind]; rfl⟩
    · cases h
      exact ⟨none, [], rfl, rfl, hnone, rfl⟩

theorem ofTokens_sound (h : ofTokens stop ts = .ok entry) (hts : ∀ token ∈ ts, token.word.Ordered) :
    ∃ e : WrittenEntry, e.WellFormed ∧ ts.map Token.word = e.words ∧ ∃ position, entry = e.entry position := by
  unfold ofTokens at h
  split at h
  · cases h
  · rename_i name more
    obtain ⟨hname, hmore⟩ := List.forall_mem_cons.1 hts
    split at h
    · rename_i hkind
      obtain ⟨⟨key, behindKey⟩, hkey, hread⟩ := bind_eq_ok_iff.1 h
      rcases hnull : readNullOrder behindKey with ⟨nullOrder, behindNull⟩
      rcases hlast : readDirection behindNull with ⟨direction, last⟩
      simp only [hnull, hlast] at hread
      obtain ⟨keyed, rfl, hkeyWords, htrim⟩ := readIndexer_sound hkey hmore
      obtain ⟨-, hbehindKey⟩ := List.forall_mem_append.1 hmore
      obtain ⟨nulls, rfl, hnullWords⟩ := readNullOrder_sound hnull hbehindKey
      obtain ⟨-, hbehindNull⟩ := List.forall_mem_append.1 hbehindKey
      obtain ⟨word, directions, rfl, hwordWords, hdirection, hdirectionOf⟩ := readDirection_sound hlast hbehindNull
      split at hread
      · cases hread
        obtain ⟨kind, text, position⟩ := name
        cases hkind
        obtain ⟨hne, hchars, hidentifier⟩ := hname
        refine ⟨⟨text, key, nullOrder, word⟩,
          ⟨hne, hchars, wordKind_eq_identifier_iff.1 hidentifier, htrim, hdirection⟩, ?_, position, ?_⟩
        · rw [List.append_nil, List.map_cons, List.map_append, List.map_append, hkeyWords, hnullWords, hwordWords]
          rfl
        · rw [WrittenEntry.entry, hdirectionOf]
      · cases hread
    · cases h

theorem readIndexer_words (name : Token) (hts : ts.map Token.word = indexerWords key ++ ws)
    (hws : ∀ w ∈ ws.head?, w.1 ≠ .indexerOpen) :
    ∃ rest, readIndexer name ts = .ok (key, rest) ∧ rest.map Token.word = ws := by
  cases key with
  | none =>
      have hwords : ts.map Token.word = ws := hts
      refine ⟨ts, ?_, hwords⟩
      cases ts with
      | nil => rfl
      | cons token more =>
          have hopen : token.kind ≠ .indexerOpen := hws token.word (by rw [← hwords]; rfl)
          unfold readIndexer
          exact if_neg hopen
  | some key =>
      obtain ⟨opening, _, rfl, hopening, hmore⟩ := List.map_eq_cons_iff.1 hts
      obtain ⟨literal, _, rfl, hliteral, hmore⟩ := List.map_eq_cons_iff.1 hmore
      obtain ⟨closing, rest, rfl, hclosing, hrest⟩ := List.map_eq_cons_iff.1 hmore
      obtain ⟨hopen, -⟩ := Prod.mk.inj hopening
      obtain ⟨hkey, htext⟩ := Prod.mk.inj hliteral
      obtain ⟨hclose, -⟩ := Prod.mk.inj hclosing
      refine ⟨rest, ?_, hrest⟩
      simp only [readIndexer, hopen, hkey, hclose, htext, ↓reduceIte, and_self]

theorem readNullOrder_words (hts : ts.map Token.word = nullWords nullOrder ++ ws)
    (hws : ∀ w ∈ ws.head?, w.1 ≠ .hasValue ∧ w.1 ≠ .isNull) :
    ∃ rest, readNullOrder ts = (nullOrder, rest) ∧ rest.map Token.word = ws := by
  cases nullOrder with
  | natural =>
      have hwords : ts.map Token.word = ws := hts
      refine ⟨ts, ?_, hwords⟩
      cases ts with
      | nil => rfl
      | cons token more =>
          obtain ⟨hhasValue, hisNull⟩ : token.kind ≠ .hasValue ∧ token.kind ≠ .isNull :=
            hws token.word (by rw [← hwords]; rfl)
          unfold readNullOrder
          dsimp only
          split
          · rename_i hkind
            exact absurd hkind hhasValue
          · rename_i hkind
            exact absurd hkind hisNull
          · rfl
  | hasValue =>
      obtain ⟨token, rest, rfl, htoken, hrest⟩ := List.map_eq_cons_iff.1 hts
      have hkind : token.kind = .hasValue := congrArg Prod.fst htoken
      exact ⟨rest, by simp only [readNullOrder, hkind], hrest⟩
  | isNull =>
      obtain ⟨token, rest, rfl, htoken, hrest⟩ := List.map_eq_cons_iff.1 hts
      have hkind : token.kind = .isNull := congrArg Prod.fst htoken
      exact ⟨rest, by simp only [readNullOrder, hkind], hrest⟩

theorem readDirection_words (hts : ts.map Token.word = directionWords word) (hword : ∀ w ∈ word, IsDirection w) :
    readDirection ts = (directionOf word, []) := by
  cases word with
  | none =>
      rw [List.map_eq_nil_iff.1 hts]
      rfl
  | some word =>
      obtain ⟨token, _, rfl, htoken, hrest⟩ := List.map_eq_cons_iff.1 hts
      rw [List.map_eq_nil_iff.1 hrest]
      have hkind : token.kind = wordKind word := congrArg Prod.fst htoken
      rw [directionOf_some]
      rcases wordKind_cases word with hcase | hcase | hcase
      · rw [hcase] at hkind ⊢
        simp only [readDirection, hkind, reduceCtorEq, ↓reduceIte]
      · rw [hcase] at hkind ⊢
        simp only [readDirection, hkind, ↓reduceIte]
      · exact absurd (hword word rfl) (wordKind_eq_identifier_iff.1 hcase)

theorem head?_directionWords {w : Word} (h : w ∈ (directionWords word).head?) :
    w.1 = .ascending ∨ w.1 = .descending ∨ w.1 = .identifier := by
  cases word with
  | none => cases h
  | some word =>
      cases h
      exact wordKind_cases word

theorem head?_nullWords {w : Word} (h : w ∈ (nullWords nullOrder ++ directionWords word).head?) :
    w.1 ≠ .indexerOpen := by
  cases nullOrder with
  | natural => rcases head?_directionWords h with hkind | hkind | hkind <;> rw [hkind] <;> decide
  | hasValue =>
      cases h
      decide
  | isNull =>
      cases h
      decide

theorem ofTokens_words (h : e.WellFormed) (hts : ts.map Token.word = e.words) (stop : Nat) :
    ∃ position, ofTokens stop ts = .ok (e.entry position) := by
  obtain ⟨name, _, rfl, hname, hmore⟩ := List.map_eq_cons_iff.1 hts
  obtain ⟨hkind, htext⟩ := Prod.mk.inj hname
  obtain ⟨behindKey, hkey, hbehindKey⟩ := readIndexer_words name hmore fun w hw => head?_nullWords hw
  obtain ⟨behindNull, hnull, hbehindNull⟩ := readNullOrder_words hbehindKey fun w hw => by
    rcases head?_directionWords hw with hcase | hcase | hcase <;> rw [hcase] <;> decide
  have hlast := readDirection_words hbehindNull h.word_direction
  refine ⟨name.position, ?_⟩
  simp only [ofTokens, hkind, ↓reduceIte, hkey, bind, Except.bind, hnull, hlast, htext]
  rfl

theorem comma_not_mem_words (e : WrittenEntry) : comma ∉ e.words := by
  intro hmem
  have hkind : ∀ w ∈ e.words, w.1 ≠ .comma := by
    obtain ⟨field, key, nullOrder, word⟩ := e
    refine List.forall_mem_cons.2 ⟨nofun, List.forall_mem_append.2 ⟨?_, List.forall_mem_append.2 ⟨?_, ?_⟩⟩⟩
    · cases key with
      | none => exact List.forall_mem_nil _
      | some key => simp [indexerWords]
    · cases nullOrder <;> simp [nullWords]
    · cases word with
      | none => exact List.forall_mem_nil _
      | some word =>
          refine List.forall_mem_singleton.2 ?_
          rcases wordKind_cases word with hcase | hcase | hcase <;> dsimp only <;> rw [hcase] <;> decide
  exact hkind comma hmem rfl

/-- Entries that are what is meant by some in writing, wherever they stand. -/
def Meant (es : List WrittenEntry) (entries : List OrderEntry) : Prop :=
  List.Forall₂ (fun e entry => ∃ position, entry = e.entry position) es entries

variable {es : List WrittenEntry} {entries : List OrderEntry} {t : Text}

theorem exists_entries {runs : List (List Token)} (hruns : runs.map (·.map Token.word) = es.map words)
    (hes : ∀ e ∈ es, e.WellFormed) (stop : Nat) :
    ∃ entries, runs.mapM (ofTokens stop) = .ok entries ∧ Meant es entries := by
  induction es generalizing runs with
  | nil =>
      rw [List.map_eq_nil_iff.1 hruns]
      exact ⟨[], rfl, .nil⟩
  | cons e es ih =>
      obtain ⟨he, hes⟩ := List.forall_mem_cons.1 hes
      obtain ⟨run, runs, rfl, hrun, hruns⟩ := List.map_eq_cons_iff.1 hruns
      obtain ⟨position, hentry⟩ := ofTokens_words he hrun stop
      obtain ⟨entries, hentries, hmeant⟩ := ih hruns hes
      refine ⟨e.entry position :: entries, ?_, .cons ⟨position, rfl⟩ hmeant⟩
      rw [List.mapM_cons, hentry, hentries]
      rfl

theorem exists_written {runs : List (List Token)}
    (h : List.Forall₂ (fun run entry => ofTokens stop run = .ok entry) runs entries)
    (hruns : ∀ run ∈ runs, ∀ token ∈ run, token.word.Ordered) :
    ∃ es : List WrittenEntry, (∀ e ∈ es, e.WellFormed) ∧ runs.map (·.map Token.word) = es.map words ∧
      Meant es entries := by
  induction h with
  | nil => exact ⟨[], List.forall_mem_nil _, rfl, .nil⟩
  | cons hentry _ ih =>
      obtain ⟨hrun, hruns⟩ := List.forall_mem_cons.1 hruns
      obtain ⟨e, he, hwords, hmeant⟩ := ofTokens_sound hentry hrun
      obtain ⟨es, hes, hmore, hmeants⟩ := ih hruns
      refine ⟨e :: es, List.forall_mem_cons.2 ⟨he, hes⟩, ?_, .cons hmeant hmeants⟩
      rw [List.map_cons, List.map_cons, hwords, hmore]

theorem mem_of_mem_splitCommas {run : List Token} {token : Token} (hrun : run ∈ splitCommas ts)
    (htoken : token ∈ run) : token ∈ ts := by
  induction ts generalizing run with
  | nil =>
      rw [List.mem_singleton.1 hrun] at htoken
      cases htoken
  | cons first ts ih =>
      rw [splitCommas] at hrun
      split at hrun
      · rcases List.mem_cons.1 hrun with rfl | hlater
        · cases htoken
        · exact List.mem_cons_of_mem _ (ih hlater htoken)
      · split at hrun
        · rw [List.mem_singleton.1 hrun] at htoken
          rw [List.mem_singleton.1 htoken]
          exact List.mem_cons_self
        · rename_i run' runs hsplit
          rcases List.mem_cons.1 hrun with rfl | hlater
          · rcases List.mem_cons.1 htoken with rfl | hbehind
            · exact List.mem_cons_self
            · exact List.mem_cons_of_mem _ (ih (by rw [hsplit]; exact List.mem_cons_self) hbehind)
          · exact List.mem_cons_of_mem _ (ih (by rw [hsplit]; exact List.mem_cons_of_mem _ hlater) htoken)

/-- A text with the words of some entries is read as those entries. -/
theorem readAll_words (hscan : ofOrdering t = .ok ts) (hts : ts.map Token.word = wordsOfAll es)
    (hes : ∀ e ∈ es, e.WellFormed) : ∃ entries, readAll t = .ok entries ∧ Meant es entries := by
  cases es with
  | nil =>
      obtain rfl : ts = [] := List.map_eq_nil_iff.1 hts
      exact ⟨[], by rw [readAll, hscan]; rfl, .nil⟩
  | cons e more =>
      have hruns : (splitCommas ts).map (·.map Token.word) = (e :: more).map words := by
        rw [map_splitCommas (ordered_ofOrdering hscan), hts]
        refine List.splitOn_intercalate comma (fun ws hws => ?_) (by simp)
        obtain ⟨e', -, rfl⟩ := List.mem_map.1 hws
        exact comma_not_mem_words e'
      have hne : ts.isEmpty = false := by
        cases ts with
        | nil => cases more <;> cases hts
        | cons token ts => rfl
      obtain ⟨entries, hentries, hmeant⟩ := exists_entries hruns hes (Text.size t)
      refine ⟨entries, ?_, hmeant⟩
      simp only [readAll, hscan, bind, Except.bind, hne, Bool.false_eq_true, ↓reduceIte, hentries]
      rfl

theorem readAll_sound (h : readAll t = .ok entries) :
    ∃ es ts, (∀ e ∈ es, e.WellFormed) ∧ ofOrdering t = .ok ts ∧ ts.map Token.word = wordsOfAll es ∧
      Meant es entries := by
  obtain ⟨ts, hscan, h⟩ := bind_eq_ok_iff.1 h
  split at h
  · rename_i hempty
    cases h
    exact ⟨[], ts, List.forall_mem_nil _, hscan, by rw [List.isEmpty_iff.1 hempty]; rfl, .nil⟩
  · have hordered := ordered_ofOrdering hscan
    have hread := mapM_eq_ok_iff.1 (mapError_eq_ok_iff.1 h)
    obtain ⟨es, hes, hwords, hmeant⟩ := exists_written hread fun run hrun token htoken =>
      hordered token (mem_of_mem_splitCommas hrun htoken)
    refine ⟨es, ts, hes, hscan, ?_, hmeant⟩
    rw [wordsOfAll, ← hwords, map_splitCommas hordered, List.intercalate_splitOn]

end OrderEntry

end FilterLang
