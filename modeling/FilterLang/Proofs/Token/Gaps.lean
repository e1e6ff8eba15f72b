import FilterLang.Proofs.Token.Pieces
import FilterLang.Proofs.Token.Symbols

/-!
Texts that are made of the same pieces and differ in the blanks between them. Where a token begins in the one text
is known from its position, and the other text has the same piece behind its own blanks.
-/

namespace FilterLang.Token

/-- A run of blanks and what may stand for it: blanks again, and some where there were any. -/
structure Widened (gap gap' : Text) : Prop where
  blank : Text.allBlank gap = true
  blank' : Text.allBlank gap' = true
  kept : gap ≠ [] → gap' ≠ []

/--
Two texts made of the same pieces for the same tokens, the first of them an ending of `whole` that the tokens have
their positions in, and the gaps of the second widened. The Boolean tells whether the token before opens an indexer.
-/
inductive Respaced (whole : Text) : Bool → Text → Text → List Token → Prop
  | done {inKey : Bool} {gap gap' : Text} (hgap : Widened gap gap') : Respaced whole inKey gap gap' []
  | piece {kind : Kind} {text piece gap gap' : Text} {inKey : Bool} {t t' : Text} {ts : List Token}
      (hgap : Widened gap gap') (hpiece : Word.WrittenAs (kind, text) inKey piece)
      (h : Respaced whole (kind == .indexerOpen) t t' ts) :
      Respaced whole inKey (gap ++ (piece ++ t)) (gap' ++ (piece ++ t'))
        (⟨kind, text, Text.offset whole (piece ++ t)⟩ :: ts)

inductive Aligned (whole : Text) : Text → Text → List Token → Prop
  | done : Aligned whole [] [] []
  | word {kind : Kind} {text t t' : Text} {ts : List Token} (hliteral : kind ≠ .literal) (hne : text ≠ [])
      (h : Respaced whole (kind == .indexerOpen) t t' ts) :
      Aligned whole (text ++ t) (text ++ t') (⟨kind, text, Text.offset whole (text ++ t)⟩ :: ts)

/-- Behind the blanks the first of some tokens begins, or the text ends if there are none. -/
def Next (whole rest : Text) : List Token → Prop
  | [] => Text.skipBlanks rest = []
  | token :: _ =>
    token.kind ≠ .literal ∧ token.text ≠ [] ∧ token.position = Text.offset whole (Text.skipBlanks rest)

variable {whole t t' u start rest rest' gap gap' piece : Text} {inKey : Bool} {ts : List Token} {token : Token}

theorem offset_inj (ht : t <:+ whole) (hu : u <:+ whole) (h : Text.offset whole t = Text.offset whole u) :
    t = u := by
  have hsize : Text.size t = Text.size u := by
    have htSize := size_le_of_suffix ht
    have huSize := size_le_of_suffix hu
    unfold Text.offset at h
    omega
  rcases List.suffix_or_suffix_of_suffix ht hu with ⟨front, rfl⟩ | ⟨front, rfl⟩
  · rw [Text.size_append] at hsize
    have hfront : front = [] := Text.size_eq_zero_iff.1 (by omega)
    rw [hfront, List.nil_append]
  · rw [Text.size_append] at hsize
    have hfront : front = [] := Text.size_eq_zero_iff.1 (by omega)
    rw [hfront, List.nil_append]

theorem Word.writtenAs_iff {w : Word} (h : w.1 ≠ .literal) : w.WrittenAs inKey piece ↔ piece = w.2 := by
  rw [WrittenAs, if_neg h]

theorem Widened.nil : Widened [] [] where
  blank := rfl
  blank' := rfl
  kept := id

theorem Widened.cons {c : Char} (hc : Text.isBlank c = true) (h : Widened gap gap') :
    Widened (c :: gap) (c :: gap') where
  blank := Text.allBlank_cons.2 ⟨hc, h.blank⟩
  blank' := Text.allBlank_cons.2 ⟨hc, h.blank'⟩
  kept _ := List.cons_ne_nil _ _

theorem Widened.insert {blanks : Text} (hblanks : Text.allBlank blanks = true) (h : Widened gap gap') :
    Widened gap (blanks ++ gap') where
  blank := h.blank
  blank' := by
    have hgap' := h.blank'
    unfold Text.allBlank at hblanks hgap' ⊢
    rw [List.all_append, hblanks, hgap']
    rfl
  kept hne := by
    intro hnil
    exact h.kept hne (List.append_eq_nil_iff.1 hnil).2

theorem Widened.eq_nil {c : Char} (h : Widened gap gap') (hhead : (gap' ++ u).head? = some c)
    (hc : Text.isBlank c = false) : gap = [] ∧ gap' = [] := by
  cases gap' with
  | nil => exact ⟨by_contra fun hne => h.kept hne rfl, rfl⟩
  | cons d gap' =>
      cases hhead
      have hblank := Text.isBlank_of_allBlank h.blank' List.mem_cons_self
      rw [hc] at hblank
      cases hblank

namespace Respaced

theorem blank {c : Char} (hc : Text.isBlank c = true) (h : Respaced whole inKey t t' ts) :
    Respaced whole inKey (c :: t) (c :: t') ts := by
  cases h with
  | done hgap => exact .done (hgap.cons hc)
  | piece hgap hpiece h => exact .piece (hgap.cons hc) hpiece h

theorem insert {blanks : Text} (hblanks : Text.allBlank blanks = true) (h : Respaced whole inKey t t' ts) :
    Respaced whole inKey t (blanks ++ t') ts := by
  cases h with
  | done hgap => exact .done (hgap.insert hblanks)
  | piece hgap hpiece h =>
      rw [← List.append_assoc blanks]
      exact .piece (hgap.insert hblanks) hpiece h

theorem of_covers {inKey' : Bool} {us : List Token} (h : Covers whole inKey t ts inKey' rest)
    (hrest : Respaced whole inKey' rest rest' us) :
    ∃ front, t = front ++ rest ∧ Respaced whole inKey t (front ++ rest') (ts ++ us) := by
  induction h with
  | done => exact ⟨[], rfl, hrest⟩
  | @blank c _ _ _ _ _ hc _ ih =>
      obtain ⟨front, rfl, hfront⟩ := ih hrest
      exact ⟨c :: front, rfl, hfront.blank hc⟩
  | @piece _ _ piece _ _ _ _ _ hpiece _ ih =>
      obtain ⟨front, rfl, hfront⟩ := ih hrest
      refine ⟨piece ++ front, by rw [List.append_assoc], ?_⟩
      rw [List.append_assoc]
      exact .piece .nil hpiece hfront

theorem begins {word : Text} (h : Respaced whole inKey t t' ts)
    (hword : ∀ c ∈ word, Text.isBlank c = false) (hbegins : word <+: t') : word <+: t := by
  induction h generalizing word with
  | @done _ gap gap' hgap =>
      cases word with
      | nil => exact List.nil_prefix
      | cons c word =>
          have hblank := Text.isBlank_of_allBlank hgap.blank' (hbegins.subset List.mem_cons_self)
          rw [hword c List.mem_cons_self] at hblank
          cases hblank
  | @piece _ _ piece gap gap' _ t t' _ hgap _ _ ih =>
      cases word with
      | nil => exact List.nil_prefix
      | cons c word =>
          obtain ⟨_, hsame⟩ := hbegins
          have hhead : (gap' ++ (piece ++ t')).head? = some c := by rw [← hsame]; rfl
          obtain ⟨rfl, rfl⟩ := hgap.eq_nil hhead (hword c List.mem_cons_self)
          rw [List.nil_append] at hsame ⊢
          rcases List.append_eq_append_iff.1 hsame with ⟨between, hpiece, _⟩ | ⟨between, hmore, ht'⟩
          · rw [hpiece, List.append_assoc]
            exact List.prefix_append _ _
          · rw [hmore, List.prefix_append_right_inj]
            apply ih
            · intro d hd
              rw [hmore] at hword
              exact hword d (List.mem_append_right _ hd)
            · exact ⟨_, ht'.symm⟩

theorem head?_skipBlanks (h : Respaced whole inKey t t' ts) :
    (Text.skipBlanks t').head? = (Text.skipBlanks t).head? := by
  induction h with
  | done hgap => rw [Text.skipBlanks_of_allBlank hgap.blank, Text.skipBlanks_of_allBlank hgap.blank']
  | piece hgap _ _ ih =>
      rw [Text.skipBlanks_append hgap.blank, Text.skipBlanks_append hgap.blank']
      exact Text.head?_skipBlanks_append _ ih

/-- A token that begins at a known place: its piece, and the gaps before it. -/
theorem inv (h : Respaced whole inKey t t' (token :: ts)) (ht : t <:+ whole) (hstart : start <:+ whole)
    (hposition : token.position = Text.offset whole start) :
    ∃ piece gap gap' u u', Widened gap gap' ∧ token.word.WrittenAs inKey piece ∧ start = piece ++ u ∧
      t = gap ++ start ∧ t' = gap' ++ (piece ++ u') ∧
      Respaced whole (token.kind == .indexerOpen) u u' ts := by
  cases h with
  | @piece _ _ piece gap gap' _ u u' _ hgap hpiece h =>
      obtain rfl := offset_inj ((List.suffix_append _ _).trans ht) hstart hposition
      exact ⟨piece, gap, gap', u, u', hgap, hpiece, rfl, rfl, rfl, h⟩

end Respaced

namespace Aligned

theorem inv {kind : Kind} {text : Text} {position : Nat}
    (h : Aligned whole t t' (⟨kind, text, position⟩ :: ts)) :
    ∃ u u', t = text ++ u ∧ t' = text ++ u' ∧ Respaced whole (kind == .indexerOpen) u u' ts := by
  cases h with
  | word _ _ h => exact ⟨_, _, rfl, rfl, h⟩

theorem text_ne_nil {kind : Kind} {text : Text} {position : Nat}
    (h : Aligned whole t t' (⟨kind, text, position⟩ :: ts)) : text ≠ [] := by
  cases h with
  | word _ hne _ => exact hne

theorem head?_eq (h : Aligned whole t t' ts) : t'.head? = t.head? := by
  cases h with
  | done => rfl
  | word _ hne _ =>
      obtain ⟨c, text, rfl⟩ := List.exists_cons_of_ne_nil hne
      rfl

theorem respaced (h : Aligned whole t t' ts) : Respaced whole false t t' ts := by
  cases h with
  | done => exact .done .nil
  | word hliteral _ h => exact .piece .nil ((Word.writtenAs_iff hliteral).2 rfl) h

end Aligned

theorem next_skipBlanks_iff : Next whole (Text.skipBlanks rest) ts ↔ Next whole rest ts := by
  cases ts with
  | nil => rw [Next, Next, Text.skipBlanks_skipBlanks]
  | cons token ts => rw [Next, Next, Text.skipBlanks_skipBlanks]

theorem Respaced.behind (h : Respaced whole inKey t t' ts) (ht : t <:+ whole) (hstart : start <:+ whole)
    (hskip : Text.skipBlanks start = start) (hnext : Next whole start ts) :
    ∃ gap gap' start', Widened gap gap' ∧ t = gap ++ start ∧ t' = gap' ++ start' ∧
      Aligned whole start start' ts := by
  cases ts with
  | nil =>
      rw [Next, hskip] at hnext
      subst hnext
      cases h with
      | done hgap => exact ⟨t, t', [], hgap, (List.append_nil t).symm, (List.append_nil t').symm, .done⟩
  | cons token ts =>
      obtain ⟨hliteral, hne, hposition⟩ := hnext
      rw [hskip] at hposition
      obtain ⟨piece, gap, gap', u, u', hgap, hpiece, rfl, rfl, rfl, hrest⟩ := h.inv ht hstart hposition
      obtain ⟨kind, text, position⟩ := token
      obtain rfl : position = _ := hposition
      obtain rfl : piece = text := (Word.writtenAs_iff hliteral).1 hpiece
      exact ⟨gap, gap', _, hgap, rfl, rfl, .word hliteral hne hrest⟩

theorem Respaced.aligned (h : Respaced whole inKey t t' ts) (ht : t <:+ whole) (hnext : Next whole t ts) :
    Aligned whole (Text.skipBlanks t) (Text.skipBlanks t') ts := by
  obtain ⟨gap, gap', start', hgap, -, rfl, haligned⟩ := h.behind ht ((Text.skipBlanks_suffix t).trans ht)
    (Text.skipBlanks_skipBlanks t) (next_skipBlanks_iff.2 hnext)
  have hhead : ∀ c ∈ start'.head?, Text.isBlank c = false := by
    intro c hc
    rw [haligned.head?_eq] at hc
    exact Text.isBlank_of_head_skipBlanks hc
  rwa [Text.skipBlanks_append hgap.blank', Text.skipBlanks_of_head hhead]

end FilterLang.Token
