import FilterLang.Order.Entry
import FilterLang.Proofs.Text.Runs
import FilterLang.Proofs.Token.Respaced
import FilterLang.Proofs.Token.Scanning

/-!
White space between the tokens of a text does not matter. Blanks put in at the start, at the end or between two tokens
leave the same words, in filters and in orderings.
-/

namespace FilterLang.Token

open Outcome

variable {whole t t' rest : Text} {ts more : List Token} {ls : List Lexeme} {symbols : List Text} {c : Char}

theorem Next.cons {l : Lexeme} (hliteral : l.kind ≠ .literal) (hne : l.text ≠ [])
    (hstart : Text.skipBlanks rest = l.start) : Next whole rest (Lexeme.place whole l :: ts) :=
  ⟨hliteral, hne, congrArg (Text.offset whole) hstart.symm⟩

theorem symbol_ne_nil {symbol : Text} (hsymbols : ∀ s ∈ symbols, Registry.isSymbol s = true)
    (h : symbol ∈ symbols ∨ symbol ∈ builtInSymbols) : symbol ≠ [] := by
  rintro rfl
  rcases h with hcustom | hbuiltIn
  · cases hsymbols [] hcustom
  · exact absurd hbuiltIn (by decide)

theorem next_scanIndexer (hscan : scanIndexer ('[' :: t) = .ok (ls, rest)) :
    Next whole ('[' :: t) (ls.map (Lexeme.place whole) ++ more) := by
  unfold scanIndexer at hscan
  split at hscan
  · cases hscan
  · cases hscan
    exact .cons nofun nofun rfl

theorem next_scanIndexer? (hscan : scanIndexer? t = .ok (ls, rest)) (hnext : Next whole rest more) :
    Next whole t (ls.map (Lexeme.place whole) ++ more) := by
  unfold scanIndexer? at hscan
  split at hscan
  · rename_i hopen
    obtain ⟨⟨found, after⟩, hfound, hequal⟩ := map_eq_ok_iff.1 hscan
    cases hequal
    cases t with
    | nil => cases hopen
    | cons c t =>
        cases hopen
        exact next_scanIndexer hfound
  · cases hscan
    exact hnext

theorem next_scanFieldMarker? {name : Text} (hscan : scanFieldMarker? name t = .ok (ls, rest))
    (hnext : Next whole rest more) : Next whole t (ls.map (Lexeme.place whole) ++ more) := by
  unfold scanFieldMarker? at hscan
  split at hscan
  · split at hscan
    · rename_i hends
      obtain ⟨u, rfl⟩ := endsField_cons_slash hends
      cases hscan
      exact .cons nofun nofun rfl
    · cases hscan
  · cases hscan
    exact hnext

theorem next_scanComparison (hsymbols : ∀ s ∈ symbols, Registry.isSymbol s = true)
    (hstart : isOperatorStart c = true) (hscan : scanComparison symbols (c :: t) = .ok (ls, rest)) :
    Next whole (c :: t) (ls.map (Lexeme.place whole) ++ more) := by
  obtain ⟨symbol, hsymbol, hscan⟩ := bind_eq_ok_iff.1 hscan
  obtain ⟨⟨value, after⟩, _, hscan⟩ := bind_eq_ok_iff.1 hscan
  cases hscan
  exact .cons nofun (symbol_ne_nil hsymbols (symbolAt_eq_ok hsymbol).2)
    (Text.skipBlanks_cons (isBlank_of_isOperatorStart hstart))

theorem next_scanRest (hsymbols : ∀ s ∈ symbols, Registry.isSymbol s = true)
    (hscan : scanRest symbols t = .ok (ls, rest)) (hnext : Next whole rest more) :
    Next whole t (ls.map (Lexeme.place whole) ++ more) := by
  unfold scanRest at hscan
  split at hscan
  · cases hscan
    exact hnext
  · split at hscan
    · cases hscan
      exact hnext
    · split at hscan
      · rename_i hstart
        exact next_scanComparison hsymbols hstart hscan
      · cases hscan

theorem takeWhile_ne_nil (hc : isFieldChar c = true) (t : Text) : (c :: t).takeWhile isFieldChar ≠ [] := by
  rw [List.takeWhile_cons_of_pos hc]
  exact List.cons_ne_nil _ _

theorem next_scanItem (hsymbols : ∀ s ∈ symbols, Registry.isSymbol s = true) (hblank : Text.isBlank c = false)
    (hscan : scanItem symbols c t = .ok (ls, rest)) :
    Next whole (c :: t) (ls.map (Lexeme.place whole) ++ more) := by
  have hstart := Text.skipBlanks_cons (t := t) hblank
  unfold scanItem at hscan
  split at hscan
  · rename_i kind hkind
    cases hscan
    exact .cons (punctuation?_kind hkind).1 (List.cons_ne_nil _ _) hstart
  · split at hscan
    · rename_i hfield
      obtain ⟨⟨indexer, r₁⟩, _, hscan⟩ := bind_eq_ok_iff.1 hscan
      obtain ⟨⟨marker, r₂⟩, _, hscan⟩ := bind_eq_ok_iff.1 hscan
      obtain ⟨⟨comparison, r₃⟩, _, hscan⟩ := bind_eq_ok_iff.1 hscan
      cases hscan
      exact .cons nofun (takeWhile_ne_nil hfield t) hstart
    · split at hscan
      · rename_i hoperator
        exact next_scanComparison hsymbols hoperator hscan
      · cases hscan

theorem next_scan (hsymbols : ∀ s ∈ symbols, Registry.isSymbol s = true) (hscan : scan symbols t = .ok ls) :
    Next whole t (ls.map (Lexeme.place whole)) := by
  cases hblanks : Text.skipBlanks t with
  | nil =>
      rw [scan_blanks hblanks] at hscan
      cases hscan
      exact hblanks
  | cons c u =>
      obtain ⟨found, rest, more, hitem, -, rfl⟩ := exists_item_of_scan hblanks hscan
      rw [← next_skipBlanks_iff, hblanks, List.map_append]
      exact next_scanItem hsymbols (Text.isBlank_of_skipBlanks hblanks) hitem

theorem Aligned.single {kind : Kind} {position : Nat}
    (h : Aligned whole (c :: t) (c :: t') (⟨kind, [c], position⟩ :: ts)) (hkind : kind ≠ .indexerOpen) :
    Respaced whole false t t' ts := by
  obtain ⟨u, u', hbegins, hbegins', hspaced⟩ := h.inv
  obtain rfl : t = u := (List.cons.inj hbegins).2
  obtain rfl : t' = u' := (List.cons.inj hbegins').2
  rwa [beq_false_of_ne hkind] at hspaced

theorem Respaced.isFieldChar_of_head {inKey : Bool} (h : Respaced whole inKey t t' ts)
    (ht : ∀ c ∈ t.head?, isFieldChar c = false) : ∀ c ∈ t'.head?, isFieldChar c = false := by
  intro c hc
  cases hfield : isFieldChar c with
  | false => rfl
  | true =>
      have hword : ∀ d ∈ [c], Text.isBlank d = false := by
        intro d hd
        rw [List.mem_singleton.1 hd]
        exact isBlank_of_isFieldChar hfield
      obtain ⟨u', rfl⟩ : ∃ u', t' = c :: u' := List.head?_eq_some_iff.1 hc
      obtain ⟨u, rfl⟩ := h.begins hword ⟨u', rfl⟩
      rw [← hfield]
      exact ht c rfl

theorem Aligned.name {kind : Kind} {position : Nat}
    (h : Aligned whole t t' (⟨kind, t.takeWhile isFieldChar, position⟩ :: ts)) (hkind : kind ≠ .indexerOpen) :
    t'.takeWhile isFieldChar = t.takeWhile isFieldChar ∧
      Respaced whole false (t.dropWhile isFieldChar) (t'.dropWhile isFieldChar) ts := by
  obtain ⟨u, u', hname, rfl, hbehind⟩ := h.inv
  have hsplit := List.takeWhile_append_dropWhile (p := isFieldChar) (l := t)
  obtain rfl : t.dropWhile isFieldChar = u := List.append_cancel_left (hsplit.trans hname)
  have hchars : ∀ c ∈ t.takeWhile isFieldChar, isFieldChar c = true := fun c hc => List.mem_takeWhile_imp hc
  have hends : ∀ c ∈ (t.dropWhile isFieldChar).head?, isFieldChar c = false := by
    intro c hc
    have hhead := List.head?_dropWhile_not isFieldChar t
    rw [Option.mem_def.1 hc] at hhead
    simpa using hhead
  rw [beq_false_of_ne hkind] at hbehind
  have hends' := hbehind.isFieldChar_of_head hends
  rw [Text.takeWhile_run hchars hends', Text.dropWhile_run hchars hends']
  exact ⟨rfl, hbehind⟩

theorem respaced_scanRest (hsymbols : ∀ s ∈ symbols, Registry.isSymbol s = true) (hopen : endsOpen whole = false)
    (ht : t <:+ whole) (hscan : scanRest symbols t = .ok (ls, rest)) (hnext : Next whole rest more)
    (h : Aligned whole t t' (ls.map (Lexeme.place whole) ++ more)) :
    ∃ ls' rest', scanRest symbols t' = .ok (ls', rest') ∧ ls'.map Lexeme.word = ls.map Lexeme.word ∧
      Respaced whole false rest rest' more := by
  have hhead := h.head?_eq
  cases t with
  | nil =>
      cases hscan
      obtain rfl : t' = [] := List.head?_eq_none_iff.1 hhead
      exact ⟨[], [], rfl, rfl, h.respaced⟩
  | cons c t =>
      obtain ⟨u', rfl⟩ : ∃ u', t' = c :: u' := List.head?_eq_some_iff.1 hhead
      simp only [scanRest] at hscan ⊢
      split at hscan
      · rename_i hends
        cases hscan
        rw [if_pos hends]
        exact ⟨[], _, rfl, rfl, h.respaced⟩
      · rename_i hends
        split at hscan
        · rename_i hstart
          rw [if_neg hends, if_pos hstart]
          exact respaced_scanComparison hsymbols ht hopen hscan hnext h
        · cases hscan

theorem respaced_scanField (hsymbols : ∀ s ∈ symbols, Registry.isSymbol s = true) (hopen : endsOpen whole = false)
    (ht : t <:+ whole) (hscan : scanField symbols t = .ok (ls, rest)) (hnext : Next whole rest more)
    (h : Aligned whole t t' (ls.map (Lexeme.place whole) ++ more)) :
    ∃ ls' rest', scanField symbols t' = .ok (ls', rest') ∧ ls'.map Lexeme.word = ls.map Lexeme.word ∧
      Respaced whole false rest rest' more := by
  obtain ⟨⟨indexer, r₁⟩, hindexer, hscan⟩ := bind_eq_ok_iff.1 hscan
  obtain ⟨⟨marker, r₂⟩, hmarker, hscan⟩ := bind_eq_ok_iff.1 hscan
  obtain ⟨⟨comparison, r₃⟩, hcomparison, hscan⟩ := bind_eq_ok_iff.1 hscan
  cases hscan
  have hbehind : t.dropWhile isFieldChar <:+ whole := (List.dropWhile_suffix _).trans ht
  have h₁ : r₁ <:+ whole :=
    (scanIndexer?_suffix hindexer).trans ((Text.skipBlanks_suffix _).trans hbehind)
  have h₂ : r₂ <:+ whole := (scanFieldMarker?_suffix hmarker).trans h₁
  have hnext₂ := next_scanRest hsymbols hcomparison hnext
  have hnext₁ := next_scanFieldMarker? hmarker hnext₂
  simp only [List.map_append, List.map_cons, List.append_assoc, List.cons_append] at h
  obtain ⟨hname, hspaced⟩ := h.name nofun
  have haligned := hspaced.aligned hbehind (next_skipBlanks_iff.1 (next_scanIndexer? hindexer hnext₁))
  obtain ⟨indexer', r₁', hindexer', hwords₁, haligned₁⟩ :=
    respaced_scanIndexer? ((Text.skipBlanks_suffix _).trans hbehind) hindexer hnext₁ haligned
  obtain ⟨marker', r₂', hmarker', hwords₂, haligned₂⟩ := respaced_scanFieldMarker? h₁ hmarker hnext₂ haligned₁
  obtain ⟨comparison', r₃', hcomparison', hwords₃, hrest⟩ :=
    respaced_scanRest hsymbols hopen h₂ hcomparison hnext haligned₂
  refine ⟨⟨.identifier, t.takeWhile isFieldChar, t'⟩ :: indexer' ++ marker' ++ comparison', r₃', ?_, ?_, hrest⟩
  · rw [scanField, hname, hindexer']
    simp only [bind, Except.bind, hmarker', hcomparison']
    rfl
  · simp only [List.map_append, List.map_cons, hwords₁, hwords₂, hwords₃, Lexeme.word]

theorem respaced_scanItem (hsymbols : ∀ s ∈ symbols, Registry.isSymbol s = true) (hopen : endsOpen whole = false)
    (ht : c :: t <:+ whole) (hscan : scanItem symbols c t = .ok (ls, rest)) (hnext : Next whole rest more)
    (h : Aligned whole (c :: t) (c :: t') (ls.map (Lexeme.place whole) ++ more)) :
    ∃ ls' rest', scanItem symbols c t' = .ok (ls', rest') ∧ ls'.map Lexeme.word = ls.map Lexeme.word ∧
      Respaced whole false rest rest' more := by
  unfold scanItem at hscan ⊢
  split at hscan
  · rename_i kind hkind
    cases hscan
    exact ⟨[⟨kind, [c], c :: t'⟩], t', rfl, rfl, h.single (punctuation?_kind hkind).2⟩
  · split at hscan
    · rename_i hfield
      rw [if_pos hfield]
      exact respaced_scanField hsymbols hopen ht hscan hnext h
    · rename_i hfield
      split at hscan
      · rename_i hstart
        rw [if_neg hfield, if_pos hstart]
        exact respaced_scanComparison hsymbols ht hopen hscan hnext h
      · cases hscan

theorem respaced_scan (hsymbols : ∀ s ∈ symbols, Registry.isSymbol s = true) (hopen : endsOpen whole = false)
    (ht : t <:+ whole) (hscan : scan symbols t = .ok ls)
    (h : Respaced whole false t t' (ls.map (Lexeme.place whole))) :
    ∃ ls', scan symbols t' = .ok ls' ∧ ls'.map Lexeme.word = ls.map Lexeme.word := by
  have haligned := h.aligned ht (next_scan hsymbols hscan)
  fun_induction scan symbols t generalizing t' ls with
  | case1 t hblanks =>
      cases hscan
      rw [hblanks] at haligned
      exact ⟨[], scan_blanks (List.head?_eq_none_iff.1 haligned.head?_eq), rfl⟩
  | case2 => cases hscan
  | case3 t c u hblanks found rest hitem ih =>
      obtain ⟨more, hmore, rfl⟩ := map_eq_ok_iff.1 hscan
      have hsuffix : c :: u <:+ whole := by
        rw [← hblanks]
        exact (Text.skipBlanks_suffix t).trans ht
      have hrest : rest <:+ whole := (scanItem_suffix hitem).trans ((List.suffix_cons _ _).trans hsuffix)
      have hnext : Next whole rest (more.map (Lexeme.place whole)) := next_scan hsymbols hmore
      rw [hblanks, List.map_append] at haligned
      obtain ⟨u', hblanks'⟩ : ∃ u', Text.skipBlanks t' = c :: u' := List.head?_eq_some_iff.1 haligned.head?_eq
      rw [hblanks'] at haligned
      obtain ⟨found', rest', hitem', hwords, hspaced⟩ :=
        respaced_scanItem hsymbols hopen hsuffix hitem hnext haligned
      obtain ⟨more', hmore', hwords'⟩ := ih hrest hmore hspaced (hspaced.aligned hrest hnext)
      refine ⟨found' ++ more', ?_, ?_⟩
      · rw [scan_behind_blanks hblanks' hitem', hmore']
        rfl
      · rw [List.map_append, List.map_append, hwords, hwords']

theorem wordKind_ne (word : Text) : wordKind word ≠ .literal ∧ wordKind word ≠ .indexerOpen := by
  rcases wordKind_cases word with hkind | hkind | hkind <;> rw [hkind] <;> decide

theorem orderMark?_kind {kind : Kind} (h : orderMark? c = some kind) : kind ≠ .literal ∧ kind ≠ .indexerOpen := by
  unfold orderMark? at h
  split at h <;> cases h <;> decide

theorem covers_scanOrderItem (hscan : scanOrderItem c t = .ok (ls, rest)) :
    Covers whole false (c :: t) (ls.map (Lexeme.place whole)) false rest := by
  unfold scanOrderItem at hscan
  split at hscan
  · rename_i kind hkind
    cases hscan
    obtain ⟨hliteral, hopen⟩ := orderMark?_kind hkind
    exact .verbatim [c] hliteral hopen .done
  · split at hscan
    · rename_i hbracket
      subst hbracket
      exact covers_scanIndexer hscan
    · split at hscan
      · cases hscan
        obtain ⟨hliteral, hopen⟩ := wordKind_ne ((c :: t).takeWhile isFieldChar)
        have hword := @Covers.verbatim whole ((c :: t).dropWhile isFieldChar) ((c :: t).dropWhile isFieldChar)
          false false [] _ ((c :: t).takeWhile isFieldChar) hliteral hopen .done
        rwa [List.takeWhile_append_dropWhile] at hword
      · cases hscan

theorem covers_scanOrder (hscan : scanOrder t = .ok ls) :
    Covers whole false t (ls.map (Lexeme.place whole)) false [] := by
  fun_induction scanOrder t generalizing ls with
  | case1 t hblanks =>
      cases hscan
      have hcovers := @Covers.blanks whole false t
      rwa [hblanks] at hcovers
  | case2 => cases hscan
  | case3 t c u hblanks found rest hitem ih =>
      obtain ⟨more, hmore, rfl⟩ := map_eq_ok_iff.1 hscan
      apply Covers.skipBlanks
      rw [hblanks, List.map_append]
      exact (covers_scanOrderItem hitem).append (ih hmore)

theorem next_scanOrderItem (hblank : Text.isBlank c = false) (hscan : scanOrderItem c t = .ok (ls, rest)) :
    Next whole (c :: t) (ls.map (Lexeme.place whole) ++ more) := by
  have hstart := Text.skipBlanks_cons (t := t) hblank
  unfold scanOrderItem at hscan
  split at hscan
  · rename_i kind hkind
    cases hscan
    exact .cons (orderMark?_kind hkind).1 (List.cons_ne_nil _ _) hstart
  · split at hscan
    · rename_i hbracket
      subst hbracket
      exact next_scanIndexer hscan
    · split at hscan
      · rename_i hfield
        cases hscan
        exact .cons (wordKind_ne _).1 (takeWhile_ne_nil hfield t) hstart
      · cases hscan

theorem next_scanOrder (hscan : scanOrder t = .ok ls) : Next whole t (ls.map (Lexeme.place whole)) := by
  cases hblanks : Text.skipBlanks t with
  | nil =>
      rw [scanOrder_blanks hblanks] at hscan
      cases hscan
      exact hblanks
  | cons c u =>
      obtain ⟨found, rest, more, hitem, -, rfl⟩ := exists_item_of_scanOrder hblanks hscan
      rw [← next_skipBlanks_iff, hblanks, List.map_append]
      exact next_scanOrderItem (Text.isBlank_of_skipBlanks hblanks) hitem

theorem respaced_scanOrderItem (ht : c :: t <:+ whole) (hscan : scanOrderItem c t = .ok (ls, rest))
    (h : Aligned whole (c :: t) (c :: t') (ls.map (Lexeme.place whole) ++ more)) :
    ∃ ls' rest', scanOrderItem c t' = .ok (ls', rest') ∧ ls'.map Lexeme.word = ls.map Lexeme.word ∧
      Respaced whole false rest rest' more := by
  unfold scanOrderItem at hscan ⊢
  split at hscan
  · rename_i kind hkind
    cases hscan
    exact ⟨[⟨kind, [c], c :: t'⟩], t', rfl, rfl, h.single (orderMark?_kind hkind).2⟩
  · split at hscan
    · rename_i hbracket
      subst hbracket
      exact respaced_scanIndexer ht hscan h
    · rename_i hbracket
      split at hscan
      · rename_i hfield
        cases hscan
        obtain ⟨hname, hspaced⟩ := h.name (wordKind_ne _).2
        rw [if_neg hbracket, if_pos hfield, hname]
        exact ⟨_, _, rfl, rfl, hspaced⟩
      · cases hscan

theorem respaced_scanOrder (ht : t <:+ whole) (hscan : scanOrder t = .ok ls)
    (h : Respaced whole false t t' (ls.map (Lexeme.place whole))) :
    ∃ ls', scanOrder t' = .ok ls' ∧ ls'.map Lexeme.word = ls.map Lexeme.word := by
  have haligned := h.aligned ht (next_scanOrder hscan)
  fun_induction scanOrder t generalizing t' ls with
  | case1 t hblanks =>
      cases hscan
      rw [hblanks] at haligned
      exact ⟨[], scanOrder_blanks (List.head?_eq_none_iff.1 haligned.head?_eq), rfl⟩
  | case2 => cases hscan
  | case3 t c u hblanks found rest hitem ih =>
      obtain ⟨more, hmore, rfl⟩ := map_eq_ok_iff.1 hscan
      have hsuffix : c :: u <:+ whole := by
        rw [← hblanks]
        exact (Text.skipBlanks_suffix t).trans ht
      have hrest : rest <:+ whole :=
        (scanOrderItem_suffix hitem).trans ((List.suffix_cons _ _).trans hsuffix)
      have hnext : Next whole rest (more.map (Lexeme.place whole)) := next_scanOrder hmore
      rw [hblanks, List.map_append] at haligned
      obtain ⟨u', hblanks'⟩ : ∃ u', Text.skipBlanks t' = c :: u' := List.head?_eq_some_iff.1 haligned.head?_eq
      rw [hblanks'] at haligned
      obtain ⟨found', rest', hitem', hwords, hspaced⟩ := respaced_scanOrderItem hsuffix hitem haligned
      obtain ⟨more', hmore', hwords'⟩ := ih hrest hmore hspaced (hspaced.aligned hrest hnext)
      refine ⟨found' ++ more', ?_, ?_⟩
      · rw [scanOrder_behind_blanks hblanks' hitem', hmore']
        rfl
      · rw [List.map_append, List.map_append, hwords, hwords']

/--
A place between tokens: before it stand the pieces of the ones, behind it those of the others, and nothing else but
blanks. The start and the end of a text are such places as well.
-/
def Seam (before after : List Token) (front back : Text) : Prop :=
  ∃ inKey, Covers (front ++ back) false (front ++ back) before inKey back ∧
    Covers (front ++ back) inKey back after false []

/-- Two tokens always have a place between them, and no blanks that are put in at such a place change the words. -/
structure SpacesFreely (scanner : Text → Except Error (List Token)) (t : Text) (ts : List Token) : Prop where
  atStart : Seam [] ts [] t
  atEnd : Seam ts [] t []
  between : ∀ before after, ts = before ++ after → ∃ front back, t = front ++ back ∧ Seam before after front back
  insert : ∀ before after front back blanks, t = front ++ back → ts = before ++ after →
    Seam before after front back → Text.allBlank blanks = true →
      ∃ ts', scanner (front ++ (blanks ++ back)) = .ok ts' ∧ ts'.map word = ts.map word

theorem Covers.exists_between {inKey inKey' : Bool} {before after : List Token}
    (h : Covers whole inKey t (before ++ after) inKey' rest) :
    ∃ mid back, Covers whole inKey t before mid back ∧ Covers whole mid back after inKey' rest ∧ back <:+ t := by
  generalize hts : before ++ after = ts at h
  induction h generalizing before with
  | done =>
      obtain ⟨rfl, rfl⟩ := List.append_eq_nil_iff.1 hts
      exact ⟨_, _, .done, .done, List.suffix_refl _⟩
  | blank hc _ ih =>
      obtain ⟨mid, back, hbefore, hafter, hsuffix⟩ := ih hts
      exact ⟨mid, back, .blank hc hbefore, hafter, hsuffix.trans (List.suffix_cons _ _)⟩
  | piece hpiece h ih =>
      cases before with
      | nil =>
          obtain rfl : after = _ := hts
          exact ⟨_, _, .done, .piece hpiece h, List.suffix_refl _⟩
      | cons token before =>
          obtain ⟨rfl, hmore⟩ := List.cons.inj hts
          obtain ⟨mid, back, hbefore, hafter, hsuffix⟩ := ih hmore
          exact ⟨mid, back, .piece hpiece hbefore, hafter, hsuffix.trans (List.suffix_append _ _)⟩

/-- Blanks that are put in at a place between tokens only widen a gap. -/
theorem Seam.respaced {before after : List Token} {front back blanks : Text} (h : Seam before after front back)
    (hblanks : Text.allBlank blanks = true) :
    Respaced (front ++ back) false (front ++ back) (front ++ (blanks ++ back)) (before ++ after) := by
  obtain ⟨inKey, hbefore, hafter⟩ := h
  obtain ⟨back', hback, hspaced⟩ := Respaced.of_covers hafter (.done .nil)
  rw [List.append_nil] at hback hspaced
  rw [List.append_nil, ← hback] at hspaced
  obtain ⟨front', hfront, hwhole⟩ := Respaced.of_covers hbefore (hspaced.insert hblanks)
  obtain rfl : front = front' := List.append_cancel_right hfront
  exact hwhole

theorem SpacesFreely.of_covers {scanner : Text → Except Error (List Token)}
    (hcovers : Covers t false t ts false [])
    (hscan : ∀ t', Respaced t false t t' ts → ∃ ts', scanner t' = .ok ts' ∧ ts'.map word = ts.map word) :
    SpacesFreely scanner t ts where
  atStart := ⟨false, .done, hcovers⟩
  atEnd := by
    refine ⟨false, ?_, .done⟩
    rwa [List.append_nil]
  between before after hsplit := by
    rw [hsplit] at hcovers
    obtain ⟨mid, back, hbefore, hafter, front, rfl⟩ := hcovers.exists_between
    exact ⟨front, back, rfl, mid, hbefore, hafter⟩
  insert before after front back blanks ht hts hseam hblanks := by
    subst ht hts
    exact hscan _ (hseam.respaced hblanks)

/--
White space between tokens is insignificant in a filter that does not end in a backslash with nothing behind it, and
in every ordering.
-/
theorem spacesFreely (hsymbols : ∀ s ∈ symbols, Registry.isSymbol s = true) (t : Text) :
    (∀ ts, ofFilter symbols t = .ok ts → endsOpen t = false → SpacesFreely (ofFilter symbols) t ts) ∧
      ∀ ts, ofOrdering t = .ok ts → SpacesFreely ofOrdering t ts := by
  constructor
  · intro ts h hopen
    unfold ofFilter at h
    split at h
    · rename_i ls hls
      cases h
      refine .of_covers (covers_scan hls) fun t' hspaced => ?_
      obtain ⟨ls', hls', hsame⟩ := respaced_scan hsymbols hopen (List.suffix_refl t) hls hspaced
      refine ⟨ls'.map (Lexeme.place t'), by rw [ofFilter, hls'], ?_⟩
      rw [map_word_place, map_word_place, hsame]
    · cases h
  · intro ts h
    unfold ofOrdering at h
    split at h
    · rename_i ls hls
      cases h
      refine .of_covers (covers_scanOrder hls) fun t' hspaced => ?_
      obtain ⟨ls', hls', hsame⟩ := respaced_scanOrder (List.suffix_refl t) hls hspaced
      refine ⟨ls'.map (Lexeme.place t'), by rw [ofOrdering, hls'], ?_⟩
      rw [map_word_place, map_word_place, hsame]
    · cases h

/-- A blank behind a backslash at the end becomes a part of the value. -/
example : endsOpen "a=x\\" = true ∧
    (ofFilter [] "a=x\\").map (·.map Token.text) = .ok ["a", "=", "x\\"] ∧
    (ofFilter [] "a=x\\ ").map (·.map Token.text) = .ok ["a", "=", "x\\ "] := by
  refine ⟨rfl, ?_, ?_⟩ <;> cbv

def scattered : Text := "a [x, y] , b!DESC"

def scatteredTokens : List Token :=
  [⟨.identifier, "a", 0⟩, ⟨.indexerOpen, "[", 2⟩, ⟨.literal, "x, y", 3⟩, ⟨.indexerClose, "]", 7⟩, ⟨.comma, ",", 9⟩,
    ⟨.identifier, "b", 11⟩, ⟨.isNull, "!", 12⟩, ⟨.descending, "DESC", 13⟩]

set_option maxRecDepth 4000 in
theorem spacesFreely_tangled :
    (∀ s ∈ [("#=" : Text)], Registry.isSymbol s = true) ∧ ofFilter ["#="] tangled = .ok tangledTokens ∧
      endsOpen tangled = false ∧ SpacesFreely (ofFilter ["#="]) tangled tangledTokens ∧
      ofOrdering scattered = .ok scatteredTokens ∧ SpacesFreely ofOrdering scattered scatteredTokens := by
  have hsymbols : ∀ s ∈ [("#=" : Text)], Registry.isSymbol s = true := by decide
  have hfilter : ofFilter ["#="] tangled = .ok tangledTokens := by cbv
  have hopen : endsOpen tangled = false := by decide
  have hordering : ofOrdering scattered = .ok scatteredTokens := by cbv
  exact ⟨hsymbols, hfilter, hopen, (spacesFreely hsymbols tangled).1 _ hfilter hopen, hordering,
    (spacesFreely hsymbols scattered).2 _ hordering⟩

end FilterLang.Token
