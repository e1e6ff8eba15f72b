import FilterLang.Proofs.Token.Gaps

/-!
The parts of an item scanned once more, from a text whose gaps are wider. Every key, value, symbol and case marker
comes out as it was, and what follows it is as far apart.
-/

namespace FilterLang.Token

open Outcome

/-- Whether a backslash comes last that makes no character plain: every other one goes with the character behind it. -/
def endsOpen : Text → Bool
  | [] => false
  | ['\\'] => true
  | '\\' :: _ :: t => endsOpen t
  | _ :: t => endsOpen t

variable {whole t t' u u' rest rest' gap gap' piece : Text} {ts more : List Token} {ls : List Lexeme}
  {symbols : List Text} {marks : List Mark}

theorem isKeyEscapable_of_isBlank {c : Char} (h : Text.isBlank c = true) : isKeyEscapable c = false := by
  cases hc : isKeyEscapable c with
  | false => rfl
  | true =>
      rw [isBlank_of_isKeyEscapable hc] at h
      cases h

theorem scanKey?_blanks (hgap : Text.allBlank gap = true) (t : Text) :
    scanKey? (gap ++ t) = (scanKey? t).map fun (key, rest) => (gap ++ key, rest) := by
  induction gap with
  | nil => exact (congrFun Option.map_id _).symm
  | cons c gap ih =>
      obtain ⟨hc, hgap⟩ := Text.allBlank_cons.1 hgap
      have hescapable := isKeyEscapable_of_isBlank hc
      have hclose : c ≠ ']' := by
        rintro rfl
        cases hescapable
      have hslash : c ≠ '\\' := by
        rintro rfl
        cases hescapable
      rw [List.cons_append, scanKey?_plain hclose hslash, ih hgap, Option.map_map]
      rfl

theorem length_lt_of_scanKey? {key : Text} (h : scanKey? t = some (key, rest)) : rest.length < t.length :=
  (scanKey?_suffix h).length_le

/-- A key stays as it is up to the gap before its bracket: no backslash takes up the bracket that had none before,
for some of the gap is left. -/
theorem scanKey?_widened {key : Text} (hgap : Widened gap gap') (rest' : Text)
    (h : scanKey? (piece ++ (gap ++ ']' :: rest)) = some (key, rest)) :
    ∃ front, key = front ++ gap ∧ scanKey? (piece ++ (gap' ++ ']' :: rest')) = some (front ++ gap', rest') := by
  have hend : ∀ (blanks t : Text), Text.allBlank blanks = true →
      scanKey? (blanks ++ ']' :: t) = some (blanks, t) := by
    intro blanks t hblanks
    rw [scanKey?_blanks hblanks, scanKey?, Option.map_some]
    exact congrArg (fun key => some (key, t)) (List.append_nil blanks)
  induction piece using endsOpen.induct generalizing key with
  | case1 =>
      rw [List.nil_append, hend gap rest hgap.blank] at h
      cases h
      exact ⟨[], rfl, hend gap' rest' hgap.blank'⟩
  | case2 =>
      cases gap with
      | nil =>
          rw [List.singleton_append, List.nil_append, scanKey?_backslash] at h
          obtain ⟨⟨_, _⟩, hfound, hequal⟩ := Option.map_eq_some_iff.1 h
          cases hequal
          exact absurd (length_lt_of_scanKey? hfound) (Nat.lt_irrefl _)
      | cons b gap =>
          -- The backslash takes up the first blank of either gap, and leaves it as it is.
          obtain ⟨b', gap', rfl⟩ := List.exists_cons_of_ne_nil (hgap.kept (List.cons_ne_nil _ _))
          obtain ⟨hb, hblank⟩ := Text.allBlank_cons.1 hgap.blank
          obtain ⟨hb', hblank'⟩ := Text.allBlank_cons.1 hgap.blank'
          have hafter := hend gap rest hblank
          have hafter' := hend gap' rest' hblank'
          rw [List.singleton_append, List.cons_append, scanKey?_backslash, hafter,
            isKeyEscapable_of_isBlank hb] at h
          cases h
          refine ⟨['\\'], rfl, ?_⟩
          rw [List.singleton_append, List.cons_append, scanKey?_backslash, hafter',
            isKeyEscapable_of_isBlank hb']
          rfl
  | case3 c piece ih =>
      rw [List.cons_append, List.cons_append, scanKey?_backslash] at h
      obtain ⟨⟨key, _⟩, hfound, hequal⟩ := Option.map_eq_some_iff.1 h
      cases hequal
      obtain ⟨front, rfl, hfront⟩ := ih hfound
      refine ⟨if isKeyEscapable c then c :: front else '\\' :: c :: front, ?_, ?_⟩
      · split <;> rfl
      · rw [List.cons_append, List.cons_append, scanKey?_backslash, hfront, Option.map_some]
        dsimp only
        split <;> rfl
  | case4 c piece hlone hescape ih =>
      have hslash := ne_backslash hlone hescape
      rw [List.cons_append] at h ⊢
      by_cases hclose : c = ']'
      · subst hclose
        rw [scanKey?] at h
        have hlength := congrArg List.length (Prod.mk.inj (Option.some.inj h)).2
        simp only [List.length_append, List.length_cons] at hlength
        omega
      · rw [scanKey?_plain hclose hslash] at h ⊢
        obtain ⟨⟨key, _⟩, hfound, hequal⟩ := Option.map_eq_some_iff.1 h
        cases hequal
        obtain ⟨front, rfl, hfront⟩ := ih hfound
        exact ⟨c :: front, rfl, by rw [hfront]; rfl⟩

theorem respaced_scanIndexer (ht : '[' :: t <:+ whole) (hscan : scanIndexer ('[' :: t) = .ok (ls, rest))
    (h : Aligned whole ('[' :: t) t' (ls.map (Lexeme.place whole) ++ more)) :
    ∃ ls' rest', scanIndexer t' = .ok (ls', rest') ∧ ls'.map Lexeme.word = ls.map Lexeme.word ∧
      Respaced whole false rest rest' more := by
  unfold scanIndexer at hscan
  split at hscan
  · cases hscan
  · rename_i key after hkey
    cases hscan
    rw [List.tail_cons] at hkey
    have hafter : ']' :: rest <:+ whole := (scanKey?_suffix hkey).trans ((List.suffix_cons _ _).trans ht)
    obtain ⟨u, u', hu, rfl, hliteral⟩ := h.inv
    obtain rfl : t = u := (List.cons.inj hu).2
    obtain ⟨piece, gap₀, gap', v, v', hgap, -, hstart, -, rfl, hclose⟩ :=
      hliteral.inv ((List.suffix_cons _ _).trans ht) ((List.suffix_cons _ _).trans ht) rfl
    have hv : v <:+ whole := by
      rw [hstart] at ht
      exact (List.suffix_append _ _).trans ((List.suffix_cons _ _).trans ht)
    obtain ⟨bracket, gap₁, gap₁', w, w', hgap₁, hbracket, hrest, rfl, rfl, hmore⟩ := hclose.inv hv hafter rfl
    have hclosing : Kind.indexerClose ≠ .literal := nofun
    obtain rfl : bracket = [']'] := (Word.writtenAs_iff hclosing).1 hbracket
    obtain rfl : rest = w := (List.cons.inj hrest).2
    subst hstart
    obtain ⟨front, rfl, hfront⟩ := scanKey?_widened hgap₁ w' hkey
    have htrim : Text.trim (gap' ++ (front ++ gap₁')) = Text.trim (front ++ gap₁) := by
      have hplain : Text.trim ([] ++ (front ++ gap₁)) = Text.trim front :=
        Text.trim_append rfl front hgap₁.blank
      rw [List.nil_append] at hplain
      rw [Text.trim_append hgap.blank' front hgap₁.blank', hplain]
    have hscan' : scanKey? (gap' ++ (piece ++ (gap₁' ++ ']' :: w'))) = some (gap' ++ (front ++ gap₁'), w') := by
      rw [scanKey?_blanks hgap.blank', hfront]
      rfl
    have hwhole : scanIndexer ('[' :: (gap' ++ (piece ++ (gap₁' ++ ']' :: w')))) =
        .ok ([⟨.indexerOpen, ['['], '[' :: (gap' ++ (piece ++ (gap₁' ++ ']' :: w')))⟩,
          ⟨.literal, Text.trim (gap' ++ (front ++ gap₁')), gap' ++ (piece ++ (gap₁' ++ ']' :: w'))⟩,
          ⟨.indexerClose, [']'], ']' :: w'⟩], w') := by
      rw [scanIndexer, List.tail_cons, hscan']
    refine ⟨_, w', hwhole, ?_, hmore⟩
    simp only [List.map_cons, List.map_nil, Lexeme.word, htrim]

theorem respaced_scanIndexer? (ht : t <:+ whole) (hscan : scanIndexer? t = .ok (ls, rest))
    (hnext : Next whole rest more) (h : Aligned whole t t' (ls.map (Lexeme.place whole) ++ more)) :
    ∃ ls' rest', scanIndexer? t' = .ok (ls', rest') ∧ ls'.map Lexeme.word = ls.map Lexeme.word ∧
      Aligned whole rest rest' more := by
  unfold scanIndexer? at hscan
  split at hscan
  · rename_i hopen
    obtain ⟨⟨found, after⟩, hfound, hequal⟩ := map_eq_ok_iff.1 hscan
    cases hequal
    have hafter : after <:+ whole := (scanIndexer_suffix hfound).trans ht
    cases t with
    | nil => cases hopen
    | cons c t =>
        cases hopen
        have hopen' : t'.head? = some '[' := h.head?_eq
        obtain ⟨found', after', hfound', hwords, hrespaced⟩ := respaced_scanIndexer ht hfound h
        refine ⟨found', Text.skipBlanks after', ?_, hwords, hrespaced.aligned hafter (next_skipBlanks_iff.1 hnext)⟩
        rw [scanIndexer?, if_pos hopen', hfound']
        rfl
  · rename_i hopen
    cases hscan
    refine ⟨[], t', ?_, rfl, h⟩
    rw [← h.head?_eq] at hopen
    rw [scanIndexer?, if_neg hopen]

theorem endsField_marker (t : Text) :
    endsField ('/' :: 'i' :: t) = (Text.skipBlanks t).head?.any isOperatorStart := by
  rw [endsField]
  cases Text.skipBlanks t with
  | nil => rfl
  | cons c t => rfl

theorem endsValue_marker (t : Text) :
    endsValue ('/' :: 'i' :: t) = (Text.skipBlanks t).head?.all isDelimiter := by
  rw [endsValue]
  cases Text.skipBlanks t with
  | nil => rfl
  | cons c t => rfl

theorem respaced_scanFieldMarker? {name : Text} (ht : t <:+ whole)
    (hscan : scanFieldMarker? name t = .ok (ls, rest)) (hnext : Next whole rest more)
    (h : Aligned whole t t' (ls.map (Lexeme.place whole) ++ more)) :
    ∃ ls' rest', scanFieldMarker? name t' = .ok (ls', rest') ∧ ls'.map Lexeme.word = ls.map Lexeme.word ∧
      Aligned whole rest rest' more := by
  unfold scanFieldMarker? at hscan
  split at hscan
  · rename_i hslash
    have hslash' : t'.head? = some '/' := h.head?_eq.trans hslash
    split at hscan
    · rename_i hends
      obtain ⟨u, rfl⟩ := endsField_cons_slash hends
      cases hscan
      obtain ⟨v, u', hv, rfl, hbehind⟩ := h.inv
      obtain rfl : u = v := (List.cons.inj (List.cons.inj hv).2).2
      have hu : u <:+ whole := (List.suffix_append ['/', 'i'] u).trans ht
      have hends' : endsField ('/' :: 'i' :: u') = true := by
        rwa [endsField_marker, hbehind.head?_skipBlanks, ← endsField_marker]
      refine ⟨[⟨.caseInsensitive, ['/', 'i'], '/' :: 'i' :: u'⟩], Text.skipBlanks u', ?_, rfl,
        hbehind.aligned hu (next_skipBlanks_iff.1 hnext)⟩
      rw [scanFieldMarker?, if_pos hslash']
      exact if_pos hends'
    · cases hscan
  · rename_i hslash
    cases hscan
    refine ⟨[], t', ?_, rfl, h⟩
    rw [← h.head?_eq] at hslash
    rw [scanFieldMarker?, if_neg hslash]

theorem isBlank_of_mem_symbol {symbol : Text} {c : Char} (hsymbols : ∀ s ∈ symbols, Registry.isSymbol s = true)
    (h : symbol ∈ symbols ∨ symbol ∈ builtInSymbols) (hc : c ∈ symbol) : Text.isBlank c = false := by
  rcases h with hcustom | hbuiltIn
  · exact Registry.isBlank_of_isSymbol (hsymbols symbol hcustom) hc
  · have hall : ∀ s ∈ builtInSymbols, s.all (fun c => !Text.isBlank c) = true := by decide
    have hplain := List.all_eq_true.1 (hall symbol hbuiltIn) c hc
    rwa [Bool.not_eq_true'] at hplain

theorem symbolAt_of_begins {symbol : Text} (hsymbol : symbolAt symbols t = .ok symbol)
    (hhead : t'.head? = t.head?) (hbegins : symbol <+: t')
    (hothers : ∀ other, (other ∈ symbols ∨ other ∈ builtInSymbols) → other <+: t' → other <+: t) :
    symbolAt symbols t' = .ok symbol := by
  unfold symbolAt at hsymbol ⊢
  rw [hhead]
  split at hsymbol
  · rename_i hcustom
    rw [if_pos hcustom]
    split at hsymbol
    · rename_i hfound
      cases hsymbol
      obtain ⟨hmem, -, hlongest⟩ := longestSymbol?_eq_some_iff.1 hfound
      have hfound' : longestSymbol? symbols t' = some symbol :=
        longestSymbol?_eq_some_iff.2 ⟨hmem, hbegins, fun other hother hprefix =>
          hlongest other hother (hothers other (.inl hother) hprefix)⟩
      rw [hfound']
    · cases hsymbol
  · rename_i hcustom
    rw [if_neg hcustom]
    split at hsymbol
    · rename_i hfound
      cases hsymbol
      obtain ⟨-, before, after, hsplit, hbefore⟩ := List.find?_eq_some_iff_append.1 hfound
      have hfound' : builtInSymbols.find? (·.isPrefixOf t') = some symbol := by
        refine List.find?_eq_some_iff_append.2 ⟨List.isPrefixOf_iff_prefix.2 hbegins, before, after, hsplit, ?_⟩
        intro other hother
        have hbuiltIn : other ∈ builtInSymbols := by
          rw [hsplit]
          exact List.mem_append_left _ hother
        have hnot := hbefore other hother
        simp only [Bool.not_eq_true', Bool.eq_false_iff, ne_eq, List.isPrefixOf_iff_prefix] at hnot ⊢
        exact fun hprefix => hnot (hothers other (.inr hbuiltIn) hprefix)
      rw [hfound']
    · cases hsymbol

/-- A value ends here: with the text, before a delimiter or before its case marker. -/
def Stops (rest : Text) : Prop := ∀ c ∈ rest.head?, (isDelimiter c || endsValue rest) = true

theorem stops_nil : Stops [] := by simp [Stops]

theorem Stops.scanMarks_eq (h : Stops rest) : scanMarks rest = .ok ([], rest) := by
  cases rest with
  | nil => rfl
  | cons c t => exact scanMarks_stop (h c rfl)

theorem Stops.head {c : Char} (h : Stops rest) (hc : c ∈ rest.head?) : Text.isBlank c = false ∧ c ≠ 'i' := by
  have hstop := h c hc
  rw [Bool.or_eq_true] at hstop
  rcases hstop with hdelimiter | hends
  · rcases isDelimiter_cases hdelimiter with rfl | rfl | rfl <;> decide
  · obtain ⟨u, rfl⟩ := endsValue_cons_slash hends
    cases hc
    decide

theorem Stops.skipBlanks_eq (h : Stops rest) : Text.skipBlanks rest = rest :=
  Text.skipBlanks_of_head fun _ hc => (h.head hc).1

theorem Stops.head?_append_ne (h : Stops rest) (hgap : Text.allBlank gap = true) :
    (gap ++ rest).head? ≠ some 'i' := by
  intro hi
  cases gap with
  | nil => exact (h.head hi).2 rfl
  | cons b gap =>
      cases hi
      exact absurd (Text.isBlank_of_allBlank hgap List.mem_cons_self) (by decide)

theorem stops_of_scanMarks (h : scanMarks t = .ok (marks, rest)) : Stops rest := by
  fun_induction scanMarks t generalizing marks rest with
  | case1 =>
      cases h
      exact stops_nil
  | case2 =>
      cases h
      exact stops_nil
  | case3 c t ih =>
      obtain ⟨⟨more, after⟩, hmore, hequal⟩ := map_eq_ok_iff.1 h
      cases hequal
      exact ih hmore
  | case4 c t _ _ hstop =>
      cases h
      intro d hd
      cases hd
      exact hstop
  | case5 t => cases h
  | case6 c t _ _ _ _ ih =>
      obtain ⟨⟨more, after⟩, hmore, hequal⟩ := map_eq_ok_iff.1 h
      cases hequal
      exact ih hmore

theorem scanMarks_cons {c : Char} (hslash : c ≠ '\\') (t : Text) :
    scanMarks (c :: t) =
      if isDelimiter c || endsValue (c :: t) then .ok ([], c :: t)
      else if c = '(' then .error ⟨.unescapedParenthesis, c :: t⟩
      else (scanMarks t).map fun (marks, rest) => ((c, !Text.isBlank c) :: marks, rest) := by
  rw [scanMarks]
  · exact fun hequal => absurd hequal hslash
  · exact fun _ _ hequal => absurd hequal hslash

/-- Blanks go with the value before them, and none of them counts. -/
def blankMarks (gap : Text) : List Mark := gap.map fun c => (c, false)

theorem scanMarks_blanks (hgap : Text.allBlank gap = true) (hstops : Stops rest) :
    scanMarks (gap ++ rest) = .ok (blankMarks gap, rest) := by
  induction gap with
  | nil => exact hstops.scanMarks_eq
  | cons c gap ih =>
      obtain ⟨hc, hgap⟩ := Text.allBlank_cons.1 hgap
      have hescapable := isEscapable_of_isBlank hc
      rw [List.cons_append, scanMarks_plain hescapable, ih hgap, mark, hescapable, hc]
      rfl

theorem significant_blankMarks (marks : List Mark) (gap : Text) :
    significant (marks ++ blankMarks gap) = significant marks := by
  have hnone : ∀ mark ∈ (blankMarks gap).reverse, (!mark.2) = true := by
    intro mark hmark
    obtain ⟨c, -, rfl⟩ := List.mem_map.1 (List.mem_reverse.1 hmark)
    rfl
  rw [significant, List.reverse_append, List.dropWhile_append_of_pos hnone, significant]

theorem endsOpen_cons {c : Char} (hslash : c ≠ '\\') (t : Text) : endsOpen (c :: t) = endsOpen t := by
  rw [endsOpen]
  · exact fun hequal => absurd hequal hslash
  · exact fun _ _ hequal => absurd hequal hslash

theorem endsOpen_append (front : Text) {word : Text} (hne : word ≠ []) (hword : '\\' ∉ word) (t : Text) :
    endsOpen (front ++ (word ++ t)) = endsOpen t := by
  obtain ⟨word, d, rfl⟩ := (List.eq_nil_or_concat' word).resolve_left hne
  have hd : d ≠ '\\' := by
    rintro rfl
    exact hword (List.mem_append_right _ List.mem_cons_self)
  rw [List.append_assoc, ← List.append_assoc, List.singleton_append]
  generalize front ++ word = front
  induction front using endsOpen.induct with
  | case1 => exact endsOpen_cons hd t
  | case2 => rfl
  | case3 c front ih => exact ih
  | case4 c front hlone hescape ih => rw [List.cons_append, endsOpen_cons (ne_backslash hlone hescape), ih]

theorem unescape_append_blank {b : Char} (hb : Text.isBlank b = true) (piece t : Text) :
    unescape false (piece ++ b :: t) =
      unescape false piece ++ (b, endsOpen piece) :: unescape false t := by
  have hslash : b ≠ '\\' := by
    rintro rfl
    cases hb
  have hescapable := isEscapable_of_isBlank hb
  induction piece using endsOpen.induct with
  | case1 => rw [List.nil_append, unescape_cons hslash, hb]; rfl
  | case2 =>
      rw [List.singleton_append, unescape_backslash, hescapable]
      rfl
  | case3 c piece ih =>
      rw [List.cons_append, List.cons_append, unescape_backslash, unescape_backslash, ih]
      split
      · rfl
      · rfl
  | case4 c piece hlone hescape ih =>
      have hc := ne_backslash hlone hescape
      rw [List.cons_append, unescape_cons hc, unescape_cons hc, endsOpen_cons hc, ih]
      rfl

theorem unescape_blanks (hgap : Text.allBlank gap = true) : unescape false gap = blankMarks gap := by
  induction gap with
  | nil => rfl
  | cons c gap ih =>
      obtain ⟨hc, hgap⟩ := Text.allBlank_cons.1 hgap
      have hslash : c ≠ '\\' := by
        rintro rfl
        cases hc
      rw [unescape_cons hslash, ih hgap, hc]
      rfl

theorem endsOpen_of_scanMarks (h : scanMarks (piece ++ rest) = .ok (marks, rest)) :
    endsOpen piece = false ∨ rest = [] := by
  induction piece using endsOpen.induct generalizing marks with
  | case1 => exact .inl rfl
  | case2 =>
      cases rest with
      | nil => exact .inr rfl
      | cons d rest =>
          rw [List.singleton_append, scanMarks] at h
          obtain ⟨⟨more, after⟩, hmore, hequal⟩ := map_eq_ok_iff.1 h
          cases hequal
          exact absurd (scanMarks_suffix hmore).length_le (Nat.not_succ_le_self _)
  | case3 c piece ih =>
      rw [List.cons_append, List.cons_append, scanMarks] at h
      obtain ⟨⟨more, after⟩, hmore, hequal⟩ := map_eq_ok_iff.1 h
      cases hequal
      exact ih hmore
  | case4 c piece hlone hescape ih =>
      have hslash := ne_backslash hlone hescape
      rw [List.cons_append, scanMarks_cons hslash] at h
      rw [endsOpen_cons hslash]
      split at h
      · have hlength := congrArg List.length (Prod.mk.inj (Except.ok.inj h)).2
        simp only [List.length_cons, List.length_append] at hlength
        omega
      · split at h
        · cases h
        · obtain ⟨⟨more, after⟩, hmore, hequal⟩ := map_eq_ok_iff.1 h
          cases hequal
          exact ih hmore

theorem length_trimMarks_le (marks : List Mark) : (trimMarks marks).length ≤ marks.length := by
  have hfront := (List.dropWhile_suffix (l := marks) fun mark => !mark.2).length_le
  have hback := (List.dropWhile_suffix (l := (marks.dropWhile fun mark => !mark.2).reverse)
    fun mark => !mark.2).length_le
  rw [List.length_reverse] at hback
  rw [trimMarks, List.length_map, List.length_reverse]
  exact Nat.le_trans hback hfront

/-- The piece of a value leaves no backslash open, for that would take up a blank as a part of the value. -/
theorem endsOpen_of_value (hgap : Text.allBlank gap = true)
    (h : scanMarks (piece ++ (gap ++ rest)) = .ok (marks, rest))
    (hpiece : trimMarks (unescape false piece) = significant marks)
    (hend : gap ++ rest = [] → endsOpen piece = false) : endsOpen piece = false := by
  cases gap with
  | nil => exact (endsOpen_of_scanMarks h).elim id hend
  | cons b gap =>
      cases hopen : endsOpen piece with
      | false => rfl
      | true =>
          obtain ⟨hb, hgap⟩ := Text.allBlank_cons.1 hgap
          obtain ⟨front, hfront, rfl⟩ := exists_piece_of_scanMarks h
          rw [← List.append_assoc] at hfront
          obtain rfl := List.append_cancel_right hfront
          have hmarks : unescape false (piece ++ b :: gap) =
              (unescape false piece ++ [(b, true)]) ++ blankMarks gap := by
            rw [unescape_append_blank hb, hopen, unescape_blanks hgap, List.append_assoc]
            rfl
          have hlonger : significant (unescape false piece ++ [(b, true)]) =
              (unescape false piece).map Prod.fst ++ [b] := by simp [significant]
          have hlength := length_trimMarks_le (unescape false piece)
          rw [hpiece, hmarks, significant_blankMarks, hlonger, List.length_append, List.length_map] at hlength
          exact absurd hlength (Nat.not_succ_le_self _)

theorem endsValue_cons_append {c : Char} (piece : Text) (hi : u.head? ≠ some 'i') (hi' : u'.head? ≠ some 'i')
    (hhead : (Text.skipBlanks u').head? = (Text.skipBlanks u).head?) :
    endsValue (c :: (piece ++ u')) = endsValue (c :: (piece ++ u)) := by
  have hnone : ∀ {d : Char} {t : Text}, t.head? ≠ some 'i' → endsValue (d :: t) = false := by
    intro d t ht
    cases hends : endsValue (d :: t) with
    | false => rfl
    | true =>
        obtain ⟨v, hv⟩ := endsValue_cons_slash hends
        obtain ⟨-, rfl⟩ := List.cons.inj hv
        exact absurd rfl ht
  by_cases hc : c = '/'
  · subst hc
    cases piece with
    | nil => rw [List.nil_append, List.nil_append, hnone hi, hnone hi']
    | cons d piece =>
        by_cases hd : d = 'i'
        · subst hd
          rw [List.cons_append, List.cons_append, endsValue_marker, endsValue_marker,
            Text.head?_skipBlanks_append piece hhead]
        · have hd' : ∀ t : Text, (d :: t).head? ≠ some 'i' := fun t hequal => hd (Option.some.inj hequal)
          rw [List.cons_append, List.cons_append, hnone (hd' _), hnone (hd' _)]
  · rw [endsValue_cons_of_ne hc, endsValue_cons_of_ne hc]

theorem scanMarks_widened (hgap : Widened gap gap') (hstops : Stops rest) (hstops' : Stops rest')
    (hhead : rest'.head? = rest.head?) (hopen : endsOpen piece = false)
    (h : scanMarks (piece ++ (gap ++ rest)) = .ok (marks, rest)) :
    scanMarks (piece ++ (gap' ++ rest')) = .ok (unescape false piece ++ blankMarks gap', rest') := by
  have hbehind : (Text.skipBlanks (gap' ++ rest')).head? = (Text.skipBlanks (gap ++ rest)).head? := by
    rw [Text.skipBlanks_append hgap.blank, Text.skipBlanks_append hgap.blank', hstops.skipBlanks_eq,
      hstops'.skipBlanks_eq, hhead]
  -- Along the piece: a stop inside it would leave more than the rest, so neither text has one.
  induction piece using endsOpen.induct generalizing marks with
  | case1 => exact scanMarks_blanks hgap.blank' hstops'
  | case2 => cases hopen
  | case3 c piece ih =>
      rw [List.cons_append, List.cons_append, scanMarks] at h ⊢
      obtain ⟨⟨more, after⟩, hmore, hequal⟩ := map_eq_ok_iff.1 h
      cases hequal
      rw [ih hopen hmore, unescape_backslash]
      simp only [Except.map, Bool.false_and, Bool.or_false, Bool.false_eq_true, ↓reduceIte]
      split
      · rfl
      · rfl
  | case4 c piece hlone hescape ih =>
      have hslash := ne_backslash hlone hescape
      rw [List.cons_append, scanMarks_cons hslash] at h
      rw [endsOpen_cons hslash] at hopen
      rw [List.cons_append, scanMarks_cons hslash,
        endsValue_cons_append piece (hstops.head?_append_ne hgap.blank) (hstops'.head?_append_ne hgap.blank')
          hbehind]
      split at h
      · have hlength := congrArg List.length (Prod.mk.inj (Except.ok.inj h)).2
        simp only [List.length_cons, List.length_append] at hlength
        omega
      · rename_i hgoesOn
        split at h
        · cases h
        · rename_i hparen
          obtain ⟨⟨more, after⟩, hmore, hequal⟩ := map_eq_ok_iff.1 h
          cases hequal
          rw [if_neg hgoesOn, if_neg hparen, ih hopen hmore, unescape_cons hslash]
          rfl

theorem Aligned.stops (h : Aligned whole rest rest' ts) (hstops : Stops rest)
    (hmarker : endsValue rest = true → ∃ position more, ts = ⟨.caseInsensitive, ['/', 'i'], position⟩ :: more) :
    Stops rest' ∧ endsValue rest' = endsValue rest := by
  cases hends : endsValue rest with
  | true =>
      obtain ⟨position, more, rfl⟩ := hmarker hends
      obtain ⟨u, u', rfl, rfl, hbehind⟩ := h.inv
      have hends' : endsValue ('/' :: 'i' :: u') = true := by
        rwa [endsValue_marker, hbehind.head?_skipBlanks, ← endsValue_marker]
      refine ⟨fun c _ => ?_, hends'⟩
      exact (congrArg (isDelimiter c || ·) hends').trans (Bool.or_true _)
  | false =>
      have hdelimiter : ∀ c ∈ rest'.head?, isDelimiter c = true := by
        intro c hc
        rw [h.head?_eq] at hc
        have hstop := hstops c hc
        rwa [hends, Bool.or_false] at hstop
      refine ⟨fun c hc => by rw [hdelimiter c hc, Bool.true_or], ?_⟩
      cases rest' with
      | nil => rfl
      | cons c rest' =>
          apply endsValue_cons_of_ne
          rintro rfl
          exact absurd (hdelimiter '/' rfl) (by decide)

/-- What a value holds is scanned from the other text as well, up to the token behind it. -/
theorem respaced_scanMarks (ht : t <:+ whole) (hopen : endsOpen t = false)
    (hmarks : scanMarks (Text.skipBlanks t) = .ok (marks, rest)) (hnext : Next whole rest ts)
    (hstops' : ∀ rest', Aligned whole rest rest' ts → Stops rest')
    (h : Respaced whole false t t'
      (⟨.literal, significant marks, Text.offset whole (Text.skipBlanks t)⟩ :: ts)) :
    ∃ marks' rest', scanMarks (Text.skipBlanks t') = .ok (marks', rest') ∧
      significant marks' = significant marks ∧ Aligned whole rest rest' ts := by
  have hstops := stops_of_scanMarks hmarks
  have hstart := (Text.skipBlanks_suffix t).trans ht
  obtain ⟨piece, gap₀, gap', u, u', hgap, hpiece, hbegins, hblanks, rfl, hbehind⟩ := h.inv ht hstart rfl
  have hu : u <:+ whole := by
    rw [hbegins] at hstart
    exact (List.suffix_append _ _).trans hstart
  obtain ⟨gap₁, gap₁', rest', hgap₁, rfl, rfl, haligned⟩ := hbehind.behind hu
    ((scanMarks_suffix hmarks).trans hstart) hstops.skipBlanks_eq hnext
  have hstopped := hstops' rest' haligned
  rw [Text.skipBlanks_append hgap.blank']
  cases piece with
  | nil =>
      -- A value without a piece ends where the blanks do.
      rw [List.nil_append] at hbegins ⊢
      have hrest : Text.skipBlanks t = rest := by
        rw [← Text.skipBlanks_skipBlanks, hbegins, Text.skipBlanks_append hgap₁.blank, hstops.skipBlanks_eq]
      rw [hrest, hstops.scanMarks_eq] at hmarks
      obtain rfl : [] = marks := (Prod.mk.inj (Except.ok.inj hmarks)).1
      refine ⟨[], rest', ?_, rfl, haligned⟩
      rw [Text.skipBlanks_append hgap₁.blank', hstopped.skipBlanks_eq, hstopped.scanMarks_eq]
  | cons c piece =>
      have hc : Text.isBlank c = false := Text.isBlank_of_skipBlanks hbegins
      rw [hbegins] at hmarks hblanks
      have hend : gap₁ ++ rest = [] → endsOpen (c :: piece) = false := by
        intro hnil
        rw [hblanks, hnil, List.append_nil] at hopen
        cases gap₀ with
        | nil => exact hopen
        | cons b gap₀ =>
            have hplain : '\\' ∉ b :: gap₀ := fun hmem =>
              absurd (Text.isBlank_of_allBlank hgap.blank hmem) (by decide)
            rwa [← List.nil_append (_ ++ _), endsOpen_append [] (List.cons_ne_nil b gap₀) hplain] at hopen
      have hclosed := endsOpen_of_value hgap₁.blank hmarks hpiece hend
      have hsame := scanMarks_widened ⟨hgap₁.blank, hgap₁.blank, id⟩ hstops hstops rfl hclosed hmarks
      rw [hmarks] at hsame
      obtain rfl := (Prod.mk.inj (Except.ok.inj hsame)).1
      refine ⟨unescape false (c :: piece) ++ blankMarks gap₁', rest', ?_, ?_, haligned⟩
      · rw [List.cons_append, Text.skipBlanks_cons hc]
        exact scanMarks_widened hgap₁ hstops hstopped haligned.head?_eq hclosed hmarks
      · rw [significant_blankMarks, significant_blankMarks]

theorem respaced_scanValue (ht : t <:+ whole) (hopen : endsOpen t = false)
    (hscan : scanValue t = .ok (ls, rest)) (hnext : Next whole rest more)
    (h : Respaced whole false t t' (ls.map (Lexeme.place whole) ++ more)) :
    ∃ ls' rest', scanValue t' = .ok (ls', rest') ∧ ls'.map Lexeme.word = ls.map Lexeme.word ∧
      Respaced whole false rest rest' more := by
  obtain ⟨⟨marks, stop⟩, hmarks, hscan⟩ := bind_eq_ok_iff.1 hscan
  have hstops := stops_of_scanMarks hmarks
  dsimp only at hscan
  split at hscan
  · rename_i hends
    cases hscan
    have hmarker : Next whole stop (⟨.caseInsensitive, ['/', 'i'], Text.offset whole stop⟩ :: more) :=
      ⟨nofun, nofun, congrArg (Text.offset whole) hstops.skipBlanks_eq.symm⟩
    have hstopped : ∀ stop',
        Aligned whole stop stop' (⟨.caseInsensitive, ['/', 'i'], Text.offset whole stop⟩ :: more) →
          Stops stop' ∧ endsValue stop' = endsValue stop :=
      fun stop' haligned => haligned.stops hstops fun _ => ⟨_, more, rfl⟩
    obtain ⟨marks', stop', hmarks', hsame, haligned⟩ :=
      respaced_scanMarks ht hopen hmarks hmarker (fun stop' haligned => (hstopped stop' haligned).1) h
    have hends' := (hstopped stop' haligned).2.trans hends
    obtain ⟨u, u', rfl, rfl, hbehind⟩ := haligned.inv
    refine ⟨[⟨.literal, significant marks', Text.skipBlanks t'⟩, ⟨.caseInsensitive, ['/', 'i'], '/' :: 'i' :: u'⟩],
      u', ?_, ?_, hbehind⟩
    · rw [scanValue, hmarks']
      exact if_pos hends'
    · simp only [List.map_cons, Lexeme.word, hsame]
  · rename_i hends
    cases hscan
    have hstopped : ∀ rest', Aligned whole rest rest' more → Stops rest' ∧ endsValue rest' = endsValue rest :=
      fun rest' haligned => haligned.stops hstops fun htrue => absurd htrue hends
    obtain ⟨marks', rest', hmarks', hsame, haligned⟩ :=
      respaced_scanMarks ht hopen hmarks hnext (fun rest' haligned => (hstopped rest' haligned).1) h
    have hends' : ¬endsValue rest' = true := by rwa [(hstopped rest' haligned).2]
    refine ⟨[⟨.literal, significant marks', Text.skipBlanks t'⟩], rest', ?_, ?_, haligned.respaced⟩
    · rw [scanValue, hmarks']
      exact if_neg hends'
    · simp only [List.map_cons, Lexeme.word, hsame]

theorem respaced_scanComparison (hsymbols : ∀ s ∈ symbols, Registry.isSymbol s = true) (ht : t <:+ whole)
    (hopen : endsOpen whole = false) (hscan : scanComparison symbols t = .ok (ls, rest))
    (hnext : Next whole rest more) (h : Aligned whole t t' (ls.map (Lexeme.place whole) ++ more)) :
    ∃ ls' rest', scanComparison symbols t' = .ok (ls', rest') ∧ ls'.map Lexeme.word = ls.map Lexeme.word ∧
      Respaced whole false rest rest' more := by
  obtain ⟨symbol, hsymbol, hscan⟩ := bind_eq_ok_iff.1 hscan
  obtain ⟨⟨value, after⟩, hvalue, hscan⟩ := bind_eq_ok_iff.1 hscan
  cases hscan
  have hmem := (symbolAt_eq_ok hsymbol).2
  have hothers : ∀ other, (other ∈ symbols ∨ other ∈ builtInSymbols) → other <+: t' → other <+: t :=
    fun other hother => h.respaced.begins fun c hc => isBlank_of_mem_symbol hsymbols hother hc
  have hne : symbol ≠ [] := h.text_ne_nil
  have hhead := h.head?_eq
  obtain ⟨u, u', hbegins, hbegins', hbehind⟩ := h.inv
  obtain rfl : t = symbol ++ u := hbegins
  obtain rfl : t' = symbol ++ u' := hbegins'
  have hu : u <:+ whole := (List.suffix_append _ _).trans ht
  have hclosed : endsOpen u = false := by
    obtain ⟨front, rfl⟩ := ht
    have hslash : '\\' ∉ symbol := not_mem_symbol (by decide) (by decide) hsymbols hmem
    rwa [endsOpen_append front hne hslash] at hopen
  rw [List.drop_left] at hvalue
  obtain ⟨value', rest', hvalue', hwords, hrest⟩ := respaced_scanValue hu hclosed hvalue hnext hbehind
  have hsymbol' := symbolAt_of_begins hsymbol hhead (List.prefix_append symbol u') hothers
  refine ⟨⟨.operator, symbol, symbol ++ u'⟩ :: value', rest', ?_, ?_, hrest⟩
  · rw [scanComparison, hsymbol']
    simp only [bind, Except.bind, List.drop_left, hvalue']
    rfl
  · rw [List.map_cons, List.map_cons, hwords]
    rfl

end FilterLang.Token
