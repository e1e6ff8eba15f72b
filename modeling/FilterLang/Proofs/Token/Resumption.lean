import FilterLang.Proofs.Operator.Registered
import FilterLang.Proofs.Outcome
import FilterLang.Proofs.Token.Escape

/-!
Scanning past text that is not trusted. Where a closing parenthesis and a comma follow such a text,
whatever was begun before them ends there: a value may take up the parenthesis, after a backslash, but
nothing takes up the comma, unless there is a bracket behind it that closes an indexer.
-/

namespace FilterLang.Token

open Outcome

variable {symbols : List Text} {t rest tail w guard : Text} {ls : List Lexeme}

theorem suffix_of_not_mem {c : Char} (h : c :: rest <:+ t) (htail : tail <:+ t) (hc : c ∉ tail) :
    tail <:+ rest := by
  rcases List.suffix_or_suffix_of_suffix h htail with hinside | hbefore
  · exact absurd (hinside.subset List.mem_cons_self) hc
  · rcases List.suffix_cons_iff.1 hbefore with rfl | hrest
    · exact absurd List.mem_cons_self hc
    · exact hrest

theorem suffix_of_ne {c d : Char} (h : d :: w <:+ c :: t) (hne : c ≠ d) : d :: w <:+ t := by
  rcases List.suffix_cons_iff.1 h with hequal | htail
  · exact absurd (List.cons.inj hequal).1.symm hne
  · exact htail

theorem suffix_dropWhile {p : Char → Bool} {d : Char} (h : d :: w <:+ t) (hd : p d = false) :
    d :: w <:+ t.dropWhile p := by
  obtain ⟨before, rfl⟩ := h
  rw [List.dropWhile_append]
  split
  · have hstops : (d :: w).dropWhile p = d :: w := List.dropWhile_cons_of_neg (by simp [hd])
    simp only [hstops, List.suffix_refl]
  · exact List.suffix_append _ _

theorem suffix_drop_of_not_mem {d : Char} {symbol : Text} (hsymbol : symbol <+: t) (h : d :: w <:+ t)
    (hd : d ∉ symbol) : d :: w <:+ t.drop symbol.length := by
  obtain ⟨before, rfl⟩ := h
  have hfront : before ++ [d] <+: before ++ d :: w := ⟨w, by simp⟩
  rcases List.prefix_or_prefix_of_prefix hsymbol hfront with hshort | hlong
  · rcases List.prefix_concat_iff.1 hshort with rfl | hbefore
    · exact absurd (List.mem_append_right _ List.mem_cons_self) hd
    · rw [List.drop_append_of_le_length hbefore.length_le]
      exact List.suffix_append _ _
  · exact absurd (hlong.subset (List.mem_append_right _ List.mem_cons_self)) hd

/-! The parts of an item. All but values leave the parenthesis and what follows it. -/

theorem suffix_scanIndexer (ht : ')' :: w <:+ t) (hclose : ']' ∉ w)
    (h : scanIndexer t = .ok (ls, rest)) : ')' :: w <:+ rest := by
  unfold scanIndexer at h
  split at h
  · cases h
  · rename_i found
    cases h
    have hbracket := (scanKey?_suffix found).trans (List.tail_suffix t)
    exact suffix_of_not_mem hbracket ht (by simp [hclose])

theorem suffix_scanIndexer? (ht : ')' :: w <:+ t) (hclose : ']' ∉ w)
    (h : scanIndexer? t = .ok (ls, rest)) : ')' :: w <:+ rest := by
  unfold scanIndexer? at h
  split at h
  · obtain ⟨⟨found, after⟩, hfound, hequal⟩ := map_eq_ok_iff.1 h
    cases hequal
    exact suffix_dropWhile (suffix_scanIndexer ht hclose hfound) rfl
  · cases h
    exact ht

theorem suffix_of_marker (ht : ')' :: w <:+ '/' :: 'i' :: t) : ')' :: w <:+ t :=
  suffix_of_ne (suffix_of_ne ht (by decide)) (by decide)

theorem endsField_cons_slash (h : endsField t = true) : ∃ u, t = '/' :: 'i' :: u := by
  unfold endsField at h
  split at h
  · exact ⟨_, rfl⟩
  · cases h

theorem suffix_scanFieldMarker? {name : Text} (ht : ')' :: w <:+ t)
    (h : scanFieldMarker? name t = .ok (ls, rest)) : ')' :: w <:+ rest := by
  unfold scanFieldMarker? at h
  split at h
  · split at h
    · rename_i hends
      obtain ⟨u, rfl⟩ := endsField_cons_slash hends
      cases h
      exact suffix_dropWhile (suffix_of_marker ht) rfl
    · cases h
  · cases h
    exact ht

def Resumed (guard rest : Text) : Prop := rest = ',' :: guard ∨ ')' :: ',' :: guard <:+ rest

theorem resumed_scanMarks {marks : List Mark} (ht : ')' :: ',' :: guard <:+ t)
    (h : scanMarks t = .ok (marks, rest)) : Resumed guard rest := by
  fun_induction scanMarks t generalizing marks rest with
  | case1 => exact absurd (List.suffix_nil.1 ht) (by simp)
  | case2 => exact absurd ht.length_le (by simp)
  | case3 c t ih =>
      obtain ⟨⟨more, after⟩, hmore, hequal⟩ := map_eq_ok_iff.1 h
      obtain ⟨-, rfl⟩ := Prod.mk.inj hequal
      have hescaped := suffix_of_ne ht (by decide)
      rcases List.suffix_cons_iff.1 hescaped with hparen | hlater
      · obtain ⟨rfl, rfl⟩ := List.cons.inj hparen
        rw [scanMarks_stop (by rfl)] at hmore
        cases hmore
        exact .inl rfl
      · exact ih hlater hmore
  | case4 c t _ _ _ =>
      cases h
      exact .inr ht
  | case5 t => cases h
  | case6 c t _ _ hgoesOn _ ih =>
      obtain ⟨⟨more, after⟩, hmore, hequal⟩ := map_eq_ok_iff.1 h
      cases hequal
      refine ih (suffix_of_ne ht ?_) hmore
      rintro rfl
      exact hgoesOn rfl

theorem resumed_scanValue (ht : ')' :: ',' :: guard <:+ t) (h : scanValue t = .ok (ls, rest)) :
    Resumed guard rest := by
  obtain ⟨⟨marks, after⟩, hmarks, h⟩ := bind_eq_ok_iff.1 h
  have hresumed := resumed_scanMarks (suffix_dropWhile ht rfl) hmarks
  dsimp only at h
  split at h
  · rename_i hends
    obtain ⟨u, rfl⟩ := endsValue_cons_slash hends
    cases h
    rcases hresumed with hcomma | hlater
    · cases hcomma
    · exact .inr (suffix_of_marker hlater)
  · cases h
    exact hresumed

/-! Operators. No symbol has a parenthesis in it. -/

theorem mem_of_foldl_longest {candidates : List Text} {best : Option Text} {symbol : Text}
    (h : candidates.foldl (fun best symbol =>
      match best with
      | some other => if Text.size symbol < Text.size other then best else some symbol
      | none => some symbol) best = some symbol) : best = some symbol ∨ symbol ∈ candidates := by
  induction candidates generalizing best with
  | nil => exact .inl h
  | cons candidate candidates ih =>
      rcases ih h with hbest | hmem
      · dsimp only at hbest
        split at hbest
        · split at hbest
          · exact .inl hbest
          · exact .inr (by simp [Option.some.inj hbest])
        · exact .inr (by simp [Option.some.inj hbest])
      · exact .inr (List.mem_cons_of_mem _ hmem)

theorem symbolAt_eq_ok {symbol : Text} (h : symbolAt symbols t = .ok symbol) :
    symbol <+: t ∧ (symbol ∈ symbols ∨ symbol ∈ builtInSymbols) := by
  unfold symbolAt at h
  split at h
  · split at h
    · rename_i found
      cases h
      rcases mem_of_foldl_longest found with hnone | hmem
      · cases hnone
      · obtain ⟨hmem, hbegins⟩ := List.mem_filter.1 hmem
        exact ⟨List.isPrefixOf_iff_prefix.1 hbegins, .inl hmem⟩
    · cases h
  · split at h
    · rename_i found
      cases h
      have hbegins := List.find?_some found
      exact ⟨List.isPrefixOf_iff_prefix.1 hbegins, .inr (List.mem_of_find?_eq_some found)⟩
    · cases h

theorem not_mem_symbol {c : Char} {symbol : Text} (hreserved : c ∈ Registry.reserved)
    (hbuiltIns : ∀ s ∈ builtInSymbols, c ∉ s) (hsymbols : ∀ s ∈ symbols, Registry.isSymbol s = true)
    (h : symbol ∈ symbols ∨ symbol ∈ builtInSymbols) : c ∉ symbol := by
  rcases h with hcustom | hbuiltIn
  · exact Registry.not_mem_of_isSymbol hreserved (hsymbols symbol hcustom)
  · exact hbuiltIns symbol hbuiltIn

theorem resumed_scanComparison (hsymbols : ∀ s ∈ symbols, Registry.isSymbol s = true)
    (ht : ')' :: ',' :: guard <:+ t) (h : scanComparison symbols t = .ok (ls, rest)) :
    Resumed guard rest := by
  obtain ⟨symbol, hsymbol, h⟩ := bind_eq_ok_iff.1 h
  obtain ⟨⟨value, after⟩, hvalue, h⟩ := bind_eq_ok_iff.1 h
  cases h
  obtain ⟨hbegins, hmem⟩ := symbolAt_eq_ok hsymbol
  have hclose : ')' ∉ symbol := not_mem_symbol (by decide) (by decide) hsymbols hmem
  exact resumed_scanValue (suffix_drop_of_not_mem hbegins ht hclose) hvalue

theorem resumed_scanRest (hsymbols : ∀ s ∈ symbols, Registry.isSymbol s = true)
    (ht : ')' :: ',' :: guard <:+ t) (h : scanRest symbols t = .ok (ls, rest)) :
    Resumed guard rest := by
  unfold scanRest at h
  split at h
  · exact absurd (List.suffix_nil.1 ht) (by simp)
  · split at h
    · cases h
      exact .inr ht
    · split at h
      · exact resumed_scanComparison hsymbols ht h
      · cases h

theorem resumed_scanField (hsymbols : ∀ s ∈ symbols, Registry.isSymbol s = true)
    (hclose : ']' ∉ guard) (ht : ')' :: ',' :: guard <:+ t)
    (h : scanField symbols t = .ok (ls, rest)) : Resumed guard rest := by
  obtain ⟨⟨indexer, r₁⟩, hindexer, h⟩ := bind_eq_ok_iff.1 h
  obtain ⟨⟨marker, r₂⟩, hmarker, h⟩ := bind_eq_ok_iff.1 h
  obtain ⟨⟨comparison, r₃⟩, hcomparison, h⟩ := bind_eq_ok_iff.1 h
  cases h
  have hname := suffix_dropWhile (suffix_dropWhile (p := isFieldChar) ht (by decide))
    (p := Text.isBlank) rfl
  have hbracket := suffix_scanIndexer? hname (by simp [hclose]) hindexer
  exact resumed_scanRest hsymbols (suffix_scanFieldMarker? hbracket hmarker) hcomparison

theorem resumed_scanItem {c : Char} (hsymbols : ∀ s ∈ symbols, Registry.isSymbol s = true)
    (hclose : ']' ∉ guard) (ht : ')' :: ',' :: guard <:+ c :: t)
    (h : scanItem symbols c t = .ok (ls, rest)) : Resumed guard rest := by
  unfold scanItem at h
  split at h
  · cases h
    rcases List.suffix_cons_iff.1 ht with hequal | hlater
    · exact .inl (List.cons.inj hequal).2.symm
    · exact .inr hlater
  · split at h
    · exact resumed_scanField hsymbols hclose ht h
    · split at h
      · exact resumed_scanComparison hsymbols ht h
      · cases h

/-- However the text before the parenthesis and the comma is scanned, the rest is scanned from the
comma on as it would be by itself. -/
theorem scan_resumes (hsymbols : ∀ s ∈ symbols, Registry.isSymbol s = true) (hclose : ']' ∉ guard)
    (ht : ')' :: ',' :: guard <:+ t) (h : scan symbols t = .ok ls) :
    ∃ before after, ls = before ++ after ∧ scan symbols (',' :: guard) = .ok after := by
  fun_induction scan symbols t generalizing ls with
  | case1 t hblanks =>
      have hkept : ')' :: ',' :: guard <:+ Text.skipBlanks t := suffix_dropWhile ht rfl
      rw [hblanks] at hkept
      exact absurd (List.suffix_nil.1 hkept) (by simp)
  | case2 => cases h
  | case3 t c u hblanks found rest hitem ih =>
      have hkept : ')' :: ',' :: guard <:+ Text.skipBlanks t := suffix_dropWhile ht rfl
      rw [hblanks] at hkept
      obtain ⟨more, hmore, rfl⟩ := map_eq_ok_iff.1 h
      rcases resumed_scanItem hsymbols hclose hkept hitem with rfl | hlater
      · exact ⟨found, more, rfl, hmore⟩
      · obtain ⟨before, after, rfl, hafter⟩ := ih hlater hmore
        exact ⟨found ++ before, after, (List.append_assoc _ _ _).symm, hafter⟩

end FilterLang.Token
