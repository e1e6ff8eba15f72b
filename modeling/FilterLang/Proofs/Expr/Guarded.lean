import FilterLang.Proofs.Expr.Plain
import FilterLang.Proofs.Token.Resumption

/-!
Guards. A plain comparison may stand after filter text that is not trusted, put in parentheses: whatever
that text is, the whole is not read at all or is a conjunction with the comparison on its right side.
-/

namespace FilterLang

open Token Grammar Outcome

/-- Text that is not trusted, in parentheses, and a condition of one's own. -/
def Expr.guardedText (untrusted guard : Text) : Text := '(' :: untrusted ++ ')' :: ',' :: guard

namespace Grammar

variable {ts us : List Token} {e : Expr}

theorem connective?_of_mem_words {l : Leaf} {w : Word} (h : w ∈ l.words) :
    Expr.connective? w.1 = none := by
  have hindexer : ∀ {key : Option Text}, w ∈ indexerWords key → Expr.connective? w.1 = none := by
    rintro (_ | key) hmem
    · cases hmem
    · simp only [indexerWords, List.mem_cons, List.not_mem_nil, or_false] at hmem
      rcases hmem with rfl | rfl | rfl <;> rfl
  have hmarker : ∀ {marked : Bool}, w ∈ markerWords marked → Expr.connective? w.1 = none := by
    rintro (_ | _) hmem
    · cases hmem
    · rw [List.mem_singleton.1 hmem]
      rfl
  simp only [Leaf.words, List.cons_append, List.mem_cons, List.mem_append] at h
  rcases h with rfl | (hmem | hmem) | rfl | rfl | hmem
  · rfl
  · exact hindexer hmem
  · exact hmarker hmem
  · rfl
  · rfl
  · exact hmarker hmem

theorem connective?_of_leaf {l : Leaf} {token : Token} (h : Derives .term ts (.leaf l))
    (hmem : token ∈ ts) : Expr.connective? token.kind = none := by
  have hword : token.word.respelled ∈ l.words := by
    have hwords := words_eq_map h
    rw [Expr.words] at hwords
    rw [hwords]
    exact List.mem_map_of_mem hmem
  exact connective?_of_mem_words hword

theorem exists_leaf_of_literal {literal : Token} (hliteral : literal.kind = .literal)
    (h : Derives .term us e) (hlast : us.getLast? = some literal) : ∃ l, e = .leaf l := by
  cases h with
  | comparison _ _ => exact ⟨_, rfl⟩
  | paren _ _ hclosing =>
      rw [List.getLast?_append, List.getLast?_singleton] at hlast
      cases hlast
      rw [hliteral] at hclosing
      cases hclosing

theorem cut_inj {token token' : Token} {ts' us' : List Token}
    (hus : ∀ t ∈ us, Expr.connective? t.kind = none) (hus' : ∀ t ∈ us', Expr.connective? t.kind = none)
    (htoken : Expr.connective? token.kind ≠ none) (htoken' : Expr.connective? token'.kind ≠ none)
    (h : ts ++ token :: us = ts' ++ token' :: us') : token = token' ∧ us = us' := by
  rcases List.append_eq_append_iff.1 h with ⟨between, _, hequal⟩ | ⟨between, _, hequal⟩
  · cases between with
    | nil => exact List.cons.inj hequal
    | cons t between =>
        obtain ⟨_, rfl⟩ := List.cons.inj hequal
        exact absurd (hus token' (List.mem_append_right _ List.mem_cons_self)) htoken'
  · cases between with
    | nil =>
        obtain ⟨rfl, rfl⟩ := List.cons.inj hequal
        exact ⟨rfl, rfl⟩
    | cons t between =>
        obtain ⟨_, rfl⟩ := List.cons.inj hequal
        exact absurd (hus' token (List.mem_append_right _ List.mem_cons_self)) htoken

/-- A chain whose last tokens spell a conjunction with a plain comparison is that conjunction: chains
fold to the left. -/
theorem derives_guarded {offset : Nat} {field symbol value : Text}
    {connective name operator literal : Token} (hconnective : connective.kind = .and)
    (hspells : SpellsPlain offset field symbol value name operator literal)
    (h : Derives .expr (ts ++ [connective, name, operator, literal]) e) :
    ∃ left, e = .binary left .and (.leaf (Leaf.plain offset field symbol value)) := by
  have hliteral : literal.kind = .literal := congrArg Prod.fst hspells.literal_word
  have hplain := derives_plain hspells
  have hisConnective : Expr.connective? connective.kind ≠ none := by simp [hconnective, Expr.connective?]
  generalize hwhole : ts ++ [connective, name, operator, literal] = whole at h
  have hlast : whole.getLast? = some literal := by simp [← hwhole]
  cases h with
  | first hterm =>
      obtain ⟨l, rfl⟩ := exists_leaf_of_literal hliteral hterm hlast
      exact absurd (connective?_of_leaf hterm (by simp [← hwhole])) hisConnective
  | @next token ts' us left right connective' hleft htoken hright =>
      have hend : us.getLast? = some literal := by
        rcases List.eq_nil_or_concat us with rfl | ⟨front, last, rfl⟩
        · cases hright
        · rw [List.concat_eq_append, ← List.cons_append, ← List.append_assoc,
            List.getLast?_concat] at hlast
          rw [List.concat_eq_append, List.getLast?_concat, hlast]
      obtain ⟨l, rfl⟩ := exists_leaf_of_literal hliteral hright hend
      have hcut := cut_inj (fun t ht => connective?_of_leaf hplain ht)
        (fun t ht => connective?_of_leaf hright ht) hisConnective
        (by rw [Expr.connective?_eq_some_iff.2 htoken]; simp) hwhole
      obtain ⟨rfl, rfl⟩ := hcut
      have hand : connective' = .and := by
        rw [hconnective] at htoken
        cases connective' with
        | and => rfl
        | or => cases htoken
      rw [hand, Expr.derives_unique (.first hplain) (.first hright)]
      exact ⟨left, rfl⟩

end Grammar

theorem Leaf.bracket_not_mem_plainText {field symbol value : Text} (h : Leaf.Nameable field symbol)
    (hvalue : ']' ∉ value) : ']' ∉ Leaf.plainText field symbol value := by
  intro hmem
  rcases List.mem_append.1 hmem with hfield | hmem
  · exact absurd (h.chars _ hfield) (by decide)
  · rcases List.mem_append.1 hmem with hsymbol | hescaped
    · have hall : ∀ s ∈ builtInSymbols, ']' ∉ s := by decide
      exact hall symbol (mem_builtInSymbols h.builtIn) hsymbol
    · obtain ⟨c, hc, hmem⟩ := List.mem_flatMap.1 hescaped
      have hequal : ']' = c := by
        split at hmem
        · simpa using hmem
        · exact List.mem_singleton.1 hmem
      exact hvalue (hequal ▸ hc)

/-- What is not trusted cannot get out of its parentheses without making the whole unreadable. -/
theorem Expr.exists_guarded {registry : Registry} {limit : Nat} {untrusted field symbol value : Text}
    {e : Expr} (hregistry : registry.WellFormed) (hguard : Leaf.Nameable field symbol)
    (hbracket : ']' ∉ value)
    (h : read registry limit (guardedText untrusted (Leaf.plainText field symbol value)) = .ok e) :
    ∃ left, e = .binary left .and
      (.leaf (Leaf.plain (Text.size untrusted + 3) field symbol value)) := by
  let guard := Leaf.plainText field symbol value
  obtain ⟨ts, hscanned, hparsed⟩ := bind_eq_ok_iff.1 h
  unfold Token.ofFilter at hscanned
  split at hscanned
  · rename_i ls hls
    cases hscanned
    have hclosed : ')' :: ',' :: guard <:+ guardedText untrusted guard := ⟨'(' :: untrusted, rfl⟩
    obtain ⟨before, after, rfl, hafter⟩ := scan_resumes
      (fun s hs => Registry.isSymbol_of_mem_symbols hregistry hs)
      (Leaf.bracket_not_mem_plainText hguard hbracket) hclosed hls
    obtain ⟨literal, hliteral, hguardScanned⟩ := scan_plain registry.symbols hguard value
    rw [scan_punctuation (show punctuation? ',' = some .and from rfl), hguardScanned] at hafter
    cases hafter
    have hsize : Text.size ('(' :: untrusted ++ [')', ',']) = Text.size untrusted + 3 := by
      simp only [Text.size_append, Text.size_cons, Text.size_nil,
        show Char.utf8Size '(' = 1 from rfl, show Char.utf8Size ')' = 1 from rfl,
        show Char.utf8Size ',' = 1 from rfl]
      omega
    have hwhole : guardedText untrusted guard = '(' :: untrusted ++ [')', ','] ++ guard := by
      simp [guardedText]
    have hspells :=
      @spellsPlain_place field symbol ('(' :: untrusted ++ [')', ',']) value literal hliteral
    rw [← hwhole, hsize] at hspells
    obtain ⟨hderives, _⟩ := ofTokens_eq_ok_iff.1 (mapError_eq_ok_iff.1 hparsed)
    rw [List.map_append] at hderives
    exact derives_guarded rfl hspells hderives
  · cases hscanned

end FilterLang
