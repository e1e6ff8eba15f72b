import FilterLang.Order.SortKey
import FilterLang.Proofs.Expr.Acceptance
import FilterLang.Proofs.Order.Entries
import FilterLang.Proofs.Token.InPlace
import FilterLang.Proofs.Token.Spacing

/-!
Positions point into the text. The scanners fail at endings of the text, and place their tokens there; what the
parsers report stands at a token or at the end. So every position that is reported, or kept in a tree, is one between
two characters.
-/

namespace FilterLang

open Outcome

def Error.position? : Error → Option Nat
  | .lexical offset _ => some offset
  | .syntactic fault => some fault.position
  | _ => none

def Expr.positions (e : Expr) : List Nat := e.leaves.flatMap fun l => [l.position, l.symbolPosition]

namespace Token

variable {symbols : List Text} {t : Text} {c : Char} {f : Lexeme.Fault} {ts : List Token} {error : Error}

theorem scanIndexer_fault (h : scanIndexer t = .error f) : f.start <:+ t := by
  unfold scanIndexer at h
  split at h <;> cases h
  exact List.suffix_refl t

theorem scanMarks_fault (h : scanMarks t = .error f) : f.start <:+ t := by
  fun_induction scanMarks t with
  | case1 => cases h
  | case2 => cases h
  | case3 c t ih =>
      have ht := ih (map_eq_error_iff.1 h)
      exact ht.trans ((List.suffix_cons c t).trans (List.suffix_cons '\\' (c :: t)))
  | case4 => cases h
  | case5 t =>
      cases h
      exact List.suffix_refl _
  | case6 c t _ _ _ _ ih => exact (ih (map_eq_error_iff.1 h)).trans (List.suffix_cons c t)

theorem scanValue_fault (h : scanValue t = .error f) : f.start <:+ t := by
  rcases bind_eq_error_iff.1 h with hmarks | ⟨⟨marks, rest⟩, -, hvalue⟩
  · exact (scanMarks_fault hmarks).trans (Text.skipBlanks_suffix t)
  · dsimp only at hvalue
    split at hvalue <;> cases hvalue

theorem scanComparison_fault (h : scanComparison symbols t = .error f) : f.start <:+ t := by
  rcases bind_eq_error_iff.1 h with hsymbol | ⟨symbol, -, h⟩
  · rw [Cursor.symbolAt_fault hsymbol]
  · rcases bind_eq_error_iff.1 h with hvalue | ⟨_, -, hdone⟩
    · exact (scanValue_fault hvalue).trans (List.drop_suffix _ t)
    · cases hdone

theorem scanIndexer?_fault (h : scanIndexer? t = .error f) : f.start <:+ t := by
  unfold scanIndexer? at h
  split at h
  · exact scanIndexer_fault (map_eq_error_iff.1 h)
  · cases h

theorem scanFieldMarker?_fault {name : Text} (h : scanFieldMarker? name t = .error f) : f.start <:+ t := by
  unfold scanFieldMarker? at h
  split at h
  · split at h <;> cases h
    exact List.suffix_refl t
  · cases h

theorem scanRest_fault (h : scanRest symbols t = .error f) : f.start <:+ t := by
  unfold scanRest at h
  split at h
  · cases h
  · split at h
    · cases h
    · split at h
      · exact scanComparison_fault h
      · cases h
        exact List.suffix_refl _

theorem scanField_fault (h : scanField symbols t = .error f) : f.start <:+ t := by
  have hstart := (Text.skipBlanks_suffix _).trans (List.dropWhile_suffix (l := t) isFieldChar)
  rcases bind_eq_error_iff.1 h with hindexer | ⟨⟨indexer, r₁⟩, hindexer, h⟩
  · exact (scanIndexer?_fault hindexer).trans hstart
  have h₁ := (scanIndexer?_suffix hindexer).trans hstart
  rcases bind_eq_error_iff.1 h with hmarker | ⟨⟨marker, r₂⟩, hmarker, h⟩
  · exact (scanFieldMarker?_fault hmarker).trans h₁
  have h₂ := (scanFieldMarker?_suffix hmarker).trans h₁
  rcases bind_eq_error_iff.1 h with hrest | ⟨_, -, hdone⟩
  · exact (scanRest_fault hrest).trans h₂
  · cases hdone

theorem scanItem_fault (h : scanItem symbols c t = .error f) : f.start <:+ c :: t := by
  unfold scanItem at h
  split at h
  · cases h
  · split at h
    · exact scanField_fault h
    · split at h
      · exact scanComparison_fault h
      · cases h
        exact List.suffix_refl _

theorem scan_fault (h : scan symbols t = .error f) : f.start <:+ t := by
  fun_induction scan symbols t with
  | case1 => cases h
  | case2 t c u hblanks fault hitem =>
      cases h
      exact (scanItem_fault hitem).trans (Cursor.suffix_of_skipBlanks (List.suffix_refl t) hblanks)
  | case3 t c u hblanks ls rest hitem ih =>
      have hrest := (scanItem_suffix hitem).trans (List.suffix_cons c u)
      have hu := Cursor.suffix_of_skipBlanks (List.suffix_refl t) hblanks
      exact (ih (map_eq_error_iff.1 h)).trans (hrest.trans hu)

theorem scanOrderItem_fault (h : scanOrderItem c t = .error f) : f.start <:+ c :: t := by
  unfold scanOrderItem at h
  split at h
  · cases h
  · split at h
    · exact scanIndexer_fault h
    · split at h <;> cases h
      exact List.suffix_refl _

theorem scanOrder_fault (h : scanOrder t = .error f) : f.start <:+ t := by
  fun_induction scanOrder t with
  | case1 => cases h
  | case2 t c u hblanks fault hitem =>
      cases h
      exact (scanOrderItem_fault hitem).trans (Cursor.suffix_of_skipBlanks (List.suffix_refl t) hblanks)
  | case3 t c u hblanks ls rest hitem ih =>
      have hrest := (scanOrderItem_suffix hitem).trans (List.suffix_cons c u)
      have hu := Cursor.suffix_of_skipBlanks (List.suffix_refl t) hblanks
      exact (ih (map_eq_error_iff.1 h)).trans (hrest.trans hu)

theorem Covers.hasBoundary {whole rest : Text} {inKey inKey' : Bool} (h : Covers whole inKey whole ts inKey' rest) :
    ∀ token ∈ ts, whole.HasBoundary token.position := by
  intro token hmem
  obtain ⟨u, hu, hposition⟩ := h.exists_position hmem
  rw [hposition]
  exact Text.hasBoundary_offset hu

theorem hasBoundary_ofFilter (t : Text) :
    match ofFilter symbols t with
    | .ok ts => ∀ token ∈ ts, t.HasBoundary token.position
    | .error error => ∀ n ∈ error.position?, t.HasBoundary n := by
  unfold ofFilter
  cases hscan : scan symbols t with
  | ok ls => exact (covers_scan hscan).hasBoundary
  | error f =>
      rintro n ⟨rfl⟩
      exact Text.hasBoundary_offset (scan_fault hscan)

theorem hasBoundary_ofOrdering (t : Text) :
    match ofOrdering t with
    | .ok ts => ∀ token ∈ ts, t.HasBoundary token.position
    | .error error => ∀ n ∈ error.position?, t.HasBoundary n := by
  unfold ofOrdering
  cases hscan : scanOrder t with
  | ok ls => exact (covers_scanOrder hscan).hasBoundary
  | error f =>
      rintro n ⟨rfl⟩
      exact Text.hasBoundary_offset (scanOrder_fault hscan)

end Token

namespace Expr

variable {P : Nat → Prop} {limit stop nesting : Nat} {ts rest : List Token} {fault : SyntaxFault}

theorem forall_position_rest (us : List Token) (hts : ∀ token ∈ ts, P token.position) (h : ts = us ++ rest) :
    ∀ token ∈ rest, P token.position := by
  intro token hmem
  rw [h] at hts
  exact hts token (List.mem_append_right us hmem)

theorem expect_fault {kind : Token.Kind} {wanted : Wanted} (hstop : P stop) (hts : ∀ token ∈ ts, P token.position)
    (h : expect stop kind wanted ts = .error fault) : P fault.position := by
  unfold expect at h
  split at h
  · cases h
    exact hstop
  · split at h <;> cases h
    exact hts _ List.mem_cons_self

theorem parseIndexer_fault (hstop : P stop) (hts : ∀ token ∈ ts, P token.position)
    (h : parseIndexer stop ts = .error fault) : P fault.position := by
  unfold parseIndexer at h
  split at h
  · cases h
  · rename_i token after
    split at h
    · have hafter := (List.forall_mem_cons.1 hts).2
      rcases bind_eq_error_iff.1 h with hkey | ⟨⟨key, r₁⟩, hkey, h⟩
      · exact expect_fault hstop hafter hkey
      have h₁ := forall_position_rest [key] hafter (expect_sound hkey).1
      rcases bind_eq_error_iff.1 h with hclose | ⟨_, -, hdone⟩
      · exact expect_fault hstop h₁ hclose
      · cases hdone
    · cases h

theorem parseOperator_fault {field : Text} (hstop : P stop) (hts : ∀ token ∈ ts, P token.position)
    (h : parseOperator stop field ts = .error fault) : P fault.position := by
  unfold parseOperator at h
  split at h
  · cases h
    exact hstop
  · split at h <;> cases h
    exact hts _ List.mem_cons_self

theorem parseLeaf_fault {name : Token} (hstop : P stop) (hts : ∀ token ∈ ts, P token.position)
    (h : parseLeaf stop name ts = .error fault) : P fault.position := by
  rcases bind_eq_error_iff.1 h with hindexer | ⟨⟨key, r₁⟩, hindexer, h⟩
  · exact parseIndexer_fault hstop hts hindexer
  obtain ⟨is, his, -⟩ := parseIndexer_sound hindexer
  obtain ⟨ms, hms, -⟩ := parseMarker_sound r₁
  have h₁ := forall_position_rest ms (forall_position_rest is hts his) hms
  rcases bind_eq_error_iff.1 h with hoperator | ⟨⟨operator, r₂⟩, hoperator, h⟩
  · exact parseOperator_fault hstop h₁ hoperator
  have h₂ := forall_position_rest [operator] h₁ (parseOperator_sound hoperator).1
  rcases bind_eq_error_iff.1 h with hvalue | ⟨_, -, hdone⟩
  · exact expect_fault hstop h₂ hvalue
  · cases hdone

mutual

theorem parseTerm_fault {nesting : Nat} {ts : List Token} {fault : SyntaxFault} (hstop : P stop)
    (hts : ∀ token ∈ ts, P token.position) (h : parseTerm limit stop nesting ts = .error fault) :
    P fault.position := by
  unfold parseTerm at h
  split at h
  · cases h
    exact hstop
  · rename_i token rest
    obtain ⟨htoken, hrest⟩ := List.forall_mem_cons.1 hts
    split at h
    · split at h
      · cases h
        exact htoken
      · cases hinner : parseChain limit stop (nesting + 1) rest with
        | error inside =>
            simp only [hinner] at h
            cases h
            exact parseChain_fault hstop hrest hinner
        | ok inner =>
            obtain ⟨us, hus, -⟩ := (parseChain_sound hinner).derives
            simp only [hinner] at h
            split at h
            · rename_i hclose
              cases h
              exact expect_fault hstop (forall_position_rest us hrest hus) hclose
            · split at h <;> cases h
              exact htoken
    · split at h
      · rename_i hleaf
        cases h
        exact parseLeaf_fault hstop hrest hleaf
      · cases h
    · cases h
      exact htoken
    · cases h
      exact htoken
termination_by (ts.length, 0)

theorem parseChain_fault {nesting : Nat} {ts : List Token} {fault : SyntaxFault} (hstop : P stop)
    (hts : ∀ token ∈ ts, P token.position) (h : parseChain limit stop nesting ts = .error fault) :
    P fault.position := by
  unfold parseChain at h
  cases hfirst : parseTerm limit stop nesting ts with
  | error inside =>
      simp only [hfirst] at h
      cases h
      exact parseTerm_fault hstop hts hfirst
  | ok first =>
      obtain ⟨us, hus, -⟩ := (parseTerm_sound hfirst).derives
      simp only [hfirst] at h
      split at h
      · rename_i hmore
        cases h
        exact parseMore_fault hstop (forall_position_rest us hts hus) hmore
      · cases h
termination_by (ts.length, 1)
decreasing_by
  · exact Prod.Lex.right _ Nat.zero_lt_one
  · exact Prod.Lex.left _ _ first.shorter

theorem parseMore_fault {nesting depth : Nat} {left : Expr} {ts : List Token} {fault : SyntaxFault} (hstop : P stop)
    (hts : ∀ token ∈ ts, P token.position) (h : parseMore limit stop nesting left depth ts = .error fault) :
    P fault.position := by
  cases ts with
  | nil =>
      unfold parseMore at h
      cases h
  | cons token rest =>
      obtain ⟨htoken, hrest⟩ := List.forall_mem_cons.1 hts
      unfold parseMore at h
      dsimp only at h
      split at h
      · cases h
      · cases hright : parseTerm limit stop nesting rest with
        | error inside =>
            simp only [hright] at h
            cases h
            exact parseTerm_fault hstop hrest hright
        | ok right =>
            obtain ⟨us, hus, -⟩ := (parseTerm_sound hright).derives
            simp only [hright] at h
            split at h
            · cases h
              exact htoken
            · split at h
              · rename_i hmore
                cases h
                exact parseMore_fault hstop (forall_position_rest us hrest hus) hmore
              · cases h
termination_by (ts.length, 2)
decreasing_by
  · subst ‹ts = token :: rest›
    exact Prod.Lex.left _ _ (Nat.lt_succ_self _)
  · subst ‹ts = token :: rest›
    exact Prod.Lex.left _ _ (Nat.lt_succ_of_lt right.shorter)

end

theorem ofTokens_fault (hstop : P stop) (hts : ∀ token ∈ ts, P token.position)
    (h : ofTokens limit stop ts = .error fault) : P fault.position := by
  unfold ofTokens at h
  cases hchain : parseChain limit stop 0 ts with
  | error inside =>
      simp only [hchain] at h
      cases h
      exact parseChain_fault hstop hts hchain
  | ok parsed =>
      obtain ⟨us, hus, -⟩ := (parseChain_sound hchain).derives
      have hrest := forall_position_rest us hts hus
      simp only [hchain] at h
      split at h
      · cases h
      · rename_i token after hmore
        rw [hmore] at hrest
        have htoken : P token.position := hrest token List.mem_cons_self
        split at h <;> cases h
        · exact htoken
        · exact htoken

theorem positions_of_derives {symbol : Grammar.Symbol} {e : Expr} (h : Grammar.Derives symbol ts e)
    (hts : ∀ token ∈ ts, P token.position) : ∀ n ∈ e.positions, P n := by
  induction h with
  | @comparison name _ _ _ hleaf =>
      cases hleaf with
      | @intro operator _ is ms _ _ _ _ _ _ _ _ _ =>
          have hname : P name.position := hts name List.mem_cons_self
          have hoperator : P operator.position := hts operator (by simp)
          simp [positions, leaves, hname, hoperator]
  | paren _ _ _ ih => exact ih fun token hmem => hts token (by simp [hmem])
  | first _ ih => exact ih hts
  | next _ _ _ ihLeft ihRight =>
      intro n hn
      rw [positions, leaves, List.flatMap_append, List.mem_append] at hn
      rcases hn with hleft | hright
      · exact ihLeft (fun token hmem => hts token (by simp [hmem])) n hleft
      · exact ihRight (fun token hmem => hts token (by simp [hmem])) n hright

/-- Whatever a filter is read as, every position in the result stands at a boundary of the text. -/
theorem hasBoundary_read (registry : Registry) (limit : Nat) (t : Text) :
    match read registry limit t with
    | .ok e => ∀ n ∈ e.positions, t.HasBoundary n
    | .error error => ∀ n ∈ error.position?, t.HasBoundary n := by
  have htokens := @Token.hasBoundary_ofFilter registry.symbols t
  have hstop : t.HasBoundary (Text.size t) := by simpa using Text.hasBoundary_size t []
  rw [read]
  cases hscan : Token.ofFilter registry.symbols t with
  | error error =>
      rw [hscan] at htokens
      exact htokens
  | ok ts =>
      rw [hscan] at htokens
      rw [ok_bind]
      cases hparse : ofTokens limit (Text.size t) ts with
      | ok e => exact positions_of_derives (ofTokens_eq_ok_iff.1 hparse).1 htokens
      | error fault =>
          rintro n ⟨rfl⟩
          exact ofTokens_fault hstop htokens hparse

end Expr

namespace OrderEntry

variable {P : Nat → Prop} {stop : Nat} {name : Token} {ts rest : List Token} {key : Option Text} {fault : SyntaxFault}

theorem readIndexer_fault (h : readIndexer name ts = .error fault) : fault.position = name.position := by
  unfold readIndexer at h
  split at h
  · cases h
  · split at h
    · split at h
      · split at h <;> cases h
        rfl
      · cases h
        rfl
    · cases h

theorem readIndexer_suffix (h : readIndexer name ts = .ok (key, rest)) : rest <:+ ts := by
  unfold readIndexer at h
  split at h
  · cases h
    exact List.suffix_refl _
  · rename_i token after
    split at h
    · split at h
      · rename_i literal close behind
        split at h <;> cases h
        exact List.suffix_append [token, literal, close] rest
      · cases h
    · cases h
      exact List.suffix_refl _

theorem readNullOrder_suffix (ts : List Token) : (readNullOrder ts).2 <:+ ts := by
  unfold readNullOrder
  split
  · exact List.suffix_refl _
  · split
    · exact List.suffix_cons _ _
    · exact List.suffix_cons _ _
    · exact List.suffix_refl _

theorem readDirection_suffix (ts : List Token) : (readDirection ts).2 <:+ ts := by
  unfold readDirection
  split
  · exact List.suffix_refl _
  · split
    · exact List.suffix_cons _ _
    · exact List.suffix_cons _ _
    · exact List.suffix_refl _

theorem ofTokens_fault (hstop : P stop) (hts : ∀ token ∈ ts, P token.position)
    (h : ofTokens stop ts = .error fault) : P fault.position := by
  unfold ofTokens at h
  split at h
  · cases h
    exact hstop
  · rename_i name after
    have hname : P name.position := hts name List.mem_cons_self
    split at h
    · rcases bind_eq_error_iff.1 h with hindexer | ⟨⟨key, r₁⟩, hindexer, h⟩
      · rw [readIndexer_fault hindexer]
        exact hname
      dsimp only at h
      split at h
      · cases h
      · rename_i token behind hmore
        cases h
        have hread := (readDirection_suffix _).trans ((readNullOrder_suffix r₁).trans (readIndexer_suffix hindexer))
        rw [hmore] at hread
        exact hts token (List.mem_cons_of_mem name (hread.subset List.mem_cons_self))
    · cases h
      exact hname

theorem hasBoundary_readAll {t : Text} {error : Error} (h : readAll t = .error error) :
    ∀ n ∈ error.position?, t.HasBoundary n := by
  have htokens := Token.hasBoundary_ofOrdering t
  have hstop : t.HasBoundary (Text.size t) := by simpa using Text.hasBoundary_size t []
  rcases bind_eq_error_iff.1 h with hscan | ⟨ts, hscan, h⟩
  · rw [hscan] at htokens
    exact htokens
  rw [hscan] at htokens
  split at h
  · cases h
  · cases hentries : (splitCommas ts).mapM (ofTokens (Text.size t)) with
    | ok entries =>
        rw [hentries] at h
        cases h
    | error fault =>
        rw [hentries] at h
        cases h
        rintro n ⟨rfl⟩
        obtain ⟨run, hrun, hfault⟩ := exists_of_mapM_eq_error hentries
        exact ofTokens_fault hstop (fun token hmem => htokens token (mem_of_mem_splitCommas hrun hmem)) hfault

end OrderEntry

namespace SortKey

variable {m : Mapper} {serial : Nat} {error : Error}

variable [Run]

theorem position?_of_ofEntry? {entry : OrderEntry} (h : ofEntry? m serial entry = .error error) :
    error.position? = none := by
  unfold ofEntry? at h
  split at h
  · split at h <;> cases h
    rfl
  · split at h
    · cases h
      rfl
    · rcases bind_eq_error_iff.1 h with hindexer | ⟨path, -, hdone⟩
      · unfold bindIndexer at hindexer
        split at hindexer
        · cases hindexer
        · cases hindexer
          rfl
        · cases hindexer
          rfl
        · split at hindexer <;> cases hindexer
          rfl
      · cases hdone

theorem position?_of_ofEntries {entries : List OrderEntry} (h : ofEntries m serial entries = .error error) :
    error.position? = none := by
  induction entries generalizing serial with
  | nil => cases h
  | cons entry entries ih =>
      rcases bind_eq_error_iff.1 h with hfirst | ⟨key, -, h⟩
      · exact position?_of_ofEntry? hfirst
      rcases bind_eq_error_iff.1 h with hlater | ⟨keys, -, hdone⟩
      · exact ih hlater
      · cases hdone

theorem hasBoundary_ofText {t : Text} (h : ofText m t = .error error) : ∀ n ∈ error.position?, t.HasBoundary n := by
  rcases bind_eq_error_iff.1 h with hread | ⟨entries, -, hentries⟩
  · exact OrderEntry.hasBoundary_readAll hread
  · rw [position?_of_ofEntries hentries]
    exact nofun

end SortKey

variable [Run]

/--
Every position that a filter or an ordering is reported with, and every position in a tree, is one at which the text
can be cut; and scanning in place, which cuts the text at its positions, never cuts a character: it gives the tokens
and errors of scanning character by character, and no others.
-/
theorem positions_at_boundaries (registry : Registry) (limit : Nat) (m : Mapper) (t : Text) :
    (match Expr.read registry limit t with
      | .ok e => ∀ n ∈ e.positions, t.HasBoundary n
      | .error error => ∀ n ∈ error.position?, t.HasBoundary n) ∧
    (match SortKey.ofText m t with
      | .ok _ => True
      | .error error => ∀ n ∈ error.position?, t.HasBoundary n) ∧
    Token.Cursor.filter registry.symbols t = (Token.ofFilter registry.symbols t).mapError .error ∧
    Token.Cursor.ordering t = (Token.ofOrdering t).mapError .error := by
  refine ⟨Expr.hasBoundary_read registry limit t, ?_, Token.Cursor.filter_eq registry.symbols t,
    Token.Cursor.ordering_eq t⟩
  cases hordering : SortKey.ofText m t with
  | ok keys => trivial
  | error error => exact SortKey.hasBoundary_ofText hordering

/-- The parenthesis stands behind seven bytes and five characters. -/
example :
    (match Expr.read .empty 8 "ö = é(" with
      | .ok _ => none
      | .error error => error.position?) = some 7 := by
  cbv

end FilterLang
