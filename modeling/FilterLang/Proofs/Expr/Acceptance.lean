import FilterLang.Expr.Parser
import FilterLang.Proofs.Expr.Grammar

/-!
The parser accepts exactly its grammar. What it reads off the front of some tokens has a derivation
from the tokens taken and is not too deep; and each derivation that is not too deep is read, in
whatever tokens follow that cannot prolong it. The two checks of depth, on the way in and on the way
out, together come to the one limit on the finished tree.
-/

namespace FilterLang.Expr

open Grammar Outcome

theorem connective?_eq_some_iff {kind : Token.Kind} {connective : Connective} :
    connective? kind = some connective ↔ kind = connective.kind := by
  cases kind <;> cases connective <;> simp [connective?, Connective.kind]

theorem expect_sound {stop : Nat} {kind : Token.Kind} {wanted : Wanted} {ts rest : List Token}
    {token : Token} (h : expect stop kind wanted ts = .ok (token, rest)) :
    ts = token :: rest ∧ token.kind = kind := by
  unfold expect at h
  split at h
  · cases h
  · split at h <;> cases h
    exact ⟨rfl, by assumption⟩

theorem parseIndexer_sound {stop : Nat} {ts rest : List Token} {key : Option Text}
    (h : parseIndexer stop ts = .ok (key, rest)) : ∃ is, ts = is ++ rest ∧ Indexer is key := by
  unfold parseIndexer at h
  split at h
  · cases h
    exact ⟨[], rfl, .absent⟩
  · rename_i token after
    split at h
    · rename_i hopening
      obtain ⟨⟨literal, r₁⟩, hkey, h⟩ := bind_eq_ok_iff.1 h
      obtain ⟨⟨closing, r₂⟩, hclose, h⟩ := bind_eq_ok_iff.1 h
      cases h
      obtain ⟨rfl, hliteral⟩ := expect_sound hkey
      obtain ⟨rfl, hclosing⟩ := expect_sound hclose
      exact ⟨[token, literal, closing], rfl, .present hopening hliteral hclosing⟩
    · cases h
      exact ⟨[], rfl, .absent⟩

theorem parseMarker_sound (ts : List Token) :
    ∃ ms, ts = ms ++ (parseMarker ts).2 ∧ Marker ms (parseMarker ts).1 := by
  unfold parseMarker
  split
  · exact ⟨[], rfl, .absent⟩
  · split
    · rename_i hkind
      exact ⟨[_], rfl, .present hkind⟩
    · exact ⟨[], rfl, .absent⟩

theorem parseOperator_sound {stop : Nat} {field : Text} {ts rest : List Token} {token : Token}
    (h : parseOperator stop field ts = .ok (token, rest)) :
    ts = token :: rest ∧ token.kind = .operator := by
  unfold parseOperator at h
  split at h
  · cases h
  · split at h <;> cases h
    exact ⟨rfl, by assumption⟩

theorem parseLeaf_sound {stop : Nat} {name : Token} {ts rest : List Token} {l : Leaf}
    (h : parseLeaf stop name ts = .ok (l, rest)) : ∃ us, ts = us ++ rest ∧ Grammar.Comparison name us l := by
  unfold parseLeaf at h
  obtain ⟨⟨key, r₁⟩, hindexer, h⟩ := bind_eq_ok_iff.1 h
  simp only at h
  obtain ⟨⟨operator, r₂⟩, hoperator, h⟩ := bind_eq_ok_iff.1 h
  simp only at h
  obtain ⟨⟨value, r₃⟩, hvalue, h⟩ := bind_eq_ok_iff.1 h
  simp only at h
  cases h
  obtain ⟨is, rfl, his⟩ := parseIndexer_sound hindexer
  obtain ⟨ms, hms, hfield⟩ := parseMarker_sound r₁
  obtain ⟨hr₂, hkind⟩ := parseOperator_sound hoperator
  obtain ⟨rfl, hliteral⟩ := expect_sound hvalue
  obtain ⟨vs, hvs, hmarker⟩ := parseMarker_sound r₃
  refine ⟨is ++ ms ++ operator :: value :: vs, ?_, .intro his hfield hkind hliteral hmarker⟩
  calc is ++ r₁ = is ++ (ms ++ operator :: value :: r₃) := by rw [← hr₂, ← hms]
    _ = is ++ ms ++ operator :: value :: vs ++ (parseMarker r₃).2 := by simp [← hvs]

structure Reads (limit : Nat) (symbol : Grammar.Symbol) (ts : List Token) (e : Expr) (depth : Nat)
    (rest : List Token) : Prop where
  derives : ∃ us, ts = us ++ rest ∧ Derives symbol us e
  depth_eq : depth = e.depth
  depth_le : depth ≤ max limit 1

namespace Reads

variable {limit : Nat} {ts rest after : List Token} {e left right : Expr} {depth leftDepth : Nat}

theorem comparison {name : Token} {l : Leaf} (hname : name.kind = .identifier)
    (h : ∃ us, ts = us ++ rest ∧ Grammar.Comparison name us l) :
    Reads limit .term (name :: ts) (leaf l) 1 rest := by
  obtain ⟨us, rfl, hus⟩ := h
  exact ⟨⟨name :: us, rfl, .comparison hname hus⟩, rfl, Nat.le_max_right _ _⟩

theorem paren {opening closing : Token} (hopening : opening.kind = .openParen)
    (h : Reads limit .expr ts e depth (closing :: rest)) (hclosing : closing.kind = .closeParen)
    (hlimit : depth + 1 ≤ limit) :
    Reads limit .term (opening :: ts) (Expr.paren e) (depth + 1) rest := by
  obtain ⟨⟨us, rfl, hus⟩, rfl, _⟩ := h
  refine ⟨⟨opening :: us ++ [closing], by simp, .paren hopening hus hclosing⟩, rfl, ?_⟩
  exact Nat.le_trans hlimit (Nat.le_max_left _ _)

theorem first (h : Reads limit .term ts e depth rest) : Reads limit .expr ts e depth rest := by
  obtain ⟨us, hts, hus⟩ := h.derives
  exact ⟨⟨us, hts, .first hus⟩, h.depth_eq, h.depth_le⟩

theorem next {token : Token} {connective : Connective}
    (hleft : Reads limit .expr ts left leftDepth (token :: rest))
    (htoken : token.kind = connective.kind) (hright : Reads limit .term rest right depth after)
    (hlimit : max leftDepth depth + 1 ≤ limit) :
    Reads limit .expr ts (binary left connective right) (max leftDepth depth + 1) after := by
  obtain ⟨⟨us, rfl, hus⟩, rfl, _⟩ := hleft
  obtain ⟨⟨vs, rfl, hvs⟩, rfl, _⟩ := hright
  refine ⟨⟨us ++ token :: vs, by simp, .next hus htoken hvs⟩, rfl, ?_⟩
  exact Nat.le_trans hlimit (Nat.le_max_left _ _)

end Reads

mutual

theorem parseTerm_sound {limit stop nesting : Nat} {ts : List Token} {parsed : Parsed ts}
    (h : parseTerm limit stop nesting ts = .ok parsed) :
    Reads limit .term ts parsed.expr parsed.depth parsed.rest := by
  unfold parseTerm at h
  split at h
  · cases h
  · rename_i token rest
    split at h
    · rename_i hopening
      split at h
      · cases h
      · cases hinner : parseChain limit stop (nesting + 1) rest with
        | error fault => simp [hinner] at h
        | ok inner =>
            simp only [hinner] at h
            split at h
            · cases h
            · rename_i closing after hclose
              split at h
              · cases h
              · rename_i hlimit
                cases h
                obtain ⟨hrest, hclosing⟩ := expect_sound hclose
                have hreads := parseChain_sound hinner
                rw [hrest] at hreads
                exact hreads.paren hopening hclosing (Nat.not_lt.1 hlimit)
    · rename_i hname
      split at h
      · cases h
      · rename_i l after hleaf
        cases h
        exact Reads.comparison hname (parseLeaf_sound hleaf)
    · cases h
    · cases h
termination_by (ts.length, 0)

theorem parseChain_sound {limit stop nesting : Nat} {ts : List Token} {parsed : Parsed ts}
    (h : parseChain limit stop nesting ts = .ok parsed) :
    Reads limit .expr ts parsed.expr parsed.depth parsed.rest := by
  unfold parseChain at h
  cases hfirst : parseTerm limit stop nesting ts with
  | error fault => simp [hfirst] at h
  | ok first =>
      simp only [hfirst] at h
      split at h
      · cases h
      · rename_i expr depth rest bound hmore
        cases h
        exact parseMore_sound (parseTerm_sound hfirst).first hmore
termination_by (ts.length, 1)
decreasing_by
  · exact Prod.Lex.right _ Nat.zero_lt_one
  · exact Prod.Lex.left _ _ first.shorter

theorem parseMore_sound {limit stop nesting : Nat} {whole ts : List Token} {left : Expr}
    {depth : Nat} {result : { r : Expr × Nat × List Token // r.2.2.length ≤ ts.length }}
    (hleft : Reads limit .expr whole left depth ts)
    (h : parseMore limit stop nesting left depth ts = .ok result) :
    Reads limit .expr whole result.1.1 result.1.2.1 result.1.2.2 := by
  cases ts with
  | nil =>
      unfold parseMore at h
      cases h
      exact hleft
  | cons token rest =>
      unfold parseMore at h
      dsimp only at h
      split at h
      · cases h
        exact hleft
      · rename_i connective hconnective
        cases hright : parseTerm limit stop nesting rest with
        | error fault => simp [hright] at h
        | ok right =>
            simp only [hright] at h
            split at h
            · cases h
            · rename_i hlimit
              split at h
              · cases h
              · rename_i result' bound hmore
                cases h
                have htoken := connective?_eq_some_iff.1 hconnective
                -- The chain that was read moves to the left side, and so does its derivation.
                have hnext := hleft.next htoken (parseTerm_sound hright) (Nat.not_lt.1 hlimit)
                exact (parseMore_sound hnext hmore :)
termination_by (ts.length, 2)
decreasing_by
  · subst ‹ts = token :: rest›
    exact Prod.Lex.left _ _ (Nat.lt_succ_self _)
  · subst ‹ts = token :: rest›
    exact Prod.Lex.left _ _ (Nat.lt_succ_of_lt right.shorter)

end

def NotNext (kind : Token.Kind) (ts : List Token) : Prop := ∀ token ∈ ts.head?, token.kind ≠ kind

theorem notNext_cons {kind : Token.Kind} {token : Token} {ts : List Token} :
    NotNext kind (token :: ts) ↔ token.kind ≠ kind := by
  simp [NotNext]

theorem notNext_of_connective {token : Token} {connective : Connective} {ts : List Token}
    (h : token.kind = connective.kind) : NotNext .caseInsensitive (token :: ts) := by
  rw [notNext_cons, h]
  cases connective <;> decide

theorem expect_cons {stop : Nat} {kind : Token.Kind} {wanted : Wanted} {token : Token}
    {rest : List Token} (h : token.kind = kind) :
    expect stop kind wanted (token :: rest) = .ok (token, rest) := by
  simp [expect, h]

theorem parseIndexer_append {stop : Nat} {is rest : List Token} {key : Option Text}
    (h : Indexer is key) (hrest : NotNext .indexerOpen rest) :
    parseIndexer stop (is ++ rest) = .ok (key, rest) := by
  cases h with
  | absent =>
      cases rest with
      | nil => rfl
      | cons token rest =>
          have hkind := notNext_cons.1 hrest
          simp [parseIndexer, hkind]
  | @present opening literal closing hopening hliteral hclosing =>
      simp only [List.cons_append, List.nil_append, parseIndexer, hopening, ↓reduceIte]
      rw [expect_cons hliteral]
      simp only [bind, Except.bind]
      rw [expect_cons hclosing]
      rfl

theorem parseMarker_append {ms rest : List Token} {marked : Bool} (h : Marker ms marked)
    (hrest : NotNext .caseInsensitive rest) : parseMarker (ms ++ rest) = (marked, rest) := by
  cases h with
  | absent =>
      cases rest with
      | nil => rfl
      | cons token rest =>
          have hkind := notNext_cons.1 hrest
          simp [parseMarker, hkind]
  | present hmarker => simp [parseMarker, hmarker]

theorem parseOperator_cons {stop : Nat} {field : Text} {token : Token} {rest : List Token}
    (h : token.kind = .operator) :
    parseOperator stop field (token :: rest) = .ok (token, rest) := by
  simp [parseOperator, h]

theorem parseLeaf_append {stop : Nat} {name : Token} {us rest : List Token} {l : Leaf}
    (h : Grammar.Comparison name us l) (hrest : NotNext .caseInsensitive rest) :
    parseLeaf stop name (us ++ rest) = .ok (l, rest) := by
  cases h with
  | @intro operator value is ms vs key _ _ hindexer hfield hoperator hliteral hvalue =>
      have hassoc : is ++ ms ++ operator :: value :: vs ++ rest =
          is ++ (ms ++ operator :: value :: (vs ++ rest)) := by simp
      have hopen : NotNext .indexerOpen (ms ++ operator :: value :: (vs ++ rest)) := by
        cases hfield with
        | absent => exact notNext_cons.2 (by simp [hoperator])
        | present hmarker => exact notNext_cons.2 (by simp [hmarker])
      have hmarked : NotNext .caseInsensitive (operator :: value :: (vs ++ rest)) :=
        notNext_cons.2 (by simp [hoperator])
      unfold parseLeaf
      rw [hassoc, parseIndexer_append hindexer hopen]
      simp only [bind, Except.bind]
      rw [parseMarker_append hfield hmarked, parseOperator_cons hoperator]
      simp only
      rw [expect_cons hliteral]
      simp only
      rw [parseMarker_append hvalue hrest]
      rfl

def Parsed.result {ts : List Token} (parsed : Parsed ts) : Expr × Nat × List Token :=
  (parsed.expr, parsed.depth, parsed.rest)

theorem exists_of_map_result {ts rest : List Token} {e : Expr} {depth : Nat}
    {outcome : Except SyntaxFault (Parsed ts)}
    (h : outcome.map Parsed.result = .ok (e, depth, rest)) :
    ∃ shorter, outcome = .ok ⟨e, depth, rest, shorter⟩ := by
  cases outcome with
  | error fault => cases h
  | ok parsed =>
      obtain ⟨e', depth', rest', shorter⟩ := parsed
      cases h
      exact ⟨shorter, rfl⟩

theorem parseMore_stop {limit stop nesting depth : Nat} {left : Expr} {ts : List Token}
    (h : ∀ token ∈ ts.head?, connective? token.kind = none) :
    (parseMore limit stop nesting left depth ts).map Subtype.val = .ok (left, depth, ts) := by
  cases ts with
  | nil =>
      unfold parseMore
      rfl
  | cons token rest =>
      have hkind : connective? token.kind = none := h token rfl
      unfold parseMore
      dsimp only
      split
      · rfl
      · rename_i hconnective
        rw [hkind] at hconnective
        cases hconnective

theorem parseMore_next {limit stop nesting depth rightDepth : Nat} {left right : Expr}
    {token : Token} {connective : Connective} {ts rest : List Token} {shorter : _}
    (htoken : token.kind = connective.kind)
    (hright : parseTerm limit stop nesting ts = .ok ⟨right, rightDepth, rest, shorter⟩)
    (hlimit : max depth rightDepth + 1 ≤ limit) :
    (parseMore limit stop nesting left depth (token :: ts)).map Subtype.val =
      (parseMore limit stop nesting (binary left connective right) (max depth rightDepth + 1)
        rest).map Subtype.val := by
  rw [parseMore]
  split
  · rename_i hconnective
    rw [connective?_eq_some_iff.2 htoken] at hconnective
    cases hconnective
  · rename_i connective' hconnective
    rw [connective?_eq_some_iff.2 htoken] at hconnective
    cases hconnective
    rw [hright]
    simp only [if_neg (Nat.not_lt.2 hlimit)]
    cases parseMore limit stop nesting (binary left connective right) (max depth rightDepth + 1) rest <;> rfl

theorem parseChain_first {limit stop nesting depth : Nat} {e : Expr} {ts rest : List Token}
    {shorter : _} (h : parseTerm limit stop nesting ts = .ok ⟨e, depth, rest, shorter⟩) :
    (parseChain limit stop nesting ts).map Parsed.result =
      (parseMore limit stop nesting e depth rest).map Subtype.val := by
  unfold parseChain
  rw [h]
  simp only
  cases parseMore limit stop nesting e depth rest <;> rfl

/--
How the parsers take up a derivation, whatever follows: a term is read as it stands, and reading a
chain comes to its loop with the whole chain on the left.
-/
def TakesUp (limit stop : Nat) : Grammar.Symbol → List Token → Expr → Prop
  | .term, us, e => ∀ nesting rest, nesting + e.depth ≤ max limit 1 →
      NotNext .caseInsensitive rest →
      ∃ shorter, parseTerm limit stop nesting (us ++ rest) = .ok ⟨e, e.depth, rest, shorter⟩
  | .expr, us, e => ∀ nesting rest, nesting + e.depth ≤ max limit 1 →
      NotNext .caseInsensitive rest →
      (parseChain limit stop nesting (us ++ rest)).map Parsed.result =
        (parseMore limit stop nesting e e.depth rest).map Subtype.val

theorem takesUp_comparison {limit stop : Nat} {name : Token} {us : List Token} {l : Leaf}
    (hname : name.kind = .identifier) (h : Grammar.Comparison name us l) :
    TakesUp limit stop .term (name :: us) (leaf l) := by
  intro nesting rest _ hrest
  have hleaf := @parseLeaf_append stop _ _ _ _ h hrest
  rw [List.cons_append, parseTerm]
  split <;> rename_i hkind <;> rw [hname] at hkind <;> try contradiction
  split
  · rename_i hfault
    rw [hleaf] at hfault
    cases hfault
  · rename_i hparsed
    rw [hleaf] at hparsed
    cases hparsed
    exact ⟨by simp only [List.length_cons, List.length_append]; omega, rfl⟩

theorem takesUp_paren {limit stop : Nat} {opening closing : Token} {us : List Token} {e : Expr}
    (hopening : opening.kind = .openParen) (hclosing : closing.kind = .closeParen)
    (h : TakesUp limit stop .expr us e) :
    TakesUp limit stop .term (opening :: us ++ [closing]) (Expr.paren e) := by
  intro nesting rest hdepth _
  have hpositive := one_le_depth e
  simp only [depth] at hdepth
  have hclose : NotNext .caseInsensitive (closing :: rest) := notNext_cons.2 (by simp [hclosing])
  have hinner := h (nesting + 1) (closing :: rest) (by omega) hclose
  -- A closing parenthesis goes on with nothing, so the loop ends with the whole chain.
  rw [parseMore_stop (by simp [hclosing, connective?])] at hinner
  obtain ⟨_, hchain⟩ := exists_of_map_result hinner
  have hassoc : opening :: us ++ [closing] ++ rest = opening :: (us ++ closing :: rest) := by simp
  rw [hassoc, parseTerm]
  split <;> rename_i hkind <;> rw [hopening] at hkind <;> try contradiction
  have hin : ¬ limit < nesting + 1 := by omega
  have hout : ¬ limit < e.depth + 1 := by omega
  rw [if_neg hin, hchain]
  simp only
  split
  · rename_i hfault
    rw [expect_cons hclosing] at hfault
    cases hfault
  · rename_i hfound
    rw [expect_cons hclosing] at hfound
    cases hfound
    rw [if_neg hout]
    exact ⟨by simp only [List.length_cons, List.length_append]; omega, rfl⟩

theorem takesUp_next {limit stop : Nat} {token : Token} {us vs : List Token} {left right : Expr}
    {connective : Connective} (hleft : TakesUp limit stop .expr us left)
    (htoken : token.kind = connective.kind) (hright : TakesUp limit stop .term vs right) :
    TakesUp limit stop .expr (us ++ token :: vs) (binary left connective right) := by
  intro nesting rest hdepth hrest
  have hpositive := one_le_depth left
  simp only [depth] at hdepth ⊢
  have hassoc : us ++ token :: vs ++ rest = us ++ token :: (vs ++ rest) := by simp
  obtain ⟨_, hterm⟩ := hright nesting rest (by omega) hrest
  rw [hassoc, hleft nesting (token :: (vs ++ rest)) (by omega) (notNext_of_connective htoken)]
  exact parseMore_next htoken hterm (by omega)

theorem takesUp_of_derives {limit stop : Nat} {symbol : Grammar.Symbol} {us : List Token} {e : Expr}
    (h : Derives symbol us e) : TakesUp limit stop symbol us e := by
  induction h with
  | comparison hname h => exact takesUp_comparison hname h
  | paren hopening _ hclosing ih => exact takesUp_paren hopening hclosing ih
  | first _ ih =>
      intro nesting rest hdepth hrest
      obtain ⟨_, hterm⟩ := ih nesting rest hdepth hrest
      exact parseChain_first hterm
  | next _ htoken _ ihLeft ihRight => exact takesUp_next ihLeft htoken ihRight

/-- The parser accepts the lists that have a derivation not too deep, and gives its tree. -/
theorem ofTokens_eq_ok_iff {limit stop : Nat} {ts : List Token} {e : Expr} :
    ofTokens limit stop ts = .ok e ↔ Derives .expr ts e ∧ e.depth ≤ max limit 1 := by
  constructor
  · intro h
    unfold ofTokens at h
    cases hchain : parseChain limit stop 0 ts with
    | error fault => simp [hchain] at h
    | ok parsed =>
        obtain ⟨⟨us, hts, hus⟩, hdepth, hlimit⟩ := parseChain_sound hchain
        simp only [hchain] at h
        split at h
        · rename_i hrest
          cases h
          have hall : us = ts := by rw [hts, hrest, List.append_nil]
          rw [hall] at hus
          exact ⟨hus, hdepth ▸ hlimit⟩
        · split at h <;> cases h
  · intro ⟨hderives, hdepth⟩
    have htaken : TakesUp limit stop .expr ts e := takesUp_of_derives hderives
    have hchain := htaken 0 [] (by omega) (by simp [NotNext])
    rw [parseMore_stop (by simp), List.append_nil] at hchain
    obtain ⟨_, hparsed⟩ := exists_of_map_result hchain
    unfold ofTokens
    rw [hparsed]

/-- A list of tokens has one tree at most: the parser, allowed both depths, gives them both. -/
theorem derives_unique {ts : List Token} {e e' : Expr} (h : Derives .expr ts e)
    (h' : Derives .expr ts e') : e' = e := by
  have hparsed : ofTokens (max e.depth e'.depth) 0 ts = .ok e :=
    ofTokens_eq_ok_iff.2 ⟨h, by omega⟩
  have hparsed' : ofTokens (max e.depth e'.depth) 0 ts = .ok e' :=
    ofTokens_eq_ok_iff.2 ⟨h', by omega⟩
  exact Except.ok.inj (hparsed'.symm.trans hparsed)

theorem words_of_ofFilter {limit stop : Nat} {symbols : List Text} {t : Text} {ts : List Token} {e : Expr}
    (hscanned : Token.ofFilter symbols t = .ok ts) (h : ofTokens limit stop ts = .ok e) :
    e.words = ts.map Token.word := by
  rw [words_eq_map (ofTokens_eq_ok_iff.1 h).1]
  exact List.map_congr_left (Token.respelled_of_ofFilter hscanned)

/--
A list of tokens is accepted exactly if it has a derivation whose tree is within the limit, a single
comparison being within every limit. The tree given is then the only one; it folds to the left and
spells the tokens, which for tokens that the scanner made means their very kinds and texts.
-/
theorem ofTokens_accepts_exactly (limit stop : Nat) (ts : List Token) :
    ((∃ e, ofTokens limit stop ts = .ok e) ↔ ∃ e, Derives .expr ts e ∧ e.depth ≤ max limit 1) ∧
    ∀ e, ofTokens limit stop ts = .ok e →
      e.leftFolded = true ∧ (∀ e', Derives .expr ts e' ↔ e' = e) ∧
      e.words = (ts.map fun token => token.word.respelled) ∧
      ∀ symbols t, Token.ofFilter symbols t = .ok ts → e.words = ts.map Token.word := by
  refine ⟨exists_congr fun e => ofTokens_eq_ok_iff, ?_⟩
  intro e h
  have hderives := (ofTokens_eq_ok_iff.1 h).1
  refine ⟨leftFolded_of_derives hderives, ?_, words_eq_map hderives, ?_⟩
  · intro e'
    constructor
    · exact derives_unique hderives
    · intro hequal
      rw [hequal]
      exact hderives
  · intro symbols t hscanned
    rw [words_eq_map hderives]
    exact List.map_congr_left (Token.respelled_of_ofFilter hscanned)

end FilterLang.Expr
