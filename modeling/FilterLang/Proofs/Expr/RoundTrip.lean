import FilterLang.Proofs.Expr.Acceptance
import FilterLang.Proofs.Expr.Written

/-!
Writing and reading are inverse. The words of a written expression derive that expression again, for
the grammar looks at nothing else; only its places in the text are new.
-/

namespace FilterLang.Expr

open Grammar

theorem indexer_of_words {ts : List Token} {key : Option Text}
    (h : ts.map Token.word = Token.indexerWords key) : Indexer ts key := by
  cases key with
  | none =>
      rw [List.map_eq_nil_iff.1 h]
      exact .absent
  | some key =>
      obtain ⟨opening, _, rfl, hopening, h⟩ := List.map_eq_cons_iff.1 h
      obtain ⟨literal, _, rfl, hliteral, h⟩ := List.map_eq_cons_iff.1 h
      obtain ⟨closing, _, rfl, hclosing, h⟩ := List.map_eq_cons_iff.1 h
      rw [List.map_eq_nil_iff.1 h]
      obtain ⟨hkind, rfl⟩ := Prod.mk.inj hliteral
      exact .present (congrArg Prod.fst hopening) hkind (congrArg Prod.fst hclosing)

theorem marker_of_words {ts : List Token} {marked : Bool}
    (h : ts.map Token.word = Token.markerWords marked) : Marker ts marked := by
  cases marked with
  | false =>
      rw [List.map_eq_nil_iff.1 h]
      exact .absent
  | true =>
      obtain ⟨token, _, rfl, htoken, h⟩ := List.map_eq_cons_iff.1 h
      rw [List.map_eq_nil_iff.1 h]
      exact .present (congrArg Prod.fst htoken)

theorem derives_leaf_of_words {ts : List Token} {l : Leaf} (h : ts.map Token.word = l.words) :
    ∃ l', Derives .term ts (.leaf l') ∧ l'.unplaced = l.unplaced := by
  rw [Leaf.words, List.append_assoc] at h
  obtain ⟨name, _, rfl, hname, h⟩ := List.map_eq_cons_iff.1 h
  obtain ⟨is, _, rfl, his, h⟩ := List.map_eq_append_iff.1 h
  obtain ⟨ms, _, rfl, hms, h⟩ := List.map_eq_append_iff.1 h
  obtain ⟨operator, _, rfl, hoperator, h⟩ := List.map_eq_cons_iff.1 h
  obtain ⟨value, vs, rfl, hvalue, hvs⟩ := List.map_eq_cons_iff.1 h
  obtain ⟨hnamed, hfield⟩ := Prod.mk.inj hname
  obtain ⟨hoperated, hsymbol⟩ := Prod.mk.inj hoperator
  obtain ⟨hliteral, htext⟩ := Prod.mk.inj hvalue
  have hcomparison : Grammar.Comparison name (is ++ ms ++ operator :: value :: vs) _ :=
    .intro (indexer_of_words his) (marker_of_words hms) hoperated hliteral (marker_of_words hvs)
  rw [List.append_assoc] at hcomparison
  refine ⟨_, .comparison hnamed hcomparison, ?_⟩
  simp only [Leaf.unplaced, hfield, hsymbol, htext]

theorem derives_expr {symbol : Symbol} {ts : List Token} {e : Expr} (h : Derives symbol ts e) :
    Derives .expr ts e := by
  cases symbol with
  | expr => exact h
  | term => exact .first h

/-- Tokens that spell a tree folded to the left derive it, as a term where it is one. -/
theorem derives_of_words {ts : List Token} {e : Expr} (hfolded : e.leftFolded = true)
    (h : ts.map Token.word = e.words) :
    ∃ e', Derives (if e.isBinary then .expr else .term) ts e' ∧ e'.unplaced = e.unplaced := by
  induction e generalizing ts with
  | leaf l =>
      obtain ⟨l', hl', hequal⟩ := derives_leaf_of_words h
      exact ⟨.leaf l', hl', congrArg Expr.leaf hequal⟩
  | binary left connective right ihLeft ihRight =>
      simp only [leftFolded, Bool.and_eq_true, Bool.not_eq_true'] at hfolded
      obtain ⟨⟨hleft, hright⟩, hterm⟩ := hfolded
      obtain ⟨ls, _, rfl, hls, h⟩ := List.map_eq_append_iff.1 h
      obtain ⟨token, rs, rfl, htoken, hrs⟩ := List.map_eq_cons_iff.1 h
      obtain ⟨left', hderivesLeft, hequalLeft⟩ := ihLeft hleft hls
      obtain ⟨right', hderivesRight, hequalRight⟩ := ihRight hright hrs
      rw [hterm] at hderivesRight
      refine ⟨.binary left' connective right', ?_, ?_⟩
      · exact .next (derives_expr hderivesLeft) (congrArg Prod.fst htoken) hderivesRight
      · rw [unplaced, unplaced, hequalLeft, hequalRight]
  | paren inner ih =>
      obtain ⟨opening, _, rfl, hopening, h⟩ := List.map_eq_cons_iff.1 h
      obtain ⟨is, _, rfl, his, h⟩ := List.map_eq_append_iff.1 h
      obtain ⟨closing, _, rfl, hclosing, h⟩ := List.map_eq_cons_iff.1 h
      rw [List.map_eq_nil_iff.1 h]
      obtain ⟨inner', hderives, hequal⟩ := ih hfolded his
      refine ⟨.paren inner', ?_, congrArg Expr.paren hequal⟩
      exact .paren (congrArg Prod.fst hopening) (derives_expr hderives) (congrArg Prod.fst hclosing)

/--
A tree folded to the left and within the limit, whose comparisons can be written, is read back from
its own text, and nothing but the places of its comparisons is new.
-/
theorem read_render (registry : Registry) (limit : Nat) (e : Expr) (hfolded : e.leftFolded = true)
    (hdepth : e.depth ≤ limit) (hwritable : ∀ l ∈ e.leaves, l.Writable) :
    ∃ e', read registry limit e.render = .ok e' ∧ e'.unplaced = e.unplaced := by
  obtain ⟨ts, hscanned, hwords⟩ := ofFilter_render registry.symbols hwritable
  obtain ⟨e', hderives, hequal⟩ := derives_of_words hfolded hwords
  have hdepth' : e'.depth ≤ max limit 1 := by
    rw [← depth_unplaced e', hequal, depth_unplaced]
    omega
  have hparsed : ofTokens limit (Text.size e.render) ts = .ok e' :=
    ofTokens_eq_ok_iff.2 ⟨derives_expr hderives, hdepth'⟩
  refine ⟨e', ?_, hequal⟩
  unfold read
  simp only [hscanned, bind, Except.bind]
  rw [hparsed]
  rfl

theorem read_render_leaf (registry : Registry) (limit : Nat) {l : Leaf}
    (h : Leaf.Writable { l with value := [] }) :
    ∃ l', read registry limit l.render = .ok (.leaf l') ∧
      l'.unplaced = Leaf.unplaced { l with value := l.value.trim } := by
  obtain ⟨ls, hwords, hscan⟩ := scan_leaf registry.symbols h Token.ended_nil
  rw [List.append_nil, Token.scan_nil] at hscan
  have hplaced : (ls.map (Lexeme.place l.render)).map Token.word =
      Leaf.words { l with value := l.value.trim } := by rw [Token.map_word_place, hwords]
  obtain ⟨l', hderives, hequal⟩ := derives_leaf_of_words hplaced
  have hparsed : ofTokens limit (Text.size l.render) (ls.map (Lexeme.place l.render)) = .ok (.leaf l') :=
    ofTokens_eq_ok_iff.2 ⟨.first hderives, Nat.le_max_right _ _⟩
  refine ⟨l', ?_, hequal⟩
  unfold read Token.ofFilter
  rw [hscan]
  simp only [bind, Except.bind, Except.map, List.append_nil]
  rw [hparsed]
  rfl

/-- Seams at which a character could be taken for something else: a key that ends in a backslash,
values that begin like the rest of an operator, an empty value before its marker. -/
def seams : Expr :=
  .binary
    (.paren (.binary
      (.leaf ⟨"tags", some "[x]\\", true, 0, "*", 0, "=a /i", true⟩) .or
      (.leaf ⟨"a_b.c", none, true, 0, "!^", 0, "", true⟩)))
    .and
    (.leaf ⟨"n", some "", false, 0, ">", 0, "=(1)\\", false⟩)

theorem read_render_seams :
    seams.render = (r"(tags[[x\]\\]/i*\=a \/i/i|a_b.c/i!^/i),n[]>\=\(1\)\\" : String).toList ∧
    seams.leftFolded = true ∧ seams.depth ≤ 4 ∧ (∀ l ∈ seams.leaves, l.Writable) ∧
    ∃ e', read Registry.empty 4 seams.render = .ok e' ∧ e'.unplaced = seams.unplaced := by
  have hfolded : seams.leftFolded = true := by decide
  have hdepth : seams.depth ≤ 4 := by decide
  have hwritable : ∀ l ∈ seams.leaves, l.Writable := by decide
  exact ⟨by decide, hfolded, hdepth, hwritable, read_render .empty 4 seams hfolded hdepth hwritable⟩

end FilterLang.Expr
