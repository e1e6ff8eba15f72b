import FilterLang.Proofs.Number.Writing
import FilterLang.Proofs.Sql.Column
import FilterLang.Proofs.Sql.Lexing
import FilterLang.Sql.Target

/-!
SQL that is the same but for the strings that render certain values. All that a condition is written with
is of that kind: code around identifiers and strings, with each parenthesis closed.
-/

namespace FilterLang.Sql

/-- Code without quotes, and without parentheses that are not closed. -/
def Inert (t : Text) : Prop := ∀ c ∈ t, isInert c = true

theorem inert_of_all {t : Text} (h : t.all isInert = true) : Inert t := List.all_eq_true.1 h

theorem Inert.append {s t : Text} (hs : Inert s) (ht : Inert t) : Inert (s ++ t) := by
  intro c hc
  rcases List.mem_append.1 hc with hc | hc
  · exact hs c hc
  · exact ht c hc

theorem detached_of_inert {t : Text} (h : Inert t) : Detached t :=
  fun c hc => isQuote_of_isInert (h c (List.mem_of_mem_head? hc))

theorem Inert.detached_append {s : Text} (h : Inert s) (hne : s ≠ []) (t : Text) :
    Detached (s ++ t) := by
  obtain ⟨c, s, rfl⟩ := List.exists_cons_of_ne_nil hne
  intro d hd
  cases hd
  exact isQuote_of_isInert (h _ List.mem_cons_self)

/-- The same text twice, but for the strings that render one list of values and the other. -/
inductive Alike : List Text → List Text → Text → Text → Prop
  | nil : Alike [] [] [] []
  | cons {c : Char} {values values' : List Text} {s s' : Text} (hc : isInert c = true)
      (h : Alike values values' s s') : Alike values values' (c :: s) (c :: s')
  | string (t : Text) : Alike [] [] (string t) (string t)
  | identifier (t : Text) : Alike [] [] (identifier t) (identifier t)
  | value (t t' : Text) : Alike [t] [t'] (string t) (string t')
  | parens {values values' : List Text} {s s' : Text} (h : Alike values values' s s') :
      Alike values values' ('(' :: s ++ [')']) ('(' :: s' ++ [')'])
  | append {values values' more more' : List Text} {s s' t t' : Text}
      (h : Alike values values' s s') (h' : Alike more more' t t')
      (ht : Detached t) (ht' : Detached t') :
      Alike (values ++ more) (values' ++ more') (s ++ t) (s' ++ t')

abbrev Fixed (t : Text) : Prop := Alike [] [] t t

namespace Alike

variable {values values' more more' : List Text} {s s' t t' : Text}

theorem prepend {a : Text} (ha : Inert a) (h : Alike values values' s s') :
    Alike values values' (a ++ s) (a ++ s') := by
  induction a with
  | nil => exact h
  | cons c a ih =>
      exact .cons (ha c List.mem_cons_self) (ih fun d hd => ha d (List.mem_cons_of_mem _ hd))

theorem code {a : Text} (ha : Inert a) : Fixed a := by
  have hcode := prepend ha .nil
  rw [List.append_nil] at hcode
  exact hcode

theorem closed (h : Alike values values' s s') {a : Text} (ha : Inert a) :
    Alike values values' (s ++ a) (s' ++ a) := by
  have hclosed := h.append (code ha) (detached_of_inert ha) (detached_of_inert ha)
  rw [List.append_nil, List.append_nil] at hclosed
  exact hclosed

theorem followed (h : Alike values values' s s') {a : Text} (ha : Inert a) (hne : a ≠ [])
    (h' : Alike more more' t t') :
    Alike (values ++ more) (values' ++ more') (s ++ (a ++ t)) (s' ++ (a ++ t')) :=
  h.append (prepend ha h') (ha.detached_append hne t) (ha.detached_append hne t')

/-- Two texts that are alike are scanned into one template, each with its own values. -/
theorem exists_scanned {values values' : List Text} {s s' : Text} (h : Alike values values' s s') :
    ∃ template ps ps', Scanned template values s ps ∧ Scanned template values' s' ps' := by
  induction h with
  | nil => exact ⟨[], [], [], .nil, .nil⟩
  | cons hc _ ih =>
      obtain ⟨template, ps, ps', h, h'⟩ := ih
      exact ⟨_, _, _, h.cons hc, h'.cons hc⟩
  | string t => exact ⟨_, _, _, .string t, .string t⟩
  | identifier t => exact ⟨_, _, _, .identifier t, .identifier t⟩
  | value t t' => exact ⟨_, _, _, .value t, .value t'⟩
  | parens _ ih =>
      obtain ⟨template, ps, ps', h, h'⟩ := ih
      exact ⟨_, _, _, h.parens, h'.parens⟩
  | append _ _ ht ht' ih ih' =>
      obtain ⟨template, ps, ps', h, h'⟩ := ih
      obtain ⟨more, qs, qs', hmore, hmore'⟩ := ih'
      exact ⟨_, _, _, h.append hmore ht, h'.append hmore' ht'⟩

end Alike

theorem inert_of_plain {t : Text} (h : Double.Plain t) : Inert t := by
  intro c hc
  have hmarks : Inert Double.marks := inert_of_all rfl
  rcases Bool.or_eq_true_iff.1 (h c hc) with hdigit | hmark
  · have hne : ∀ d : Char, d.isDigit = false → c ≠ d := by
      rintro d hd rfl
      rw [hdigit] at hd
      cases hd
    simp [isInert, isQuote, hne '\'' rfl, hne '"' rfl, hne '(' rfl, hne ')' rfl]
  · exact hmarks c (List.contains_iff_mem.1 hmark)

theorem alike_spelling {s : Spelling} (hbefore : Inert s.before) (hafter : Inert s.after) :
    Fixed s.text := by
  rw [Spelling.text]
  cases s.quoted with
  | none => exact .prepend hbefore (.code hafter)
  | some t => exact .prepend hbefore ((Alike.string t).closed hafter)

theorem inert_spelling (v : Value) : Inert (spelling v).before ∧ Inert (spelling v).after := by
  have hnone : Inert [] := inert_of_all rfl
  cases v with
  | null => exact ⟨inert_of_all rfl, hnone⟩
  | bool b => cases b <;> exact ⟨inert_of_all rfl, hnone⟩
  | int n => exact ⟨inert_of_plain (Double.plain_decimalInt n.toInt), hnone⟩
  | float x => exact ⟨hnone, hnone⟩
  | text t => exact ⟨hnone, hnone⟩
  | uuid u => exact ⟨hnone, inert_of_all rfl⟩
  | dateTime t => exact ⟨inert_of_all rfl, hnone⟩
  | date d => exact ⟨inert_of_all rfl, hnone⟩

theorem quote_not_mem_write (form : Double.Form) (x : Double) : '\'' ∉ form.write x := by
  intro hmem
  exact absurd (Double.plain_write form x _ hmem) (by decide)

theorem alike_float (x : Double) : Fixed (literal (.float x)) := by
  cases hfinite : x.isFinite with
  | true =>
      have htext : literal (.float x) = Double.Form.sql.write x := if_pos hfinite
      rw [htext]
      exact .code (inert_of_plain (Double.plain_write _ x))
  | false =>
      have hspelled : Spelling.text ⟨[], some (Double.Form.plain.write x), "::DOUBLE"⟩ =
          '\'' :: Double.Form.plain.write x ++ ("'::DOUBLE" : String).toList :=
        text_quoted (quote_not_mem_write _ x)
      have htext : literal (.float x) = _ := if_neg (by simp [hfinite])
      rw [htext, ← hspelled]
      exact alike_spelling (inert_of_all rfl) (inert_of_all rfl)

theorem alike_literal (v : Value) : Fixed (literal v) := by
  by_cases hfloat : v.type? = some .float
  · cases v <;> cases hfloat
    exact alike_float _
  · rw [← text_spelling hfloat]
    exact alike_spelling (inert_spelling v).1 (inert_spelling v).2

/-- A root to hang columns on, if there is one, is code that can stand anywhere. -/
def Rooted (root : Option Text) : Prop := Fixed (root.getD [])

theorem rooted_none : Rooted none := .nil

theorem inert_elementName (depth : Nat) : Inert (elementName depth) := by
  intro c hc
  rcases List.mem_cons.1 hc with rfl | hc
  · rfl
  · exact inert_of_plain (Double.plain_decimal depth) c hc

theorem rooted_elementName (depth : Nat) : Rooted (some (elementName depth)) :=
  .code (inert_elementName depth)

theorem alike_hop {root : Option Text} (hroot : Rooted root) (s : Segment) :
    Rooted (some (hop root s)) := by
  have hdot : Inert ['.'] := inert_of_all rfl
  have hcomma : Inert (", " : String).toList := inert_of_all rfl
  cases s with
  | member name =>
      cases root with
      | none => exact .identifier name
      | some base => exact hroot.followed hdot nofun (.identifier name)
  | each => cases root <;> exact hroot
  | key bound =>
      cases root with
      | none => cases bound <;> exact hroot
      | some base =>
          cases bound with
          | none => exact hroot
          | some k =>
              have hargs := (hroot.followed hcomma nofun (alike_literal k)).parens
              have hcall := Alike.prepend (a := "map_extract") (inert_of_all rfl)
                (hargs.closed (a := "[1]") (inert_of_all rfl))
              rw [Rooted, Option.getD_some, hop_key]
              simpa using hcall

theorem alike_column {root : Option Text} (hroot : Rooted root) (p : Path) :
    Fixed (column root p) := by
  induction p generalizing root with
  | nil => exact hroot
  | cons s p ih =>
      rw [column_cons]
      exact ih (alike_hop hroot s)

section Clauses

variable {values values' : List Text} {column subject value value' : Text}

theorem Alike.call {function : Text} (hfunction : Inert function) (hsubject : Fixed subject)
    (hvalue : Alike values values' value value') :
    Alike values values' (Sql.call function subject value) (Sql.call function subject value') := by
  have hcomma : Inert (", " : String).toList := inert_of_all rfl
  have hcall := Alike.prepend hfunction (hsubject.followed hcomma nofun hvalue).parens
  simpa [Sql.call] using hcall

theorem alike_subject (c : Comparison) (h : Fixed column) :
    Fixed (Sql.subject c column) := by
  have hcast : Fixed ("CAST(" ++ column ++ " AS VARCHAR)") := by
    have hparens := Alike.prepend (a := "CAST") (inert_of_all rfl)
      (h.closed (a := " AS VARCHAR") (inert_of_all rfl)).parens
    simpa using hparens
  have hlower : ∀ {t : Text}, Fixed t → Fixed ("lower(" ++ t ++ [')']) := by
    intro t ht
    have hparens := Alike.prepend (a := "lower") (inert_of_all rfl) ht.parens
    simpa using hparens
  unfold Sql.subject
  dsimp only
  split <;> split
  · exact hlower hcast
  · exact hlower h
  · exact hcast
  · exact h

theorem alike_absenceClause (op : Operator) (h : Fixed column) :
    Fixed (absenceClause op column) := by
  have hempty : string [] = ['\'', '\''] := rfl
  have hparts : ∀ {a b : Text}, Inert a → a ≠ [] → Inert b → b ≠ [] →
      Fixed ('(' :: (column ++ (a ++ (column ++ (b ++ string [])))) ++ [')']) :=
    fun ha hne hb hne' => (h.followed ha hne (h.followed hb hne' (.string []))).parens
  unfold absenceClause
  split
  · have hpresent := @hparts " IS NOT NULL AND " " <> " (inert_of_all rfl) nofun (inert_of_all rfl) nofun
    simpa [hempty] using hpresent
  · have habsent := @hparts " IS NULL OR " " = " (inert_of_all rfl) nofun (inert_of_all rfl) nofun
    simpa [hempty] using habsent

theorem alike_nullClause (op : Operator) (h : Fixed column) :
    Fixed (nullClause op column) := by
  unfold nullClause
  split
  · exact h.closed (inert_of_all rfl)
  · exact h.closed (inert_of_all rfl)
  · exact .code (inert_of_all rfl)

theorem inert_relationName (relation : TextRelation) : Inert (relationName relation) := by
  cases relation <;> exact inert_of_all rfl

theorem alike_valueClause? {op : Operator} (hcustom : op.isCustom = false)
    (hcolumn : Fixed column) (hsubject : Fixed subject)
    (hvalue : Alike values values' value value') :
    ∃ sql sql', valueClause? op column subject value = some sql ∧
      valueClause? op column subject value' = some sql' ∧ Alike values values' sql sql' := by
  rcases op with negated | bound | ⟨relation, negated⟩ | own
  · cases negated with
    | false =>
        have hequal := hsubject.followed (a := " = ") (inert_of_all rfl) nofun hvalue
        exact ⟨_, _, rfl, rfl, by simpa using hequal⟩
    | true =>
        have hdistinct := hsubject.followed (a := " IS DISTINCT FROM ") (inert_of_all rfl) nofun hvalue
        exact ⟨_, _, rfl, rfl, by simpa using hdistinct⟩
  · have hbound : Inert (' ' :: bound.symbol ++ [' ']) := by
      cases bound <;> exact inert_of_all rfl
    have hordered := hsubject.followed hbound nofun hvalue
    exact ⟨_, _, rfl, rfl, by simpa using hordered⟩
  · have hcall := Alike.call (inert_relationName relation) hsubject hvalue
    cases negated with
    | false => exact ⟨_, _, rfl, rfl, hcall⟩
    | true =>
        have hnot := (hcolumn.followed (a := " IS NULL OR NOT ") (inert_of_all rfl) nofun hcall).parens
        exact ⟨_, _, rfl, rfl, by simpa using hnot⟩
  · cases hcustom

theorem alike_clause? {root : Option Text} {c : Comparison} {v : Value} (hroot : Rooted root)
    (hcustom : c.operator.isCustom = false)
    (hliteral : Alike values values' (literal c.value) (literal v)) (hnull : v.isNull = c.value.isNull)
    (hnone : (c.matchesAbsent || c.value.isNull) = true → values = [] ∧ values' = []) :
    ∃ sql sql', clause? root c = some sql ∧ clause? root { c with value := v } = some sql' ∧
      Alike values values' sql sql' := by
  have hcolumn := alike_column hroot c.path
  unfold clause?
  dsimp only
  rw [hnull]
  cases habsent : c.matchesAbsent with
  | true =>
      obtain ⟨rfl, rfl⟩ := hnone (by rw [habsent]; rfl)
      exact ⟨_, _, rfl, rfl, alike_absenceClause _ hcolumn⟩
  | false =>
      cases hisNull : c.value.isNull with
      | true =>
          obtain ⟨rfl, rfl⟩ := hnone (by rw [hisNull, Bool.or_true])
          exact ⟨_, _, rfl, rfl, alike_nullClause _ hcolumn⟩
      | false => exact alike_valueClause? hcustom hcolumn (alike_subject c hcolumn) hliteral

theorem alike_hasKeyClause (map : Path) (key : Value) :
    Fixed (hasKeyClause map key) :=
  .call (inert_of_all rfl) (alike_column rooted_none map) (alike_literal key)

theorem alike_nullClauseOf (path : Path) (check : NullCheck) :
    Fixed (nullClauseOf path check) := by
  cases check <;> exact (alike_column rooted_none path).closed (inert_of_all rfl)

end Clauses

section Conditions

variable {values values' more more' : List Text} {left left' right right' : Condition}

theorem alike_combine (connective : Connective) (hleft : Alike values values' left.text left'.text)
    (hright : Alike more more' right.text right'.text) :
    Alike (values ++ more) (values' ++ more') (Condition.combine connective left right).text
      (Condition.combine connective left' right').text := by
  cases connective with
  | and =>
      have hand := (hleft.followed (a := " AND ") (inert_of_all rfl) nofun hright).parens
      simpa [Condition.combine, Condition.text] using hand
  | or =>
      have hor := (hleft.followed (a := " OR ") (inert_of_all rfl) nofun hright).parens
      simpa [Condition.combine, Condition.text] using hor

theorem alike_any {collection element : Text} (guarded : Bool) {body body' : Condition}
    (hcollection : Fixed collection) (helement : Inert element)
    (hbody : Alike values values' body.text body'.text) :
    Alike values values' (Condition.any collection element guarded body).text
      (Condition.any collection element guarded body').text := by
  have hcomma : Inert (", " : String).toList := inert_of_all rfl
  have harrow : Inert (", " ++ element ++ " -> ") := (hcomma.append helement).append (inert_of_all rfl)
  have hfilter := Alike.prepend (a := "list_filter") (inert_of_all rfl)
    (hcollection.followed harrow nofun hbody).parens
  have hfound := Alike.prepend (a := "len") (inert_of_all rfl)
    (hfilter.parens.closed (a := " > 0") (inert_of_all rfl))
  cases guarded with
  | false => simpa [Condition.text] using hfound
  | true =>
      have hguarded :=
        (hcollection.followed (a := " IS NOT NULL AND ") (inert_of_all rfl) nofun hfound).parens
      simpa [Condition.text] using hguarded

end Conditions

end FilterLang.Sql
