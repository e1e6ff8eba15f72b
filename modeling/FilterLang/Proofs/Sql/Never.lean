import Mathlib
import FilterLang.Proofs.Expr.Plain
import FilterLang.Proofs.Predicate.Compiling
import FilterLang.Run.Counting
import FilterLang.Sql.Target

/-!
Comparisons that SQL writes as FALSE. Their literal is null and their operator no equality. In memory an
ordering and a text operator hold of no record then, but the negation of a text operator holds of every
record, for there is no text that it could find.
-/

namespace FilterLang

theorem Value.order?_null_right (v : Value) : v.order? .null = none := by
  cases v <;> rfl

theorem Comparison.related_null_literal {c : Comparison} (hnull : c.value = .null)
    (hequality : c.operator.isEquality = false) (hcustom : c.operator.isCustom = false) (seen : Value) :
    c.related seen = c.operator.isNegated := by
  unfold related
  rw [hnull]
  generalize c.operator = op at hequality hcustom
  cases op with
  | equality negated => cases hequality
  | ordering bound =>
      simp only [Value.order?_null_right]
      rfl
  | textual relation negated =>
      have hunrelated : textsRelated relation seen .null = false := by
        unfold textsRelated
        cases seen.asText? <;> rfl
      simp [hunrelated, Operator.isNegated]
  | custom own => cases hcustom

namespace Sql

/-! Every clause but a constant has a blank in it. -/

theorem blank_mem_absenceClause (op : Operator) (column : Text) : ' ' ∈ absenceClause op column := by
  unfold absenceClause
  split <;> simp

theorem blank_mem_call (function subject value : Text) : ' ' ∈ call function subject value := by
  simp [call]

theorem blank_mem_valueClause? {op : Operator} {column subject literal sql : Text}
    (hcustom : op.isCustom = false) (h : valueClause? op column subject literal = some sql) : ' ' ∈ sql := by
  unfold valueClause? at h
  cases op with
  | equality negated => cases negated <;> cases h <;> simp
  | ordering bound =>
      cases h
      simp
  | textual relation negated =>
      have hcall := blank_mem_call (relationName relation) subject literal
      cases negated <;> cases h
      · exact hcall
      · simp [hcall]
  | custom own => cases hcustom

theorem ne_false_of_blank_mem {sql : Text} (h : ' ' ∈ sql) : sql ≠ ("FALSE" : String).toList := by
  rintro rfl
  exact absurd h (by decide)

theorem isEquality_of_nullClause {op : Operator} {column : Text}
    (h : nullClause op column = ("FALSE" : String).toList) : op.isEquality = false := by
  cases op with
  | equality negated =>
      refine absurd h (ne_false_of_blank_mem ?_)
      cases negated <;> simp [nullClause]
  | _ => rfl

theorem null_of_clause_false {root : Option Text} {c : Comparison}
    (h : clause? root c = some ("FALSE" : String).toList) :
    c.matchesAbsent = false ∧ (c.value = .null → c.operator.isEquality = false) ∧
      (c.operator.isCustom = false → c.value = .null) := by
  unfold clause? at h
  dsimp only at h
  split at h
  · exact absurd (Option.some.inj h) (ne_false_of_blank_mem (blank_mem_absenceClause _ _))
  · rename_i habsent
    refine ⟨Bool.eq_false_iff.2 habsent, ?_⟩
    split at h
    · rename_i hnull
      have hvalue : c.value = .null := by
        cases hv : c.value <;> rw [hv] at hnull <;> first | rfl | cases hnull
      exact ⟨fun _ => isEquality_of_nullClause (Option.some.inj h), fun _ => hvalue⟩
    · rename_i hvalue
      refine ⟨fun hnull => absurd ?_ hvalue, fun hcustom => ?_⟩
      · rw [hnull]
        rfl
      · exact absurd rfl (ne_false_of_blank_mem (blank_mem_valueClause? hcustom h))

/--
A comparison that is written as FALSE, wherever its column stands, has an ordering or a text operator, if that
is built in, and null for its literal. It holds of no record, but its negation holds of every one where it is a
text operator. An operator of the user's own holds of the records of whose value and null it holds.
-/
theorem compare_holds_of_clause_false [Run] {root : Option Text} {c : Comparison}
    (h : clause? root c = some ("FALSE" : String).toList) :
    (c.operator.isCustom = false → c.value = .null ∧ c.operator.isEquality = false ∧
      ∀ record, (Predicate.compare c).holds record = c.operator.isNegated) ∧
    ∀ own, c.operator = .custom own → c.value = .null → ∀ record, (Predicate.compare c).holds record =
      own.holds (c.viewed (c.path.readValue (Run.compared c record) record c.type)) .null := by
  obtain ⟨habsent, hequality, hnull⟩ := null_of_clause_false h
  have hholds : ∀ record, (Predicate.compare c).holds record =
      c.related (c.viewed (c.path.readValue (Run.compared c record) record c.type)) := by
    intro record
    show c.holds record = _
    rw [Comparison.holds, Comparison.holdsOf, habsent]
    rfl
  constructor
  · intro hcustom
    have hvalue := hnull hcustom
    refine ⟨hvalue, hequality hvalue, fun record => ?_⟩
    rw [hholds, Comparison.related_null_literal hvalue (hequality hvalue) hcustom]
  · intro own hown hvalue record
    rw [hholds, Comparison.related, hown, hvalue]

def nameless : Mapper where
  fields := [
    { name := "name", type := .text, path := [.member "name"], convertor := some Convertor.alwaysNull }]

open scoped Run.Counting in
theorem compare_holds_of_clause_false_nameless :
    ∃ c, nameless.plan 0 (.plain 0 "name" ">" "x") = .ok (.compare c []) ∧
      clause? none c = some ("FALSE" : String).toList ∧
      ∀ record, (Predicate.compare c).holds record = false := by
  refine ⟨⟨[.member "name"], .text, .ordering .greater, .null, false, false⟩, rfl, rfl, fun record => ?_⟩
  have hwritten : clause? none ⟨[.member "name"], .text, .ordering .greater, .null, false, false⟩ =
      some ("FALSE" : String).toList := rfl
  exact ((compare_holds_of_clause_false hwritten).1 rfl).2.2 record

open scoped Run.Counting in
/-- Every name, and that of who has none, is without null as its part; to SQL none is. -/
theorem ofText_false_holds :
    ∃ p, Condition.ofText nameless "name!*x" = .ok (.clause ("FALSE" : String).toList) ∧
      Predicate.ofText nameless "name!*x" = .ok p ∧
      p.holds (.object [("name", .string "a")]) = true ∧ p.holds (.object []) = true := by
  have hread : Expr.read nameless.registry nameless.settings.maxDepth.toNat "name!*x" =
      .ok (.leaf (.plain 0 "name" "!*" "x")) := by cbv
  have hblank := Expr.allBlank_of_read hread
  exact ⟨_, Condition.target.compileText_of_read hblank hread, Predicate.ofText_of_read hblank hread,
    rfl, rfl⟩

end Sql

end FilterLang
