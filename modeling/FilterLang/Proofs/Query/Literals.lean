import FilterLang.Query.Plan

/-!
Literals of text fields. Unless it is reserved, such a literal is compared as the text that it is, in
lower case where the leaf asks for that.
-/

namespace FilterLang

open Mapper

def Operator.Reserved (settings : Settings) (op : Operator) (w : Text) : Prop :=
  op.isEquality = true ∧ (w = [] ∨ w = "null".toList ∧ settings.allowNullSearch = true)

def Leaf.foldsCase (settings : Settings) (op : Operator) (nested : Bool) (l : Leaf) : Bool :=
  (l.valueIgnoresCase || l.fieldIgnoresCase || (settings.caseInsensitiveFiltering && !nested)) &&
    !op.isOrdering

namespace Mapper

variable [Run] {m : Mapper} {f : Field} {op : Operator}

omit [Run] in
theorem rawLiteral_of_not_reserved {w : Text} (hconvertor : f.convertor = none)
    (h : ¬ op.Reserved m.settings w) : rawLiteral m.settings f op w = .text w := by
  unfold rawLiteral
  rw [hconvertor]
  refine if_neg fun hnull => h ?_
  simp only [Bool.and_eq_true, beq_iff_eq, Value.text.injEq] at hnull
  exact ⟨hnull.1.2, .inr ⟨hnull.2, hnull.1.1⟩⟩

theorem literal?_text {l : Leaf} (htype : f.type = .text) (hconvertor : f.convertor = none)
    (h : ¬ op.Reserved m.settings l.value) (serial : Nat) (nested : Bool) :
    m.literal? serial f op l nested =
      some { value := .text (if l.foldsCase m.settings op nested then l.value.lowercase else l.value)
             matchesAbsent := false
             ignoresCase := l.foldsCase m.settings op nested } := by
  have htyped : typedLiteral? m.settings serial f op (.text l.value) = some (.text l.value) := by
    rw [typedLiteral?, htype]
    rfl
  have hfolds : ((l.valueIgnoresCase || l.fieldIgnoresCase ||
      (m.settings.caseInsensitiveFiltering && !nested && f.type == .text)) && !op.isOrdering &&
      !(Value.text l.value).isNull) = l.foldsCase m.settings op nested := by
    rw [htype, Leaf.foldsCase]
    simp [Value.isNull]
  have habsent : (f.type == .text && op.isEquality && Value.text l.value == .text []) = false := by
    rw [Bool.eq_false_iff]
    intro habsent
    simp only [Bool.and_eq_true, beq_iff_eq, Value.text.injEq] at habsent
    exact h ⟨habsent.1.2, .inl habsent.2⟩
  unfold literal?
  simp only [rawLiteral_of_not_reserved hconvertor h, htyped, hfolds, habsent, Option.map_some]
  cases l.foldsCase m.settings op nested <;> rfl

end Mapper

end FilterLang
