import FilterLang.Operator.Registry

/-!
Registries as they come about: from the empty one, by registering operators and taking them out again.
Every symbol in such a registry is one that a custom operator can have.
-/

namespace FilterLang.Registry

/-- Some sequence of registrations and removals leads to the registry. -/
inductive Reachable : Registry → Prop
  | empty : Reachable .empty
  | register {r r' : Registry} {own : CustomOperator} (h : Reachable r)
      (hregistered : r.register own = .ok r') : Reachable r'
  | remove {r : Registry} (symbol : Text) (h : Reachable r) : Reachable (r.remove symbol).1
  | removeInstance {r : Registry} (own : CustomOperator) (h : Reachable r) :
      Reachable (r.removeInstance own).1

def WellFormed (r : Registry) : Prop := ∀ own ∈ r.operators, isSymbol own.symbol = true

theorem wellFormed_erase {r : Registry} (symbol : Text) (h : r.WellFormed) :
    (r.erase symbol).WellFormed := by
  intro own hown
  exact h own (List.mem_filter.1 hown).1

theorem wellFormed_register {r r' : Registry} {own : CustomOperator} (h : r.WellFormed)
    (hregistered : r.register own = .ok r') : r'.WellFormed := by
  unfold register at hregistered
  split at hregistered
  · rename_i hsymbol
    cases hregistered
    intro other hother
    rcases List.mem_append.1 hother with hkept | hadded
    · exact wellFormed_erase own.symbol h other hkept
    · rw [List.mem_singleton.1 hadded]
      exact hsymbol
  · cases hregistered

theorem wellFormed_of_reachable {r : Registry} (h : r.Reachable) : r.WellFormed := by
  induction h with
  | empty =>
      intro own hown
      cases hown
  | register _ hregistered ih => exact wellFormed_register ih hregistered
  | remove symbol _ ih => exact wellFormed_erase symbol ih
  | removeInstance own _ ih =>
      unfold removeInstance
      split
      · exact wellFormed_erase own.symbol ih
      · exact ih

theorem isSymbol_of_mem_symbols {r : Registry} (h : r.WellFormed) {symbol : Text}
    (hsymbol : symbol ∈ r.symbols) : isSymbol symbol = true := by
  rw [symbols, (StableSort.sort_perm _ _).mem_iff] at hsymbol
  obtain ⟨own, hown, rfl⟩ := List.mem_map.1 hsymbol
  exact h own hown

theorem eq_or_isSymbolChar_of_mem {c : Char} {symbol : Text} (h : isSymbol symbol = true) (hmem : c ∈ symbol) :
    c = '#' ∨ isSymbolChar c = true := by
  unfold isSymbol at h
  split at h
  · rw [Bool.and_eq_true] at h
    rcases List.mem_cons.1 hmem with rfl | hmem
    · exact .inl rfl
    · exact .inr (List.all_eq_true.1 h.2 c hmem)
  · cases h

theorem not_mem_of_isSymbol {c : Char} {symbol : Text} (hc : c ∈ reserved)
    (h : isSymbol symbol = true) : c ∉ symbol := by
  intro hmem
  rcases eq_or_isSymbolChar_of_mem h hmem with rfl | hchar
  · exact absurd hc (by decide)
  · have hreserved : reserved.contains c = true := List.contains_iff_mem.2 hc
    rw [isSymbolChar, hreserved, Bool.not_true, Bool.and_false] at hchar
    cases hchar

theorem isBlank_of_isSymbol {c : Char} {symbol : Text} (h : isSymbol symbol = true) (hmem : c ∈ symbol) :
    Text.isBlank c = false := by
  rcases eq_or_isSymbolChar_of_mem h hmem with rfl | hchar
  · rfl
  · simp only [isSymbolChar, Bool.and_eq_true, Bool.not_eq_true'] at hchar
    exact hchar.1.1

end FilterLang.Registry
