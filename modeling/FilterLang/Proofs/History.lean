/-!
Lists that are kept up by changes, each of which takes some items out and may then put one in at the end. What is
held in the end is what was put in at some time and not taken out since, in the order in which it was put in.
-/

namespace FilterLang.History

variable {α γ : Type} {added? : γ → Option α} {displaces : γ → α → Bool}

def step (added? : γ → Option α) (displaces : γ → α → Bool) (held : List α) (change : γ) : List α :=
  (held.filter fun x => !displaces change x) ++ (added? change).toList

/-- The item was put in at some time, and no later change takes it out. -/
def Stands (added? : γ → Option α) (displaces : γ → α → Bool) (changes : List γ) (x : α) : Prop :=
  ∃ before change after, changes = before ++ change :: after ∧ added? change = some x ∧
    ∀ later ∈ after, displaces later x = false

variable {changes : List γ} {change : γ} {held : List α} {x : α}

theorem mem_step_iff :
    x ∈ step added? displaces held change ↔ x ∈ held ∧ displaces change x = false ∨ added? change = some x := by
  simp [step]

theorem not_stands_nil : ¬Stands added? displaces [] x := by
  rintro ⟨before, _, _, hchanges, -⟩
  cases before <;> cases hchanges

theorem stands_cons_iff :
    Stands added? displaces (change :: changes) x ↔
      (added? change = some x ∧ ∀ later ∈ changes, displaces later x = false) ∨
        Stands added? displaces changes x := by
  constructor
  · rintro ⟨before, first, after, hchanges, hadded, hlater⟩
    cases before with
    | nil =>
        obtain ⟨rfl, rfl⟩ := List.cons.inj hchanges
        exact .inl ⟨hadded, hlater⟩
    | cons _ before =>
        obtain ⟨-, rfl⟩ := List.cons.inj hchanges
        exact .inr ⟨before, first, after, rfl, hadded, hlater⟩
  · rintro (⟨hadded, hlater⟩ | ⟨before, first, after, rfl, hadded, hlater⟩)
    · exact ⟨[], change, changes, rfl, hadded, hlater⟩
    · exact ⟨change :: before, first, after, rfl, hadded, hlater⟩

/-- What is held in the end was put in and not taken out since, or was held from the beginning and never taken out. -/
theorem mem_foldl_step_iff :
    x ∈ changes.foldl (step added? displaces) held ↔
      (x ∈ held ∧ ∀ change ∈ changes, displaces change x = false) ∨ Stands added? displaces changes x := by
  induction changes generalizing held with
  | nil =>
      constructor
      · intro h
        exact .inl ⟨h, List.forall_mem_nil _⟩
      · rintro (⟨h, -⟩ | hstands)
        · exact h
        · exact absurd hstands not_stands_nil
  | cons change changes ih =>
      rw [List.foldl_cons, ih, mem_step_iff, stands_cons_iff, List.forall_mem_cons, or_and_right, or_assoc, and_assoc]

theorem mem_foldl_step_nil_iff :
    x ∈ changes.foldl (step added? displaces) [] ↔ Stands added? displaces changes x := by
  rw [mem_foldl_step_iff]
  exact or_iff_right fun h => List.not_mem_nil h.1

theorem foldl_step_sublist (changes : List γ) (held : List α) :
    (changes.foldl (step added? displaces) held).Sublist (held ++ changes.filterMap added?) := by
  induction changes generalizing held with
  | nil => simp
  | cons change changes ih =>
      refine (ih _).trans ?_
      have hadded : (change :: changes).filterMap added? = (added? change).toList ++ changes.filterMap added? := by
        cases h : added? change <;> simp [h]
      rw [hadded, step, List.append_assoc]
      exact List.filter_sublist.append_right _

/-- What each change leaves is apart from what it puts in, so that all that is held is kept apart. -/
theorem pairwise_foldl_step {r : α → α → Prop} (hheld : held.Pairwise r)
    (hr : ∀ change x y, added? change = some y → displaces change x = false → r x y) (changes : List γ) :
    (changes.foldl (step added? displaces) held).Pairwise r := by
  induction changes generalizing held with
  | nil => exact hheld
  | cons change changes ih =>
      refine ih (List.pairwise_append.2 ⟨hheld.filter _, ?_, ?_⟩)
      · cases added? change <;> simp
      · intro x hx y hy
        have hkept := (List.mem_filter.1 hx).2
        rw [Bool.not_eq_true'] at hkept
        exact hr change x y (Option.mem_toList.1 hy) hkept

theorem find?_eq_some_iff_mem {p : α → Bool} (h : held.Pairwise fun x y => p x = true → p y = false) :
    held.find? p = some x ↔ x ∈ held ∧ p x = true := by
  constructor
  · intro hfind
    exact ⟨List.mem_of_find?_eq_some hfind, List.find?_some hfind⟩
  · rintro ⟨hmem, hp⟩
    induction held with
    | nil => cases hmem
    | cons y held ih =>
        obtain ⟨hy, hheld⟩ := List.pairwise_cons.1 h
        rcases List.mem_cons.1 hmem with rfl | hlater
        · rw [List.find?_cons_of_pos hp]
        · have hne : ¬p y = true := by
            intro hpy
            have hnot := hy x hlater hpy
            rw [hp] at hnot
            cases hnot
          rw [List.find?_cons_of_neg hne]
          exact ih hheld hlater

end FilterLang.History
