import FilterLang.Proofs.History
import FilterLang.Proofs.Operator.Registered
import FilterLang.Proofs.StableSort
import FilterLang.Proofs.Text.Bytes
import FilterLang.Proofs.Value.Order

/-!
The registry as a finite map from symbols to operators. Whatever was registered and taken out before, there is held
under a symbol just the operator that was registered last and not taken out since, and every command and every
question speaks of that.
-/

namespace FilterLang.Registry

inductive Command
  | register (own : CustomOperator)
  | remove (symbol : Text)
  | removeInstance (own : CustomOperator)

namespace Command

def added? : Command → Option CustomOperator
  | register own => if isSymbol own.symbol then some own else none
  | remove _ => none
  | removeInstance _ => none

/-- Whether a command takes out an operator if it is held. -/
def displaces : Command → CustomOperator → Bool
  | register other, own => isSymbol other.symbol && decide (own.symbol = other.symbol)
  | remove symbol, own => decide (own.symbol = symbol)
  | removeInstance other, own => decide (own.symbol = other.symbol ∧ own.identity = other.identity)

end Command

def after (r : Registry) : Command → Registry
  | .register own => (r.register own).toOption.getD r
  | .remove symbol => (r.remove symbol).1
  | .removeInstance own => (r.removeInstance own).1

def afterAll (r : Registry) (commands : List Command) : Registry := commands.foldl after r

/--
The operator was registered at some time. Since then no other was registered with its symbol, its symbol was not
removed, and neither was this very operator.
-/
def InForce (history : List Command) (own : CustomOperator) : Prop :=
  History.Stands Command.added? Command.displaces history own

/-- A `#`, and one or more characters that a symbol may have. -/
def HasForm (symbol : Text) : Prop := ∃ rest, symbol = '#' :: rest ∧ rest ≠ [] ∧ ∀ c ∈ rest, isSymbolChar c = true

def Precedes (a b : Text) : Prop :=
  Text.size b < Text.size a ∨ Text.size a = Text.size b ∧ Text.order a b = .lt

def Distinct (r : Registry) : Prop := r.operators.Pairwise fun a b => a.symbol ≠ b.symbol

variable {r : Registry} {own : CustomOperator} {symbol other : Text} {command : Command} {history : List Command}

theorem isSymbol_iff : isSymbol symbol = true ↔ HasForm symbol := by
  constructor
  · intro h
    unfold isSymbol at h
    split at h
    · rename_i rest
      simp only [Bool.and_eq_true, Bool.not_eq_true', List.isEmpty_eq_false_iff, List.all_eq_true] at h
      exact ⟨rest, rfl, h⟩
    · cases h
  · rintro ⟨rest, rfl, hne, hchars⟩
    simp only [isSymbol, Bool.and_eq_true, Bool.not_eq_true', List.isEmpty_eq_false_iff, List.all_eq_true]
    exact ⟨hne, hchars⟩

theorem get?_eq_some_iff (h : r.Distinct) : r.get? symbol = some own ↔ own ∈ r.operators ∧ own.symbol = symbol := by
  have hone : r.operators.Pairwise fun a b =>
      decide (a.symbol = symbol) = true → decide (b.symbol = symbol) = false := by
    refine h.imp fun {a b} hne ha => decide_eq_false fun hb => hne ?_
    rw [of_decide_eq_true ha, hb]
  rw [get?, History.find?_eq_some_iff_mem hone, decide_eq_true_iff]

theorem get?_erase_of_ne (r : Registry) (h : other ≠ symbol) : (r.erase symbol).get? other = r.get? other := by
  rw [get?, get?, erase, List.find?_filter]
  congr 1
  funext own
  by_cases hown : own.symbol = other
  · simp [hown, h]
  · simp [hown]

theorem get?_registered (r : Registry) (own : CustomOperator) (symbol : Text) :
    (⟨(r.erase own.symbol).operators ++ [own]⟩ : Registry).get? symbol =
      if own.symbol = symbol then some own else r.get? symbol := by
  have happend : (⟨(r.erase own.symbol).operators ++ [own]⟩ : Registry).get? symbol =
      ((r.erase own.symbol).get? symbol).or ([own].find? fun own => own.symbol = symbol) := List.find?_append
  rw [happend]
  by_cases hown : own.symbol = symbol
  · subst hown
    simp
  · rw [get?_erase_of_ne r (Ne.symm hown)]
    simp [hown]

theorem after_register_of_not_isSymbol (h : isSymbol own.symbol = false) : r.after (.register own) = r := by
  rw [after, register, if_neg (by rw [h]; decide)]
  rfl

theorem register_of_isSymbol (r : Registry) (h : isSymbol own.symbol = true) :
    r.register own = .ok ⟨(r.erase own.symbol).operators ++ [own]⟩ := if_pos h

/-- Where no two operators have one symbol, an instance is taken out exactly if it is held. -/
theorem operators_removeInstance (h : r.Distinct) (own : CustomOperator) :
    (r.removeInstance own).1.operators =
      r.operators.filter fun held => !decide (held.symbol = own.symbol ∧ held.identity = own.identity) := by
  unfold removeInstance
  split
  · rename_i hcurrent
    obtain ⟨current, hget, hidentity⟩ := (Option.any_eq_true _ _).1 hcurrent
    refine List.filter_congr fun held hheld => ?_
    by_cases hsymbol : held.symbol = own.symbol
    · have hsame : r.get? own.symbol = some held := (get?_eq_some_iff h).2 ⟨hheld, hsymbol⟩
      obtain rfl : held = current := Option.some.inj (hsame.symm.trans hget)
      simp [hsymbol, eq_of_beq hidentity]
    · simp [hsymbol]
  · rename_i hnone
    refine (List.filter_eq_self.2 fun held hheld => ?_).symm
    rw [Bool.not_eq_true', decide_eq_false_iff_not]
    rintro ⟨hsymbol, hidentity⟩
    apply hnone
    rw [(get?_eq_some_iff h).2 ⟨hheld, hsymbol⟩, Option.any_some, hidentity]
    exact beq_self_eq_true _

theorem operators_after (h : r.Distinct) (command : Command) :
    (r.after command).operators = History.step Command.added? Command.displaces r.operators command := by
  cases command with
  | register own =>
      cases hsymbol : isSymbol own.symbol with
      | false =>
          have hnothing : ∀ held, Command.displaces (.register own) held = false := fun held => by
            rw [Command.displaces, hsymbol, Bool.false_and]
          have hkept : (r.operators.filter fun held => !Command.displaces (.register own) held) = r.operators :=
            List.filter_eq_self.2 fun held _ => by rw [hnothing held, Bool.not_false]
          rw [after_register_of_not_isSymbol hsymbol, History.step, hkept, Command.added?, hsymbol]
          exact (List.append_nil _).symm
      | true =>
          simp [after, register_of_isSymbol r hsymbol, Except.toOption, erase, History.step, Command.added?,
            Command.displaces, hsymbol]
  | remove symbol => simp [after, remove, erase, History.step, Command.added?, Command.displaces]
  | removeInstance own =>
      rw [after, operators_removeInstance h, History.step]
      exact (List.append_nil _).symm

theorem apart_of_not_displaces {a b : CustomOperator} (hadded : command.added? = some b)
    (hkept : command.displaces a = false) : a.symbol ≠ b.symbol := by
  cases command with
  | register own =>
      rw [Command.added?] at hadded
      split at hadded
      · rename_i hsymbol
        cases hadded
        rw [Command.displaces, hsymbol] at hkept
        simpa using hkept
      · cases hadded
  | remove symbol => cases hadded
  | removeInstance own => cases hadded

theorem operators_afterAll (h : r.Distinct) (history : List Command) :
    (r.afterAll history).operators = history.foldl (History.step Command.added? Command.displaces) r.operators ∧
      (r.afterAll history).Distinct := by
  induction history generalizing r with
  | nil => exact ⟨rfl, h⟩
  | cons command history ih =>
      have hstep := operators_after h command
      have hdistinct : (r.after command).Distinct := by
        rw [Distinct, hstep]
        exact History.pairwise_foldl_step h (fun _ _ _ => apart_of_not_displaces) [command]
      obtain ⟨hoperators, hall⟩ := ih hdistinct
      refine ⟨?_, hall⟩
      rw [List.foldl_cons, ← hstep]
      exact hoperators

theorem distinct_empty : empty.Distinct := List.Pairwise.nil

theorem mem_operators_iff (history : List Command) :
    own ∈ (empty.afterAll history).operators ↔ InForce history own := by
  rw [(operators_afterAll distinct_empty history).1]
  exact History.mem_foldl_step_nil_iff

theorem get?_afterAll_iff (history : List Command) :
    (empty.afterAll history).get? symbol = some own ↔ InForce history own ∧ own.symbol = symbol := by
  rw [get?_eq_some_iff (operators_afterAll distinct_empty history).2, mem_operators_iff]

theorem reachable_afterAll (h : r.Reachable) (history : List Command) : (r.afterAll history).Reachable := by
  induction history generalizing r with
  | nil => exact h
  | cons command history ih =>
      apply ih
      cases command with
      | register own =>
          cases hregister : r.register own with
          | error bad => simpa [after, hregister, Except.toOption] using h
          | ok r' => simpa [after, hregister, Except.toOption] using h.register hregister
      | remove symbol => exact h.remove symbol
      | removeInstance own => exact h.removeInstance own

def orderSymbols : Text → Text → Ordering := compareLex (fun a b => compare (Text.size b) (Text.size a)) Text.order

instance : Std.TransCmp orderSymbols :=
  have : Std.TransCmp fun a b : Text => compareOn Text.size b a := inferInstance
  inferInstanceAs (Std.TransCmp (compareLex (fun a b : Text => compareOn Text.size b a) Text.order))

theorem symbols_eq (r : Registry) :
    r.symbols = StableSort.sort (fun a b => orderSymbols a b == .lt) (r.operators.map CustomOperator.symbol) := rfl

theorem orderSymbols_eq_lt_iff {a b : Text} : orderSymbols a b = .lt ↔ Precedes a b := by
  rw [orderSymbols, compareLex, Ordering.then_eq_lt, Nat.compare_eq_lt, Nat.compare_eq_eq, Precedes]
  exact or_congr_right (and_congr_left' eq_comm)

theorem orderSymbols_eq_eq {a b : Text} (h : orderSymbols a b = .eq) : a = b := by
  rw [orderSymbols, compareLex, Ordering.then_eq_eq] at h
  exact Text.order_eq_eq_iff.1 h.2

theorem pairwise_symbols (h : r.Distinct) : r.symbols.Pairwise Precedes := by
  have hdistinct : (r.operators.map CustomOperator.symbol).Pairwise (· ≠ ·) := List.pairwise_map.2 h
  rw [symbols_eq]
  refine (StableSort.pairwise_sort orderSymbols hdistinct).imp ?_
  rintro a b (hlt | ⟨heq, hne⟩)
  · exact orderSymbols_eq_lt_iff.1 hlt
  · exact absurd (orderSymbols_eq_eq heq) hne

theorem symbols_perm (r : Registry) : r.symbols.Perm (r.operators.map CustomOperator.symbol) :=
  StableSort.sort_perm _ _

/--
The registry is the finite map that a history leaves: it holds what is in force, every command changes the entry of its
own symbol alone, and every question is answered from what is held.
-/
structure IsMapOf (r : Registry) (history : List Command) : Prop where
  held_iff : ∀ own, own ∈ r.operators ↔ InForce history own
  get?_iff : ∀ symbol own, r.get? symbol = some own ↔ InForce history own ∧ own.symbol = symbol
  hasForm : ∀ own, InForce history own → HasForm own.symbol
  register_refused : ∀ own, ¬HasForm own.symbol →
    r.register own = .error ⟨own.symbol⟩ ∧ r.after (.register own) = r
  register_replaces : ∀ own, HasForm own.symbol → ∃ r', r.register own = .ok r' ∧ r.after (.register own) = r' ∧
    r'.get? own.symbol = some own ∧ ∀ other ≠ own.symbol, r'.get? other = r.get? other
  remove_takes : ∀ symbol, ∃ r', r.remove symbol = (r', r.get? symbol) ∧ r'.get? symbol = none ∧
    ∀ other ≠ symbol, r'.get? other = r.get? other
  /-- An instance is removed just if it is the one held now, and not one that it has replaced or been replaced by. -/
  removeInstance_iff : ∀ own, (r.removeInstance own).2 = true ↔
    ∃ current, InForce history current ∧ current.symbol = own.symbol ∧ current.identity = own.identity
  removeInstance_takes : ∀ own, (r.removeInstance own).2 = true → (r.removeInstance own).1.get? own.symbol = none ∧
    ∀ other ≠ own.symbol, (r.removeInstance own).1.get? other = r.get? other
  removeInstance_refused : ∀ own, (r.removeInstance own).2 = false → (r.removeInstance own).1 = r
  resolve_builtIn : ∀ symbol op, Operator.builtIn? symbol = some op → r.resolve? symbol = some op
  resolve_custom : ∀ symbol op, Operator.builtIn? symbol = none →
    (r.resolve? symbol = some op ↔ ∃ own, op = .custom own ∧ InForce history own ∧ own.symbol = symbol)
  symbols_sorted : r.symbols.Pairwise Precedes
  mem_symbols_iff : ∀ symbol, symbol ∈ r.symbols ↔ ∃ own, InForce history own ∧ own.symbol = symbol
  length_symbols : r.symbols.length = r.operators.length

theorem removeInstance_cases (r : Registry) (own : CustomOperator) :
    (∃ current, r.get? own.symbol = some current ∧ current.identity = own.identity) ∧
        r.removeInstance own = (r.erase own.symbol, true) ∨
      (¬∃ current, r.get? own.symbol = some current ∧ current.identity = own.identity) ∧
        r.removeInstance own = (r, false) := by
  have hiff : ((r.get? own.symbol).any fun current => current.identity == own.identity) = true ↔
      ∃ current, r.get? own.symbol = some current ∧ current.identity = own.identity := by
    simp [Option.any_eq_true]
  unfold removeInstance
  split
  · rename_i hcurrent
    exact .inl ⟨hiff.1 hcurrent, rfl⟩
  · rename_i hnone
    exact .inr ⟨fun h => hnone (hiff.2 h), rfl⟩

theorem resolve?_of_not_builtIn (h : Operator.builtIn? symbol = none) {op : Operator} :
    r.resolve? symbol = some op ↔ ∃ own, op = .custom own ∧ r.get? symbol = some own := by
  rw [resolve?, h, Option.none_or, Option.map_eq_some_iff]
  constructor
  · rintro ⟨own, hget, rfl⟩
    exact ⟨own, rfl, hget⟩
  · rintro ⟨own, rfl, hget⟩
    exact ⟨own, hget, rfl⟩

theorem register_refused (r : Registry) (h : ¬HasForm own.symbol) :
    r.register own = .error ⟨own.symbol⟩ ∧ r.after (.register own) = r := by
  rw [← isSymbol_iff, Bool.not_eq_true] at h
  exact ⟨if_neg (by rw [h]; decide), after_register_of_not_isSymbol h⟩

theorem register_replaces (r : Registry) (h : HasForm own.symbol) :
    ∃ r', r.register own = .ok r' ∧ r.after (.register own) = r' ∧ r'.get? own.symbol = some own ∧
      ∀ other ≠ own.symbol, r'.get? other = r.get? other := by
  have hregister := register_of_isSymbol r (isSymbol_iff.2 h)
  refine ⟨_, hregister, by rw [after, hregister]; rfl, ?_, fun other hne => ?_⟩
  · rw [get?_registered, if_pos rfl]
  · rw [get?_registered, if_neg (Ne.symm hne)]

theorem removeInstance_eq_true_iff :
    (r.removeInstance own).2 = true ↔
      ∃ current, r.get? own.symbol = some current ∧ current.identity = own.identity := by
  rcases removeInstance_cases r own with ⟨hcurrent, hremoved⟩ | ⟨hnone, hremoved⟩
  · rw [hremoved]
    exact iff_of_true rfl hcurrent
  · rw [hremoved]
    exact iff_of_false nofun hnone

theorem removeInstance_takes (h : (r.removeInstance own).2 = true) :
    (r.removeInstance own).1.get? own.symbol = none ∧
      ∀ other ≠ own.symbol, (r.removeInstance own).1.get? other = r.get? other := by
  rcases removeInstance_cases r own with ⟨-, hremoved⟩ | ⟨-, hremoved⟩
  · rw [hremoved]
    exact ⟨get?_erase_self r own.symbol, fun other hne => get?_erase_of_ne r hne⟩
  · rw [hremoved] at h
    cases h

theorem removeInstance_refused (h : (r.removeInstance own).2 = false) : (r.removeInstance own).1 = r := by
  rcases removeInstance_cases r own with ⟨-, hremoved⟩ | ⟨-, hremoved⟩
  · rw [hremoved] at h
    cases h
  · rw [hremoved]

/-- After every history the registry is the finite map that the history leaves. -/
theorem isMapOf_commands (history : List Command) : (empty.afterAll history).IsMapOf history := by
  have hdistinct : (empty.afterAll history).Distinct := (operators_afterAll distinct_empty history).2
  have hwellFormed : (empty.afterAll history).WellFormed :=
    wellFormed_of_reachable (reachable_afterAll .empty history)
  have hget := fun symbol own => @get?_afterAll_iff own symbol history
  exact
    { held_iff := fun own => mem_operators_iff history
      get?_iff := hget
      hasForm := fun own hforce => isSymbol_iff.1 (hwellFormed own ((mem_operators_iff history).2 hforce))
      register_refused := fun own => register_refused _
      register_replaces := fun own => register_replaces _
      remove_takes := fun symbol =>
        ⟨_, rfl, get?_erase_self _ symbol, fun other hne => get?_erase_of_ne _ hne⟩
      removeInstance_iff := fun own => by
        rw [removeInstance_eq_true_iff]
        simp only [hget, and_assoc]
      removeInstance_takes := fun own => removeInstance_takes
      removeInstance_refused := fun own => removeInstance_refused
      resolve_builtIn := fun symbol op => resolve?_of_builtIn
      resolve_custom := fun symbol op hbuiltIn => by
        rw [resolve?_of_not_builtIn hbuiltIn]
        simp only [hget]
      symbols_sorted := pairwise_symbols hdistinct
      mem_symbols_iff := fun symbol => by
        rw [(symbols_perm _).mem_iff, List.mem_map]
        simp only [mem_operators_iff]
      length_symbols := by rw [(symbols_perm _).length_eq, List.length_map] }

end FilterLang.Registry
