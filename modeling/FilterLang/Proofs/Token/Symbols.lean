import FilterLang.Proofs.Token.Resumption

/-!
Which symbol an operator is read as. Among the custom symbols with which a text begins the longest is taken, and
of the symbols with which one text begins each begins the longer ones.
-/

namespace FilterLang

variable {s t : Text}

theorem Text.size_eq_zero_iff : Text.size t = 0 ↔ t = [] := by
  cases t with
  | nil => exact ⟨fun _ => rfl, fun _ => rfl⟩
  | cons c t =>
      have hpos := c.utf8Size_pos
      rw [Text.size_cons]
      exact ⟨fun h => by omega, nofun⟩

theorem Text.eq_of_prefix_of_size_le (h : s <+: t) (hsize : Text.size t ≤ Text.size s) : s = t := by
  obtain ⟨more, rfl⟩ := h
  rw [Text.size_append] at hsize
  have hmore : more = [] := Text.size_eq_zero_iff.1 (by omega)
  rw [hmore, List.append_nil]

namespace Token

variable {symbols candidates : List Text} {best : Option Text} {symbol : Text}

/-- The longer of two symbols, the later one where they are of one length. -/
def longer (best : Option Text) (symbol : Text) : Option Text :=
  match best with
  | some other => if Text.size symbol < Text.size other then best else some symbol
  | none => some symbol

theorem longestSymbol?_eq (symbols : List Text) (t : Text) :
    longestSymbol? symbols t = (symbols.filter (·.isPrefixOf t)).foldl longer none := rfl

theorem exists_longer (best : Option Text) (symbol : Text) :
    ∃ found, longer best symbol = some found ∧ Text.size symbol ≤ Text.size found ∧
      ∀ other ∈ best, Text.size other ≤ Text.size found := by
  cases best with
  | none => exact ⟨symbol, rfl, Nat.le_refl _, nofun⟩
  | some other =>
      by_cases hsize : Text.size symbol < Text.size other
      · refine ⟨other, if_pos hsize, Nat.le_of_lt hsize, fun third hthird => ?_⟩
        exact Nat.le_of_eq (congrArg Text.size (Option.some.inj hthird).symm)
      · refine ⟨symbol, if_neg hsize, Nat.le_refl _, fun third hthird => ?_⟩
        rw [← Option.some.inj hthird]
        exact Nat.le_of_not_lt hsize

theorem exists_foldl_longer (candidates : List Text) (first : Text) :
    ∃ found, candidates.foldl longer (some first) = some found ∧ Text.size first ≤ Text.size found ∧
      ∀ candidate ∈ candidates, Text.size candidate ≤ Text.size found := by
  induction candidates generalizing first with
  | nil => exact ⟨first, rfl, Nat.le_refl _, nofun⟩
  | cons candidate candidates ih =>
      obtain ⟨next, hnext, hcandidate, hfirst⟩ := exists_longer (some first) candidate
      obtain ⟨found, hfound, hnextFound, hall⟩ := ih next
      refine ⟨found, ?_, Nat.le_trans (hfirst first rfl) hnextFound,
        List.forall_mem_cons.2 ⟨Nat.le_trans hcandidate hnextFound, hall⟩⟩
      rw [List.foldl_cons, hnext, hfound]

theorem exists_longestSymbol? (hmem : symbol ∈ symbols) (hbegins : symbol <+: t) :
    ∃ found, longestSymbol? symbols t = some found ∧
      ∀ other ∈ symbols, other <+: t → Text.size other ≤ Text.size found := by
  have hcandidate : ∀ other ∈ symbols, other <+: t → other ∈ symbols.filter (·.isPrefixOf t) :=
    fun other hother hprefix => List.mem_filter.2 ⟨hother, List.isPrefixOf_iff_prefix.2 hprefix⟩
  rw [longestSymbol?_eq]
  generalize symbols.filter (·.isPrefixOf t) = candidates at hcandidate ⊢
  cases candidates with
  | nil => exact absurd (hcandidate symbol hmem hbegins) List.not_mem_nil
  | cons first candidates =>
      obtain ⟨found, hfound, hfirst, hall⟩ := exists_foldl_longer candidates first
      refine ⟨found, hfound, fun other hother hprefix => ?_⟩
      rcases List.mem_cons.1 (hcandidate other hother hprefix) with rfl | hlater
      · exact hfirst
      · exact hall other hlater

theorem longestSymbol?_eq_some_iff :
    longestSymbol? symbols t = some symbol ↔
      symbol ∈ symbols ∧ symbol <+: t ∧ ∀ other ∈ symbols, other <+: t → other <+: symbol := by
  constructor
  · intro h
    obtain ⟨hmem, hbegins⟩ : symbol ∈ symbols ∧ symbol.isPrefixOf t = true := by
      rcases mem_of_foldl_longest h with hnone | hfound
      · cases hnone
      · exact List.mem_filter.1 hfound
    rw [List.isPrefixOf_iff_prefix] at hbegins
    refine ⟨hmem, hbegins, fun other hother hprefix => ?_⟩
    obtain ⟨found, hfound, hall⟩ := exists_longestSymbol? hmem hbegins
    obtain rfl : symbol = found := Option.some.inj (h.symm.trans hfound)
    rcases List.prefix_or_prefix_of_prefix hprefix hbegins with hshorter | hlonger
    · exact hshorter
    · obtain rfl : symbol = other := Text.eq_of_prefix_of_size_le hlonger (hall other hother hprefix)
      exact List.prefix_refl _
  · rintro ⟨hmem, hbegins, hlongest⟩
    obtain ⟨found, hfound, hall⟩ := exists_longestSymbol? hmem hbegins
    obtain ⟨hfoundMem, hfoundBegins⟩ : found ∈ symbols ∧ found.isPrefixOf t = true := by
      rcases mem_of_foldl_longest hfound with hnone | hmem
      · cases hnone
      · exact List.mem_filter.1 hmem
    have hprefix := hlongest found hfoundMem (List.isPrefixOf_iff_prefix.1 hfoundBegins)
    rw [hfound, Text.eq_of_prefix_of_size_le hprefix (hall symbol hmem hbegins)]

end Token

end FilterLang
