import FilterLang.Proofs.Grid.Paging

/-!
The numbers in the statement for a page. A database holds limits and offsets in signed words: every limit fits,
but a page may begin so far behind that its offset does not, though nothing is left to show there.
-/

namespace FilterLang

def FitsSigned (n : Nat) : Prop := (n : Int) ≤ Int64.maxValue.toInt

instance (n : Nat) : Decidable (FitsSigned n) := inferInstanceAs (Decidable ((n : Int) ≤ _))

namespace GridQuery

variable (q : GridQuery) (settings : Settings)

/-- The records before the page, as many as they may be. -/
def recordsBefore : Nat := ((max q.page.toInt 1).toNat - 1) * q.take settings

theorem skip_eq : q.skip settings = min greatestWord (q.recordsBefore settings) := rfl

theorem take_fits (hdefault : FitsSigned settings.defaultPageSize.toNat) : FitsSigned (q.take settings) := by
  have hsize : q.pageSize.toInt ≤ Int64.maxValue.toInt := q.pageSize.toInt_le
  unfold FitsSigned take at *
  split <;> omega

theorem skip_fits_iff : FitsSigned (q.skip settings) ↔ FitsSigned (q.recordsBefore settings) := by
  have hsigned : Int64.maxValue.toInt = 9223372036854775807 := by decide
  have hword : greatestWord = 18446744073709551615 := by decide
  rw [skip_eq, FitsSigned, FitsSigned]
  omega

theorem skip_eq_recordsBefore (h : FitsSigned (q.skip settings)) : q.skip settings = q.recordsBefore settings := by
  have hsigned : Int64.maxValue.toInt = 9223372036854775807 := by decide
  have hword : greatestWord = 18446744073709551615 := by decide
  rw [skip_eq, FitsSigned] at *
  omega

theorem window_of_not_fits {α : Type} {listed : List α} (hlength : FitsSigned listed.length)
    (h : ¬ FitsSigned (q.skip settings)) : q.window settings listed = [] := by
  have hbehind : listed.length ≤ q.skip settings := by
    unfold FitsSigned at hlength h
    omega
  rw [window, List.drop_eq_nil_of_le hbehind, List.take_nil]

end GridQuery

namespace Sql.Select

theorem ofGrid_eq_paged [Run] {table : Text} {q : GridQuery} {m : Mapper} {s : Select} (h : ofGrid table q m = .ok s) :
    s = paged table s.filter s.order (q.take m.settings) (q.skip m.settings) := by
  obtain ⟨filter, -, h⟩ := Outcome.bind_eq_ok_iff.1 h
  obtain ⟨order, -, h⟩ := Outcome.bind_eq_ok_iff.1 h
  cases h
  rfl

/--
The statement for a page ends in its limit and its offset. If the page size of a request that names none fits into
a signed word, so does every limit; an offset does just if as many records as there are before the page can be
counted in one, and then it is their number. Any other offset is behind all records that can be so counted, and
the page in memory is empty.
-/
theorem ofGrid_fits_iff [Run] {table : Text} {q : GridQuery} {m : Mapper} {s : Select}
    (hdefault : FitsSigned m.settings.defaultPageSize.toNat) (h : ofGrid table q m = .ok s) :
    ∃ limit offset, (s.limit = some limit ∧ s.offset = some offset) ∧
      (Text.allBlank table = false → ∃ front, s.text = .ok (front ++ windowText limit offset)) ∧
      FitsSigned limit ∧ (FitsSigned offset ↔ FitsSigned (q.recordsBefore m.settings)) ∧
      (FitsSigned offset → offset = q.recordsBefore m.settings) ∧
      (¬ FitsSigned offset → ∀ (α : Type) (listed : List α), FitsSigned listed.length →
        q.window m.settings listed = []) := by
  have hpaged := ofGrid_eq_paged h
  refine ⟨q.take m.settings, q.skip m.settings, ?_, ?_, q.take_fits m.settings hdefault,
    q.skip_fits_iff m.settings, q.skip_eq_recordsBefore m.settings, ?_⟩
  · rw [hpaged]
    exact ⟨rfl, rfl⟩
  · intro hnamed
    obtain ⟨front, hfront⟩ := text_paged hnamed s.filter s.order
    exact ⟨front, by rw [hpaged]; exact hfront _ _⟩
  · intro hoffset α listed hlength
    exact q.window_of_not_fits m.settings hlength hoffset

open scoped Run.Counting

def thirdOfGreatest : GridQuery where
  page := 3
  pageSize := Int64.maxValue

theorem ofGrid_third (table : Text) : ofGrid table thirdOfGreatest GridQuery.crew =
    .ok (paged table .always [] 9223372036854775807 18446744073709551614) := by
  have horder : SortKey.ofText GridQuery.crew thirdOfGreatest.orderText = .ok [] := by cbv
  have hlimit : thirdOfGreatest.take GridQuery.crew.settings = 9223372036854775807 := by decide
  have hoffset : (thirdOfGreatest.onPage 3).skip GridQuery.crew.settings = 18446744073709551614 := by decide
  have hselect := ofGrid_onPage table (show Condition.ofText GridQuery.crew _ = .ok .always from rfl) horder 3
  rwa [hlimit, hoffset] at hselect

theorem ofGrid_fits_iff_third :
    FitsSigned GridQuery.crew.settings.defaultPageSize.toNat ∧
    ∃ limit offset, FitsSigned limit ∧ ¬ FitsSigned offset ∧
      (∃ front, (paged "crew" .always [] 9223372036854775807 18446744073709551614).text =
        .ok (front ++ windowText limit offset)) ∧
      thirdOfGreatest.window GridQuery.crew.settings [GridQuery.aged 40, GridQuery.aged 7] = [] := by
  have hdefault : FitsSigned GridQuery.crew.settings.defaultPageSize.toNat := by decide
  obtain ⟨limit, offset, -, htext, hlimit, hoffset, -, hempty⟩ := ofGrid_fits_iff hdefault (ofGrid_third "crew")
  have hbeyond : ¬ FitsSigned offset := by
    rw [hoffset]
    decide
  exact ⟨hdefault, limit, offset, hlimit, hbeyond, htext rfl, hempty hbeyond _ _ (by decide)⟩

theorem ofGrid_third_beyond :
    (ofGrid "crew" thirdOfGreatest GridQuery.crew).bind Select.text =
      .ok "SELECT * FROM \"crew\" LIMIT 9223372036854775807 OFFSET 18446744073709551614" ∧
    ¬ FitsSigned 18446744073709551614 := by
  constructor
  · rw [ofGrid_third]
    rfl
  · decide

end Sql.Select

end FilterLang
