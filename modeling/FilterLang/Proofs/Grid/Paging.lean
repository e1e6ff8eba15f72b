import Mathlib
import FilterLang.Proofs.Expr.Plain
import FilterLang.Proofs.Order.Stability
import FilterLang.Proofs.Sql.Acceptance
import FilterLang.Sql.Select

/-!
Paging. The pages of a request cut the sorted list of what matches into pieces of the page size, one after
the other, and the statement for a table names the same piece by its limit and its offset. There is such a
list unless NaN or a new identifier is among what is sorted by.
-/

namespace FilterLang

theorem toInt_ofNat_of_le (last : Int64) {n : Nat} (h : (n : Int) ≤ last.toInt) :
    (Int64.ofNat n).toInt = n := by
  have hlast : n < 9223372036854775808 := by
    have hgreatest : Int64.maxValue.toInt = 9223372036854775807 := by decide
    have := last.toInt_le
    omega
  exact Int64.toInt_ofNat_of_lt hlast

theorem take_mul_eq_flatMap {α : Type} (xs : List α) (width count : Nat) :
    xs.take (count * width) = (List.range count).flatMap fun i => (xs.drop (i * width)).take width := by
  induction count with
  | zero => simp
  | succ count ih =>
      rw [Nat.succ_mul, List.take_add, ih, List.range_succ, List.flatMap_append, List.flatMap_singleton]

namespace GridQuery

variable {α : Type} (q : GridQuery)

def onPage (n : Int64) : GridQuery := { q with page := n }

/-- What the page of the request shows of a listing. -/
def window (settings : Settings) (listed : List α) : List α :=
  (listed.drop (q.skip settings)).take (q.take settings)

def pageCount (settings : Settings) (count : Nat) : Nat := count ⌈/⌉ q.take settings

/-- The pages, by their numbers, show the listing from its beginning to its end, if the last has a number. -/
structure Partitions (settings : Settings) (listed : List α) (page : Int64 → List α) : Prop where
  joined : ∀ last : Int64, last.toInt = q.pageCount settings listed.length →
    (List.range (q.pageCount settings listed.length)).flatMap (fun i => page (Int64.ofNat (i + 1))) = listed
  bounded : ∀ n, (page n).length ≤ q.take settings
  later : ∀ n, (q.pageCount settings listed.length : Int) < n.toInt → page n = []
  earlier : ∀ n, n.toInt ≤ 0 → page n = page 1

variable {q} {settings : Settings}

theorem take_onPage (n : Int64) : (q.onPage n).take settings = q.take settings := rfl

theorem skip_onPage {n : Int64} {i : Nat} (h : n.toInt = i + 1) :
    (q.onPage n).skip settings = min greatestWord (i * q.take settings) := by
  have hbefore : (max n.toInt 1).toNat - 1 = i := by omega
  rw [skip, take_onPage, onPage, hbefore]

theorem pageCount_le_iff (htake : 1 ≤ q.take settings) {count i : Nat} :
    q.pageCount settings count ≤ i ↔ count ≤ i * q.take settings := by
  rw [pageCount, ceilDiv_le_iff_le_mul htake, Nat.mul_comm]

theorem window_of_lt (htake : 1 ≤ q.take settings) {listed : List α} (hlength : listed.length ≤ greatestWord)
    {n : Int64} {i : Nat} (hn : n.toInt = i + 1) (hi : i < q.pageCount settings listed.length) :
    (q.onPage n).window settings listed = (listed.drop (i * q.take settings)).take (q.take settings) := by
  have hbefore : i * q.take settings < listed.length := by
    rw [← Nat.not_le, ← pageCount_le_iff htake, Nat.not_le]
    exact hi
  rw [window, skip_onPage hn, take_onPage, Nat.min_eq_right (by omega)]

theorem window_of_le (htake : 1 ≤ q.take settings) {listed : List α} (hlength : listed.length ≤ greatestWord)
    {n : Int64} {i : Nat} (hn : n.toInt = i + 1) (hi : q.pageCount settings listed.length ≤ i) :
    (q.onPage n).window settings listed = [] := by
  have hbefore : listed.length ≤ i * q.take settings := (pageCount_le_iff htake).1 hi
  rw [window, skip_onPage hn, List.drop_eq_nil_of_le (Nat.le_min.2 ⟨hlength, hbefore⟩), List.take_nil]

theorem window_partitions (htake : 1 ≤ q.take settings) {listed : List α}
    (hlength : listed.length ≤ greatestWord) :
    q.Partitions settings listed fun n => (q.onPage n).window settings listed where
  joined last hlast := by
    have hpieces : ∀ i ∈ List.range (q.pageCount settings listed.length),
        (q.onPage (Int64.ofNat (i + 1))).window settings listed =
          (listed.drop (i * q.take settings)).take (q.take settings) := by
      intro i hi
      rw [List.mem_range] at hi
      have hnumber : (Int64.ofNat (i + 1)).toInt = i + 1 := toInt_ofNat_of_le last (by omega)
      exact window_of_lt htake hlength hnumber hi
    rw [List.flatMap_congr hpieces, ← take_mul_eq_flatMap]
    exact List.take_of_length_le ((pageCount_le_iff htake).1 (Nat.le_refl _))
  bounded n := List.length_take_le _ _
  later n hn := by
    have hnumber : n.toInt = (n.toInt.toNat - 1 : Nat) + 1 := by omega
    exact window_of_le htake hlength hnumber (by omega)
  earlier n hn := by
    have hskip : (q.onPage n).skip settings = (q.onPage 1).skip settings := by
      have hnumber : max n.toInt 1 = max (1 : Int64).toInt 1 := Int.max_eq_right (by omega)
      rw [skip, skip, take_onPage, take_onPage, onPage, hnumber]
      rfl
    rw [window, window, hskip, take_onPage, take_onPage]

end GridQuery

namespace Sql.Select

def paged (table : Text) (filter : Condition) (order : List SortKey) (limit offset : Nat) : Select where
  table := table
  filter := filter
  order := order
  limit := some limit
  offset := some offset

def windowText (limit offset : Nat) : Text :=
  " LIMIT " ++ Text.decimal limit ++ (if offset = 0 then [] else " OFFSET " ++ Text.decimal offset : Text)

theorem text_paged {table : Text} (h : Text.allBlank table = false) (filter : Condition)
    (order : List SortKey) :
    ∃ front : Text, ∀ limit offset,
      (paged table filter order limit offset).text = .ok (front ++ windowText limit offset) := by
  have htable : ∀ limit offset, (paged table filter order limit offset).tableText =
      .ok (identifier table) := by
    intro limit offset
    rw [tableText, paged, h]
    rfl
  refine ⟨"SELECT " ++ ['*'] ++ " FROM " ++ identifier table ++
    (paged table filter order 0 0).whereText ++ (paged table filter order 0 0).orderText,
    fun limit offset => ?_⟩
  have hwindow : (paged table filter order limit offset).limitText ++
      (paged table filter order limit offset).offsetText = windowText limit offset := by
    cases offset <;> rfl
  rw [text, htable, ← hwindow, ← List.append_assoc]
  rfl

theorem ofGrid_onPage [Run] (table : Text) {q : GridQuery} {m : Mapper} {filter : Condition}
    {keys : List SortKey} (hfilter : Condition.ofText m q.filterText = .ok filter)
    (horder : SortKey.ofText m q.orderText = .ok keys) (n : Int64) :
    ofGrid table (q.onPage n) m =
      .ok (paged table filter keys (q.take m.settings) ((q.onPage n).skip m.settings)) := by
  have hfilter' : Condition.ofText m (q.onPage n).filterText = .ok filter := hfilter
  have horder' : SortKey.ofText m (q.onPage n).orderText = .ok keys := horder
  rw [ofGrid, hfilter', horder']
  rfl

end Sql.Select

namespace GridQuery

variable [Run] {α : Type} {q : GridQuery} {m : Mapper} {record : α → Json} {items : List α} {p : Predicate}
  {keys : List SortKey}

def matching (p : Predicate) (record : α → Json) (items : List α) : List α :=
  items.filter fun item => p.holds (record item)

/-- What the pages are cut from: what matches, sorted, if the sort does not stop. -/
def listing? (p : Predicate) (keys : List SortKey) (record : α → Json) (items : List α) : Option (List α) :=
  SortKey.sort? keys record (matching p record items)

theorem perm_of_listing? {p : Predicate} {keys : List SortKey} {record : α → Json} {items listed : List α}
    (h : listing? p keys record items = some listed) : listed.Perm (matching p record items) := by
  unfold listing? SortKey.sort? at h
  split at h
  · cases h
    exact .refl _
  · exact Run.perm_of_sort? h

/-- The request with another page has another window of the same listing, and as many matches. -/
theorem apply_onPage (hfilter : Predicate.ofText m q.filterText = .ok p)
    (horder : SortKey.ofText m q.orderText = .ok keys) (n : Int64) :
    (q.onPage n).apply m record items =
      match listing? p keys record items with
      | some listed => .ok ⟨(matching p record items).length, (q.onPage n).window m.settings listed⟩
      | none => .error .stopped := by
  have hfilter' : Predicate.ofText m (q.onPage n).filterText = .ok p := hfilter
  have horder' : SortKey.ofText m (q.onPage n).orderText = .ok keys := horder
  rw [apply, hfilter', horder']
  dsimp only [bind, Except.bind, listing?, matching]
  cases SortKey.sort? keys record (items.filter fun item => p.holds (record item)) <;> rfl

/--
The pages of a request that compiles, over no more items than a word counts, are cut from one listing, or the
sort of it stops on every page, as long as the same is drawn for all of them. It never stops, and the listing is in
order, where no record that matches is sorted by NaN or by a new identifier. All pages report how many items match,
and put together they are these items, none left out and none shown twice: no page is larger than the page size, none
comes after the last one, and numbers below one mean the first. Without operators of the user's own the request is one
for any table as well, of which the statement takes as many rows and leaves out as many before them as the page does.
-/
theorem apply_partitions (hfilter : Predicate.ofText m q.filterText = .ok p)
    (horder : SortKey.ofText m q.orderText = .ok keys) (htake : 1 ≤ q.take m.settings)
    (hlength : items.length ≤ greatestWord) :
    (∀ n, (q.onPage n).apply m record items =
      match listing? p keys record items with
      | some listed => .ok ⟨(matching p record items).length, (q.onPage n).window m.settings listed⟩
      | none => .error .stopped) ∧
    ((∀ key ∈ keys, ∀ x ∈ matching p record items, key.Ranks (record x)) →
      ∃ listed, listing? p keys record items = some listed ∧
        listed.Pairwise fun x y => ¬ SortKey.Precedes keys (record y) (record x)) ∧
    (∀ listed, listing? p keys record items = some listed → listed.Perm (matching p record items) ∧
      q.Partitions m.settings listed fun n => (q.onPage n).window m.settings listed) ∧
    ((∀ e, Expr.read m.registry m.settings.maxDepth.toNat q.filterText = .ok e → e.BuiltIn m) →
      ∀ table, ∃ filter : Sql.Condition, Sql.Condition.ofText m q.filterText = .ok filter ∧
        (∀ n, Sql.Select.ofGrid table (q.onPage n) m =
          .ok (.paged table filter keys (q.take m.settings) ((q.onPage n).skip m.settings))) ∧
        (Text.allBlank table = false → ∃ front : Text, ∀ n,
          (Sql.Select.ofGrid table (q.onPage n) m).bind Sql.Select.text =
            .ok (front ++ Sql.Select.windowText (q.take m.settings) ((q.onPage n).skip m.settings)))) := by
  refine ⟨apply_onPage hfilter horder, fun hranks => ?_, fun listed hlisted => ?_, fun hbuiltIn table => ?_⟩
  · exact ⟨_, SortKey.sort?_eq hranks, SortKey.pairwise_sort hranks⟩
  · have hperm := perm_of_listing? hlisted
    have hcount : listed.length ≤ greatestWord := by
      rw [hperm.length_eq]
      exact (List.length_filter_le _ _).trans hlength
    exact ⟨hperm, window_partitions htake hcount⟩
  · obtain ⟨filter, hcondition⟩ := Sql.exists_of_ofText hbuiltIn hfilter
    have hselect := Sql.Select.ofGrid_onPage table hcondition horder
    refine ⟨filter, hcondition, hselect, fun hnamed => ?_⟩
    obtain ⟨front, hfront⟩ := Sql.Select.text_paged hnamed filter keys
    refine ⟨front, fun n => ?_⟩
    rw [hselect]
    exact hfront _ _

end GridQuery

namespace GridQuery

open scoped Run.Counting

def crew : Mapper where
  fields := [{ name := "age", type := .int, path := [.member "age"] }]

def aged (n : Int) : Json := .object [("age", .number (.whole n))]

def grownUps : GridQuery where
  pageSize := 2
  orderBy := some "age"
  filter := some (Leaf.plainText "age" ">=" "18")

def isGrownUp : Predicate :=
  .compare ⟨[.member "age"], .int, .ordering .greaterOrEqual, .int 18, false, false⟩

def byAge : SortKey := ⟨"age", [.member "age"], .int, .ascending, .natural⟩

theorem apply_partitions_crew :
    ∃ page : Int64 → List Json,
      (∀ n, (grownUps.onPage n).apply crew id [aged 40, aged 7, aged 30, aged 18] = .ok ⟨3, page n⟩) ∧
      page 1 ++ page 2 = [aged 18, aged 30, aged 40] ∧ page 3 = [] ∧ page (-1) = page 1 ∧
      [aged 18, aged 30, aged 40].Pairwise (fun x y => ¬ SortKey.Precedes [byAge] y x) ∧
      ∃ front : Text, ∀ n, (Sql.Select.ofGrid "crew" (grownUps.onPage n) crew).bind Sql.Select.text =
        .ok (front ++ Sql.Select.windowText 2 ((grownUps.onPage n).skip crew.settings)) := by
  have hnameable : Leaf.Nameable "age" ">=" := by decide
  have hread := Expr.read_plainText crew.registry crew.settings.maxDepth.toNat hnameable "18"
  have hfilter : Predicate.ofText crew grownUps.filterText = .ok isGrownUp :=
    Predicate.ofText_of_read (Leaf.allBlank_plainText hnameable "18") hread
  have horder : SortKey.ofText crew grownUps.orderText = .ok [byAge] := by
    have hentries : OrderEntry.readAll "age" = .ok [⟨"age", none, .ascending, .natural, 0⟩] := by cbv
    rw [SortKey.ofText, orderText, grownUps, Option.getD_some, hentries]
    rfl
  obtain ⟨happly, hends, hpages, htable⟩ :=
    @apply_partitions _ Json grownUps crew id [aged 40, aged 7, aged 30, aged 18] isGrownUp _ hfilter horder
      (by decide) (by decide)
  have hlisted : listing? isGrownUp [byAge] id [aged 40, aged 7, aged 30, aged 18] =
      some [aged 18, aged 30, aged 40] := rfl
  have hsteady : byAge.Steady := by decide
  obtain ⟨listed, hends, hordered⟩ := hends fun key hkey x _ => by
    rw [List.mem_singleton.1 hkey]
    exact hsteady.ranks x
  obtain ⟨-, hpages⟩ := hpages _ hlisted
  obtain ⟨_, _, _, htext⟩ := htable (fun e _ => Expr.builtIn_of_no_operators rfl e) "crew"
  refine ⟨fun n => (grownUps.onPage n).window crew.settings [aged 18, aged 30, aged 40], fun n => ?_,
    hpages.joined 2 (by decide), hpages.later 3 (by decide), hpages.earlier (-1) (by decide), ?_, htext rfl⟩
  · rw [happly, hlisted]
    rfl
  · rw [hlisted] at hends
    cases hends
    exact hordered

def figures : Mapper where
  fields := [{ name := "x", type := .float, path := [.member "x"] }]

def leastFirst : GridQuery where
  pageSize := 1
  orderBy := some "x"

def two : Json := SortKey.holding (.number (.whole 2))

def one : Json := SortKey.holding (.number (.whole 1))

def mixed : List Json := [two, SortKey.holding (.string "nan"), one]

theorem listing?_stopping :
    @listing? Run.Counting.stopping Json .always [SortKey.byNumber .ascending] id mixed = none := by
  refine if_neg fun hpreorders => ?_
  have hmatching : @matching Run.Counting.stopping Json .always id mixed = mixed := rfl
  rw [hmatching] at hpreorders
  have hle := hpreorders.trans two (by simp [mixed]) (SortKey.holding (.string "nan")) (by simp [mixed]) one
    (by simp [mixed]) (by decide) (by decide)
  exact absurd hle (by decide)

/-- NaN ties with both of two numbers, so that the more comes before the less, or the sort stops. -/
theorem apply_partitions_nan :
    SortKey.Precedes [SortKey.byNumber .ascending] one two ∧
    (∀ n, (leastFirst.onPage n).apply figures id mixed =
      .ok ⟨3, (leastFirst.onPage n).window figures.settings mixed⟩) ∧
    (leastFirst.onPage 1).window figures.settings mixed = [two] ∧
    (leastFirst.onPage 3).window figures.settings mixed = [one] ∧
    ∀ n, @GridQuery.apply Run.Counting.stopping Json (leastFirst.onPage n) figures id mixed = .error .stopped := by
  have hentries : OrderEntry.readAll "x" = .ok [⟨"x", none, .ascending, .natural, 0⟩] := by cbv
  have horder : ∀ run : Run,
      @SortKey.ofText run figures leastFirst.orderText = .ok [SortKey.byNumber .ascending] := by
    intro run
    rw [SortKey.ofText, orderText, leastFirst, Option.getD_some, hentries]
    rfl
  refine ⟨SortKey.orderAll_eq_lt_iff.1 (by decide), fun n => apply_onPage rfl (horder _) n, rfl, rfl, fun n => ?_⟩
  have hpage := @apply_onPage Run.Counting.stopping Json leastFirst figures id mixed .always _ rfl (horder _) n
  rw [hpage, listing?_stopping]

end GridQuery

end FilterLang
