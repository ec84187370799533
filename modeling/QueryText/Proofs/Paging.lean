import Mathlib.Data.List.Nodup
import QueryText.Proofs.Construction
import QueryText.Proofs.Faults
import QueryText.Proofs.Pass

/-!
# Paging

The window of a query has the limit of the last call that sets one and the offset of the last call
that sets one. An offset that is too large is remembered until a later call replaces it, and fails
the query only when its rows are written. The windows of successive pages tile the rows.
-/

set_option autoImplicit false

namespace QueryText

/-!
## Errors
-/

namespace RenderError

/-- The error of a page that starts beyond 64 bits. -/
def pageOverflow (page perPage : Nat) : RenderError :=
  .validation ("page " ++ page.repr ++ " with " ++ perPage.repr ++
    " rows per page overflows the row offset")

/-- The error of a window where the product has windows only in an order. -/
def unorderedPaging (dialect : Dialect) : RenderError :=
  .validation ("paging on " ++ dialect.name ++ " requires an ORDER BY")

/-- How the message of a validation error starts. -/
def opening : RenderError → List Char
  | .validation message => message.toList.take 4
  | _ => []

/-- An error that is not about a page. -/
def OfNoPage (error : RenderError) : Prop :=
  error.opening ≠ ['p', 'a', 'g', 'e']

theorem OfNoPage.ne_pageOverflow {error : RenderError} (other : error.OfNoPage)
    (page perPage : Nat) : error ≠ pageOverflow page perPage := by
  rintro rfl
  exact other (by simp [pageOverflow, opening, String.toList_append])

theorem OfPredicate.ofNoPage {error : RenderError} {misplaced : Prop}
    (predicate : error.OfPredicate misplaced) : error.OfNoPage := by
  unfold OfNoPage
  cases predicate with
  | noLiteral number => simp [RenderError.noLiteral, opening, String.toList_append]
  | _ => exact nofun

end RenderError

/-!
## Queries
-/

theorem Fragment.rendered_concat (settings : Settings) (fragment : Fragment) (ending : String) :
    Fragment.rendered settings (fragment ++ [.fixed ending]) =
      ⟨(Fragment.rendered settings (fragment ++ [.fixed ""])).sql ++ ending,
        (Fragment.rendered settings (fragment ++ [.fixed ""])).parameters⟩ := by
  have same : slots (fragment ++ [.fixed ending]) = slots (fragment ++ [.fixed ""]) := by simp
  rw [Fragment.rendered, Fragment.rendered, Fragment.bind_congr same]
  simp

theorem Dialect.pagingText_none (dialect : Dialect) : dialect.pagingText none none = .ok "" := by
  cases dialect <;> rfl

theorem Dialect.pagingText_fails (dialect : Dialect) (limit offset : Option UInt64) :
    Result.FailsWith RenderError.OfNoPage (dialect.pagingText limit offset) := by
  cases dialect with
  | firebird =>
      rw [pagingText]
      unfold rowsClause
      split
      · exact .ok _
      · exact .ok _
      · exact .ok _
      · split
        · exact .error (by simp [RenderError.OfNoPage, RenderError.opening])
        · split
          · exact .ok _
          · exact .error (by simp [RenderError.OfNoPage, RenderError.opening])
  | _ => exact .ok _

namespace Select

variable {query : Select}

theorem checkPaging_overflowed {page perPage : UInt64}
    (overflowed : query.overflowedPage = some (page, perPage)) :
    query.checkPaging = .error (.pageOverflow page.toNat perPage.toNat) := by
  rw [checkPaging, overflowed]
  rfl

/-- Whether paging lacks an order that the product needs. -/
def pagesWithoutOrder (query : Select) : Bool :=
  (query.limit.isSome || query.offset.isSome) && query.order.isEmpty &&
    query.settings.dialect.pagesOnlyInOrder

theorem checkPaging_fits (fits : query.overflowedPage = none) :
    query.checkPaging =
      if query.pagesWithoutOrder then .error (.unorderedPaging query.settings.dialect)
      else .ok () := by
  rw [checkPaging, fits]
  rfl

theorem Unpaged.checkPaging (unpaged : query.Unpaged) : query.checkPaging = .ok () := by
  rw [checkPaging_fits unpaged.overflowedPage, pagesWithoutOrder, unpaged.limit, unpaged.offset]
  rfl

/-- A query without paging ends in its order. -/
theorem Unpaged.rowsFragment (unpaged : query.Unpaged) :
    query.rowsFragment = do
      let source ← query.sourceFragment
      let order ← query.orderFragment
      return .fixed "SELECT " :: query.columnsFragment ++ source ++ order ++ [.fixed ""] := by
  rw [Select.rowsFragment, unpaged.checkPaging, unpaged.limit, unpaged.offset,
    Dialect.pagingText_none]
  rfl

/-- The window stands behind the text of the query without paging. -/
theorem outcome_paged (fits : query.overflowedPage = none) :
    query.build.outcome =
      if query.pagesWithoutOrder then .error (.unorderedPaging query.settings.dialect)
      else do
        let rendered ← query.unpaged.build.outcome
        let paging ← query.settings.dialect.pagingText query.limit query.offset
        return ⟨rendered.sql ++ paging, rendered.parameters⟩ := by
  have paged : query.build.outcome =
      query.rowsFragment.map (Fragment.rendered query.settings) := rfl
  have plain : query.unpaged.build.outcome =
      query.unpaged.rowsFragment.map (Fragment.rendered query.settings) := rfl
  rw [paged, plain, rowsFragment, checkPaging_fits fits, query.unpaged_unpaged.rowsFragment]
  split
  · rfl
  · have sameSource : query.unpaged.sourceFragment = query.sourceFragment := rfl
    have sameOrder : query.unpaged.orderFragment = query.orderFragment := rfl
    have sameColumns : query.unpaged.columnsFragment = query.columnsFragment := rfl
    rw [sameSource, sameOrder, sameColumns]
    cases query.sourceFragment with
    | error error => rfl
    | ok source =>
        cases query.orderFragment with
        | error error => rfl
        | ok order =>
            cases query.settings.dialect.pagingText query.limit query.offset with
            | error error => rfl
            | ok paging => exact congrArg Except.ok (Fragment.rendered_concat ..)

theorem rowsFragment_fails (fits : query.overflowedPage = none) :
    Result.FailsWith RenderError.OfNoPage query.rowsFragment := by
  have checked : Result.FailsWith RenderError.OfNoPage query.checkPaging := by
    rw [checkPaging_fits fits]
    split
    · exact .error (by simp [RenderError.unorderedPaging, RenderError.OfNoPage,
        RenderError.opening])
    · exact .ok ()
  have source : Result.FailsAsPredicate True query.sourceFragment :=
    (query.filter.fragment?_fails query.settings).bind fun _ => .ok _
  have order : Result.FailsAsPredicate True query.orderFragment :=
    (Context.orderFragment_fails ..).bind fun _ => .ok _
  exact checked.bind fun _ => (source.mono fun _ predicate => predicate.ofNoPage).bind fun _ =>
    (order.mono fun _ predicate => predicate.ofNoPage).bind fun _ =>
      (Dialect.pagingText_fails ..).bind fun _ => .ok _

theorem outcome_overflowed {page perPage : UInt64}
    (overflowed : query.overflowedPage = some (page, perPage)) :
    query.build.outcome = .error (.pageOverflow page.toNat perPage.toNat) := by
  change query.rowsFragment.map (Fragment.rendered query.settings) = _
  rw [rowsFragment, checkPaging_overflowed overflowed]
  rfl

/-- Only a page that the query remembers as too late fails as one. -/
theorem overflowedPage_ne_none {page perPage : Nat}
    (failed : query.build.outcome = .error (.pageOverflow page perPage)) :
    query.overflowedPage ≠ none := by
  intro fits
  change query.rowsFragment.map (Fragment.rendered query.settings) = _ at failed
  cases written : query.rowsFragment with
  | error error =>
      rw [written] at failed
      cases failed
      exact ((rowsFragment_fails fits).of_error written).ne_pageOverflow page perPage rfl
  | ok fragment =>
      rw [written] at failed
      cases failed

end Select

/-!
## Sequences of calls
-/

namespace PagingCall

/-- How many rows a sequence of calls asks to skip, however many they are. -/
def lastSkipped (calls : List PagingCall) : Option Nat :=
  (lastOffset calls).map skipped

theorem skipped_limit_lt (rows : UInt64) : (limit rows).skipped < UInt64.size :=
  show 0 < UInt64.size by decide

theorem skipped_offset_lt (rows : UInt64) : (offset rows).skipped < UInt64.size :=
  rows.toNat_lt

variable {call : PagingCall}

theorem overflowed?_eq_none_iff : call.overflowed? = none ↔ call.skipped < UInt64.size := by
  cases call with
  | limit rows => exact iff_of_true rfl (skipped_limit_lt rows)
  | offset rows => exact iff_of_true rfl (skipped_offset_lt rows)
  | page asked perPage =>
      rw [overflowed?]
      split
      next fits => exact iff_of_true rfl fits
      next overflows => exact iff_of_false (Option.some_ne_none _) overflows

theorem overflowed?_page {asked perPage : UInt64}
    (overflows : UInt64.size ≤ (page asked perPage).skipped) :
    (page asked perPage).overflowed? = some (if asked = 0 then 1 else asked, perPage) :=
  if_neg (Nat.not_lt.mpr overflows)

/-- Only a page can ask to skip more rows than 64 bits count. -/
theorem exists_page (overflows : UInt64.size ≤ call.skipped) :
    ∃ asked perPage, call = page asked perPage := by
  cases call with
  | limit rows => exact absurd (skipped_limit_lt rows) (Nat.not_lt.mpr overflows)
  | offset rows => exact absurd (skipped_offset_lt rows) (Nat.not_lt.mpr overflows)
  | page asked perPage => exact ⟨asked, perPage, rfl⟩

theorem lastOffset_offset? {calls : List PagingCall}
    (fits : ∀ rows, lastSkipped calls = some rows → rows < UInt64.size) :
    (lastOffset calls).bind offset? = (lastSkipped calls).map UInt64.ofNat := by
  unfold lastSkipped at fits ⊢
  cases last : lastOffset calls with
  | none => rfl
  | some call =>
      rw [last] at fits
      exact if_pos (fits _ rfl)

theorem lastOffset_overflowed? {calls : List PagingCall} :
    (lastOffset calls).bind overflowed? = none ↔
      ∀ rows, lastSkipped calls = some rows → rows < UInt64.size := by
  unfold lastSkipped
  cases last : lastOffset calls with
  | none => simp
  | some call => simp [overflowed?_eq_none_iff]

end PagingCall

namespace Select

variable (origin : Origin) (calls : List Call)

theorem limit_built : (built origin calls).limit =
    PagingCall.lastLimit (calls.filterMap Call.paging?) := by
  rw [built_eq]

theorem offset_built : (built origin calls).offset =
    (PagingCall.lastOffset (calls.filterMap Call.paging?)).bind PagingCall.offset? := by
  rw [built_eq]

theorem overflowedPage_built : (built origin calls).overflowedPage =
    (PagingCall.lastOffset (calls.filterMap Call.paging?)).bind PagingCall.overflowed? := by
  rw [built_eq]

end Select

/-!
## Windows
-/

/-- The rows that a limit and an offset keep. -/
def keptRows {α : Type} (limit offset : Option UInt64) (rows : List α) : List α :=
  let behind := rows.drop ((offset.map UInt64.toNat).getD 0)
  match limit with
  | some limit => behind.take limit.toNat
  | none => behind

namespace Select

/-- The rows that a query keeps of those that it selects. -/
def window {α : Type} (query : Select) (rows : List α) : List α :=
  keptRows query.limit query.offset rows

/-- The query of a page, whatever has been called before. -/
def paged (origin : Origin) (calls : List Call) (number : Nat) (perPage : UInt64) : Select :=
  built origin (calls ++ [.paging (.page (UInt64.ofNat number) perPage)])

variable {α : Type} (origin : Origin) (calls : List Call) {number pages : Nat} {perPage : UInt64}
  (rows : List α)

/-- A page is the rows behind those of the pages before. -/
theorem window_paged (positive : 1 ≤ number) (numbered : number < UInt64.size)
    (fits : (number - 1) * perPage.toNat < UInt64.size) :
    (paged origin calls number perPage).window rows =
      (rows.drop ((number - 1) * perPage.toNat)).take perPage.toNat := by
  have asked : (PagingCall.page (UInt64.ofNat number) perPage).skipped =
      (number - 1) * perPage.toNat := by
    rw [PagingCall.skipped, UInt64.toNat_ofNat_of_lt' numbered, Nat.max_eq_left positive]
  have limit : (paged origin calls number perPage).limit = some perPage := by
    rw [paged, limit_built, List.filterMap_append, PagingCall.lastLimit_append]
    rfl
  have offset : (paged origin calls number perPage).offset =
      some (UInt64.ofNat ((number - 1) * perPage.toNat)) := by
    rw [paged, offset_built, List.filterMap_append, PagingCall.lastOffset_append]
    change (PagingCall.page (UInt64.ofNat number) perPage).offset? = _
    rw [PagingCall.offset?, asked, if_pos fits]
  rw [window, limit, offset, keptRows, Option.map_some, UInt64.toNat_ofNat_of_lt' fits]
  rfl

/-- A page goes on where the rows of the pages before it end. -/
theorem take_append_window (positive : 1 ≤ number) (numbered : number < UInt64.size)
    (fits : (number - 1) * perPage.toNat < UInt64.size) :
    rows.take ((number - 1) * perPage.toNat) ++ (paged origin calls number perPage).window rows =
      rows.take (number * perPage.toNat) := by
  have next : number * perPage.toNat = (number - 1) * perPage.toNat + perPage.toNat := by
    rw [← Nat.succ_mul, Nat.succ_eq_add_one, Nat.sub_add_cancel positive]
  rw [window_paged origin calls rows positive numbered fits, next, List.take_add]

/-- The first pages together are the first rows. -/
theorem flatMap_window (numbered : pages < UInt64.size)
    (fits : (pages - 1) * perPage.toNat < UInt64.size) :
    ((List.range' 1 pages).flatMap fun number =>
        (paged origin calls number perPage).window rows) =
      rows.take (pages * perPage.toNat) := by
  induction pages with
  | zero => simp
  | succ pages ih =>
      have earlier : (pages - 1) * perPage.toNat ≤ (pages + 1 - 1) * perPage.toNat :=
        Nat.mul_le_mul_right _ (Nat.sub_le_sub_right (Nat.le_succ pages) 1)
      have before := ih (Nat.lt_of_succ_lt numbered) (Nat.lt_of_le_of_lt earlier fits)
      have next := take_append_window origin calls rows (Nat.le_add_left 1 pages) numbered fits
      have last : 1 + 1 * pages = pages + 1 := by omega
      rw [Nat.add_sub_cancel] at next
      rw [List.range'_concat, List.flatMap_append, before, last, List.flatMap_singleton, next]

/-- No row is on two pages. -/
theorem windows_disjoint (numbered : pages < UInt64.size)
    (fits : (pages - 1) * perPage.toNat < UInt64.size) (distinct : rows.Nodup) :
    (List.range' 1 pages).Pairwise fun earlier later =>
      ((paged origin calls earlier perPage).window rows).Disjoint
        ((paged origin calls later perPage).window rows) := by
  have together : ((List.range' 1 pages).flatMap fun number =>
      (paged origin calls number perPage).window rows).Nodup := by
    rw [flatMap_window origin calls rows numbered fits]
    exact distinct.sublist (List.take_sublist ..)
  exact (List.nodup_flatMap.mp together).2

end Select

/-!
## Paging
-/

open PagingCall in
/-- What calls for paging make of a query, whatever other calls stand between them. They do not
show in the count. A query fails for its page exactly if the last call that sets an offset asks for
a page that starts beyond 64 bits. Otherwise the text of the query without paging is followed by the
window of the last limit and the last offset. The pages of a size then tile the rows: each goes on
where those before it end, together they are the first rows, and as the rows are numbered no row is
on two of them. -/
theorem Select.built_paging (origin : Origin) (calls : List Call) :
    let paging := calls.filterMap Call.paging?
    let limit := lastLimit paging
    let skipped := lastSkipped paging
    let query := built origin calls
    let plain := built origin (calls.filter Call.leavesPaging)
    query.count.outcome = plain.count.outcome ∧
    (∀ page perPage, lastOffset paging = some (.page page perPage) →
      UInt64.size ≤ (max page.toNat 1 - 1) * perPage.toNat →
      query.build.outcome = .error (.pageOverflow (max page.toNat 1) perPage.toNat)) ∧
    ((∃ page perPage, query.build.outcome = .error (.pageOverflow page perPage)) →
      ∃ page perPage, lastOffset paging = some (.page page perPage) ∧
        UInt64.size ≤ (max page.toNat 1 - 1) * perPage.toNat) ∧
    ((∀ rows, skipped = some rows → rows < UInt64.size) →
      query.build.outcome =
        if (limit.isSome || skipped.isSome) && plain.order.isEmpty &&
            plain.settings.dialect.pagesOnlyInOrder then
          .error (.unorderedPaging plain.settings.dialect)
        else do
          let rendered ← plain.build.outcome
          let window ← plain.settings.dialect.pagingText limit (skipped.map UInt64.ofNat)
          return ⟨rendered.sql ++ window, rendered.parameters⟩) ∧
    ∀ (perPage : UInt64) (pages : Nat), pages < UInt64.size →
      (pages - 1) * perPage.toNat < UInt64.size → ∀ (α : Type) (rows : List α),
      let page := paged origin calls
      (∀ number, 1 ≤ number → number ≤ pages →
        rows.take ((number - 1) * perPage.toNat) ++ (page number perPage).window rows =
          rows.take (number * perPage.toNat)) ∧
      ((List.range' 1 pages).flatMap fun number => (page number perPage).window rows) =
        rows.take (pages * perPage.toNat) ∧
      (List.range' 1 pages).Pairwise fun earlier later =>
        ((page earlier perPage).window rows.zipIdx).Disjoint
          ((page later perPage).window rows.zipIdx) := by
  intro paging limit skipped query plain
  have unpaged : query.unpaged = plain := (built_leavesPaging origin calls).symm
  have overflowedPage : query.overflowedPage = (lastOffset paging).bind overflowed? :=
    overflowedPage_built origin calls
  refine ⟨?_, ?_, ?_, ?_, ?_⟩
  · rw [← unpaged]
    rfl
  · intro page perPage last overflows
    have remembered : query.overflowedPage = some (if page = 0 then 1 else page, perPage) := by
      rw [overflowedPage, last]
      exact overflowed?_page overflows
    rw [outcome_overflowed remembered, toNat_first]
  · intro given
    obtain ⟨page, perPage, failed⟩ := given
    have remembered := overflowedPage_ne_none failed
    rw [overflowedPage] at remembered
    cases last : lastOffset paging with
    | none => exact absurd (by rw [last]; rfl) remembered
    | some call =>
        have overflows : UInt64.size ≤ call.skipped := by
          rw [last] at remembered
          exact Nat.not_lt.mp fun fits => remembered (overflowed?_eq_none_iff.mpr fits)
        obtain ⟨asked, rows, rfl⟩ := exists_page overflows
        exact ⟨asked, rows, rfl, overflows⟩
  · intro fits
    have within : query.overflowedPage = none :=
      overflowedPage.trans (lastOffset_overflowed?.mpr fits)
    have limited : query.limit = limit := limit_built origin calls
    have shifted : query.offset = skipped.map UInt64.ofNat :=
      (offset_built origin calls).trans (lastOffset_offset? fits)
    rw [outcome_paged within, pagesWithoutOrder, unpaged, limited, shifted, Option.isSome_map,
      ← unpaged]
    rfl
  · intro perPage pages numbered fits α rows page
    have distinct : rows.zipIdx.Nodup := by
      refine List.Nodup.of_map Prod.snd ?_
      rw [List.zipIdx_map_snd]
      exact List.nodup_range'
    refine ⟨?_, flatMap_window origin calls rows numbered fits,
      windows_disjoint origin calls rows.zipIdx numbered fits distinct⟩
    intro number positive included
    have earlier : (number - 1) * perPage.toNat ≤ (pages - 1) * perPage.toNat :=
      Nat.mul_le_mul_right _ (Nat.sub_le_sub_right included 1)
    exact take_append_window origin calls rows positive (Nat.lt_of_le_of_lt included numbered)
      (Nat.lt_of_le_of_lt earlier fits)

/-- A page that starts at the first row beyond 64 bits, with a limit called behind it. -/
def sampleFarPage : List Select.Call :=
  [.order (.add ⟨"Id", false⟩), .paging (.page 9223372036854775809 2),
    .settings (.dialect .postgreSql), .paging (.limit 5)]

theorem Select.built_paging_sampleFarPage :
    (built (.table "Item") sampleFarPage).build.outcome =
      .error (.validation
        "page 9223372036854775809 with 2 rows per page overflows the row offset") ∧
    (∃ page perPage,
      PagingCall.lastOffset (sampleFarPage.filterMap Call.paging?) = some (.page page perPage) ∧
        UInt64.size ≤ (max page.toNat 1 - 1) * perPage.toNat) ∧
    (∃ rendered, (built (.table "Item") (sampleFarPage ++ [.paging (.offset 3)])).build.outcome =
        .ok rendered ∧
      rendered.sql = "SELECT * FROM \"Item\" ORDER BY \"Id\" ASC LIMIT 5 OFFSET 3") ∧
    ([1, 2, 3].flatMap fun number =>
        (paged (.table "Item") sampleFarPage number 2).window [10, 20, 30, 40, 50]) =
      [10, 20, 30, 40, 50] := by
  obtain ⟨_, fails, failsOnly, _, pages⟩ := built_paging (.table "Item") sampleFarPage
  obtain ⟨_, _, _, cancelled, _⟩ :=
    built_paging (.table "Item") (sampleFarPage ++ [.paging (.offset 3)])
  have failed := fails 9223372036854775809 2 rfl (by decide)
  have written := cancelled fun rows same => by
    obtain rfl : 3 = rows := Option.some.inj same
    decide
  have spelled : RenderError.pageOverflow 9223372036854775809 2 =
      .validation "page 9223372036854775809 with 2 rows per page overflows the row offset" := by
    decide +kernel
  refine ⟨failed.trans (congrArg Except.error spelled), failsOnly ⟨_, _, failed⟩, ?_, ?_⟩
  · refine ⟨_, written.trans rfl, ?_⟩
    decide +kernel
  · exact (pages 2 3 (by decide) (by decide) Nat [10, 20, 30, 40, 50]).2.1

end QueryText
