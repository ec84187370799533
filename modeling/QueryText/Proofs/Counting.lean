import QueryText.Proofs.Commutation
import QueryText.Proofs.Lowering
import QueryText.Proofs.Paging

/-!
# Counting

The count of a query and the query itself have the same source: the table and the filter, with the
parameters of the filter. The count puts its own column before the source, the query puts its
columns before it and its order and window behind it. So the calls that only say how rows are shown
do not change the count, and a query whose count fails fails too.
-/

set_option autoImplicit false

namespace QueryText

namespace Select

variable {query : Select}

/-!
## Parts of a query
-/

/-- What a query selects of its rows. -/
def columnsText (query : Select) : String :=
  if query.columns = [] then "*"
  else ",".intercalate (query.columns.map query.settings.dialect.quotedName)

/-- Where a query finds its rows: its table and the clause of its filter, with the parameters that
the clause binds as the first ones. -/
def source (query : Select) : Outcome :=
  let table := " FROM " ++ query.settings.dialect.quotedName query.table
  match query.filter.expr with
  | none => .ok ⟨table, .empty⟩
  | some expr =>
    ((Clause.filter expr).render query.settings (some query.filter.scope) query.filter.entity
      .empty).map fun (clause, parameters) => ⟨table ++ (" " ++ clause), parameters⟩

/-- The text of the order of a query behind the given parameters, and the parameters after it. -/
def sorting (query : Select) (before : Parameters) : Except RenderError (String × Parameters) :=
  ((Clause.orderBy query.order).render query.settings (some query.filter.scope)
    query.filter.entity before).map fun (clause, after) =>
      (if query.order = [] then "" else " " ++ clause, after)

/-!
## What the parts are written as
-/

theorem text_columnsFragment (query : Select) (bound : Nat) :
    Fragment.text query.settings bound query.columnsFragment = query.columnsText := by
  unfold columnsFragment columnsText
  by_cases all : query.columns = []
  · rw [if_pos (List.isEmpty_iff.mpr all), if_pos all]
    simp
  · rw [if_neg (mt List.isEmpty_iff.mp all), if_neg all, Fragment.text_joined,
      Fragment.texts_names]

theorem slots_columnsFragment (query : Select) : Fragment.slots query.columnsFragment = [] := by
  unfold columnsFragment
  split
  · rfl
  · rw [Fragment.slots_joined, Fragment.slots_names]

theorem rendered_source (settings : Settings) (table : String) (clause : Fragment) :
    Fragment.rendered settings (.fixed " FROM " :: .name table :: clause) =
      ⟨" FROM " ++ settings.dialect.quotedName table ++ clause.text settings 0,
        clause.bind settings .empty⟩ := by
  have same : Fragment.slots (.fixed " FROM " :: .name table :: clause) = clause.slots := rfl
  rw [Fragment.rendered, Fragment.bind_congr same]
  simp [String.append_assoc]

theorem source_eq (query : Select) :
    query.source = query.sourceFragment.map (Fragment.rendered query.settings) := by
  unfold source sourceFragment Filter.fragment?
  cases query.filter.expr with
  | none =>
      refine congrArg Except.ok ((rendered_source ..).trans ?_).symm
      rw [Option.getD_none, Fragment.bind_nil]
      simp
  | some expr =>
      simp only [Clause.render_eq]
      change Except.map _ (Except.map _
        ((query.filter.context query.settings).filterFragment expr)) = _
      cases (query.filter.context query.settings).filterFragment expr with
      | error error => rfl
      | ok clause =>
          refine congrArg Except.ok ((rendered_source ..).trans ?_).symm
          rw [Option.getD_some, Fragment.text_fixed]
          rfl

theorem sorting_eq (query : Select) (before : Parameters) :
    query.sorting before = query.orderFragment.map fun order =>
      (order.text query.settings before.size, before) := by
  rw [sorting, Clause.render_eq]
  change Except.map _ (Except.map _
    ((query.filter.context query.settings).orderFragment query.order)) = _
  unfold orderFragment Context.orderFragment
  cases query.order.mapM (query.filter.context query.settings).orderColumn with
  | error error => rfl
  | ok columns =>
      have silent := Fragment.slots_sortFragment query.order columns
      have unbound : Fragment.bind query.settings before (sortFragment query.order columns) =
          before := (Fragment.bind_congr silent before).trans (Fragment.bind_nil before)
      refine congrArg Except.ok (Prod.ext ?_ unbound)
      cases query.order with
      | nil => rfl
      | cons key rest => rfl

theorem slots_orderFragment {order : Fragment} (sorted : query.orderFragment = .ok order) :
    order.slots = [] := by
  obtain ⟨clause, written, same⟩ := Result.bind_eq_ok_iff.mp sorted
  obtain ⟨columns, _, made⟩ := Result.bind_eq_ok_iff.mp written
  cases made
  cases same
  split
  · rfl
  · exact Fragment.slots_sortFragment query.order columns

/-- Only the source of a query binds, and it stands behind texts that bind nothing. -/
theorem rendered_rows {source order : Fragment} (sorted : query.orderFragment = .ok order)
    (paging : String) :
    Fragment.rendered query.settings
        (.fixed "SELECT " :: query.columnsFragment ++ source ++ order ++ [.fixed paging]) =
      ⟨"SELECT " ++ query.columnsText ++ source.text query.settings 0 ++
          order.text query.settings (source.bind query.settings .empty).size ++ paging,
        source.bind query.settings .empty⟩ := by
  have silent := slots_orderFragment sorted
  have same : Fragment.slots
      (.fixed "SELECT " :: query.columnsFragment ++ source ++ order ++ [.fixed paging]) =
      source.slots := by
    simp [slots_columnsFragment, silent]
  have bound : (source.bind query.settings .empty).size = query.settings.after 0 source.slots :=
    Fragment.size_bind source .empty
  rw [Fragment.rendered, Fragment.bind_congr same, bound]
  simp [text_columnsFragment, slots_columnsFragment, Settings.after_nil, String.append_assoc]

/-- A query is counted by what stands before its source. -/
theorem count_outcome (query : Select) :
    query.count.outcome = query.source.map fun source =>
      ⟨"SELECT COUNT(*)" ++ source.sql, source.parameters⟩ := by
  change query.totalFragment.map (Fragment.rendered query.settings) = _
  rw [source_eq, totalFragment]
  cases query.sourceFragment with
  | error error => rfl
  | ok source => exact congrArg Except.ok rfl

/-- A query is its columns, its source, its order and its window. -/
theorem build_outcome (query : Select) :
    query.build.outcome = do
      query.checkPaging
      let source ← query.source
      let (order, parameters) ← query.sorting source.parameters
      let paging ← query.settings.dialect.pagingText query.limit query.offset
      return ⟨"SELECT " ++ query.columnsText ++ source.sql ++ order ++ paging, parameters⟩ := by
  change query.rowsFragment.map (Fragment.rendered query.settings) = _
  simp only [source_eq, sorting_eq, rowsFragment]
  cases query.checkPaging with
  | error error => rfl
  | ok _ =>
      cases query.sourceFragment with
      | error error => rfl
      | ok source =>
          cases sorted : query.orderFragment with
          | error error => rfl
          | ok order =>
              cases query.settings.dialect.pagingText query.limit query.offset with
              | error error => rfl
              | ok paging => exact congrArg Except.ok (rendered_rows sorted paging)

/-!
## Calls that only show
-/

/-- Whether a call says how rows are shown, and not which. -/
def Call.showsRows : Call → Bool
  | columns _ | order _ | paging _ => true
  | filter _ | scope _ | settings _ => false

theorem count_apply {call : Call} (shows : call.showsRows = true) :
    (query.apply call).count = query.count := by
  cases call with
  | columns call => cases call <;> rfl
  | order call => cases call <;> rfl
  | paging call =>
      cases call with
      | limit rows => rfl
      | offset rows => rfl
      | page page perPage =>
          rw [apply, withPage_eq]
          rfl
  | filter expr => cases shows
  | scope call => cases shows
  | settings call => cases shows

theorem count_after {calls : List Call} (shows : ∀ call ∈ calls, call.showsRows = true) :
    (query.after calls).count = query.count := by
  induction calls generalizing query with
  | nil => rfl
  | cons call rest ih =>
      obtain ⟨first, others⟩ := List.forall_mem_cons.mp shows
      exact (ih others).trans (count_apply first)

/-!
## Counting
-/

/-- The count of a query counts what the query selects. When the query is built, so is its count:
of the same source, with the same parameters. Calls that only say how rows are shown leave the count
as it is, whatever they do to the query. When the count fails the query fails too, with the same
error unless its paging is at fault before. -/
theorem count_of_build (query : Select) :
    (∀ rendered, query.build.outcome = .ok rendered → ∃ source order paging,
      query.source = .ok source ∧
      query.count.outcome = .ok ⟨"SELECT COUNT(*)" ++ source.sql, source.parameters⟩ ∧
      query.sorting source.parameters = .ok (order, source.parameters) ∧
      query.settings.dialect.pagingText query.limit query.offset = .ok paging ∧
      rendered = ⟨"SELECT " ++ query.columnsText ++ source.sql ++ order ++ paging,
        source.parameters⟩) ∧
    (∀ calls : List Call, (∀ call ∈ calls, call.showsRows = true) →
      (query.after calls).count = query.count) ∧
    ∀ error, query.count.outcome = .error error → ∃ other,
      query.build.outcome = .error other ∧
        (other = error ∨ query.checkPaging = .error other) := by
  refine ⟨?_, fun _ => count_after, ?_⟩
  · intro rendered built
    rw [build_outcome] at built
    obtain ⟨_, _, built⟩ := Result.bind_eq_ok_iff.mp built
    obtain ⟨source, found, built⟩ := Result.bind_eq_ok_iff.mp built
    obtain ⟨⟨order, parameters⟩, sorted, built⟩ := Result.bind_eq_ok_iff.mp built
    obtain ⟨paging, paged, built⟩ := Result.bind_eq_ok_iff.mp built
    have kept : source.parameters = parameters := by
      rw [sorting_eq] at sorted
      obtain ⟨_, _, same⟩ := Result.map_eq_ok_iff.mp sorted
      exact congrArg Prod.snd same
    subst kept
    refine ⟨source, order, paging, found, ?_, sorted, paged, (Result.pure_eq_ok_iff.mp built).symm⟩
    rw [count_outcome, found]
    rfl
  · intro error failed
    have missing : query.source = .error error := by
      rw [count_outcome] at failed
      cases found : query.source with
      | error other =>
          rw [found] at failed
          exact failed
      | ok source =>
          rw [found] at failed
          cases failed
    rw [build_outcome, missing]
    cases query.checkPaging with
    | error other => exact ⟨other, rfl, .inr rfl⟩
    | ok _ => exact ⟨error, rfl, .inl rfl⟩

/-- A query with a variable in its filter, an order and a limit. -/
def sampleAdults : Select :=
  built (.table "People") [.filter (.compare .ge (.property "Age") (.captured "limit")),
    .scope (.bind "limit" (.int32 18)), .order (.replace ⟨"Id", false⟩), .paging (.limit 10),
    .settings (.dialect .postgreSql)]

/-- Calls the last of which asks for a page beyond 64 bits. -/
def sampleBeyond : List Call :=
  [.columns (.replace ["Id", "Name"]), .order (.add ⟨"Name", true⟩),
    .paging (.page 9223372036854775809 2)]

theorem count_of_build_sampleAdults :
    (∃ rendered source : Rendered, sampleAdults.build.outcome = .ok rendered ∧
      rendered.sql = "SELECT * FROM \"People\" WHERE \"Age\" >= :Age_0 " ++
        "ORDER BY \"Id\" ASC LIMIT 10" ∧
      source.sql = " FROM \"People\" WHERE \"Age\" >= :Age_0" ∧
      sampleAdults.count.outcome =
        .ok ⟨"SELECT COUNT(*)" ++ source.sql, rendered.parameters⟩) ∧
    (sampleAdults.after sampleBeyond).build.outcome =
      .error (.pageOverflow 9223372036854775809 2) ∧
    (sampleAdults.after sampleBeyond).count = sampleAdults.count ∧
    ∃ other, (sampleAdults.withScope .empty).build.outcome = .error other ∧
      (other = .unknownCapture "limit" ∨
        (sampleAdults.withScope .empty).checkPaging = .error other) := by
  obtain ⟨builds, shown, _⟩ := count_of_build sampleAdults
  obtain ⟨_, _, fails⟩ := count_of_build (sampleAdults.withScope .empty)
  obtain ⟨source, order, paging, found, counted, _, _, same⟩ := builds _ rfl
  have sql : sampleAdults.source.map Rendered.sql =
      .ok " FROM \"People\" WHERE \"Age\" >= :Age_0" := by
    decide +kernel
  rw [found] at sql
  refine ⟨⟨_, source, rfl, ?_, Except.ok.inj sql, ?_⟩, ?_, shown sampleBeyond (by decide),
    fails _ rfl⟩
  · decide +kernel
  · rw [counted, same]
  · have overflowed : (sampleAdults.after sampleBeyond).overflowedPage =
        some (9223372036854775809, 2) := rfl
    rw [outcome_overflowed overflowed]
    rfl

end Select

end QueryText
