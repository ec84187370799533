import QueryText.Proofs.Paging
import QueryText.Proofs.Request
import QueryText.Proofs.Session

/-!
# Change of dialect

A dialect decides how names are quoted, values marked and literals spelled, so it decides about the
text. What a statement binds, and why it fails, is the same in all dialects. Paging is the
exception: products differ in the windows that they have.
-/

set_option autoImplicit false

namespace QueryText

/-!
## Requests
-/

namespace Select

variable {query : Select}

theorem Unpaged.withDialect (unpaged : query.Unpaged) (dialect : Dialect) :
    (query.withDialect dialect).Unpaged :=
  ⟨unpaged.limit, unpaged.offset, unpaged.overflowedPage⟩

end Select

namespace Request

/-- A request that is no query for rows, or one without limit, offset and page. -/
def Unpaged : Request → Prop
  | rows query => query.Unpaged
  | _ => True

def withDialect : Request → Dialect → Request
  | rows query, dialect => rows (query.withDialect dialect)
  | total query, dialect => total (query.withDialect dialect)
  | insert row, dialect => insert (row.withDialect dialect)
  | update change, dialect => update (change.withDialect dialect)
  | delete removal, dialect => delete (removal.withDialect dialect)
  | filter expr scope entity settings, dialect =>
    filter expr scope entity (settings.withDialect dialect)
  | values table assignments settings, dialect =>
    values table assignments (settings.withDialect dialect)

variable {request : Request}

theorem settings_withDialect (dialect : Dialect) :
    (request.withDialect dialect).settings = request.settings.withDialect dialect := by
  cases request <;> rfl

theorem fragment_withDialect (unpaged : request.Unpaged) (dialect : Dialect) :
    (request.withDialect dialect).fragment = request.fragment := by
  cases request with
  | rows query =>
      have unpagedQuery : query.Unpaged := unpaged
      change (query.withDialect dialect).rowsFragment = query.rowsFragment
      rw [unpagedQuery.rowsFragment, (unpagedQuery.withDialect dialect).rowsFragment]
      rfl
  | _ => rfl

/-- What a request binds is read off its fragment without a dialect. -/
theorem parameters_withDialect (unpaged : request.Unpaged) (dialect : Dialect) :
    (request.withDialect dialect).outcome.map Rendered.parameters =
      request.fragment.map fun fragment => fragment.bind request.settings .empty := by
  rw [outcome_eq, fragment_withDialect unpaged, settings_withDialect, Result.map_map]
  rfl

end Request

/-!
## Clauses in place
-/

namespace Rendering

def withDialect (rendering : Rendering) (dialect : Dialect) : Rendering :=
  { rendering with
    writer :=
      { rendering.writer with settings := rendering.writer.settings.withDialect dialect } }

/-- Without its text, a clause written in place is its fragment bound. -/
theorem run_withDialect (rendering : Rendering) (dialect : Dialect) (before : Parameters) :
    ((rendering.withDialect dialect).run before).map (Except.map fun _ => ()) id =
      match rendering.writer.context.clauseFragment rendering.clause with
      | .ok fragment => (.ok (), fragment.bind rendering.writer.settings before)
      | .error error => (.error error, before) := by
  have written := (rendering.withDialect dialect).writer.write_atomic rendering.clause before
  have same : (rendering.withDialect dialect).writer.context = rendering.writer.context := rfl
  have run : (rendering.withDialect dialect).run before = _ := written
  rw [run, same]
  cases rendering.writer.context.clauseFragment rendering.clause with
  | ok fragment => rfl
  | error error => rfl

theorem run_dialects (rendering : Rendering) (first second : Dialect) (before : Parameters) :
    ((rendering.withDialect first).run before).map (Except.map fun _ => ()) id =
      ((rendering.withDialect second).run before).map (Except.map fun _ => ()) id := by
  rw [run_withDialect, run_withDialect]

theorem parametersAfter_withDialect (renderings : List Rendering) (first second : Dialect) :
    parametersAfter (renderings.map fun rendering => rendering.withDialect first) =
      parametersAfter (renderings.map fun rendering => rendering.withDialect second) := by
  have step : ∀ (parameters : Parameters) (rendering : Rendering),
      ((rendering.withDialect first).run parameters).2 =
        ((rendering.withDialect second).run parameters).2 := fun parameters rendering =>
    (Prod.ext_iff.mp (rendering.run_dialects first second parameters)).2
  simp only [parametersAfter, List.foldl_map, step]

end Rendering

/-!
## Comparison of dialects
-/

/-- In any two dialects a request that does not page fails with the same error, or succeeds with
the same parameters. Neither does the dialect show in the errors of clauses that share parameters,
nor in the parameters that a sequence of them leaves. -/
theorem Request.parameters_dialects (first second : Dialect) :
    (∀ request : Request, request.Unpaged →
      (request.withDialect first).outcome.map Rendered.parameters =
        (request.withDialect second).outcome.map Rendered.parameters) ∧
    (∀ (rendering : Rendering) (before : Parameters),
      ((rendering.withDialect first).run before).map (Except.map fun _ => ()) id =
        ((rendering.withDialect second).run before).map (Except.map fun _ => ()) id) ∧
    ∀ renderings : List Rendering,
      Rendering.parametersAfter (renderings.map fun rendering => rendering.withDialect first) =
        Rendering.parametersAfter
          (renderings.map fun rendering => rendering.withDialect second) := by
  refine ⟨fun request unpaged => ?_, fun rendering before => ?_, fun renderings => ?_⟩
  · rw [parameters_withDialect unpaged, parameters_withDialect unpaged]
  · exact rendering.run_dialects first second before
  · exact Rendering.parametersAfter_withDialect renderings first second

def sampleListing : Select :=
  Select.built (.table "Order Items")
    [.filter (.like .contains (.property "Item.Label") (.captured "word")),
      .columns (.add "Id"),
      .scope (.bind "word" (.text "it's")),
      .order (.add ⟨"Id", false⟩)]

theorem Request.parameters_dialects_sampleListing :
    (rows sampleListing).Unpaged ∧
      ((rows sampleListing).withDialect .mySql).outcome.map Rendered.sql =
        .ok ("SELECT `Id` FROM `Order Items` WHERE `Item`.`Label` LIKE ?Item_Label_0 " ++
          "ORDER BY `Id` ASC") ∧
      ((rows sampleListing).withDialect .oracle).outcome.map Rendered.sql =
        .ok ("SELECT \"ID\" FROM \"ORDER_ITEMS\" WHERE \"ITEM\".\"LABEL\" LIKE :Item_Label_0 " ++
          "ORDER BY \"ID\" ASC") ∧
      ∃ parameters, parameters.toList = [⟨"Item_Label_0", .text "%it's%", .string⟩] ∧
        ((rows sampleListing).withDialect .mySql).outcome.map Rendered.parameters =
          .ok parameters ∧
        ((rows sampleListing).withDialect .oracle).outcome.map Rendered.parameters =
          .ok parameters := by
  have unpaged : (rows sampleListing).Unpaged :=
    Select.built_unpaged (.table "Order Items") (by decide)
  have alike := (parameters_dialects .mySql .oracle).1 (rows sampleListing) unpaged
  have bound : ∃ parameters, parameters.toList = [⟨"Item_Label_0", .text "%it's%", .string⟩] ∧
      ((rows sampleListing).withDialect .mySql).outcome.map Rendered.parameters =
        .ok parameters := ⟨_, rfl, rfl⟩
  obtain ⟨parameters, listed, bound⟩ := bound
  exact ⟨unpaged, by decide +kernel, by decide +kernel, parameters, listed, bound,
    alike.symm.trans bound⟩

end QueryText
