import QueryText.Proofs.Request
import QueryText.Proofs.Session

/-!
# Positions of parameters

A clause in place names every parameter by the number of those before it. Where it starts decides
these numbers and nothing else: behind any parameters a clause fails with the same error, or it
binds the same values under the same bases and writes the same text between their markers. So the
filter of an UPDATE, which is written behind its assignments, is the filter by itself with the
numbers moved up.
-/

set_option autoImplicit false

namespace QueryText

/-!
## Results behind different parameters
-/

/-- The parameters with those of slots behind them. -/
def Parameters.extended (parameters : Parameters) (slots : List Slot) : Parameters :=
  ⟨parameters.toList ++ Slot.parametersFrom parameters.size slots⟩

/-- The text between markers with the markers of parameters, the first of which takes the given
position. -/
def Dialect.marked (dialect : Dialect) (segments : List String) (position : Nat)
    (slots : List Slot) : String :=
  interleaved segments ((Slot.parametersFrom position slots).map fun parameter =>
    dialect.marker parameter.name)

/-- Two results of one rendering, the first behind the parameters `first` and the second behind
`second`. Both are the same error, and nothing has been bound, or both append parameters of the same
slots, each numbered by its own position, and their texts are the same between the markers. -/
inductive Shifted (dialect : Dialect) (first second : Parameters) :
    Except RenderError String × Parameters → Except RenderError String × Parameters → Prop where
  | failed (error : RenderError) :
      Shifted dialect first second (.error error, first) (.error error, second)
  | written (slots : List Slot) (segments : List String) :
      segments.length = slots.length + 1 →
      Shifted dialect first second
        (.ok (dialect.marked segments first.size slots), first.extended slots)
        (.ok (dialect.marked segments second.size slots), second.extended slots)

namespace Fragment

variable {settings : Settings}

theorem bind_bound (binds : settings.useParameters = true) (fragment : Fragment)
    (parameters : Parameters) :
    fragment.bind settings parameters = parameters.extended fragment.slots := by
  have bound := fragment.bind_toList settings parameters
  rw [if_pos binds] at bound
  exact congrArg Parameters.mk bound

theorem text_bound (binds : settings.useParameters = true) (fragment : Fragment) (bound : Nat) :
    fragment.text settings bound =
      settings.dialect.marked (fragment.segments settings.dialect) bound fragment.slots := by
  rw [text_eq_interleaved, Settings.fillings_bound binds, Dialect.marked]

theorem text_inline (inlines : settings.useParameters = false) (fragment : Fragment)
    (first second : Nat) : fragment.text settings first = fragment.text settings second := by
  rw [text_eq_interleaved, text_eq_interleaved, Settings.fillings_inline inlines,
    Settings.fillings_inline inlines]

/-- A fragment that is written behind other parameters is shifted. -/
theorem shifted (settings : Settings) (fragment : Fragment) (first second : Parameters) :
    Shifted settings.dialect first second
      (.ok (fragment.text settings first.size), fragment.bind settings first)
      (.ok (fragment.text settings second.size), fragment.bind settings second) := by
  by_cases binds : settings.useParameters = true
  · rw [text_bound binds, text_bound binds, bind_bound binds, bind_bound binds]
    exact .written fragment.slots (fragment.segments settings.dialect)
      (fragment.length_segments settings.dialect)
  · -- Literals are the same wherever they stand, so the whole text is one segment.
    have inlines : settings.useParameters = false := Bool.eq_false_iff.mpr binds
    have silent : ∀ parameters : Parameters,
        fragment.bind settings parameters = parameters.extended [] := by
      intro parameters
      rw [bind, if_neg binds, Parameters.extended, Slot.parametersFrom, List.append_nil]
    rw [text_inline inlines fragment second.size first.size, silent, silent]
    exact .written [] [fragment.text settings first.size] rfl

end Fragment

namespace Rendering

theorem run_ok (rendering : Rendering) {fragment : Fragment}
    (clauseOk : rendering.writer.context.clauseFragment rendering.clause = .ok fragment)
    (before : Parameters) :
    rendering.run before =
      (.ok (fragment.text rendering.writer.settings before.size),
        fragment.bind rendering.writer.settings before) := by
  have atomic := rendering.writer.write_atomic rendering.clause before
  rw [clauseOk] at atomic
  exact atomic

theorem run_error (rendering : Rendering) {error : RenderError}
    (failed : rendering.writer.context.clauseFragment rendering.clause = .error error)
    (before : Parameters) : rendering.run before = (.error error, before) := by
  have atomic := rendering.writer.write_atomic rendering.clause before
  rw [failed] at atomic
  exact atomic

theorem shifted (rendering : Rendering) (first second : Parameters) :
    Shifted rendering.writer.settings.dialect first second (rendering.run first)
      (rendering.run second) := by
  cases result : rendering.writer.context.clauseFragment rendering.clause with
  | error error =>
      rw [rendering.run_error result, rendering.run_error result]
      exact .failed error
  | ok fragment =>
      rw [rendering.run_ok result, rendering.run_ok result]
      exact fragment.shifted rendering.writer.settings first second

end Rendering

/-!
## The filter of an UPDATE
-/

namespace Update

variable {change : Update} {expr : Expr} {rendered : Rendered}

def writer (change : Update) : Writer :=
  ⟨change.settings, some change.filter.scope, change.filter.entity⟩

/-- The assignments in place. -/
def setting (change : Update) : Rendering :=
  ⟨change.writer, .set change.assignments⟩

/-- A filter in place, read with what the change reads its own with. -/
def filtering (change : Update) (expr : Expr) : Rendering :=
  ⟨change.writer, .filter expr⟩

/-- A filter with parameters of its own, read with what the change reads its own with. -/
def filterAlone (change : Update) (expr : Expr) : Outcome :=
  (rowFilter expr change.filter.scope change.filter.entity change.settings).outcome

/-- The text of a change from the texts of its clauses. -/
def statementText (change : Update) (setText filterText : String) : String :=
  "UPDATE " ++ change.writer.quoted change.table ++ " " ++ setText ++ " " ++ filterText

private theorem rendered_clauses (change : Update) {set filter : Fragment} {between : Parameters}
    (setBound : set.bind change.settings .empty = between) :
    Fragment.rendered change.settings
        (.fixed "UPDATE " :: .name change.table :: .fixed " " :: set ++ .fixed " " :: filter) =
      ⟨change.statementText (set.text change.settings 0)
          (filter.text change.settings between.size),
        filter.bind change.settings between⟩ := by
  have size : between.size = change.settings.after 0 set.slots := by
    rw [← setBound, Fragment.size_bind]
    rfl
  have bound : Fragment.bind change.settings .empty
      (.fixed "UPDATE " :: .name change.table :: .fixed " " :: set ++ .fixed " " :: filter) =
      filter.bind change.settings between := by
    rw [← setBound]
    exact Fragment.bind_append .empty
  rw [Fragment.rendered, bound, size]
  simp [statementText, writer, Writer.quoted, String.append_assoc]

/-- An UPDATE writes its filter behind its assignments, and a filter that can be written there can
be written by itself. -/
theorem written (filtered : change.filter.expr = some expr)
    (built : change.build.outcome = .ok rendered) :
    ∃ setText between filterText alone, change.setting.run .empty = (.ok setText, between) ∧
      (change.filtering expr).run between = (.ok filterText, rendered.parameters) ∧
      rendered.sql = change.statementText setText filterText ∧
      change.filterAlone expr = .ok alone ∧
      (change.filtering expr).run .empty = (.ok alone.sql, alone.parameters) := by
  obtain ⟨fragment, fragmentOk, rfl⟩ := Result.map_eq_ok_iff.mp built
  obtain ⟨set, clause, setOk, clauseOk, rfl⟩ := Update.fragment_eq_ok_iff.mp fragmentOk
  obtain ⟨missing, _⟩ | ⟨found, condition, foundExpr, lowered, rfl⟩ :=
    Filter.fragment?_eq_ok_iff.mp clauseOk
  · exact absurd (filtered.symm.trans missing) nofun
  obtain rfl : expr = found := Option.some.inj (filtered.symm.trans foundExpr)
  have filterOk : (change.filter.context change.settings).filterFragment expr =
      .ok (.fixed "WHERE " :: condition.fragment) :=
    Context.filterFragment_eq_ok_iff.mpr ⟨condition, lowered, rfl⟩
  have settingRun := change.setting.run_ok setOk .empty
  have filteringRun := (change.filtering expr).run_ok filterOk
  rw [Option.getD_some, change.rendered_clauses rfl]
  exact ⟨_, _, _, Fragment.rendered change.settings (.fixed "WHERE " :: condition.fragment),
    settingRun, filteringRun _, rfl, Result.map_eq_ok_iff.mpr ⟨_, filterOk, rfl⟩,
    filteringRun .empty⟩

end Update

/-!
## Position independence
-/

/-- Where a clause starts to bind shows in the numbers of its markers only. Written in place behind
any two collections of parameters, which is what rendering it there gives, it fails with the same
error and binds nothing, or it appends parameters of the same bases, values and types, and the texts
become the same once their markers are exchanged. The filter of an UPDATE is the filter by itself,
moved behind the parameters of the assignments. -/
theorem Rendering.run_shifted (rendering : Rendering) (first second : Parameters) :
    (∀ before, rendering.run before =
      ((rendering.clause.render rendering.writer.settings rendering.writer.scope
          rendering.writer.entity before).map Prod.fst,
        rendering.clause.bind rendering.writer.settings rendering.writer.scope
          rendering.writer.entity before)) ∧
    Shifted rendering.writer.settings.dialect first second (rendering.run first)
      (rendering.run second) ∧
    ∀ {change : Update} {expr : Expr} {rendered : Rendered}, change.filter.expr = some expr →
      change.build.outcome = .ok rendered →
      ∃ setText between filterText alone, change.setting.run .empty = (.ok setText, between) ∧
        rendered.sql = change.statementText setText filterText ∧
        change.filterAlone expr = .ok alone ∧
        Shifted change.settings.dialect .empty between (.ok alone.sql, alone.parameters)
          (.ok filterText, rendered.parameters) := by
  refine ⟨rendering.writer.run_write rendering.clause, rendering.shifted first second, ?_⟩
  intro change expr rendered filtered built
  obtain ⟨setText, between, filterText, alone, setRun, filterRun, text, aloneOk, aloneRun⟩ :=
    Update.written filtered built
  have shifted := (change.filtering expr).shifted .empty between
  rw [filterRun, aloneRun] at shifted
  exact ⟨setText, between, filterText, alone, setRun, text, aloneOk, shifted⟩

def sampleRenamed : Expr :=
  .and (.compare .eq (.property "Id") (.literal (.int64 7)))
    (.inList true (.property "Name") [.captured "old", .literal (.text "tom")])

def sampleRename : Update :=
  (((Update.ofTable "People").assignAll
      [.set "Name" (.text "jerry"), .add "Visits" (.int32 1)]).addFilter sampleRenamed).bind
    "old" (.text "Tom")

theorem Rendering.run_shifted_sampleRename :
    ∃ rendered between filterText alone,
      sampleRename.build.outcome = .ok rendered ∧
      rendered.sql = "UPDATE [People] SET [Name]=@Name_0,[Visits]=[Visits]+@Visits_1 " ++
        "WHERE ([Id] = @Id_2) AND ([Name] NOT IN (@Name_3,@Name_4))" ∧
      between.size = 2 ∧
      sampleRename.filterAlone sampleRenamed = .ok alone ∧
      alone.sql = "WHERE ([Id] = @Id_0) AND ([Name] NOT IN (@Name_1,@Name_2))" ∧
      Shifted .sqlServer .empty between (.ok alone.sql, alone.parameters)
        (.ok filterText, rendered.parameters) := by
  obtain ⟨rendered, built, text⟩ : ∃ rendered, sampleRename.build.outcome = .ok rendered ∧
      rendered.sql = "UPDATE [People] SET [Name]=@Name_0,[Visits]=[Visits]+@Visits_1 " ++
        "WHERE ([Id] = @Id_2) AND ([Name] NOT IN (@Name_3,@Name_4))" :=
    ⟨_, rfl, by decide +kernel⟩
  have filtered : sampleRename.filter.expr = some sampleRenamed := rfl
  obtain ⟨setText, between, filterText, alone, setRun, _, aloneOk, shifted⟩ :=
    (run_shifted sampleRename.setting .empty .empty).2.2 filtered built
  have size : between.size = 2 := by
    have after := congrArg (Parameters.size ∘ Prod.snd) setRun
    exact after.symm.trans rfl
  obtain ⟨found, foundOk, foundText⟩ : ∃ found, sampleRename.filterAlone sampleRenamed = .ok found ∧
      found.sql = "WHERE ([Id] = @Id_0) AND ([Name] NOT IN (@Name_1,@Name_2))" :=
    ⟨_, rfl, by decide +kernel⟩
  obtain rfl : alone = found := Except.ok.inj (aloneOk.symm.trans foundOk)
  exact ⟨rendered, between, filterText, alone, built, text, size, aloneOk, foundText, shifted⟩

end QueryText
