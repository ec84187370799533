import QueryText.Proofs.Construction

/-!
# Order of calls

Only the order of calls within a group matters. Sequences of calls that have the same calls of each
group, in the same order, make the same statement, however the groups are interleaved. So a variable
may be bound behind the filter that reads it, and the dialect chosen last.
-/

set_option autoImplicit false

namespace QueryText

/-!
## Groups
-/

/-- The groups of calls. All calls of a group change the same part of a statement. -/
inductive CallGroup where
  | columns
  | filter
  | scope
  | order
  | paging
  | settings
  | assignments
  | permission
  deriving DecidableEq

/-- The calls of each group are the same in both sequences, and in the same order. -/
def SameGroups {κ : Type} (group : κ → CallGroup) (calls others : List κ) : Prop :=
  ∀ part, (calls.filter fun call => group call = part) = others.filter fun call => group call = part

namespace SameGroups

variable {κ μ : Type} {group : κ → CallGroup} {calls others : List κ}

/-- What is read off the calls of one group is the same in both sequences. -/
theorem filterMap (same : SameGroups group calls others) (part : CallGroup) (read : κ → Option μ)
    (inside : ∀ call value, read call = some value → group call = part) :
    calls.filterMap read = others.filterMap read := by
  have restricted : ∀ calls : List κ,
      (calls.filter fun call => group call = part).filterMap read = calls.filterMap read := by
    intro calls
    rw [List.filterMap_filter]
    congr 1
    funext call
    cases found : read call with
    | none => simp
    | some value => simp [inside call value found]
  rw [← restricted calls, ← restricted others, same part]

/-- A call may wait for all calls of other groups. -/
theorem postponed {call : κ} {rest : List κ} (others : ∀ other ∈ rest, group other ≠ group call) :
    SameGroups group (call :: rest) (rest ++ [call]) := by
  intro part
  rw [List.filter_append, List.filter_cons]
  by_cases mine : group call = part
  · have alone : (rest.filter fun other => group other = part) = [] := by
      simpa [← mine] using others
    simp [mine, alone]
  · simp [mine]

end SameGroups

/-!
## Statements
-/

namespace Select

def Call.group : Call → CallGroup
  | columns _ => .columns
  | filter _ => .filter
  | scope _ => .scope
  | order _ => .order
  | paging _ => .paging
  | settings _ => .settings

theorem after_congr {calls others : List Call} (same : SameGroups Call.group calls others)
    (start : Select) : start.after calls = start.after others := by
  rw [after_eq, after_eq,
    same.filterMap .columns Call.columns? (by rintro ⟨⟩ _ ⟨⟩; rfl),
    same.filterMap .filter Call.filter? (by rintro ⟨⟩ _ ⟨⟩; rfl),
    same.filterMap .scope Call.scope? (by rintro ⟨⟩ _ ⟨⟩; rfl),
    same.filterMap .order Call.order? (by rintro ⟨⟩ _ ⟨⟩; rfl),
    same.filterMap .paging Call.paging? (by rintro ⟨⟩ _ ⟨⟩; rfl),
    same.filterMap .settings Call.settings? (by rintro ⟨⟩ _ ⟨⟩; rfl)]

end Select

namespace Update

def Call.group : Call → CallGroup
  | assignment _ => .assignments
  | filter _ => .filter
  | scope _ => .scope
  | settings _ => .settings

theorem after_congr {calls others : List Call} (same : SameGroups Call.group calls others)
    (start : Update) : start.after calls = start.after others := by
  rw [after_eq, after_eq,
    same.filterMap .assignments Call.assignment? (by rintro ⟨⟩ _ ⟨⟩; rfl),
    same.filterMap .filter Call.filter? (by rintro ⟨⟩ _ ⟨⟩; rfl),
    same.filterMap .scope Call.scope? (by rintro ⟨⟩ _ ⟨⟩; rfl),
    same.filterMap .settings Call.settings? (by rintro ⟨⟩ _ ⟨⟩; rfl)]

end Update

namespace Delete

def Call.group : Call → CallGroup
  | filter _ => .filter
  | scope _ => .scope
  | settings _ => .settings
  | allowAll _ => .permission

theorem after_congr {calls others : List Call} (same : SameGroups Call.group calls others)
    (start : Delete) : start.after calls = start.after others := by
  rw [after_eq, after_eq,
    same.filterMap .filter Call.filter? (by rintro ⟨⟩ _ ⟨⟩; rfl),
    same.filterMap .scope Call.scope? (by rintro ⟨⟩ _ ⟨⟩; rfl),
    same.filterMap .settings Call.settings? (by rintro ⟨⟩ _ ⟨⟩; rfl),
    same.filterMap .permission Call.allowAll? (by rintro ⟨⟩ _ ⟨⟩; rfl)]

end Delete

/-!
## Results
-/

/-- Calls of different groups commute. Whatever statement there was, two sequences of calls that
have the same calls of each group make statements of it that are built, counted and shown alike. -/
theorem calls_commute :
    (∀ calls others : List Select.Call, SameGroups Select.Call.group calls others →
      ∀ start : Select,
        (start.after calls).build = (start.after others).build ∧
        (start.after calls).count = (start.after others).count ∧
        (start.after calls).toSql = (start.after others).toSql) ∧
    (∀ calls others : List Update.Call, SameGroups Update.Call.group calls others →
      ∀ start : Update,
        (start.after calls).build = (start.after others).build ∧
        (start.after calls).toSql = (start.after others).toSql) ∧
    ∀ calls others : List Delete.Call, SameGroups Delete.Call.group calls others →
      ∀ start : Delete,
        (start.after calls).build = (start.after others).build ∧
        (start.after calls).toSql = (start.after others).toSql := by
  refine ⟨?_, ?_, ?_⟩
  · intro calls others same start
    rw [Select.after_congr same]
    exact ⟨rfl, rfl, rfl⟩
  · intro calls others same start
    rw [Update.after_congr same]
    exact ⟨rfl, rfl⟩
  · intro calls others same start
    rw [Delete.after_congr same]
    exact ⟨rfl, rfl⟩

/-- A query whose variable and dialect come last. -/
def Select.sampleLate : List Call :=
  [.filter (.compare .ge (.property "Age") (.captured "limit")), .columns (.replace ["Id"]),
    .paging (.page 2 10), .order (.replace ⟨"Id", false⟩), .columns (.add "Name"),
    .paging (.limit 5), .scope (.bind "limit" (.int32 18)), .settings (.dialect .postgreSql)]

/-- The same query with its variable and dialect first. -/
def Select.sampleEarly : List Call :=
  [.settings (.dialect .postgreSql), .scope (.bind "limit" (.int32 18)),
    .columns (.replace ["Id"]), .columns (.add "Name"), .paging (.page 2 10), .paging (.limit 5),
    .order (.replace ⟨"Id", false⟩), .filter (.compare .ge (.property "Age") (.captured "limit"))]

def Update.sampleBirthday : List Call :=
  [.assignment (.add "Age" (.int32 1)), .filter (.compare .eq (.property "Id") (.captured "id")),
    .assignment (.setNow "Seen")]

def Delete.sampleLeavers : List Call :=
  [.filter (.isNull true (.property "Left")), .allowAll false]

theorem calls_commute_sampleLate :
    SameGroups Select.Call.group Select.sampleLate Select.sampleEarly ∧
    ((Select.ofTable "People").after Select.sampleLate).count =
      ((Select.ofTable "People").after Select.sampleEarly).count ∧
    ((Select.ofTable "People").after Select.sampleLate).toSql =
      .ok ("SELECT \"Id\",\"Name\" FROM \"People\" WHERE \"Age\" >= :Age_0 " ++
        "ORDER BY \"Id\" ASC LIMIT 5 OFFSET 10") ∧
    ((Update.ofTable "People").after
        (Update.sampleBirthday ++ [.scope (.bind "id" (.int64 7))])).toSql =
      .ok "UPDATE [People] SET [Age]=[Age]+@Age_0,[Seen]=GETDATE() WHERE [Id] = @Id_1" ∧
    ((Delete.ofTable "People").after
        (Delete.sampleLeavers ++ [.settings (.dialect .mySql)])).toSql =
      .ok "DELETE FROM `People` WHERE `Left` IS NOT NULL" := by
  obtain ⟨queries, changes, removals⟩ := calls_commute
  have same : SameGroups Select.Call.group Select.sampleLate Select.sampleEarly := by
    rintro (_ | _) <;> rfl
  have bound : SameGroups Update.Call.group
      (.scope (.bind "id" (.int64 7)) :: Update.sampleBirthday)
      (Update.sampleBirthday ++ [.scope (.bind "id" (.int64 7))]) :=
    .postponed (by decide)
  have chosen : SameGroups Delete.Call.group (.settings (.dialect .mySql) :: Delete.sampleLeavers)
      (Delete.sampleLeavers ++ [.settings (.dialect .mySql)]) :=
    .postponed (by decide)
  obtain ⟨_, counted, shown⟩ := queries _ _ same (.ofTable "People")
  obtain ⟨_, changed⟩ := changes _ _ bound (.ofTable "People")
  obtain ⟨_, removed⟩ := removals _ _ chosen (.ofTable "People")
  refine ⟨same, counted, shown.trans ?_, changed.symm.trans ?_, removed.symm.trans ?_⟩
  · decide +kernel
  · decide +kernel
  · decide +kernel

end QueryText
