import QueryText.Proofs.Clause
import QueryText.Proofs.Lowering
import QueryText.Proofs.Request

/-!
# Binding and inlining

A request is rendered in two modes, with its values bound as parameters or written as literals. Both
modes lower it to the same fragment; inlining only refuses the fragments with a value that has no
literal. So the two texts share all their segments, and differ in what fills the slots.
-/

set_option autoImplicit false

namespace QueryText

/-!
## Agreement of the modes
-/

def Fragment.Writable (fragment : Fragment) : Prop :=
  ∀ slot ∈ fragment.slots, slot.value.hasLiteral = true

namespace Fragment

variable {left right : Fragment}

@[simp] theorem writable_nil : Writable [] := by simp [Writable]

@[simp] theorem writable_fixed {text : String} : Writable (.fixed text :: right) ↔ Writable right :=
  Iff.rfl

@[simp] theorem writable_name {name : String} : Writable (.name name :: right) ↔ Writable right :=
  Iff.rfl

@[simp] theorem writable_now : Writable (.now :: right) ↔ Writable right :=
  Iff.rfl

@[simp] theorem writable_slot {slot : Slot} :
    Writable (.slot slot :: right) ↔ slot.value.hasLiteral = true ∧ Writable right := by
  simp [Writable]

@[simp] theorem writable_append :
    Writable (left ++ right) ↔ Writable left ∧ Writable right := by
  simp [Writable, or_imp, forall_and]

@[simp] theorem writable_parenthesized : Writable (parenthesized left) ↔ Writable left := by
  simp [Writable]

@[simp] theorem writable_joined {separator : String} {parts : List Fragment} :
    Writable (joined separator parts) ↔ ∀ part ∈ parts, Writable part := by
  simp only [Writable, slots_joined, List.mem_flatMap]
  exact ⟨fun all part member slot found => all slot ⟨part, member, found⟩,
    fun all slot ⟨part, member, found⟩ => all part member slot found⟩

end Fragment

/-- Inlining succeeds exactly when binding does with a result that can be written, and with the same
result. -/
def Agree {α : Type} (writable : α → Prop) (bound inline : Except RenderError α) : Prop :=
  ∀ result, inline = .ok result ↔ bound = .ok result ∧ writable result

namespace Agree

variable {α β : Type} {P : α → Prop} {Q : β → Prop}

theorem of_eq {step : Except RenderError α}
    (always : ∀ result, step = .ok result → P result) : Agree P step step :=
  fun result => ⟨fun success => ⟨success, always result success⟩, And.left⟩

theorem bind {bound inline : Except RenderError α} {boundNext inlineNext : α → Except RenderError β}
    (first : Agree P bound inline)
    (next : ∀ value, P value → Agree Q (boundNext value) (inlineNext value))
    (contains : ∀ value result, boundNext value = .ok result → Q result →
      P value) :
    Agree Q (bound >>= boundNext) (inline >>= inlineNext) := by
  intro result
  rw [Result.bind_eq_ok_iff, Result.bind_eq_ok_iff]
  constructor
  · intro given
    obtain ⟨value, inlineOk, nextOk⟩ := given
    obtain ⟨boundOk, written⟩ := (first value).mp inlineOk
    obtain ⟨boundNextOk, resultWritten⟩ := (next value written result).mp nextOk
    exact ⟨⟨value, boundOk, boundNextOk⟩, resultWritten⟩
  · intro given
    obtain ⟨⟨value, boundOk, nextOk⟩, resultWritten⟩ := given
    have written := contains value result nextOk resultWritten
    exact ⟨value, (first value).mpr ⟨boundOk, written⟩,
      (next value written result).mpr ⟨nextOk, resultWritten⟩⟩

theorem bind_pure {bound inline : Except RenderError α} {function : α → β}
    (first : Agree P bound inline)
    (same : ∀ value, Q (function value) ↔ P value) :
    Agree Q (bound >>= fun value => pure (function value))
      (inline >>= fun value => pure (function value)) := by
  refine first.bind (fun value written => of_eq fun result success => ?_) ?_
  · cases success
    exact (same value).mpr written
  · intro value result success written
    cases success
    exact (same value).mp written

theorem after {step : Except RenderError α} {boundNext inlineNext : α → Except RenderError β}
    (next : ∀ value, Agree Q (boundNext value) (inlineNext value)) :
    Agree Q (step >>= boundNext) (step >>= inlineNext) :=
  bind (P := fun _ => True) (of_eq fun _ _ => trivial) (fun value _ => next value)
    fun _ _ _ _ => trivial

theorem mapM {γ : Type} {boundStep inlineStep : γ → Except RenderError α}
    (each : ∀ item, Agree P (boundStep item) (inlineStep item)) (items : List γ) :
    Agree (fun results => ∀ result ∈ results, P result)
      (items.mapM boundStep) (items.mapM inlineStep) := by
  induction items with
  | nil =>
      refine of_eq fun results success => ?_
      cases success
      simp
  | cons item rest ih =>
      rw [List.mapM_cons, List.mapM_cons]
      refine (each item).bind (fun value written => ih.bind_pure ?_) ?_
      · intro others
        simp [written]
      · intro value results success written
        obtain ⟨others, _, success⟩ := Result.bind_eq_ok_iff.mp success
        cases success
        exact written value (List.mem_cons_self ..)

end Agree

/-!
## Predicates in both modes
-/

def Context.inMode (context : Context) (useParameters : Bool) : Context :=
  { context with useParameters }

namespace Context

variable {context : Context}

theorem captured_inMode (useParameters : Bool) (member : Expr) :
    (context.inMode useParameters).captured member = context.captured member := by
  fun_induction context.captured member with
  | case1 => simp_all [Context.captured, inMode]
  | case2 => simp_all [Context.captured, inMode]
  | case3 base name ih => rw [Context.captured, ih]
  | case4 => rfl
  | case5 => simp_all [Context.captured]

theorem captureValue_inMode (useParameters : Bool) (member : Expr) :
    (context.inMode useParameters).captureValue member = context.captureValue member := by
  rw [captureValue, captureValue, captured_inMode]

theorem slot_agree (base : String) (value : Value) (dataType : DataType) :
    Agree (fun slot => slot.value.hasLiteral = true)
      ((context.inMode true).slot base value dataType)
      ((context.inMode false).slot base value dataType) := by
  intro slot
  rw [slot_eq_ok_iff, slot_eq_ok_iff]
  simp only [inMode, forall_const, reduceCtorEq, false_implies, true_and]
  constructor
  · intro given
    obtain ⟨writable, rfl⟩ := given
    exact ⟨rfl, writable⟩
  · intro given
    obtain ⟨rfl, writable⟩ := given
    exact ⟨writable, rfl⟩

theorem partnerSlot_agree (value : Value) (partner : Option ResolvedColumn) (coerced : Bool) :
    Agree (fun slot => slot.value.hasLiteral = true)
      ((context.inMode true).partnerSlot value partner coerced)
      ((context.inMode false).partnerSlot value partner coerced) := by
  unfold partnerSlot
  split
  · split
    · exact .after fun _ => slot_agree _ _ _
    · exact slot_agree _ _ _
  · exact slot_agree _ _ _
  · exact slot_agree _ _ _

theorem bound_follows_inline :
    (context.inMode false).Follows (context.inMode true) fun _ => True where
  column _ _ found := found
  captured _ _ found := by
    rw [captureValue_inMode] at found ⊢
    exact found
  placed _ _ _ _ _ placed := ((partnerSlot_agree _ _ _ _).mp placed).1

theorem inline_follows_bound :
    (context.inMode true).Follows (context.inMode false) fun slot =>
      slot.value.hasLiteral = true where
  column _ _ found := found
  captured _ _ found := by
    rw [captureValue_inMode] at found ⊢
    exact found
  placed _ _ _ _ literal placed := (partnerSlot_agree _ _ _ _).mpr ⟨placed, literal⟩

theorem condition_agree (context : Context) (expr : Expr) :
    Agree (fun condition => condition.fragment.Writable)
      ((context.inMode true).condition expr) ((context.inMode false).condition expr) := by
  intro condition
  rw [← lowers_iff, ← lowers_iff]
  constructor
  · intro lowered
    refine ⟨lowered.transfer bound_follows_inline fun _ _ => trivial, ?_⟩
    intro slot member
    obtain ⟨value, partner, coerced, placed⟩ := lowered.slots_placed slot member
    exact ((partnerSlot_agree _ _ _ _).mp placed).2
  · intro given
    obtain ⟨lowered, writable⟩ := given
    exact lowered.transfer inline_follows_bound writable

/-!
## Clauses in both modes
-/

theorem insertedValue_agree (context : Context) (assignment : Assignment) :
    Agree Fragment.Writable ((context.inMode true).insertedValue assignment)
      ((context.inMode false).insertedValue assignment) := by
  unfold insertedValue
  cases assignment.op with
  | assign => exact (slot_agree _ _ _).bind_pure fun slot => by simp
  | now => exact .of_eq fun fragment written => by cases written; simp
  | add | subtract => exact .of_eq fun fragment written => by cases written; simp

theorem valuesFragment_agree (context : Context) (assignments : List Assignment) :
    Agree Fragment.Writable ((context.inMode true).valuesFragment assignments)
      ((context.inMode false).valuesFragment assignments) := by
  unfold valuesFragment
  by_cases empty : assignments.isEmpty = true
  · simp only [empty, ↓reduceIte]
    exact .after fun _ =>
      .bind_pure (.mapM context.insertedValue_agree assignments) fun values => by simp
  · simp only [empty]
    exact .bind_pure (.mapM context.insertedValue_agree assignments) fun values => by simp

theorem assignedValue_agree (context : Context) (assignment : Assignment) :
    Agree Fragment.Writable ((context.inMode true).assignedValue assignment)
      ((context.inMode false).assignedValue assignment) := by
  unfold assignedValue
  cases assignment.op with
  | assign | add | subtract => exact (slot_agree _ _ _).bind_pure fun slot => by simp
  | now => exact .of_eq fun fragment written => by cases written; simp

theorem assignmentFragment_agree (context : Context) (assignment : Assignment) :
    Agree Fragment.Writable ((context.inMode true).assignmentFragment assignment)
      ((context.inMode false).assignmentFragment assignment) :=
  (context.assignedValue_agree assignment).bind_pure fun value => by simp

theorem setFragment_agree (context : Context) (assignments : List Assignment) :
    Agree Fragment.Writable ((context.inMode true).setFragment assignments)
      ((context.inMode false).setFragment assignments) := by
  have resolved : (context.inMode true).resolvedAssignment =
      (context.inMode false).resolvedAssignment := rfl
  unfold setFragment
  rw [resolved]
  by_cases empty : assignments.isEmpty = true
  · simp only [empty, ↓reduceIte]
    exact .after fun _ => .after fun resolved =>
      .bind_pure (.mapM context.assignmentFragment_agree resolved) fun written => by simp
  · simp only [empty]
    exact .after fun resolved =>
      .bind_pure (.mapM context.assignmentFragment_agree resolved) fun written => by simp

theorem filterFragment_agree (context : Context) (expr : Expr) :
    Agree Fragment.Writable ((context.inMode true).filterFragment expr)
      ((context.inMode false).filterFragment expr) :=
  ((context.condition_agree expr).bind_pure (Q := Fragment.Writable) fun _ => Iff.rfl).bind_pure
    fun predicate => by simp

end Context

/-!
## Requests in both modes
-/

theorem Filter.fragment?_agree (filter : Filter) (settings : Settings) :
    Agree (fun fragment? => (fragment?.getD []).Writable) (filter.fragment? settings.binding)
      (filter.fragment? settings.inline) := by
  unfold fragment?
  cases filter.expr with
  | none => exact .of_eq fun fragment? written => by cases written; simp
  | some expr =>
      exact ((filter.context settings).filterFragment_agree expr).bind_pure
        fun fragment => by simp

namespace Select

private theorem columnsFragment_writable (query : Select) : query.columnsFragment.Writable := by
  unfold columnsFragment
  split <;> simp

private theorem orderFragment_writable {query : Select} {fragment : Fragment}
    (written : query.orderFragment = .ok fragment) : fragment.Writable := by
  obtain ⟨inner, innerOk, written⟩ := Result.bind_eq_ok_iff.mp written
  obtain ⟨columns, _, innerOk⟩ := Result.bind_eq_ok_iff.mp innerOk
  cases innerOk
  cases written
  have sorted : ∀ keys : SortOrder,
      ∀ part ∈ List.zipWith SortKey.fragment keys columns, part.Writable := by
    intro keys part member
    obtain ⟨index, bound, rfl⟩ := List.getElem_of_mem member
    simp [SortKey.fragment]
  unfold sortFragment
  split
  · simp
  · split
    · simp
    · simp only [Fragment.writable_fixed, Fragment.writable_joined]
      exact sorted query.order

private theorem sourceFragment_agree (query : Select) :
    Agree Fragment.Writable ((query.withSettings query.settings.binding).sourceFragment)
      ((query.withSettings query.settings.inline).sourceFragment) :=
  (query.filter.fragment?_agree query.settings).bind_pure fun filter => by simp

theorem rowsFragment_agree (query : Select) :
    Agree Fragment.Writable ((query.withSettings query.settings.binding).rowsFragment)
      ((query.withSettings query.settings.inline).rowsFragment) := by
  refine .after fun _ => (query.sourceFragment_agree).bind (fun source written => ?_) ?_
  · refine .of_eq fun fragment success => ?_
    obtain ⟨order, orderOk, success⟩ := Result.bind_eq_ok_iff.mp success
    obtain ⟨paging, _, success⟩ := Result.bind_eq_ok_iff.mp success
    cases success
    simpa [written, orderFragment_writable orderOk] using columnsFragment_writable _
  · intro source fragment success written
    obtain ⟨order, _, success⟩ := Result.bind_eq_ok_iff.mp success
    obtain ⟨paging, _, success⟩ := Result.bind_eq_ok_iff.mp success
    cases success
    simp only [Fragment.writable_append, List.cons_append, Fragment.writable_fixed] at written
    exact written.1.1.2

theorem totalFragment_agree (query : Select) :
    Agree Fragment.Writable ((query.withSettings query.settings.binding).totalFragment)
      ((query.withSettings query.settings.inline).totalFragment) :=
  query.sourceFragment_agree.bind_pure fun source => by simp

end Select

theorem Insert.fragment_agree (row : Insert) :
    Agree Fragment.Writable ((row.withSettings row.settings.binding).fragment)
      ((row.withSettings row.settings.inline).fragment) := by
  have values := (row.settings.context none none).valuesFragment_agree row.assignments
  unfold fragment
  by_cases empty : row.assignments.isEmpty = true
  · simp only [withSettings, empty, ↓reduceIte]
    exact .of_eq fun fragment written => by cases written; simp
  · simp only [withSettings, empty]
    exact values.bind_pure fun values => by simp

theorem Update.fragment_agree (change : Update) :
    Agree Fragment.Writable ((change.withSettings change.settings.binding).fragment)
      ((change.withSettings change.settings.inline).fragment) := by
  have assigned := (change.filter.context change.settings).setFragment_agree change.assignments
  refine assigned.bind (fun set written => ?_) ?_
  · exact (change.filter.fragment?_agree change.settings).bind_pure fun filter => by
      simp [written]
  · intro set fragment success written
    obtain ⟨filter, _, success⟩ := Result.bind_eq_ok_iff.mp success
    cases success
    simp only [List.cons_append, Fragment.writable_fixed, Fragment.writable_name,
      Fragment.writable_append] at written
    exact written.1

theorem Delete.fragment_agree (removal : Delete) :
    Agree Fragment.Writable ((removal.withSettings removal.settings.binding).fragment)
      ((removal.withSettings removal.settings.inline).fragment) := by
  have filtered := removal.filter.fragment?_agree removal.settings
  refine Agree.bind_pure (P := Fragment.Writable) ?_ fun filter => by simp
  refine filtered.bind (fun filter written => ?_) ?_
  · cases filter with
    | none => exact .of_eq fun fragment success => by cases success; split <;> simp
    | some filter => exact .of_eq fun fragment success => by cases success; exact written
  · intro filter fragment success written
    cases filter with
    | none => simp
    | some filter => cases success; exact written

namespace Request

/-- A request has the same fragment in both modes, if all its values have literals. -/
theorem fragment_agree (request : Request) :
    Agree Fragment.Writable
      (request.withSettings request.settings.binding).fragment
      (request.withSettings request.settings.inline).fragment := by
  cases request with
  | rows query => exact query.rowsFragment_agree
  | total query => exact query.totalFragment_agree
  | insert row => exact row.fragment_agree
  | update change => exact change.fragment_agree
  | delete removal => exact removal.fragment_agree
  | filter expr scope entity settings =>
      exact (settings.context (some scope) entity).filterFragment_agree expr
  | values table assignments settings =>
      have values := (settings.context none none).valuesFragment_agree assignments
      change Agree Fragment.Writable (rowValuesFragment table assignments settings.binding)
        (rowValuesFragment table assignments settings.inline)
      unfold rowValuesFragment
      by_cases blank : Text.isBlankText table = true
      · simp only [blank, ↓reduceIte]
        exact .after fun _ => values
      · simp only [blank]
        exact values

/-!
## Texts in both modes
-/

private theorem values_bound (settings : Settings) (fragment : Fragment) :
    (Fragment.rendered settings.binding fragment).parameters.values =
      fragment.slots.map Slot.value := by
  rw [Parameters.values, parameters_rendered]
  exact Slot.parametersFrom_values 0 fragment.slots

private theorem writable_iff_finite {settings : Settings} {fragment : Fragment} :
    fragment.Writable ↔
      ∀ number, .double number ∈ (Fragment.rendered settings.binding fragment).parameters.values →
        Decimal.isFinite number = true := by
  rw [values_bound]
  constructor
  · intro writable number member
    obtain ⟨slot, placed, valued⟩ := List.mem_map.mp member
    simpa [valued, Value.hasLiteral] using writable slot placed
  · intro finite slot placed
    cases valued : slot.value with
    | double number => exact finite number (List.mem_map.mpr ⟨slot, placed, valued⟩)
    | _ => rfl

private theorem literals_writable (dialect : Dialect) {fragment : Fragment}
    (writable : fragment.Writable) :
    (fragment.slots.map Slot.value).mapM dialect.literal =
      .ok (fragment.slots.map fun slot => dialect.literalText slot.value) := by
  rw [Result.mapM_eq_ok_iff, List.forall₂_map_left_iff, List.forall₂_map_right_iff,
    List.forall₂_same]
  intro slot placed
  exact Result.bind_eq_ok_iff.mpr
    ⟨(), Value.checkLiteral_eq_ok_iff.mpr (writable slot placed), rfl⟩

/-- Inlining succeeds exactly when binding does and binds no infinite double and no not-a-number.
Then both texts have the same segments: the one has the markers of the parameters between them, the
other the literals of the same values, and no parameters. -/
theorem inline_bound_agree (request : Request) :
    ((∃ inline, (request.withSettings request.settings.inline).outcome = .ok inline) ↔
      ∃ bound, (request.withSettings request.settings.binding).outcome = .ok bound ∧
        ∀ number, .double number ∈ bound.parameters.values → Decimal.isFinite number = true) ∧
    ∀ bound inline,
      (request.withSettings request.settings.binding).outcome = .ok bound →
      (request.withSettings request.settings.inline).outcome = .ok inline →
      inline.parameters = .empty ∧
      ∃ texts literals, texts.length = bound.parameters.size + 1 ∧
        bound.parameters.values.mapM request.settings.dialect.literal = .ok literals ∧
        bound.sql =
          interleaved texts (bound.parameters.names.map request.settings.dialect.marker) ∧
        inline.sql = interleaved texts literals := by
  have agree := request.fragment_agree
  simp only [outcome_eq_ok_iff, settings_withSettings]
  constructor
  · constructor
    · intro given
      obtain ⟨_, fragment, inlineOk, rfl⟩ := given
      obtain ⟨boundOk, writable⟩ := (agree fragment).mp inlineOk
      exact ⟨_, ⟨fragment, boundOk, rfl⟩, writable_iff_finite.mp writable⟩
    · intro given
      obtain ⟨_, ⟨fragment, boundOk, rfl⟩, finite⟩ := given
      exact ⟨_, fragment, (agree fragment).mpr ⟨boundOk, writable_iff_finite.mpr finite⟩, rfl⟩
  · rintro _ _ ⟨fragment, boundOk, rfl⟩ ⟨inlined, inlineOk, rfl⟩
    obtain ⟨sameOk, writable⟩ := (agree inlined).mp inlineOk
    obtain rfl : fragment = inlined := Except.ok.inj (boundOk.symm.trans sameOk)
    have parameters := parameters_rendered request.settings.binding fragment
    refine ⟨rfl, fragment.segments request.settings.dialect,
      fragment.slots.map fun slot => request.settings.dialect.literalText slot.value,
      ?_, ?_, ?_, ?_⟩
    · have size := congrArg List.length (values_bound request.settings fragment)
      rw [Parameters.values, List.length_map, List.length_map] at size
      rw [Fragment.length_segments, Parameters.size, size]
    · rw [values_bound]
      exact literals_writable _ writable
    · refine (Fragment.text_eq_interleaved request.settings.binding 0 fragment).trans ?_
      rw [Settings.fillings_bound rfl, Parameters.names, parameters, List.map_map]
      rfl
    · refine (Fragment.text_eq_interleaved request.settings.inline 0 fragment).trans ?_
      rw [Settings.fillings_inline rfl]
      rfl

/-- A change of two columns, one of them by a wider type than its value has, behind a filter. -/
def sampleUpdate : Request :=
  .update
    { table := "Item"
      assignments := [.add "Count" (.int16 2), .set "Label" (.text "it's")]
      filter :=
        { expr := some (.compare .lt (.property "Id") (.captured "id"))
          scope := Scope.empty.bind "id" (.int32 7)
          entity := some
            { name := "Item", table := "Item"
              columns :=
                [{ property := "Id", column := "id", dataType := .int64 },
                  { property := "Count", column := "count", dataType := .int64 },
                  { property := "Label", column := "label", dataType := .string }] } } }

theorem inline_bound_agree_sampleUpdate :
    ∃ bound inline,
      (sampleUpdate.withSettings sampleUpdate.settings.binding).outcome = .ok bound ∧
      (sampleUpdate.withSettings sampleUpdate.settings.inline).outcome = .ok inline ∧
      inline.parameters = .empty ∧
      ∃ texts literals, texts.length = bound.parameters.size + 1 ∧
        bound.parameters.values.mapM sampleUpdate.settings.dialect.literal = .ok literals ∧
        bound.sql =
          interleaved texts (bound.parameters.names.map sampleUpdate.settings.dialect.marker) ∧
        inline.sql = interleaved texts literals :=
  ⟨_, _, rfl, rfl, (inline_bound_agree sampleUpdate).2 _ _ rfl rfl⟩

end Request

end QueryText
