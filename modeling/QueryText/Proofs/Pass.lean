import QueryText.Proofs.Layout

/-!
# Rendering in place

A clause can be written in one pass over its tree that binds each value as it meets it, into the
parameters the statement has so far. When such a pass fails, it may have bound values already, and
the clause has to take them back. The passes here do so, each clause in its way, and give what the
clause gives whose fragment is complete before anything is bound.
-/

set_option autoImplicit false

namespace QueryText

/-!
## Texts of composed fragments
-/

def parenthesizedText (text : String) : String :=
  "(" ++ text ++ ")"

/-- What a slot is written as behind `bound` parameters. -/
def Settings.slotText (settings : Settings) (bound : Nat) (slot : Slot) : String :=
  if settings.useParameters then settings.dialect.marker (parameterName slot.base bound)
  else settings.dialect.literalText slot.value

namespace Fragment

variable {settings : Settings} {left right : Fragment}

@[simp] theorem text_nil (bound : Nat) : text settings bound [] = "" := rfl

@[simp] theorem text_fixed (bound : Nat) (content : String) :
    text settings bound (.fixed content :: right) = content ++ text settings bound right := rfl

@[simp] theorem text_name (bound : Nat) (name : String) :
    text settings bound (.name name :: right) =
      settings.dialect.quotedName name ++ text settings bound right := rfl

@[simp] theorem text_now (bound : Nat) :
    text settings bound (.now :: right) = settings.dialect.now ++ text settings bound right := rfl

@[simp] theorem text_slot (bound : Nat) (slot : Slot) :
    text settings bound (.slot slot :: right) =
      settings.slotText bound slot ++ text settings (settings.after bound [slot]) right := by
  rw [text, Settings.slotText, Settings.after]
  split <;> rfl

@[simp] theorem text_append (bound : Nat) :
    (left ++ right).text settings bound =
      left.text settings bound ++ right.text settings (settings.after bound left.slots) := by
  induction left generalizing bound with
  | nil => simp [Settings.after_nil]
  | cons piece rest ih =>
      cases piece with
      | fixed content => simp [ih, String.append_assoc]
      | name name => simp [ih, String.append_assoc]
      | now => simp [ih, String.append_assoc]
      | slot slot =>
          have advanced := settings.after_append bound [slot] (slots rest)
          rw [List.singleton_append] at advanced
          simp [ih, advanced, String.append_assoc]

@[simp] theorem text_parenthesized (bound : Nat) :
    (parenthesized left).text settings bound = parenthesizedText (left.text settings bound) := by
  simp [parenthesized, parenthesizedText, String.append_assoc]

/-- The texts of fragments that are written one after the other. -/
def texts (settings : Settings) (bound : Nat) : List Fragment → List String
  | [] => []
  | fragment :: rest =>
    fragment.text settings bound :: texts settings (settings.after bound fragment.slots) rest

theorem texts_silent {parts : List Fragment} (silent : ∀ part ∈ parts, slots part = [])
    (bound : Nat) : texts settings bound parts = parts.map (text settings bound) := by
  induction parts with
  | nil => rfl
  | cons part rest ih =>
      obtain ⟨first, others⟩ := List.forall_mem_cons.mp silent
      rw [texts, first, Settings.after_nil, ih others, List.map_cons]

theorem slots_names {α : Type} (items : List α) (name : α → String) :
    (items.map fun item => [Piece.name (name item)]).flatMap slots = [] := by
  simp [List.flatMap_map]

theorem texts_names {α : Type} (items : List α) (name : α → String) (bound : Nat) :
    texts settings bound (items.map fun item => [.name (name item)]) =
      items.map fun item => settings.dialect.quotedName (name item) := by
  rw [texts_silent (List.forall_mem_map.mpr fun _ _ => rfl), List.map_map]
  exact List.map_congr_left fun item _ => by simp

theorem slots_sortKeys (keys : SortOrder) (columns : List String) :
    ∀ part ∈ List.zipWith SortKey.fragment keys columns, slots part = [] := by
  induction keys generalizing columns with
  | nil => exact List.forall_mem_nil _
  | cons key rest ih =>
      cases columns with
      | nil => exact List.forall_mem_nil _
      | cons column others => exact List.forall_mem_cons.mpr ⟨rfl, ih others⟩

theorem slots_sortFragment (keys : SortOrder) (columns : List String) :
    slots (sortFragment keys columns) = [] := by
  unfold sortFragment
  split
  · rfl
  · rw [slots_fixed, slots_joined, List.flatMap_eq_nil_iff]
    exact slots_sortKeys keys columns

theorem text_joined (separator : String) (parts : List Fragment) (bound : Nat) :
    (joined separator parts).text settings bound =
      String.intercalate separator (texts settings bound parts) := by
  induction parts generalizing bound with
  | nil => rfl
  | cons part rest ih =>
      cases rest with
      | nil => rfl
      | cons next rest =>
          rw [joined, text_append, text_fixed, ih]
          simp only [texts, String.intercalate_cons_cons, String.append_assoc]

theorem bind_congr (same : left.slots = right.slots) (parameters : Parameters) :
    left.bind settings parameters = right.bind settings parameters := by
  rw [bind, bind, same]

theorem bind_nil (parameters : Parameters) : bind settings parameters [] = parameters := by
  rw [bind, slots_nil]
  split <;> rfl

theorem bind_append (parameters : Parameters) :
    (left ++ right).bind settings parameters =
      right.bind settings (left.bind settings parameters) := by
  unfold bind
  split
  · rw [slots_append, List.foldl_append]
  · rfl

theorem size_bind (fragment : Fragment) (parameters : Parameters) :
    (fragment.bind settings parameters).size = settings.after parameters.size fragment.slots := by
  rw [Parameters.size, bind_toList, Settings.after, List.length_append]
  split
  · rw [Slot.length_parametersFrom, Parameters.size]
  · rfl

end Fragment

/-!
## Passes
-/

/-- A pass binds values into the parameters there are. What it has bound stays when it fails. -/
abbrev Pass (α : Type) := ExceptT RenderError (StateM Parameters) α

namespace Pass

variable {α β γ : Type}

def run (pass : Pass α) (before : Parameters) : Except RenderError α × Parameters :=
  StateT.run (ExceptT.run pass) before

/-- A step that binds nothing. -/
def of (step : Except RenderError α) : Pass α :=
  liftM step

theorem run_pure (value : α) (before : Parameters) :
    (pure value : Pass α).run before = (.ok value, before) := rfl

theorem run_of (step : Except RenderError α) (before : Parameters) :
    (of step).run before = (step, before) := rfl

theorem run_bind (pass : Pass α) (next : α → Pass β) (before : Parameters) :
    (pass >>= next).run before =
      match pass.run before with
      | (.ok value, between) => (next value).run between
      | (.error error, between) => (.error error, between) := by
  change StateT.run (ExceptT.bindCont next (pass.run before).1) (pass.run before).2 = _
  cases result : pass.run before with
  | mk outcome between => cases outcome <;> rfl

theorem run_bind_ok {pass : Pass α} {before between : Parameters} {value : α}
    (run : pass.run before = (.ok value, between)) (next : α → Pass β) :
    (pass >>= next).run before = (next value).run between := by
  rw [run_bind, run]

theorem run_bind_error {pass : Pass α} {before between : Parameters} {error : RenderError}
    (run : pass.run before = (.error error, between)) (next : α → Pass β) :
    (pass >>= next).run before = (.error error, between) := by
  rw [run_bind, run]

/-- A pass writes the results of a step. It gives a result as `shown` behind the parameters there
are, and binds the slots of the result. When the step fails it fails with the same error, and may
have bound the slots of any fragment by then. -/
structure Writes (settings : Settings) (shown : Nat → β → α) (fragment : β → Fragment)
    (pass : Pass α) (step : Except RenderError β) : Prop where
  succeeds : ∀ {value}, step = .ok value → ∀ before,
    pass.run before = (.ok (shown before.size value), (fragment value).bind settings before)
  fails : ∀ {error}, step = .error error → ∀ before,
    ∃ bound : Fragment, pass.run before = (.error error, bound.bind settings before)

/-- A pass that writes the text of a fragment. -/
abbrev WritesText (settings : Settings) (fragment : β → Fragment) (pass : Pass String)
    (step : Except RenderError β) : Prop :=
  Writes settings (fun bound value => (fragment value).text settings bound) fragment pass step

namespace Writes

variable {settings : Settings} {shown : Nat → β → α} {fragment : β → Fragment}

theorem of_ok {pass : Pass α} {value : β}
    (runs : ∀ before,
      pass.run before = (.ok (shown before.size value), (fragment value).bind settings before)) :
    Writes settings shown fragment pass (.ok value) where
  succeeds := by
    rintro _ ⟨⟩
    exact runs
  fails := nofun

theorem of_error {pass : Pass α} {error : RenderError}
    (runs : ∀ before,
      ∃ bound : Fragment, pass.run before = (.error error, bound.bind settings before)) :
    Writes settings shown fragment pass (.error error) where
  succeeds := nofun
  fails := by
    rintro _ ⟨⟩
    exact runs

theorem pure {given : α} {value : β} (shows : ∀ bound, shown bound value = given)
    (silent : (fragment value).slots = []) :
    Writes settings shown fragment (Pure.pure given) (.ok value) := by
  refine of_ok fun before => ?_
  have same : (fragment value).slots = Fragment.slots [] := silent
  rw [run_pure, shows, Fragment.bind_congr same, Fragment.bind_nil]

theorem failed (error : RenderError) :
    Writes settings shown fragment (of (.error error)) (.error error) :=
  of_error fun before => ⟨[], by rw [run_of, Fragment.bind_nil]⟩

/-- A step that binds nothing may go before. -/
theorem after {step : Except RenderError γ} {next : γ → Pass α}
    {nextStep : γ → Except RenderError β}
    (each : ∀ value, step = .ok value →
      Writes settings shown fragment (next value) (nextStep value)) :
    Writes settings shown fragment (of step >>= next) (step >>= nextStep) := by
  cases result : step with
  | ok value => exact each value result
  | error error => exact failed error

variable {α' α'' β' β'' : Type} {shown' : Nat → β' → α'} {fragment' : β' → Fragment}
  {shown'' : Nat → β'' → α''} {fragment'' : β'' → Fragment}

/-- Two passes one after the other write what is made of the results of both. -/
theorem pair {first : Pass α'} {firstStep : Except RenderError β'} {second : Pass α''}
    {secondStep : Except RenderError β''} {combine : α' → α'' → α} {make : β' → β'' → β}
    (firstWrites : Writes settings shown' fragment' first firstStep)
    (secondWrites : Writes settings shown'' fragment'' second secondStep)
    (shows : ∀ left right bound, shown bound (make left right) =
      combine (shown' bound left)
        (shown'' (settings.after bound (fragment' left).slots) right))
    (slots : ∀ left right,
      (fragment (make left right)).slots = (fragment' left).slots ++ (fragment'' right).slots) :
    Writes settings shown fragment
      (do let left ← first; let right ← second; return combine left right)
      (do let left ← firstStep; let right ← secondStep; return make left right) := by
  cases firstResult : firstStep with
  | error error =>
      refine of_error fun before => ?_
      obtain ⟨bound, run⟩ := firstWrites.fails firstResult before
      exact ⟨bound, run_bind_error run _⟩
  | ok left =>
      cases secondResult : secondStep with
      | error error =>
          refine of_error fun before => ?_
          obtain ⟨bound, run⟩ :=
            secondWrites.fails secondResult ((fragment' left).bind settings before)
          refine ⟨fragment' left ++ bound, ?_⟩
          rw [run_bind_ok (firstWrites.succeeds firstResult before), run_bind_error run,
            Fragment.bind_append]
      | ok right =>
          refine of_ok fun before => ?_
          have same : (fragment (make left right)).slots =
              (fragment' left ++ fragment'' right).slots := by
            rw [slots, Fragment.slots_append]
          rw [run_bind_ok (firstWrites.succeeds firstResult before),
            run_bind_ok (secondWrites.succeeds secondResult _), run_pure, shows,
            Fragment.size_bind, Fragment.bind_congr same, Fragment.bind_append]

theorem map {pass : Pass α'} {step : Except RenderError β'} {combine : α' → α} {make : β' → β}
    (writes : Writes settings shown' fragment' pass step)
    (shows : ∀ value bound, shown bound (make value) = combine (shown' bound value))
    (slots : ∀ value, (fragment (make value)).slots = (fragment' value).slots) :
    Writes settings shown fragment (do let text ← pass; return combine text)
      (do let value ← step; return make value) := by
  cases result : step with
  | error error =>
      refine of_error fun before => ?_
      obtain ⟨bound, run⟩ := writes.fails result before
      exact ⟨bound, run_bind_error run _⟩
  | ok value =>
      refine of_ok fun before => ?_
      rw [run_bind_ok (writes.succeeds result before), run_pure, shows,
        Fragment.bind_congr (slots value)]

/-- A pass writes what is made of a result if that is shown alike. -/
theorem made {pass : Pass α} {step : Except RenderError β'} {shown' : Nat → β' → α}
    {make : β' → β} (writes : Writes settings shown' fragment' pass step)
    (shows : ∀ value bound, shown bound (make value) = shown' bound value)
    (slots : ∀ value, (fragment (make value)).slots = (fragment' value).slots) :
    Writes settings shown fragment pass (do let value ← step; return make value) := by
  have mapped : Writes settings shown fragment (do let text ← pass; return id text)
      (do let value ← step; return make value) := writes.map shows slots
  have same : (do let text ← pass; return id text) = pass := bind_pure pass
  rwa [same] at mapped

/-- A pass for each item of a list. -/
theorem mapM {items : List γ} {pass : γ → Pass String} {step : γ → Except RenderError β}
    (each : ∀ item, WritesText settings fragment (pass item) (step item)) :
    Writes settings (fun bound values => Fragment.texts settings bound (values.map fragment))
      (fun values => values.flatMap fragment) (items.mapM pass) (items.mapM step) := by
  induction items with
  | nil => exact pure (fun _ => rfl) rfl
  | cons item rest ih =>
      rw [List.mapM_cons, List.mapM_cons]
      refine pair (each item) ih (fun _ _ _ => rfl) fun left right => ?_
      rw [List.flatMap_cons, Fragment.slots_append]

end Writes

end Pass

/-!
## Rolling back
-/

namespace Parameters

def truncate (parameters : Parameters) (size : Nat) : Parameters :=
  ⟨parameters.toList.take size⟩

/-- Taking back what a fragment has bound leaves the parameters there were. -/
theorem truncate_bind (settings : Settings) (fragment : Fragment) (parameters : Parameters) :
    (fragment.bind settings parameters).truncate parameters.size = parameters := by
  rw [truncate, Fragment.bind_toList, size, List.take_left]

end Parameters

namespace Pass

variable {β γ : Type} {settings : Settings} {fragment : β → Fragment} {pass : Pass String}
  {step : Except RenderError β}

/-- Keep what a pass has bound only if it succeeds. -/
def rolledBack (pass : Pass String) : Pass String := fun before =>
  match pass.run before with
  | (.ok text, after) => (.ok text, after)
  | (.error error, after) => (.error error, after.truncate before.size)

/-- A pass writes the results of a step and leaves the parameters as they were when the step
fails. -/
def Atomic (settings : Settings) (fragment : β → Fragment) (pass : Pass String)
    (step : Except RenderError β) : Prop :=
  ∀ before, pass.run before =
    match step with
    | .ok value =>
      (.ok ((fragment value).text settings before.size), (fragment value).bind settings before)
    | .error error => (.error error, before)

namespace Writes

theorem rolledBack (writes : WritesText settings fragment pass step) :
    Atomic settings fragment pass.rolledBack step := by
  intro before
  have run : pass.rolledBack.run before =
      match pass.run before with
      | (.ok text, after) => (.ok text, after)
      | (.error error, after) => (.error error, after.truncate before.size) := rfl
  cases result : step with
  | ok value => rw [run, writes.succeeds result]
  | error error =>
      obtain ⟨bound, failed⟩ := writes.fails result before
      rw [run, failed]
      simp only [Parameters.truncate_bind]

theorem atomic_of_inline (writes : WritesText settings fragment pass step)
    (inlines : settings.useParameters = false) : Atomic settings fragment pass step := by
  intro before
  cases result : step with
  | ok value => exact writes.succeeds result before
  | error error =>
      obtain ⟨bound, run⟩ := writes.fails result before
      rw [run, Fragment.bind, inlines]
      rfl

theorem atomic_of_ok (writes : WritesText settings fragment pass step)
    (total : ∃ value, step = .ok value) : Atomic settings fragment pass step := by
  intro before
  obtain ⟨value, result⟩ := total
  rw [result]
  exact writes.succeeds result before

end Writes

namespace Atomic

theorem pure {given : String} {value : β}
    (shows : ∀ bound, (fragment value).text settings bound = given)
    (silent : (fragment value).slots = []) :
    Atomic settings fragment (Pure.pure given) (.ok value) := by
  have writes : WritesText settings fragment (Pure.pure given) (.ok value) := .pure shows silent
  exact fun before => writes.succeeds rfl before

theorem failed (error : RenderError) :
    Atomic settings fragment (of (.error error)) (.error error) :=
  fun _ => rfl

theorem after {check : Except RenderError γ} {next : γ → Pass String}
    {nextStep : γ → Except RenderError β}
    (each : ∀ value, check = .ok value →
      Atomic settings fragment (next value) (nextStep value)) :
    Atomic settings fragment (of check >>= next) (check >>= nextStep) := by
  cases result : check with
  | ok value => exact each value result
  | error error => exact failed error

theorem map {fragment' : γ → Fragment} {step' : Except RenderError γ} {combine : String → String}
    {make : γ → β} (atomic : Atomic settings fragment' pass step')
    (shows : ∀ value bound,
      (fragment (make value)).text settings bound = combine ((fragment' value).text settings bound))
    (slots : ∀ value, (fragment (make value)).slots = (fragment' value).slots) :
    Atomic settings fragment (do let text ← pass; return combine text)
      (do let value ← step'; return make value) := by
  intro before
  have run := atomic before
  cases result : step' with
  | ok value =>
      rw [result] at run
      rw [run_bind_ok run, run_pure, ← shows, ← Fragment.bind_congr (slots value)]
      rfl
  | error error =>
      rw [result] at run
      rw [run_bind_error run]
      rfl

end Atomic

end Pass

end QueryText
