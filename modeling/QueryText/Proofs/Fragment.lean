import QueryText.Fragment

/-!
# Slots and segments of a fragment

The parameters that a fragment binds are its slots in order, named by their positions. Its text is
the same in both modes except for what fills the slots: the segments between them depend on the
dialect alone.
-/

set_option autoImplicit false

namespace QueryText

/-!
## Slots
-/

namespace Fragment

variable {left right : Fragment}

@[simp] theorem slots_nil : slots [] = [] := rfl

@[simp] theorem slots_fixed (text : String) : slots (.fixed text :: right) = slots right := rfl

@[simp] theorem slots_name (name : String) : slots (.name name :: right) = slots right := rfl

@[simp] theorem slots_now : slots (.now :: right) = slots right := rfl

@[simp] theorem slots_slot (slot : Slot) : slots (.slot slot :: right) = slot :: slots right := rfl

@[simp] theorem slots_append : slots (left ++ right) = slots left ++ slots right :=
  List.filterMap_append

@[simp] theorem slots_parenthesized : slots (parenthesized left) = slots left := by
  simp [parenthesized]

@[simp] theorem slots_joined (separator : String) (parts : List Fragment) :
    slots (joined separator parts) = parts.flatMap slots := by
  induction parts with
  | nil => rfl
  | cons part rest ih =>
      cases rest with
      | nil => simp [joined]
      | cons next rest => simp only [joined, slots_append, slots_fixed, ih, List.flatMap_cons]

theorem slots_flatMap {α : Type} (items : List α) (part : α → Fragment) :
    slots (items.flatMap part) = items.flatMap fun item => slots (part item) :=
  List.filterMap_flatMap

theorem slots_joined_slots (separator : String) (items : List Slot) :
    slots (joined separator (items.map fun item => [.slot item])) = items := by
  rw [slots_joined, List.flatMap_map]
  exact List.flatMap_singleton' items

end Fragment

/-!
## Bound parameters
-/

def Slot.parameter (slot : Slot) (position : Nat) : Parameter :=
  ⟨parameterName slot.base position, slot.value, slot.dataType⟩

/-- The parameters of slots, the first of which takes the given position. -/
def Slot.parametersFrom (position : Nat) : List Slot → List Parameter
  | [] => []
  | slot :: rest => slot.parameter position :: parametersFrom (position + 1) rest

namespace Slot

theorem parametersFrom_values (position : Nat) (slots : List Slot) :
    (parametersFrom position slots).map Parameter.value = slots.map Slot.value := by
  induction slots generalizing position with
  | nil => rfl
  | cons slot rest ih => simp only [parametersFrom, List.map_cons, ih, parameter]

theorem length_parametersFrom (position : Nat) (slots : List Slot) :
    (parametersFrom position slots).length = slots.length := by
  induction slots generalizing position with
  | nil => rfl
  | cons slot rest ih => rw [parametersFrom, List.length_cons, ih, List.length_cons]

theorem exists_of_mem_parametersFrom {position : Nat} {slots : List Slot} {parameter : Parameter}
    (member : parameter ∈ parametersFrom position slots) :
    ∃ (slot : Slot) (index : Nat), position ≤ index ∧ slot.parameter index = parameter := by
  induction slots generalizing position with
  | nil => cases member
  | cons slot rest ih =>
      rcases List.mem_cons.mp member with rfl | member
      · exact ⟨slot, position, Nat.le_refl _, rfl⟩
      · obtain ⟨other, index, behind, same⟩ := ih member
        exact ⟨other, index, by omega, same⟩

end Slot

/-- Binding appends one parameter for every slot, and inlining none. -/
theorem Fragment.bind_toList (settings : Settings) (parameters : Parameters)
    (fragment : Fragment) :
    (fragment.bind settings parameters).toList =
      parameters.toList ++
        if settings.useParameters then Slot.parametersFrom parameters.size fragment.slots
        else [] := by
  have append : ∀ (slots : List Slot) (parameters : Parameters),
      (slots.foldl (fun bound slot => bound.bind slot.base slot.value slot.dataType)
        parameters).toList =
        parameters.toList ++ Slot.parametersFrom parameters.size slots := by
    intro slots
    induction slots with
    | nil => intro parameters; simp [Slot.parametersFrom]
    | cons slot rest ih =>
        intro parameters
        have size : (parameters.bind slot.base slot.value slot.dataType).size =
            parameters.size + 1 := by
          simp [Parameters.bind, Parameters.add, Parameters.size]
        rw [List.foldl_cons, ih, size, Slot.parametersFrom]
        simp [Parameters.bind, Parameters.add, Parameters.freshName, Slot.parameter]
  unfold Fragment.bind
  by_cases binds : settings.useParameters = true
  · rw [if_pos binds, if_pos binds, append]
  · rw [if_neg binds, if_neg binds, List.append_nil]

/-!
## Segments
-/

def interleaved : List String → List String → String
  | text :: texts, filling :: fillings => text ++ filling ++ interleaved texts fillings
  | text :: _, [] => text
  | [], _ => ""

/-- The texts before, between and behind the slots of a fragment. -/
def Fragment.segments (dialect : Dialect) : Fragment → List String
  | [] => [""]
  | .fixed text :: rest => (segments dialect rest).modifyHead (text ++ ·)
  | .name name :: rest => (segments dialect rest).modifyHead (dialect.quotedName name ++ ·)
  | .now :: rest => (segments dialect rest).modifyHead (dialect.now ++ ·)
  | .slot _ :: rest => "" :: segments dialect rest

/-- What fills the slots behind `bound` parameters. -/
def Settings.fillings (settings : Settings) (bound : Nat) : List Slot → List String
  | [] => []
  | slot :: rest =>
    if settings.useParameters then
      settings.dialect.marker (parameterName slot.base bound) ::
        settings.fillings (bound + 1) rest
    else settings.dialect.literalText slot.value :: settings.fillings bound rest

theorem Settings.fillings_bound {settings : Settings} (binds : settings.useParameters = true)
    (bound : Nat) (slots : List Slot) :
    settings.fillings bound slots =
      (Slot.parametersFrom bound slots).map fun parameter =>
        settings.dialect.marker parameter.name := by
  induction slots generalizing bound with
  | nil => rfl
  | cons slot rest ih =>
      rw [Settings.fillings, if_pos binds, ih]
      rfl

theorem Settings.fillings_inline {settings : Settings} (inlines : settings.useParameters = false)
    (bound : Nat) (slots : List Slot) :
    settings.fillings bound slots =
      slots.map fun slot => settings.dialect.literalText slot.value := by
  induction slots with
  | nil => rfl
  | cons slot rest ih => simp [Settings.fillings, inlines, ih]

namespace Fragment

theorem length_segments (dialect : Dialect) (fragment : Fragment) :
    (fragment.segments dialect).length = fragment.slots.length + 1 := by
  induction fragment with
  | nil => rfl
  | cons piece rest ih => cases piece <;> simp [segments, ih]

private theorem interleaved_modifyHead (text : String) {segments : List String}
    (filled : segments ≠ []) (fillings : List String) :
    interleaved (segments.modifyHead (text ++ ·)) fillings =
      text ++ interleaved segments fillings := by
  cases segments with
  | nil => exact absurd rfl filled
  | cons first others =>
      cases fillings <;> simp [interleaved, String.append_assoc]

/-- The text of a fragment is that of its segments with its slots filled in between. -/
theorem text_eq_interleaved (settings : Settings) (bound : Nat) (fragment : Fragment) :
    fragment.text settings bound =
      interleaved (fragment.segments settings.dialect)
        (settings.fillings bound fragment.slots) := by
  have filled : ∀ fragment : Fragment, fragment.segments settings.dialect ≠ [] := by
    intro fragment empty
    have length := length_segments settings.dialect fragment
    simp [empty] at length
  induction fragment generalizing bound with
  | nil => rfl
  | cons piece rest ih =>
      cases piece with
      | fixed content =>
          rw [text, segments, slots_fixed, interleaved_modifyHead _ (filled rest), ih]
      | name name =>
          rw [text, segments, slots_name, interleaved_modifyHead _ (filled rest), ih]
      | now => rw [text, segments, slots_now, interleaved_modifyHead _ (filled rest), ih]
      | slot slot =>
          rw [text, segments, slots_slot, Settings.fillings]
          split <;> simp [interleaved, ih]

end Fragment

end QueryText
