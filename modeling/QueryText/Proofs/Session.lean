import QueryText.Proofs.InPlace

/-!
# Clauses that share parameters

What a sequence of clauses leaves in the parameters that they share. Every clause binds behind the
parameters of those before it, and the name of a parameter ends in its position. So names can only
meet when positions do, whatever the columns are called that lend their names.
-/

set_option autoImplicit false

namespace QueryText

/-!
## Numbered parameters
-/

namespace Slot

theorem parametersFrom_getElem? {position index : Nat} {slots : List Slot} {parameter : Parameter}
    (found : (parametersFrom position slots)[index]? = some parameter) :
    ∃ slot : Slot, parameter = slot.parameter (position + index) := by
  induction slots generalizing position index with
  | nil => simp [parametersFrom] at found
  | cons slot rest ih =>
      cases index with
      | zero => exact ⟨slot, (Option.some.inj found).symm⟩
      | succ index =>
          have behind : (parametersFrom (position + 1) rest)[index]? = some parameter := found
          obtain ⟨other, same⟩ := ih behind
          exact ⟨other, by rw [same, Nat.add_right_comm, Nat.add_assoc]⟩

end Slot

namespace Parameters

/-- The name of every parameter ends in its position. -/
def Numbered (parameters : Parameters) : Prop :=
  ∀ position parameter, parameters.get? position = some parameter →
    ∃ base, parameter.name = parameterName base position

theorem numbered_empty : empty.Numbered := nofun

variable {parameters : Parameters}

theorem Numbered.bind (numbered : parameters.Numbered) (settings : Settings)
    (fragment : Fragment) : (fragment.bind settings parameters).Numbered := by
  intro position parameter found
  rw [get?, Fragment.bind_toList] at found
  by_cases before : position < parameters.size
  · rw [List.getElem?_append_left before] at found
    exact numbered position parameter found
  · rw [List.getElem?_append_right (Nat.le_of_not_lt before)] at found
    split at found
    · obtain ⟨slot, rfl⟩ := Slot.parametersFrom_getElem? found
      have behind : parameters.size + (position - parameters.toList.length) = position :=
        Nat.add_sub_cancel' (Nat.le_of_not_lt before)
      exact ⟨slot.base, by rw [behind, Slot.parameter]⟩
    · cases found

theorem Numbered.nameCharacters (numbered : parameters.Numbered) :
    ∀ name ∈ parameters.names, ∀ character ∈ name.toList, isNameCharacter character = true := by
  intro name member
  obtain ⟨parameter, bound, rfl⟩ := List.mem_map.mp member
  obtain ⟨position, found⟩ := List.mem_iff_getElem?.mp bound
  obtain ⟨base, named⟩ := numbered position parameter found
  rw [named]
  exact parameterName_nameCharacter base position

private theorem toLower_digit {character : Char} (digit : character.isDigit = true) :
    character.toLower = character := by
  refine dif_neg fun upper => ?_
  simp only [Char.isDigit, Bool.and_eq_true, decide_eq_true_eq] at digit
  exact absurd (UInt32.le_trans upper.1 digit.2) (by decide)

private theorem toList_toLower (text : String) :
    text.toLower.toList = text.toList.map Char.toLower :=
  String.toList_map

private theorem toLower_parameterName (base : String) (position : Nat) :
    (parameterName base position).toLower.toList =
      (markerBase base).toList.map Char.toLower ++ '_' :: Nat.toDigits 10 position := by
  have digits : (Nat.toDigits 10 position).map Char.toLower = Nat.toDigits 10 position := by
    refine (List.map_congr_left fun character member => ?_).trans (List.map_id _)
    exact toLower_digit (Nat.isDigit_of_mem_toDigits (by decide) (by decide) member)
  simp [toList_toLower, parameterName, Nat.toList_repr, digits]

/-- Names that end in their positions differ, also without regard to the case of their letters. -/
theorem Numbered.distinct (numbered : parameters.Numbered) :
    (parameters.names.map String.toLower).Nodup := by
  rw [names, List.map_map]
  refine List.pairwise_map.mpr (List.pairwise_iff_getElem.mpr ?_)
  intro left right leftBound rightBound before same
  obtain ⟨base, leftName⟩ := numbered left _ (List.getElem?_eq_getElem leftBound)
  obtain ⟨other, rightName⟩ := numbered right _ (List.getElem?_eq_getElem rightBound)
  have texts := congrArg String.toList same
  rw [Function.comp, Function.comp, leftName, rightName, toLower_parameterName,
    toLower_parameterName] at texts
  exact Nat.ne_of_lt before (Text.position_unique texts)

end Parameters

/-!
## Sequences of renderings
-/

/-- A clause with what it is written with. -/
structure Rendering where
  writer : Writer
  clause : Clause

namespace Rendering

def run (rendering : Rendering) (before : Parameters) : Except RenderError String × Parameters :=
  (rendering.writer.write rendering.clause).run before

/-- The parameters after a sequence of renderings, some of which may have failed. -/
def parametersAfter (renderings : List Rendering) : Parameters :=
  renderings.foldl (fun parameters rendering => (rendering.run parameters).2) .empty

/-- A rendering binds the slots of a fragment if it succeeds, and nothing if it fails. -/
theorem run_cases (rendering : Rendering) (before : Parameters) :
    (∃ text fragment, rendering.run before =
      (.ok text, Fragment.bind rendering.writer.settings before fragment)) ∨
    ∃ error, rendering.run before = (.error error, before) := by
  have atomic := rendering.writer.write_atomic rendering.clause before
  rw [run, atomic]
  split
  case h_1 fragment _ => exact .inl ⟨_, fragment, rfl⟩
  case h_2 error _ => exact .inr ⟨error, rfl⟩

theorem run_numbered (rendering : Rendering) {before : Parameters} (numbered : before.Numbered) :
    (rendering.run before).2.Numbered := by
  obtain ⟨text, fragment, run⟩ | ⟨error, run⟩ := rendering.run_cases before
  · rw [run]
    exact numbered.bind _ fragment
  · rw [run]
    exact numbered

theorem parametersAfter_numbered (renderings : List Rendering) :
    (parametersAfter renderings).Numbered := by
  have each : ∀ parameters : Parameters, parameters.Numbered →
      (renderings.foldl (fun parameters rendering => (rendering.run parameters).2)
        parameters).Numbered := by
    induction renderings with
    | nil => exact fun _ numbered => numbered
    | cons rendering rest ih =>
        intro parameters numbered
        exact ih _ (rendering.run_numbered numbered)
  exact each .empty Parameters.numbered_empty

/-- Clauses that share parameters only ever append to them, and a clause that fails leaves them as
they were, though it may have bound values by then. So after any sequence of clauses the name of
each parameter ends in its position. Names are made of letters, digits and underscores, and no two
of them are the same, not even without regard to case. -/
theorem parameters_append_only (earlier : List Rendering) (next : Rendering) :
    let parameters := parametersAfter earlier
    next.run parameters =
      ((next.clause.render next.writer.settings next.writer.scope next.writer.entity
          parameters).map Prod.fst,
        next.clause.bind next.writer.settings next.writer.scope next.writer.entity parameters) ∧
    (match next.run parameters with
      | (.ok _, after) => ∃ added, after.toList = parameters.toList ++ added
      | (.error _, after) => after = parameters) ∧
    (∀ position (bound : position < parameters.size),
      ∃ base, parameters.toList[position].name = parameterName base position) ∧
    (∀ name ∈ parameters.names, ∀ character ∈ name.toList, isNameCharacter character = true) ∧
    parameters.names.Nodup ∧
    (parameters.names.map String.toLower).Nodup := by
  intro parameters
  have numbered : parameters.Numbered := parametersAfter_numbered earlier
  have written := next.writer.run_write next.clause parameters
  have distinct : parameters.names.Nodup := List.Pairwise.of_map String.toLower
    (fun _ _ different same => different (congrArg String.toLower same)) numbered.distinct
  refine ⟨written, ?_, ?_, numbered.nameCharacters, distinct, numbered.distinct⟩
  · obtain ⟨text, fragment, run⟩ | ⟨error, run⟩ := next.run_cases parameters
    · rw [run]
      exact ⟨_, Fragment.bind_toList _ _ fragment⟩
    · rw [run]
  · intro position bound
    exact numbered position _ (List.getElem?_eq_getElem bound)

end Rendering

end QueryText
