import QueryText.Proofs.Layout

/-!
# Markers

A reader who knows nothing of fragments finds the parameters of a statement by their markers: a
sign outside of all quotes, with the name characters behind it. What he finds are the names of the
bound parameters, each once and in their order, whatever signs the names and values of the caller
hold.
-/

set_option autoImplicit false

namespace QueryText

def isMarkerSign (character : Char) : Bool :=
  "@?:".toList.contains character

namespace Lexeme

def nameRun : List Lexeme → List Char
  | .plain character :: rest =>
    if isNameCharacter character then character :: nameRun rest else []
  | _ => []

def markers : List Lexeme → List String
  | [] => []
  | .plain character :: rest =>
    if isMarkerSign character then String.ofList (nameRun rest) :: markers rest else markers rest
  | _ :: rest => markers rest

variable {front rest : List Lexeme}

theorem markers_silent (silent : ∀ character ∈ plains front, isMarkerSign character = false) :
    markers (front ++ rest) = markers rest := by
  induction front with
  | nil => rfl
  | cons lexeme front ih =>
      cases lexeme with
      | plain character =>
          rw [plains_plain, List.forall_mem_cons] at silent
          rw [List.cons_append, markers, silent.1]
          exact ih silent.2
      | name content | text content => exact ih silent

theorem nameRun_append {name : List Char}
    (inName : ∀ character ∈ name, isNameCharacter character = true)
    (ends : ∀ character, rest.head? = some (.plain character) → isNameCharacter character = false) :
    nameRun (name.map .plain ++ rest) = name := by
  induction name with
  | nil =>
      cases rest with
      | nil => rfl
      | cons lexeme rest =>
          cases lexeme with
          | plain character => simp [nameRun, ends character rfl]
          | name content | text content => rfl
  | cons character name ih =>
      rw [List.forall_mem_cons] at inName
      rw [List.map_cons, List.cons_append, nameRun, inName.1, if_pos rfl, ih inName.2]

end Lexeme

theorem isMarkerSign_of_isNameCharacter {character : Char}
    (inName : isNameCharacter character = true) : isMarkerSign character = false := by
  have signs : ∀ sign ∈ "@?:".toList, isNameCharacter sign = false := by decide
  rw [Bool.eq_false_iff]
  intro sign
  exact Bool.eq_false_iff.mp (signs character (List.contains_iff_mem.mp sign)) inName

theorem Dialect.isMarkerSign_of_isTermCharacter {character : Char}
    (inTerm : Dialect.isTermCharacter character = true) : isMarkerSign character = false := by
  have signs : ∀ sign ∈ "@?:".toList, Dialect.isTermCharacter sign = false := by decide
  rw [Bool.eq_false_iff]
  intro sign
  exact Bool.eq_false_iff.mp (signs character (List.contains_iff_mem.mp sign)) inTerm

theorem Dialect.literal_silent (dialect : Dialect) {value : Value}
    (writable : value.hasLiteral = true) :
    ∀ character ∈ Lexeme.plains (dialect.literalLexemes value), isMarkerSign character = false := by
  obtain ⟨body, written, _, inTerm⟩ := dialect.literalLexemes_eq writable
  rw [written, Lexeme.plains_append]
  refine List.forall_mem_append.mpr ⟨by cases value.isNegative <;> decide, ?_⟩
  exact fun character member => Dialect.isMarkerSign_of_isTermCharacter (inTerm character member)

theorem Dialect.isMarkerSign_markerSign (dialect : Dialect) :
    isMarkerSign dialect.markerSign = true := by
  cases dialect <;> decide

namespace Fragment

variable {settings : Settings} {fragment : Fragment}

private theorem markers_literal {dialect : Dialect} {value : Value} {rest : List Lexeme}
    (writable : value.hasLiteral = true) :
    Lexeme.markers (dialect.literalLexemes value ++ rest) = Lexeme.markers rest :=
  Lexeme.markers_silent (dialect.literal_silent writable)

private theorem markers_marker (dialect : Dialect) {base : String} {position : Nat}
    {rest : List Lexeme}
    (ends : ∀ character, rest.head? = some (.plain character) → isNameCharacter character = false) :
    Lexeme.markers
        ((dialect.markerSign :: (parameterName base position).toList).map .plain ++ rest) =
      parameterName base position :: Lexeme.markers rest := by
  have inName := parameterName_nameCharacter base position
  have sign := dialect.isMarkerSign_markerSign
  have silent : Lexeme.markers ((parameterName base position).toList.map .plain ++ rest) =
      Lexeme.markers rest := by
    refine Lexeme.markers_silent ?_
    rw [Lexeme.plains_map_plain]
    exact fun character member => isMarkerSign_of_isNameCharacter (inName character member)
  rw [List.map_cons, List.cons_append, Lexeme.markers, if_pos sign,
    Lexeme.nameRun_append inName ends, silent, String.ofList_toList]

private theorem markers_calm {text : String} {rest : List Lexeme}
    (calm : Text.isCalm text.toList = true) :
    Lexeme.markers (text.toList.map .plain ++ rest) = Lexeme.markers rest := by
  refine Lexeme.markers_silent fun character member => ?_
  rw [Lexeme.plains_map_plain] at member
  have inert := (Bool.and_eq_true_iff.mp (Text.isInert_of_isCalm calm character member)).2
  rw [Bool.eq_false_iff]
  intro sign
  have among : character ∈ "@?:;".toList :=
    List.mem_append_left [';'] (List.contains_iff_mem.mp sign)
  rw [List.contains_iff_mem.mpr among] at inert
  cases inert

/-- The names of the parameters that slots become behind `bound` others in the mode of the
settings. -/
private def names (settings : Settings) (bound : Nat) (slots : List Slot) : List String :=
  if settings.useParameters then (Slot.parametersFrom bound slots).map Parameter.name else []

private theorem markers_slot {slot : Slot} (parted : isParted fragment = true)
    (literal : settings.useParameters = false → slot.value.hasLiteral = true)
    (named : ∀ bound, Lexeme.markers (fragment.lexemes settings bound) =
      names settings bound fragment.slots) (bound : Nat) :
    Lexeme.markers (lexemes settings bound (.slot slot :: fragment)) =
      names settings bound (slot :: fragment.slots) := by
  have delimiters : ∀ character ∈ " ,)=+-".toList, isNameCharacter character = false := by decide
  rw [lexemes, Settings.slotLexemes, Settings.after]
  by_cases binds : settings.useParameters = true
  · have ends : ∀ character,
        (fragment.lexemes settings (bound + 1)).head? = some (.plain character) →
        isNameCharacter character = false := by
      intro character head
      obtain ⟨_, same, delimits⟩ := lexemes_parted parted (bound + 1) _ head
      cases same
      exact delimiters character (List.contains_iff_mem.mp delimits)
    rw [if_pos binds, if_pos binds, List.length_singleton, markers_marker _ ends, named, names,
      names, if_pos binds, if_pos binds]
    rfl
  · rw [if_neg binds, if_neg binds, markers_literal (literal (Bool.eq_false_iff.mpr binds)), named,
      names, names, if_neg binds, if_neg binds]

theorem markers_lexemes (spaced : Spaced true fragment)
    (writable : settings.useParameters = false → fragment.Writable) (bound : Nat) :
    Lexeme.markers (fragment.lexemes settings bound) =
      if settings.useParameters then
        (Slot.parametersFrom bound fragment.slots).map Parameter.name
      else [] := by
  change _ = names settings bound fragment.slots
  induction spaced generalizing bound with
  | nil => simp [lexemes, Lexeme.markers, names, Slot.parametersFrom]
  | fixed calm _ ih =>
      rw [lexemes, markers_calm calm, slots_fixed]
      exact ih writable bound
  | subtracted _ parted _ ih =>
      have minus : ∀ character ∈ Lexeme.plains ("-".toList.map .plain),
          isMarkerSign character = false := by decide
      rw [lexemes, Lexeme.markers_silent minus, slots_fixed, slots_slot]
      exact markers_slot parted (fun inlines => (writable_slot.mp (writable inlines)).1)
        (ih fun inlines => (writable_slot.mp (writable inlines)).2) bound
  | @name name rest parted _ ih =>
      have points : ∀ character ∈ Lexeme.plains (settings.dialect.nameLexemes name),
          isMarkerSign character = false := by
        intro character member
        rw [Dialect.plains_nameLexemes name character member]
        decide
      rw [lexemes, Lexeme.markers_silent points, slots_name]
      exact ih writable bound
  | slot parted _ ih =>
      exact markers_slot parted (fun inlines => (writable_slot.mp (writable inlines)).1)
        (ih fun inlines => (writable_slot.mp (writable inlines)).2) bound
  | now parted _ ih =>
      have silent : ∀ character ∈ Lexeme.plains settings.dialect.nowLexemes,
          isMarkerSign character = false := fun character member =>
        Dialect.isMarkerSign_of_isTermCharacter (Dialect.plains_nowLexemes character member)
      rw [lexemes, Lexeme.markers_silent silent, slots_now]
      exact ih writable bound

end Fragment

namespace Request

/-- The markers outside of all quotes are the names of the bound parameters, in their order. A
statement without parameters has no markers. -/
theorem markers_eq_names {request : Request} {rendered : Rendered}
    (success : request.outcome = .ok rendered) :
    ∃ lexemes, request.settings.dialect.lexemes? rendered.sql.toList = some lexemes ∧
      Lexeme.markers lexemes = rendered.parameters.names := by
  obtain ⟨fragment, written, rfl⟩ := outcome_eq_ok_iff.mp success
  refine ⟨_, lexemes?_rendered written, ?_⟩
  rw [Fragment.markers_lexemes (fragment_spaced written) (fragment_writable written),
    Parameters.names, parameters_rendered]
  split <;> rfl

/-- A row whose table, column and value hold marker signs and quotes. -/
def sampleInsert : Request :=
  .insert
    { table := "t@1]"
      assignments := [.set "a?b.c" (.text "it's :x"), .now "d", .set "e@" (.int32 4)]
      settings := { dialect := .postgreSql } }

theorem markers_eq_names_sampleInsert :
    ∃ rendered lexemes, sampleInsert.outcome = .ok rendered ∧
      sampleInsert.settings.dialect.lexemes? rendered.sql.toList = some lexemes ∧
      Lexeme.markers lexemes = ["a_b_c_0", "e__1"] := by
  obtain ⟨rendered, success, named⟩ : ∃ rendered, sampleInsert.outcome = .ok rendered ∧
      rendered.parameters.names = ["a_b_c_0", "e__1"] := ⟨_, rfl, by decide⟩
  obtain ⟨lexemes, read, same⟩ := markers_eq_names success
  exact ⟨rendered, lexemes, success, read, same.trans named⟩

end Request

end QueryText
