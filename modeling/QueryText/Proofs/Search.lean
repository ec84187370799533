import Mathlib.Data.List.Infix
import QueryText.Proofs.Selection

/-!
# Text searches

A search for the texts that start with, end with or contain a given text has a pattern with percent
signs at one or both ends. All these texts fit the pattern. Others fit it too exactly if the given
text has wildcards itself, which keep their meaning.
-/

set_option autoImplicit false

namespace QueryText

/-!
## Patterns
-/

namespace Text

def isWildcard (character : Char) : Bool :=
  character == '%' || character == '_'

/-- Whether a text fits a pattern, as standard SQL has it. A percent sign stands for any characters
and an underscore for any one of them. There is no character that escapes them. -/
inductive Matches : List Char → List Char → Prop where
  | nil : Matches [] []
  | any {pattern rest : List Char} (skipped : List Char) :
      Matches pattern rest → Matches ('%' :: pattern) (skipped ++ rest)
  | one {pattern rest : List Char} (character : Char) :
      Matches pattern rest → Matches ('_' :: pattern) (character :: rest)
  | same {character : Char} {pattern rest : List Char} :
      isWildcard character = false → Matches pattern rest →
      Matches (character :: pattern) (character :: rest)

/-- The matching of a text with a pattern, tried out. -/
def fits : List Char → List Char → Bool
  | [], text => text.isEmpty
  | mark :: pattern, text =>
    if mark = '%' then text.tails.any fun rest => fits pattern rest
    else
      match text with
      | [] => false
      | character :: rest => (mark == '_' || mark == character) && fits pattern rest

variable {pattern text : List Char} {character mark : Char}

theorem matches_nil_iff : Matches [] text ↔ text = [] := by
  constructor
  · rintro ⟨⟩
    rfl
  · rintro rfl
    exact .nil

theorem matches_any_iff :
    Matches ('%' :: pattern) text ↔ ∃ rest, rest <:+ text ∧ Matches pattern rest := by
  constructor
  · intro matched
    cases matched with
    | any skipped matched => exact ⟨_, List.suffix_append .., matched⟩
    | same ordinary => cases ordinary
  · rintro ⟨rest, ⟨skipped, rfl⟩, matched⟩
    exact .any skipped matched

theorem matches_cons_iff (single : mark ≠ '%') :
    Matches (mark :: pattern) text ↔
      ∃ character rest, text = character :: rest ∧ (mark = '_' ∨ mark = character) ∧
        Matches pattern rest := by
  constructor
  · intro matched
    cases matched with
    | any => exact absurd rfl single
    | one character matched => exact ⟨character, _, rfl, .inl rfl, matched⟩
    | same _ matched => exact ⟨_, _, rfl, .inr rfl, matched⟩
  · rintro ⟨character, rest, rfl, mark_eq, matched⟩
    by_cases anyOne : mark = '_'
    · rw [anyOne]
      exact .one character matched
    · obtain rfl := mark_eq.resolve_left anyOne
      exact .same (by simp [isWildcard, single, anyOne]) matched

theorem fits_iff : fits pattern text = true ↔ Matches pattern text := by
  induction pattern generalizing text with
  | nil => rw [fits, List.isEmpty_iff, matches_nil_iff]
  | cons mark pattern ih =>
      unfold fits
      split
      · next anyMark =>
        rw [anyMark, matches_any_iff, List.any_eq_true]
        simp only [List.mem_tails, ih]
      · next single =>
        rw [matches_cons_iff single]
        cases text with
        | nil => simp
        | cons character rest => simp [ih]

instance (pattern text : List Char) : Decidable (Matches pattern text) :=
  decidable_of_iff _ fits_iff

theorem Matches.append {first second front back : List Char} (left : Matches first front)
    (right : Matches second back) : Matches (first ++ second) (front ++ back) := by
  induction left with
  | nil => exact right
  | any skipped _ ih =>
      rw [List.append_assoc]
      exact .any skipped ih
  | one character _ ih => exact .one character ih
  | same ordinary _ ih => exact .same ordinary ih

/-- Two patterns in a row divide a text between them. -/
theorem matches_append_iff {first second : List Char} :
    Matches (first ++ second) text ↔
      ∃ front back, front ++ back = text ∧ Matches first front ∧ Matches second back := by
  constructor
  · intro matched
    induction first generalizing text with
    | nil => exact ⟨[], text, rfl, .nil, matched⟩
    | cons mark first ih =>
        cases matched with
        | any skipped matched =>
            obtain ⟨front, back, rfl, left, right⟩ := ih matched
            exact ⟨skipped ++ front, back, List.append_assoc .., .any skipped left, right⟩
        | one character matched =>
            obtain ⟨front, back, rfl, left, right⟩ := ih matched
            exact ⟨character :: front, back, rfl, .one character left, right⟩
        | same ordinary matched =>
            obtain ⟨front, back, rfl, left, right⟩ := ih matched
            exact ⟨mark :: front, back, rfl, .same ordinary left, right⟩
  · rintro ⟨front, back, rfl, left, right⟩
    exact left.append right

theorem matches_all (text : List Char) : Matches ['%'] text := by
  have matched := Matches.any text .nil
  rwa [List.append_nil] at matched

/-- A wildcard stands for itself among others. -/
theorem matches_self (text : List Char) : Matches text text := by
  induction text with
  | nil => exact .nil
  | cons character rest ih =>
      by_cases anyMark : character = '%'
      · rw [anyMark]
        exact .any ['%'] ih
      · exact (matches_cons_iff anyMark).mpr ⟨character, rest, rfl, .inr rfl, ih⟩

theorem matches_plain_iff (plain : ∀ character ∈ pattern, isWildcard character = false) :
    Matches pattern text ↔ text = pattern := by
  constructor
  · intro matched
    induction matched with
    | nil => rfl
    | any | one => cases plain _ (List.mem_cons_self ..)
    | same _ _ ih => rw [ih fun character member => plain character (List.mem_cons_of_mem _ member)]
  · rintro rfl
    exact matches_self text

/-- A text that fits a pattern and has no wildcards. -/
def plainInstance : List Char → List Char
  | [] => []
  | mark :: pattern =>
    if mark = '%' then plainInstance pattern
    else (if mark = '_' then 'x' else mark) :: plainInstance pattern

theorem matches_plainInstance (pattern : List Char) : Matches pattern (plainInstance pattern) := by
  induction pattern with
  | nil => exact .nil
  | cons mark pattern ih =>
      rw [plainInstance]
      split
      · next anyMark =>
        rw [anyMark]
        exact .any [] ih
      · next single =>
        refine (matches_cons_iff single).mpr ⟨_, _, rfl, ?_, ih⟩
        split
        · next anyOne => exact .inl anyOne
        · exact .inr rfl

theorem isWildcard_plainInstance (pattern : List Char) :
    ∀ character ∈ plainInstance pattern, isWildcard character = false := by
  induction pattern with
  | nil => exact fun _ member => nomatch member
  | cons mark pattern ih =>
      rw [plainInstance]
      split
      · exact ih
      · next single =>
        refine List.forall_mem_cons.mpr ⟨?_, ih⟩
        split
        · decide
        · next other => simp [isWildcard, single, other]

end Text

/-!
## Kinds of searches
-/

namespace TextSearch

/-- Whether a text is where a search looks for it: at the start, at the end or somewhere inside. A
search for a pattern looks at the whole. -/
def Finds : TextSearch → List Char → List Char → Prop
  | .startsWith, text, found => text <+: found
  | .endsWith, text, found => text <:+ found
  | .contains, text, found => text <:+: found
  | .pattern, text, found => text = found

instance (kind : TextSearch) (text found : List Char) : Decidable (kind.Finds text found) :=
  match kind with
  | .startsWith => inferInstanceAs (Decidable (text <+: found))
  | .endsWith => inferInstanceAs (Decidable (text <:+ found))
  | .contains => inferInstanceAs (Decidable (text <:+: found))
  | .pattern => inferInstanceAs (Decidable (text = found))

variable {kind : TextSearch} {text : String} {part found : List Char}

theorem Finds.subset (finds : kind.Finds part found) : part ⊆ found := by
  cases kind with
  | startsWith => exact List.IsPrefix.subset finds
  | endsWith => exact List.IsSuffix.subset finds
  | contains => exact List.IsInfix.subset finds
  | pattern => exact finds ▸ List.Subset.refl part

theorem finds_self (kind : TextSearch) (text : List Char) : kind.Finds text text := by
  cases kind with
  | startsWith => exact List.prefix_refl text
  | endsWith => exact List.suffix_refl text
  | contains => exact List.infix_refl text
  | pattern => rfl

/-- A text fits the pattern of a search exactly if a part of it that is in the right place fits the
searched text. -/
theorem matches_apply_iff :
    Text.Matches (kind.apply text).toList found ↔
      ∃ part, kind.Finds part found ∧ Text.Matches text.toList part := by
  cases kind with
  | startsWith =>
      rw [apply, String.toList_append, Text.matches_append_iff]
      constructor
      · rintro ⟨front, back, rfl, fitting, _⟩
        exact ⟨front, List.prefix_append front back, fitting⟩
      · rintro ⟨front, ⟨back, rfl⟩, fitting⟩
        exact ⟨front, back, rfl, fitting, Text.matches_all back⟩
  | endsWith =>
      rw [apply, String.toList_append, Text.matches_append_iff]
      constructor
      · rintro ⟨front, back, rfl, _, fitting⟩
        exact ⟨back, List.suffix_append front back, fitting⟩
      · rintro ⟨back, ⟨front, rfl⟩, fitting⟩
        exact ⟨front, back, rfl, Text.matches_all front, fitting⟩
  | contains =>
      rw [apply, String.toList_append, String.toList_append, Text.matches_append_iff]
      simp only [Text.matches_append_iff]
      constructor
      · rintro ⟨_, back, rfl, ⟨front, middle, rfl, _, fitting⟩, _⟩
        exact ⟨middle, List.infix_append front middle back, fitting⟩
      · rintro ⟨middle, ⟨front, back, rfl⟩, fitting⟩
        exact ⟨front ++ middle, back, rfl, ⟨front, middle, rfl, Text.matches_all front, fitting⟩,
          Text.matches_all back⟩
  | pattern =>
      constructor
      · exact fun fitting => ⟨found, rfl, fitting⟩
      · rintro ⟨_, rfl, fitting⟩
        exact fitting

/-- No text is missed that is where the search looks for it. -/
theorem matches_of_finds (finds : kind.Finds text.toList found) :
    Text.Matches (kind.apply text).toList found :=
  matches_apply_iff.mpr ⟨text.toList, finds, Text.matches_self text.toList⟩

/-- Nothing else is found exactly if the searched text has no wildcards. -/
theorem matches_only_iff :
    (∀ found, Text.Matches (kind.apply text).toList found ↔ kind.Finds text.toList found) ↔
      ∀ character ∈ text.toList, Text.isWildcard character = false := by
  constructor
  · intro exactly character member
    -- The pattern fits an instance of the text that has no wildcards left.
    have instanceFits := matches_apply_iff.mpr
      ⟨_, finds_self kind (Text.plainInstance text.toList), Text.matches_plainInstance text.toList⟩
    have inside := ((exactly _).mp instanceFits).subset member
    exact Text.isWildcard_plainInstance text.toList character inside
  · intro plain found
    rw [matches_apply_iff]
    simp only [Text.matches_plain_iff plain, exists_eq_right]

end TextSearch

/-!
## Searched rows
-/

/-- A database that has a datum for every text, reads it from what is bound or written for the text,
and finds texts as standard SQL has it. -/
structure Database.SearchesTexts {Datum : Type} (database : Database Datum) (settings : Settings)
    (ofText : String → Datum) : Prop where
  slotDatum {slot : Slot} {text : String} :
    slot.value = .text text → settings.slotDatum database slot = some (ofText text)
  resembles {found pattern : String} :
    database.resembles (ofText found) (ofText pattern) = true ↔
      Text.Matches pattern.toList found.toList

/-- A text takes its place beside an untyped column or one of texts as it is. -/
theorem Context.partnerSlot_text {context : Context} {text : String} {column : ResolvedColumn}
    {coerced : Bool} {slot : Slot}
    (typed : column.dataType = none ∨ column.dataType = some .string)
    (placed : context.partnerSlot (.text text) (some column) coerced = .ok slot) :
    slot = ⟨column.name, .text text, .string⟩ := by
  obtain ⟨name, dataType⟩ := column
  rcases typed with rfl | rfl
  · exact slot_eq placed
  · cases coerced with
    | false => exact slot_eq placed
    | true =>
        obtain ⟨_, same, made⟩ := Result.bind_eq_ok_iff.mp placed
        cases same
        exact slot_eq made

namespace Clause

/-- A search misses no text that is where it looks, and it finds others exactly if the searched text
has wildcards. A rendered search binds the pattern of the search, and it selects a row exactly if
the text in its column fits this pattern. -/
theorem render_search_finds (kind : TextSearch) (text : String) :
    (∀ found, kind.Finds text.toList found → Text.Matches (kind.apply text).toList found) ∧
    ((∀ found, Text.Matches (kind.apply text).toList found ↔ kind.Finds text.toList found) ↔
      ∀ character ∈ text.toList, Text.isWildcard character = false) ∧
    ∀ {settings : Settings} {scope : Option Scope} {entity : Option Entity} {operand pattern : Expr}
      {before after : Parameters} {sql : String},
      (predicate (.like kind operand pattern)).render settings scope entity before =
        .ok (sql, after) →
      (settings.context scope entity).operand pattern = .ok (.value (.text text)) →
      ∃ column, (settings.context scope entity).operand operand = .ok (.column column) ∧
        (settings.useParameters = true →
          after = before.bind column.name (.text (kind.apply text)) .string) ∧
        ∀ {Datum : Type} {database : Database Datum} {ofText : String → Datum},
          database.SearchesTexts settings ofText → ∀ (cells : Cells Datum) (found : String),
          settings.dialect.cell cells column.name = some (ofText found) →
          (database.Selects settings.dialect cells (sql, after) ↔
            Text.Matches (kind.apply text).toList found.toList) := by
  refine ⟨fun found => TextSearch.matches_of_finds, TextSearch.matches_only_iff, ?_⟩
  intro settings scope entity operand pattern before after sql success computed
  obtain ⟨condition, lowered, _, bound⟩ := render_predicate_eq_ok_iff.mp success
  have condition_eq := lowered.complete
  cases lowered with
  | @like _ _ _ column other slot operandClassified typed patternClassified placed =>
      obtain rfl : other = text := by
        cases patternClassified.complete.symm.trans computed
        rfl
      obtain rfl := Context.partnerSlot_text typed placed
      refine ⟨column, operandClassified.complete, ?_, ?_⟩
      · intro binds
        rw [← bound, Fragment.bind, if_pos binds]
        rfl
      · intro Datum database ofText searches cells found cell
        rw [selects_iff success condition_eq database cells, Condition.truthValue, cell,
          searches.slotDatum rfl, Database.found, Truth.ofBool_eq_holds_iff, searches.resembles]

/-- A database of texts, which it compares by code point. -/
def sampleTexts : Database String where
  literal _ := none
  parameter := Value.text?
  compares op left right := op.accepts (compare left right)
  computes _ _ _ := none
  resembles found pattern := decide (Text.Matches pattern.toList found.toList)
  literal_null := rfl
  parameter_null := rfl
  compares_ne _ _ := rfl

/-- The search for what starts with `a_c` selects this name, and also one that starts otherwise. -/
theorem render_search_finds_sampleUnderscore :
    let search := Expr.like .startsWith (.property "Name") (.literal (.text "a_c"))
    let named : String → Cells String := fun name _ => some name
    ∃ rendered, (predicate search).render .standard none none .empty = .ok rendered ∧
      rendered.2 = Parameters.empty.bind "Name" (.text "a_c%") .string ∧
      sampleTexts.Selects .sqlServer (named "a_cd") rendered ∧
      sampleTexts.Selects .sqlServer (named "abcd") rendered ∧
      ¬sampleTexts.Selects .sqlServer (named "acd") rendered ∧
      ¬TextSearch.startsWith.Finds "a_c".toList "abcd".toList := by
  intro search named
  obtain ⟨⟨sql, after⟩, success⟩ : ∃ rendered,
      (predicate search).render .standard none none .empty = .ok rendered := ⟨_, rfl⟩
  have searches : sampleTexts.SearchesTexts .standard id :=
    { slotDatum := fun {slot text} value => by
        rw [Settings.slotDatum, value]
        rfl
      resembles := decide_eq_true_iff }
  obtain ⟨_, _, rows⟩ := render_search_finds .startsWith "a_c"
  obtain ⟨column, operandOk, bound, selects⟩ := rows success rfl
  cases operandOk
  refine ⟨_, success, bound rfl, ?_, ?_, ?_, by decide⟩
  · exact (selects searches (named "a_cd") "a_cd" rfl).mpr (by decide)
  · exact (selects searches (named "abcd") "abcd" rfl).mpr (by decide)
  · intro selected
    exact absurd ((selects searches (named "acd") "acd" rfl).mp selected) (by decide)

end Clause

end QueryText
