import QueryText.Proofs.Evaluation
import QueryText.Proofs.Parsing

/-!
# The meaning of a text

What the text of a predicate says about a row: its phrase is evaluated, where a column stands for
the row's value and a marker for the value of the parameter bound under its name. A text that binds its
values means what the expression means that it was rendered from.
-/

set_option autoImplicit false

namespace QueryText

/-!
## Phrases on a row
-/

namespace Phrase

variable (valueOf : List Lexeme → Except RenderError Value)

/-- The value of an operand on a row, where `valueOf` gives the values of words. -/
def rowValue (row : Row) : Phrase → Except RenderError Value
  | .column parts => .ok (row (String.ofList (List.intercalate ['.'] parts)))
  | .value word => valueOf word
  | .binary (.arithmetic op) left right => do
    let leftValue ← left.rowValue row
    let rightValue ← right.rowValue row
    Value.arithmetic op leftValue rightValue
  | _ => .error (.unsupported "Phrase" "operand")

def holds (matcher : Matcher) (row : Row) : Phrase → Except RenderError Bool
  | .truth decided => .ok decided
  | .binary .and left right => do
    if ← left.holds matcher row then right.holds matcher row else return false
  | .binary .or left right => do
    if ← left.holds matcher row then return true else right.holds matcher row
  | .binary .like left right => do
    let value ← left.rowValue valueOf row
    let pattern ← right.rowValue valueOf row
    matcher.finds .pattern value pattern
  | .binary (.relation op) left right => do
    let leftValue ← left.rowValue valueOf row
    let rightValue ← right.rowValue valueOf row
    Value.compared op leftValue rightValue
  | .nullTest negated operand => do
    let value ← operand.rowValue valueOf row
    return value.isNull != negated
  | .inList negated operand items => do
    let value ← operand.rowValue valueOf row
    let values ← items.mapM valueOf
    let found ← value.among values
    return found != negated
  | .not operand => do
    let inner ← operand.holds matcher row
    return !inner
  | _ => .error (.unsupported "Phrase" "predicate")

end Phrase

/-- The value of a marker: that of the latest parameter whose marker it is. -/
def Parameters.valueOf (dialect : Dialect) (parameters : Parameters) (word : List Lexeme) :
    Except RenderError Value :=
  let found := parameters.toList.reverse.find? fun parameter =>
    word = (dialect.marker parameter.name).toList.map .plain
  match found with
  | some parameter => .ok parameter.value
  | none => .error (.unsupported "Word" "operand")

/-!
## Markers find their parameters
-/

theorem parameterName_position {base other : String} {position elsewhere : Nat}
    (same : parameterName base position = parameterName other elsewhere) :
    position = elsewhere := by
  have texts := congrArg String.toList same
  simp only [parameterName, String.toList_append, Nat.toList_repr, List.append_assoc] at texts
  exact Text.position_unique texts

/-- Whether the words of all slots behind `bound` parameters have the slots' values. -/
def Settings.Resolves (settings : Settings) (valueOf : List Lexeme → Except RenderError Value) :
    Nat → List Slot → Prop
  | _, [] => True
  | bound, slot :: slots =>
    valueOf (settings.slotLexemes bound slot) = .ok slot.value ∧
      settings.Resolves valueOf (settings.after bound [slot]) slots

namespace Settings

variable {settings : Settings} {valueOf : List Lexeme → Except RenderError Value}

theorem resolves_append {bound : Nat} {left right : List Slot} :
    settings.Resolves valueOf bound (left ++ right) ↔
      settings.Resolves valueOf bound left ∧
        settings.Resolves valueOf (settings.after bound left) right := by
  induction left generalizing bound with
  | nil => simp [Resolves, after_nil]
  | cons slot left ih =>
      have advanced := settings.after_append bound [slot] left
      rw [List.singleton_append] at advanced
      rw [List.cons_append, Resolves, Resolves, ih, advanced, and_assoc]

theorem resolves_words {bound : Nat} {slots : List Slot}
    (resolves : settings.Resolves valueOf bound slots) :
    (settings.words bound slots).mapM valueOf = .ok (slots.map Slot.value) := by
  induction slots generalizing bound with
  | nil => rfl
  | cons slot slots ih =>
      obtain ⟨first, others⟩ := resolves
      rw [words, List.mapM_cons, first, ih others]
      rfl

theorem valueOf_marker (dialect : Dialect) {parameters : Parameters} {front : List Parameter}
    {slot : Slot} {position : Nat} {slots : List Slot}
    (split : parameters.toList =
      front ++ slot.parameter position :: Slot.parametersFrom (position + 1) slots) :
    parameters.valueOf dialect
        ((dialect.markerSign :: (parameterName slot.base position).toList).map .plain) =
      .ok slot.value := by
  have word : ∀ name : String, ((dialect.markerSign :: name.toList).map Lexeme.plain) =
      (dialect.marker name).toList.map .plain := by
    intro name
    rw [Dialect.marker, String.toList_ofList]
  -- The search goes backwards: first past the later parameters, whose names end in other numbers.
  have later : (Slot.parametersFrom (position + 1) slots).reverse.find? (fun parameter =>
      (dialect.marker (parameterName slot.base position)).toList.map Lexeme.plain =
        (dialect.marker parameter.name).toList.map .plain) = none := by
    rw [List.find?_eq_none]
    intro parameter member same
    obtain ⟨other, elsewhere, behind, rfl⟩ :=
      Slot.exists_of_mem_parametersFrom (List.mem_reverse.mp member)
    have named : parameterName slot.base position = parameterName other.base elsewhere := by
      have characters := congrArg Lexeme.plains (of_decide_eq_true same)
      simpa only [Lexeme.plains_map_plain, Dialect.marker, String.toList_ofList, List.cons.injEq,
        true_and, String.toList_inj, Slot.parameter] using characters
    have position := parameterName_position named
    omega
  rw [Parameters.valueOf, split, List.reverse_append, List.reverse_cons, word, List.append_assoc,
    List.find?_append, later]
  simp [Slot.parameter]

/-- Every marker of a fragment finds the value of its slot among the parameters that are bound. -/
theorem resolves_bound (binds : settings.useParameters = true) {parameters : Parameters}
    {front : List Parameter} {bound : Nat} {slots : List Slot}
    (split : parameters.toList = front ++ Slot.parametersFrom bound slots) :
    settings.Resolves (parameters.valueOf settings.dialect) bound slots := by
  induction slots generalizing front bound with
  | nil => trivial
  | cons slot slots ih =>
      constructor
      · rw [slotLexemes, if_pos binds]
        exact valueOf_marker _ split
      · rw [after, if_pos binds]
        have advanced : parameters.toList =
            (front ++ [slot.parameter bound]) ++ Slot.parametersFrom (bound + 1) slots := by
          rw [split, List.append_assoc]
          rfl
        exact ih advanced

end Settings

/-!
## Texts on a row
-/

variable {settings : Settings} {valueOf : List Lexeme → Except RenderError Value} {row : Row}
  {matcher : Matcher} {bound : Nat}

private theorem rowValue_column (keeps : settings.dialect.foldsNames = false) (name : String) :
    Phrase.rowValue valueOf row
        (.column ((Dialect.nameParts name).map settings.dialect.nameContent)) =
      .ok (row name) := by
  have kept : settings.dialect.nameContent = id := by
    funext part
    rw [Dialect.nameContent, keeps]
    rfl
  rw [kept, List.map_id, Phrase.rowValue, Dialect.nameParts, List.intercalate_splitOn,
    String.ofList_toList]

theorem Term.phrase_rowValue (keeps : settings.dialect.foldsNames = false) {term : Term}
    (resolves : settings.Resolves valueOf bound term.fragment.slots) :
    (term.phrase settings bound).rowValue valueOf row = term.rowValue row := by
  induction term generalizing bound with
  | column name => exact rowValue_column keeps name
  | slot place => exact resolves.1
  | arithmetic op left right leftIH rightIH =>
      rw [fragment, Fragment.slots_parenthesized, Fragment.slots_append, Fragment.slots_fixed,
        Settings.resolves_append] at resolves
      rw [phrase, Phrase.rowValue, leftIH resolves.1, rightIH resolves.2]
      rfl

/-- The phrase of a condition means what the condition means. -/
theorem Condition.phrase_holds (keeps : settings.dialect.foldsNames = false) {condition : Condition}
    (resolves : settings.Resolves valueOf bound condition.fragment.slots) :
    (condition.phrase settings bound).holds valueOf matcher row = condition.holds matcher row := by
  induction condition generalizing bound with
  | truth decided => rfl
  | comparison op left right =>
      rw [fragment, Fragment.slots_append, Fragment.slots_fixed,
        Settings.resolves_append] at resolves
      rw [phrase, Phrase.holds, Term.phrase_rowValue keeps resolves.1,
        Term.phrase_rowValue keeps resolves.2]
      rfl
  | nullTest negated term =>
      rw [fragment, Fragment.slots_append, Settings.resolves_append] at resolves
      rw [phrase, Phrase.holds, Term.phrase_rowValue keeps resolves.1]
      rfl
  | like column pattern =>
      have placed : valueOf (settings.slotLexemes bound pattern) = .ok pattern.value := resolves.1
      rw [phrase, Term.phrase, Term.phrase, Phrase.holds, rowValue_column keeps, Phrase.rowValue,
        placed]
      rfl
  | inList negated column items =>
      rw [fragment, Fragment.slots_name, Fragment.slots_fixed, Fragment.slots_parenthesized,
        Fragment.slots_joined_slots] at resolves
      rw [phrase, Term.phrase, Phrase.holds, rowValue_column keeps,
        Settings.resolves_words resolves]
      rfl
  | and left right leftIH rightIH =>
      rw [fragment, Fragment.slots_append, Fragment.slots_fixed, Fragment.slots_parenthesized,
        Fragment.slots_parenthesized, Settings.resolves_append] at resolves
      rw [phrase, Phrase.holds, leftIH resolves.1, rightIH resolves.2]
      rfl
  | or left right leftIH rightIH =>
      rw [fragment, Fragment.slots_append, Fragment.slots_fixed, Fragment.slots_parenthesized,
        Fragment.slots_parenthesized, Settings.resolves_append] at resolves
      rw [phrase, Phrase.holds, leftIH resolves.1, rightIH resolves.2]
      rfl
  | not operand ih =>
      rw [fragment, Fragment.slots_fixed, Fragment.slots_parenthesized] at resolves
      rw [phrase, Phrase.holds, ih resolves]
      rfl

namespace Clause

/-- A predicate that is rendered with bound values means what its expression means: on every row,
reading the text and evaluating it with the parameters gives what evaluating the expression gives,
the errors included. Only the order of a null is excluded, because it is rendered as a null test.
The dialect has to keep names as they are, and no entity to declare types. -/
theorem render_predicate_holds {settings : Settings} {scope : Option Scope} {expr : Expr}
    {before after : Parameters} {text : String}
    (rendered : (predicate expr).render settings scope none before = .ok (text, after))
    (binds : settings.useParameters = true) (keeps : settings.dialect.foldsNames = false)
    (orderly : ¬expr.OrdersNull (settings.context scope none)) :
    ∃ phrase, Phrase.parse? settings.dialect text = some phrase ∧
      ∀ (matcher : Matcher) (row : Row),
        phrase.holds (after.valueOf settings.dialect) matcher row =
          expr.holds (settings.context scope none) matcher row := by
  obtain ⟨fragment, written, same⟩ := Result.bind_eq_ok_iff.mp rendered
  obtain ⟨condition, lowered, lowering⟩ := Result.bind_eq_ok_iff.mp written
  cases lowering
  cases same
  have literal : settings.useParameters = false → condition.fragment.Writable := by
    simp [binds]
  have parsed := condition.parse?_text (settings.writesWords_bound binds _) literal before.size
  refine ⟨_, parsed, fun matcher row => ?_⟩
  have split := Fragment.bind_toList settings before condition.fragment
  rw [if_pos binds] at split
  have resolves := Settings.resolves_bound binds split
  rw [Condition.phrase_holds keeps resolves]
  exact (Context.lowers_iff.mpr lowered).holds rfl orderly

/-- A row whose filter computes with a captured variable, tests for a null and searches a list. -/
def sampleFilter : Expr :=
  .and
    (.compare .gt (.arithmetic .add (.property "age") (.captured "bonus")) (.literal (.int32 30)))
    (.not (.or (.compare .eq (.property "left.at") (.literal .null))
      (.inList false (.property "city") [.captured "town", .literal (.text "Oslo")])))

def sampleScope : Scope :=
  (Scope.empty.bind "bonus" (.int32 5)).bind "town" (.text "Rome")

def sampleRow : Row
  | "age" => .int32 28
  | "city" => .text "Bern"
  | _ => .bool true

theorem render_predicate_holds_sampleFilter :
    ∃ text after phrase,
      (predicate sampleFilter).render .standard (some sampleScope) none .empty =
        .ok (text, after) ∧
      text = "(([age] + @age_0) > @age_1) AND " ++
        "(NOT (([left].[at] IS NULL) OR ([city] IN (@city_2,@city_3))))" ∧
      Phrase.parse? .sqlServer text = some phrase ∧
      ∀ matcher, phrase.holds (after.valueOf .sqlServer) matcher sampleRow = .ok true := by
  obtain ⟨text, after, rendered, spelled⟩ : ∃ text after,
      (predicate sampleFilter).render .standard (some sampleScope) none .empty =
        .ok (text, after) ∧
      text = "(([age] + @age_0) > @age_1) AND " ++
        "(NOT (([left].[at] IS NULL) OR ([city] IN (@city_2,@city_3))))" :=
    ⟨_, _, rfl, by decide +kernel⟩
  have orderly : ¬sampleFilter.OrdersNull (Settings.standard.context (some sampleScope) none) := by
    rintro (⟨_, _, null | null⟩ | ⟨noOrder, _⟩ | listed)
    · cases null
    · cases null
    · exact noOrder rfl
    · exact listed
  obtain ⟨phrase, parsed, same⟩ := render_predicate_holds rendered rfl rfl orderly
  exact ⟨text, after, phrase, rendered, spelled, parsed, fun matcher => same matcher sampleRow⟩

end Clause

end QueryText
