import QueryText.Proofs.Meaning
import QueryText.Proofs.Unambiguous

/-!
# Selection by a database

Which rows a predicate selects, by the rules of standard SQL. How a database compares and computes
is its own, but nulls, connectives and lists are the same everywhere: whatever is computed or
compared with a null is null or unknown, a member of a list is what is equal to one of its items,
and a row is selected where the predicate is true. The text is read as it stands, in both modes: a
word that is the marker of a bound parameter stands for its value, every other word is a literal.
-/

set_option autoImplicit false

namespace QueryText

/-!
## Three truth values
-/

inductive Truth where
  | holds
  | fails
  | unknown
  deriving DecidableEq

namespace Truth

def ofBool (decided : Bool) : Truth :=
  if decided then .holds else .fails

def not : Truth → Truth
  | .holds => .fails
  | .fails => .holds
  | .unknown => .unknown

def and : Truth → Truth → Truth
  | .fails, _ | _, .fails => .fails
  | .holds, .holds => .holds
  | _, _ => .unknown

def or : Truth → Truth → Truth
  | .holds, _ | _, .holds => .holds
  | .fails, .fails => .fails
  | _, _ => .unknown

def any (truths : List Truth) : Truth :=
  truths.foldr or .fails

variable {left right truth : Truth} {truths : List Truth}

theorem ofBool_eq_holds_iff {decided : Bool} : ofBool decided = .holds ↔ decided = true := by
  cases decided <;> decide

theorem ofBool_eq_fails_iff {decided : Bool} : ofBool decided = .fails ↔ decided = false := by
  cases decided <;> decide

theorem not_eq_holds_iff : truth.not = .holds ↔ truth = .fails := by
  cases truth <;> decide

theorem and_eq_holds_iff : left.and right = .holds ↔ left = .holds ∧ right = .holds := by
  cases left <;> cases right <;> decide

theorem or_eq_holds_iff : left.or right = .holds ↔ left = .holds ∨ right = .holds := by
  cases left <;> cases right <;> decide

theorem or_eq_fails_iff : left.or right = .fails ↔ left = .fails ∧ right = .fails := by
  cases left <;> cases right <;> decide

theorem any_eq_holds_iff : any truths = .holds ↔ ∃ truth ∈ truths, truth = .holds := by
  induction truths with
  | nil => simp [any]
  | cons truth truths ih =>
      rw [any] at ih
      rw [any, List.foldr_cons, or_eq_holds_iff, ih, List.exists_mem_cons_iff]

theorem any_eq_fails_iff : any truths = .fails ↔ ∀ truth ∈ truths, truth = .fails := by
  induction truths with
  | nil => simp [any]
  | cons truth truths ih =>
      rw [any] at ih
      rw [any, List.foldr_cons, or_eq_fails_iff, ih, List.forall_mem_cons]

end Truth

/-!
## Databases
-/

/-- How a database reads literals and parameters, and how it compares and computes what is not
null. No datum is the null. -/
structure Database (Datum : Type) where
  literal : List Lexeme → Option Datum
  parameter : Value → Option Datum
  compares : Relation → Datum → Datum → Bool
  computes : ArithmeticOp → Datum → Datum → Option Datum
  resembles : Datum → Datum → Bool
  literal_null : literal ("NULL".toList.map .plain) = none
  parameter_null : parameter .null = none
  compares_ne (left right : Datum) : compares .ne left right = !compares .eq left right

/-- The data of a row, each under the name of its column as a text spells it. -/
abbrev Cells (Datum : Type) := List (List Char) → Option Datum

namespace Database

variable {Datum : Type} (database : Database Datum)

def compared (op : Relation) : Option Datum → Option Datum → Truth
  | some left, some right => .ofBool (database.compares op left right)
  | _, _ => .unknown

def computed (op : ArithmeticOp) : Option Datum → Option Datum → Option Datum
  | some left, some right => database.computes op left right
  | _, _ => none

def found : Option Datum → Option Datum → Truth
  | some datum, some pattern => .ofBool (database.resembles datum pattern)
  | _, _ => .unknown

def nullTested (negated : Bool) (datum : Option Datum) : Truth :=
  .ofBool (datum.isNone != negated)

def listed (negated : Bool) (datum : Option Datum) (items : List (Option Datum)) : Truth :=
  let among := Truth.any (items.map (database.compared .eq datum))
  if negated then among.not else among

/-- The datum of a word beside the bound parameters. -/
def word (dialect : Dialect) (parameters : Parameters) (word : List Lexeme) : Option Datum :=
  match parameters.valueOf dialect word with
  | .ok value => database.parameter value
  | .error _ => database.literal word

variable {database} {left right : Option Datum}

theorem compared_null (op : Relation) : database.compared op left none = .unknown := by
  cases left <;> rfl

/-- Two data differ exactly where it is false, and not just unknown, that they are equal. -/
theorem compared_ne_eq_holds_iff :
    database.compared .ne left right = .holds ↔ database.compared .eq left right = .fails := by
  cases left with
  | none => exact ⟨nofun, nofun⟩
  | some left =>
      cases right with
      | none => exact ⟨nofun, nofun⟩
      | some right =>
          rw [compared, compared, Truth.ofBool_eq_holds_iff, Truth.ofBool_eq_fails_iff,
            database.compares_ne, Bool.not_eq_true']

end Database

/-!
## Phrases and conditions on a row
-/

section Meaning

variable {Datum : Type} (database : Database Datum)

namespace Phrase

variable (meaning : List Lexeme → Option Datum) (cells : Cells Datum)

/-- The datum of an operand, where `meaning` gives the data of words. -/
def datum : Phrase → Option Datum
  | .column parts => cells parts
  | .value word => meaning word
  | .binary (.arithmetic op) left right => database.computed op left.datum right.datum
  | _ => none

def truthValue : Phrase → Truth
  | .truth decided => .ofBool decided
  | .binary .and left right => left.truthValue.and right.truthValue
  | .binary .or left right => left.truthValue.or right.truthValue
  | .binary .like left right =>
    database.found (left.datum database meaning cells) (right.datum database meaning cells)
  | .binary (.relation op) left right =>
    database.compared op (left.datum database meaning cells) (right.datum database meaning cells)
  | .nullTest negated operand => Database.nullTested negated (operand.datum database meaning cells)
  | .inList negated operand items =>
    database.listed negated (operand.datum database meaning cells) (items.map meaning)
  | .not operand => operand.truthValue.not
  | _ => .unknown

end Phrase

variable (cell : String → Option Datum) (placed : Slot → Option Datum)

/-- The datum of a term, where `cell` and `placed` give the data of columns and slots. -/
def Term.datum : Term → Option Datum
  | .column name => cell name
  | .slot place => placed place
  | .arithmetic op left right => database.computed op left.datum right.datum

def Condition.truthValue : Condition → Truth
  | .truth decided => .ofBool decided
  | .comparison op left right =>
    database.compared op (left.datum database cell placed) (right.datum database cell placed)
  | .nullTest negated term => Database.nullTested negated (term.datum database cell placed)
  | .like column pattern => database.found (cell column) (placed pattern)
  | .inList negated column items => database.listed negated (cell column) (items.map placed)
  | .and left right => left.truthValue.and right.truthValue
  | .or left right => left.truthValue.or right.truthValue
  | .not operand => operand.truthValue.not

end Meaning

/-!
## Words and their slots
-/

/-- Whether the words of all slots behind `bound` parameters have the data of the slots. -/
def Settings.Denotes {Datum : Type} (settings : Settings) (meaning : List Lexeme → Option Datum)
    (placed : Slot → Option Datum) (bound : Nat) (slots : List Slot) : Prop :=
  ∀ front slot back, slots = front ++ slot :: back →
    meaning (settings.slotLexemes (settings.after bound front) slot) = placed slot

/-- The datum of a slot: that of its parameter or of its literal. -/
def Settings.slotDatum {Datum : Type} (settings : Settings) (database : Database Datum)
    (slot : Slot) : Option Datum :=
  if settings.useParameters then database.parameter slot.value
  else database.literal (settings.dialect.literalLexemes slot.value)

namespace Settings

variable {Datum : Type} {database : Database Datum} {settings : Settings}
  {meaning : List Lexeme → Option Datum} {placed : Slot → Option Datum} {bound : Nat}

theorem slotDatum_null {slot : Slot} (null : slot.value = .null) :
    settings.slotDatum database slot = none := by
  rw [slotDatum, null]
  split
  · exact database.parameter_null
  · exact database.literal_null

theorem Denotes.append {left right : List Slot}
    (denotes : settings.Denotes meaning placed bound (left ++ right)) :
    settings.Denotes meaning placed bound left ∧
      settings.Denotes meaning placed (settings.after bound left) right := by
  constructor
  · intro front slot back split
    refine denotes front slot (back ++ right) ?_
    rw [split, List.append_assoc, List.cons_append]
  · intro front slot back split
    rw [← after_append]
    refine denotes (left ++ front) slot back ?_
    rw [split, List.append_assoc]

theorem Denotes.first {slot : Slot} {slots : List Slot}
    (denotes : settings.Denotes meaning placed bound (slot :: slots)) :
    meaning (settings.slotLexemes bound slot) = placed slot := by
  have first := denotes [] slot slots rfl
  rwa [after_nil] at first

theorem Denotes.rest {slot : Slot} {slots : List Slot}
    (denotes : settings.Denotes meaning placed bound (slot :: slots)) :
    settings.Denotes meaning placed (settings.after bound [slot]) slots := by
  rw [← List.singleton_append] at denotes
  exact denotes.append.2

theorem Denotes.words {slots : List Slot}
    (denotes : settings.Denotes meaning placed bound slots) :
    (settings.words bound slots).map meaning = slots.map placed := by
  induction slots generalizing bound with
  | nil => rfl
  | cons slot slots ih =>
      rw [Settings.words, List.map_cons, List.map_cons, denotes.first, ih denotes.rest]

/-- Bound parameters have the data of the slots that they were bound for. -/
theorem denotes_bound (binds : settings.useParameters = true) {parameters : Parameters}
    {slots : List Slot}
    (resolves : settings.Resolves (parameters.valueOf settings.dialect) bound slots) :
    settings.Denotes (database.word settings.dialect parameters) (settings.slotDatum database)
      bound slots := by
  intro front slot back split
  subst split
  obtain ⟨_, resolved, _⟩ := resolves_append.mp resolves
  rw [Database.word, resolved, slotDatum, if_pos binds]

/-- A literal is never mistaken for a marker, whatever the names of the parameters are. -/
theorem valueOf_literal (dialect : Dialect) (parameters : Parameters) {value : Value}
    (writable : value.hasLiteral = true) :
    parameters.valueOf dialect (dialect.literalLexemes value) =
      .error (.unsupported "Word" "operand") := by
  have absent : parameters.toList.reverse.find? (fun parameter =>
      dialect.literalLexemes value = (dialect.marker parameter.name).toList.map Lexeme.plain) =
        none := by
    rw [List.find?_eq_none]
    intro parameter _ same
    have silent := dialect.literal_silent writable dialect.markerSign
    rw [of_decide_eq_true same, Lexeme.plains_map_plain, Dialect.marker, String.toList_ofList]
      at silent
    rw [Dialect.isMarkerSign_markerSign] at silent
    exact absurd (silent (List.mem_cons_self ..)) (by decide)
  rw [Parameters.valueOf, absent]

theorem denotes_inline (inlines : settings.useParameters = false) {parameters : Parameters}
    {slots : List Slot} (writable : ∀ slot ∈ slots, slot.value.hasLiteral = true) :
    settings.Denotes (database.word settings.dialect parameters) (settings.slotDatum database)
      bound slots := by
  intro front slot back split
  subst split
  have literal := valueOf_literal settings.dialect parameters
    (writable slot (List.mem_append_right front (List.mem_cons_self ..)))
  rw [slotLexemes, slotDatum, inlines, if_neg Bool.false_ne_true, if_neg Bool.false_ne_true,
    Database.word, literal]

end Settings

/-!
## Texts on a row
-/

/-- The datum of a column whose name a dialect spells. -/
def Dialect.cell {Datum : Type} (dialect : Dialect) (cells : Cells Datum) (name : String) :
    Option Datum :=
  cells ((Dialect.nameParts name).map dialect.nameContent)

section Texts

variable {Datum : Type} {database : Database Datum} {settings : Settings}
  {meaning : List Lexeme → Option Datum} {placed : Slot → Option Datum} {cells : Cells Datum}
  {bound : Nat}

theorem Term.phrase_datum {term : Term}
    (denotes : settings.Denotes meaning placed bound term.fragment.slots) :
    (term.phrase settings bound).datum database meaning cells =
      term.datum database (settings.dialect.cell cells) placed := by
  induction term generalizing bound with
  | column name => rfl
  | slot place => exact denotes.first
  | arithmetic op left right leftIH rightIH =>
      rw [fragment, Fragment.slots_parenthesized, Fragment.slots_append,
        Fragment.slots_fixed] at denotes
      obtain ⟨leftDenotes, rightDenotes⟩ := denotes.append
      rw [phrase, Phrase.datum, leftIH leftDenotes, rightIH rightDenotes]
      rfl

/-- The phrase of a condition is as true as the condition. -/
theorem Condition.phrase_truthValue {condition : Condition}
    (denotes : settings.Denotes meaning placed bound condition.fragment.slots) :
    (condition.phrase settings bound).truthValue database meaning cells =
      condition.truthValue database (settings.dialect.cell cells) placed := by
  induction condition generalizing bound with
  | truth decided => rfl
  | comparison op left right =>
      rw [fragment, Fragment.slots_append, Fragment.slots_fixed] at denotes
      obtain ⟨leftDenotes, rightDenotes⟩ := denotes.append
      rw [phrase, Phrase.truthValue, Term.phrase_datum leftDenotes, Term.phrase_datum rightDenotes]
      rfl
  | nullTest negated term =>
      rw [fragment, Fragment.slots_append] at denotes
      rw [phrase, Phrase.truthValue, Term.phrase_datum denotes.append.1]
      rfl
  | like column pattern =>
      have word : meaning (settings.slotLexemes bound pattern) = placed pattern := denotes.first
      rw [phrase, Term.phrase, Term.phrase, Phrase.truthValue, Phrase.datum, Phrase.datum, word]
      rfl
  | inList negated column items =>
      rw [fragment, Fragment.slots_name, Fragment.slots_fixed, Fragment.slots_parenthesized,
        Fragment.slots_joined_slots] at denotes
      rw [phrase, Term.phrase, Phrase.truthValue, denotes.words]
      rfl
  | and left right leftIH rightIH | or left right leftIH rightIH =>
      rw [fragment, Fragment.slots_append, Fragment.slots_fixed, Fragment.slots_parenthesized,
        Fragment.slots_parenthesized] at denotes
      obtain ⟨leftDenotes, rightDenotes⟩ := denotes.append
      rw [phrase, Phrase.truthValue, leftIH leftDenotes, rightIH rightDenotes]
      rfl
  | not operand ih =>
      rw [fragment, Fragment.slots_fixed, Fragment.slots_parenthesized] at denotes
      rw [phrase, Phrase.truthValue, ih denotes]
      rfl

end Texts

/-- Whether a database selects a row for a text and its parameters. -/
def Database.Selects {Datum : Type} (database : Database Datum) (dialect : Dialect)
    (cells : Cells Datum) (rendered : String × Parameters) : Prop :=
  ∃ phrase, Phrase.parse? dialect rendered.1 = some phrase ∧
    phrase.truthValue database (database.word dialect rendered.2) cells = .holds

namespace Clause

variable {Datum : Type} {settings : Settings} {scope : Option Scope} {entity : Option Entity}
  {expr : Expr} {before : Parameters} {rendered : String × Parameters}

/-- The rows that a rendered predicate selects are those on which its condition is true, whether
its values are bound or inlined. -/
theorem selects_iff
    (success : (predicate expr).render settings scope entity before = .ok rendered)
    {condition : Condition}
    (lowered : (settings.context scope entity).condition expr = .ok condition)
    (database : Database Datum) (cells : Cells Datum) :
    database.Selects settings.dialect cells rendered ↔
      condition.truthValue database (settings.dialect.cell cells)
        (settings.slotDatum database) = .holds := by
  rw [render_predicate_eq, lowered] at success
  cases success
  have lowering := Context.lowers_iff.mpr lowered
  have denotes : settings.Denotes
      (database.word settings.dialect (condition.fragment.bind settings before))
      (settings.slotDatum database) before.size condition.fragment.slots := by
    by_cases binds : settings.useParameters = true
    · have split := Fragment.bind_toList settings before condition.fragment
      rw [if_pos binds] at split
      exact Settings.denotes_bound binds (Settings.resolves_bound binds split)
    · have inlines := Bool.eq_false_iff.mpr binds
      exact Settings.denotes_inline inlines (lowering.writable inlines)
  rw [← Condition.phrase_truthValue denotes]
  constructor
  · intro selected
    obtain ⟨phrase, parsed, holds⟩ := selected
    rw [parse?_lowered lowering] at parsed
    rwa [Option.some.inj parsed]
  · intro holds
    exact ⟨_, parse?_lowered lowering before.size, holds⟩

end Clause

end QueryText
