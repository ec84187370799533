import QueryText.Proofs.Parsing

/-!
# Unambiguous predicates

The text of a predicate has one reading, whether its values are bound or inlined. Literals are words
as markers are, so the phrase of a rendered predicate can be read from the text alone: its
connectives are those of the expression, none elided or regrouped, and its leaves are comparisons,
searches, lists, null tests and plain truths.
-/

set_option autoImplicit false

namespace QueryText

/-!
## Literals are words
-/

namespace Lexeme

theorem isWord_text (content : List Char) : IsWord [.text content] where
  read rest stops := by
    rw [List.cons_append, word, List.nil_append, word_stops stops]
    rfl
  begins := ⟨_, _, rfl, nofun, nofun⟩
  noTruth holds same := by cases holds <;> cases same
  noNegation _ := rfl

/-- A quotation is a word also behind the letter that says what it holds. -/
theorem isWord_markedText {letter : Char} (content : List Char) (marks : letter ∈ ['N', 'X']) :
    IsWord [.plain letter, .text content] := by
  have ordinary : isStop letter = false ∧ nesting 0 letter = 0 ∧ letter ≠ '(' ∧ letter ≠ '1' := by
    revert letter
    decide
  obtain ⟨noStop, flat, noOpen, noDigit⟩ := ordinary
  constructor
  case read =>
    intro rest stops
    simp only [List.cons_append, List.nil_append, word, noStop, flat, word_stops stops]
    rfl
  case begins =>
    refine ⟨.plain letter, [.text content], rfl, fun same => noOpen (plain.inj same), ?_⟩
    rintro _ ⟨⟩
  case noTruth =>
    intro holds same
    cases holds <;> exact noDigit (plain.inj (List.cons.inj same).1)
  case noNegation =>
    intro rest
    rcases List.mem_pair.mp marks with rfl | rfl <;> rfl

/-- A call is a word with all that stands between its parentheses. -/
theorem isWord_call (first second : List Char) :
    IsWord ("TO_DATE(".toList.map .plain ++
      [.text first, .plain ',', .text second, .plain ')']) where
  read rest stops := by
    have inside : ∀ rest, word 0 ("TO_DATE(".toList.map .plain ++ rest) =
        (word 1 rest).map ("TO_DATE(".toList.map .plain ++ ·) id := fun _ => rfl
    rw [List.append_assoc, inside]
    simp [word, nesting, word_stops stops]
  begins := ⟨_, _, rfl, by decide, nofun⟩
  noTruth holds same := by cases holds <;> cases same
  noNegation _ := rfl

end Lexeme

namespace Dialect

open Lexeme (IsWord isWord_plain isWord_text isWord_markedText)

variable {dialect : Dialect}

private theorem isWord_figures {negative : Bool} {text : List Char}
    (figures : Text.InFigures negative text) : IsWord (text.map .plain) := by
  obtain ⟨magnitude, rfl, filled, each⟩ := figures
  have ordinary := Text.contains_eq_false each (by decide : ∀ character ∈ " ,)(=".toList, _)
  refine isWord_plain (by simp [filled])
    (List.forall_mem_append.mpr ⟨by cases negative <;> decide, ordinary⟩) fun rest => ?_
  obtain ⟨first, others, rfl⟩ := List.exists_cons_of_ne_nil filled
  cases negative with
  | true => rfl
  | false =>
      refine Lexeme.strip?_ne (fun same => ?_) _ _
      have figure := each first (List.mem_cons_self ..)
      rw [← same] at figure
      exact absurd figure (by decide)

private theorem isWord_bool (value : Bool) :
    IsWord ((dialect.boolLiteral value).toList.map .plain) := by
  cases dialect <;> cases value <;> exact isWord_plain (by decide) (by decide) fun _ => rfl

private theorem isWord_date (text format : String) : IsWord (dialect.dateLexemes text format) := by
  unfold dateLexemes
  split
  · exact Lexeme.isWord_call _ _
  · exact isWord_text _

private theorem isWord_bytes (bytes : List UInt8) : IsWord (dialect.bytesLexemes bytes) := by
  cases dialect with
  | sqlServer =>
      have digits := Text.contains_eq_false (Text.hexOfBytes_alphanumeric bytes)
        (by decide : ∀ character ∈ " ,)(=".toList, _)
      have ordinary : ∀ character ∈ ['0', 'x'] ++ Text.hexOfBytes bytes,
          " ,)(=".toList.contains character = false :=
        List.forall_mem_append.mpr ⟨by decide, digits⟩
      exact isWord_plain (List.cons_ne_nil _ _) ordinary fun _ => rfl
  | postgreSql => exact isWord_text _
  | sqlite | mySql | oracle | firebird => exact isWord_markedText _ (by decide)

/-- Every literal is a word. -/
theorem isWord_literal {value : Value} (writable : value.hasLiteral = true) :
    IsWord (dialect.literalLexemes value) := by
  cases value with
  | null =>
      have plain : IsWord ("NULL".toList.map .plain) :=
        isWord_plain (by decide) (by decide) fun _ => rfl
      exact plain
  | bool value => exact isWord_bool value
  | int16 value | int32 value | int64 value => exact isWord_figures (Text.int_inFigures _)
  | double value => exact isWord_figures (Decimal.double_inFigures writable)
  | text value =>
      by_cases unicode : dialect = .sqlServer
      · rw [literalLexemes, if_pos unicode]
        exact isWord_markedText _ (List.mem_cons_self ..)
      · rw [literalLexemes, if_neg unicode]
        exact isWord_text _
  | dateTime value | date value => exact isWord_date _ _
  | uuid value => exact isWord_text _
  | bytes value => exact isWord_bytes value

end Dialect

/-- The slots of a fragment are written as words in both modes. -/
theorem Settings.writesWords {settings : Settings} {fragment : Fragment}
    (writable : settings.useParameters = false → fragment.Writable) :
    settings.WritesWords fragment := by
  by_cases binds : settings.useParameters = true
  · exact settings.writesWords_bound binds fragment
  · intro slot member bound
    rw [slotLexemes, if_neg binds]
    exact Dialect.isWord_literal (writable (Bool.eq_false_iff.mpr binds) slot member)

/-!
## Shapes
-/

namespace Phrase

def IsColumn : Phrase → Prop
  | .column _ => True
  | _ => False

/-- A marker or a literal. -/
def IsValue : Phrase → Prop
  | .value _ => True
  | _ => False

/-- A column, a value, or arithmetic on such operands. -/
def IsOperandTree : Phrase → Prop
  | .column _ | .value _ => True
  | .binary (.arithmetic _) left right => left.IsOperandTree ∧ right.IsOperandTree
  | _ => False

/-- A phrase without connectives: a plain truth, a comparison, a search, a null test or a list. -/
def IsLeaf : Phrase → Prop
  | .truth _ => True
  | .binary (.relation _) left right => left.IsOperandTree ∧ right.IsOperandTree
  | .binary .like left right => left.IsColumn ∧ right.IsValue
  | .nullTest _ operand => operand.IsOperandTree
  | .inList _ operand _ => operand.IsColumn
  | _ => False

end Phrase

/-- Whether a phrase has the connectives of an expression in their places, and a leaf wherever the
expression has no connective. -/
def Expr.Shapes : Expr → Phrase → Prop
  | .and left right, phrase =>
    ∃ leftPhrase rightPhrase, phrase = .binary .and leftPhrase rightPhrase ∧
      left.Shapes leftPhrase ∧ right.Shapes rightPhrase
  | .or left right, phrase =>
    ∃ leftPhrase rightPhrase, phrase = .binary .or leftPhrase rightPhrase ∧
      left.Shapes leftPhrase ∧ right.Shapes rightPhrase
  | .not operand, phrase => ∃ inner, phrase = .not inner ∧ operand.Shapes inner
  | _, phrase => phrase.IsLeaf

theorem Term.phrase_isOperandTree (settings : Settings) (bound : Nat) (term : Term) :
    (term.phrase settings bound).IsOperandTree := by
  induction term generalizing bound with
  | column name => trivial
  | slot place => trivial
  | arithmetic op left right leftIH rightIH => exact ⟨leftIH bound, rightIH _⟩

theorem Context.Lowers.shapes {context : Context} {expr : Expr} {condition : Condition}
    (lowered : context.Lowers expr condition) (settings : Settings) (bound : Nat) :
    expr.Shapes (condition.phrase settings bound) := by
  have tree := Term.phrase_isOperandTree settings
  induction lowered generalizing bound with
  | and _ _ leftIH rightIH | or _ _ leftIH rightIH =>
      exact ⟨_, _, rfl, leftIH bound, rightIH _⟩
  | not _ ih => exact ⟨_, rfl, ih bound⟩
  | truth | captured | field | decided | valueTest | emptyList => trivial
  | property | compared => exact ⟨tree bound _, tree _ _⟩
  | nullLeft | nullRight | nullTest => exact tree bound _
  | like => exact ⟨trivial, trivial⟩
  | list => trivial

/-!
## Reading predicates
-/

theorem Context.Lowers.writable {context : Context} {expr : Expr} {condition : Condition}
    (lowered : context.Lowers expr condition) (inlines : context.useParameters = false) :
    condition.fragment.Writable := by
  have inline : context.inMode false = context := by rw [Context.inMode, ← inlines]
  have agree := (context.condition_agree expr condition).mp
  rw [inline] at agree
  exact (agree lowered.complete).2

namespace Clause

variable {settings : Settings} {scope : Option Scope} {entity : Option Entity} {expr : Expr}
  {before after : Parameters} {text : String}

theorem parse?_lowered {condition : Condition}
    (lowered : (settings.context scope entity).Lowers expr condition) (bound : Nat) :
    Phrase.parse? settings.dialect (condition.fragment.text settings bound) =
      some (condition.phrase settings bound) := by
  have writable : settings.useParameters = false → condition.fragment.Writable :=
    fun inlines => lowered.writable inlines
  exact condition.parse?_text (Settings.writesWords writable) writable bound

/-- A dialect has one parser that reads every rendered predicate, with bound values and with
literals alike, to its last character and gives back the phrase of the condition that was written.
The phrase has the connectives of the expression. So predicates with the same text are written from
the same phrase, whatever they were rendered with. -/
theorem render_predicate_unambiguous
    (rendered : (predicate expr).render settings scope entity before = .ok (text, after)) :
    ∃ condition, (settings.context scope entity).Lowers expr condition ∧
      Phrase.parse? settings.dialect text = some (condition.phrase settings before.size) ∧
      expr.Shapes (condition.phrase settings before.size) ∧
      ∀ {otherSettings : Settings} {otherScope : Option Scope} {otherEntity : Option Entity}
        {otherExpr : Expr} {otherBefore otherAfter : Parameters} {otherCondition : Condition},
        otherSettings.dialect = settings.dialect →
        (predicate otherExpr).render otherSettings otherScope otherEntity otherBefore =
          .ok (text, otherAfter) →
        (otherSettings.context otherScope otherEntity).Lowers otherExpr otherCondition →
        otherCondition.phrase otherSettings otherBefore.size =
          condition.phrase settings before.size := by
  obtain ⟨condition, lowered, written, _⟩ := render_predicate_eq_ok_iff.mp rendered
  have parsed := parse?_lowered lowered before.size
  rw [written] at parsed
  refine ⟨condition, lowered, parsed, lowered.shapes settings before.size, ?_⟩
  intro otherSettings otherScope otherEntity otherExpr otherBefore otherAfter otherCondition
    sameDialect otherRendered otherLowered
  obtain ⟨found, foundLowered, otherWritten, _⟩ := render_predicate_eq_ok_iff.mp otherRendered
  obtain rfl : found = otherCondition :=
    Except.ok.inj (foundLowered.complete.symm.trans otherLowered.complete)
  have otherParsed := parse?_lowered otherLowered otherBefore.size
  rw [otherWritten, sameDialect, parsed] at otherParsed
  exact (Option.some.inj otherParsed).symm

/-- A table whose column names read like pieces of predicates. -/
def sampleMisleading : Entity where
  name := "Note"
  table := "notes"
  columns :=
    [{ property := "note", column := "a] = 1) OR (b", dataType := .string },
      { property := "total", column := "n.(1=1)", dataType := .int64 }]

/-- A predicate whose texts read like pieces of predicates as well. -/
def sampleMisread : Expr :=
  .not (.or
    (.compare .eq (.property "note") (.literal (.text "x') OR ('1'='1")))
    (.and
      (.compare .gt (.arithmetic .subtract (.property "total") (.captured "delta"))
        (.literal (.int32 (-1))))
      (.inList true (.property "note") [.literal (.text "a,b)"), .literal .null])))

def sampleMisreadPhrase : Phrase :=
  .not (.binary .or
    (.binary (.relation .eq) (.column ["a] = 1) OR (b".toList])
      (.value [.plain 'N', .text "x') OR ('1'='1".toList]))
    (.binary .and
      (.binary (.relation .gt)
        (.binary (.arithmetic .subtract) (.column ["n".toList, "(1=1)".toList])
          (.value ("-5".toList.map .plain)))
        (.value ("-1".toList.map .plain)))
      (.inList true (.column ["a] = 1) OR (b".toList])
        [[.plain 'N', .text "a,b)".toList], "NULL".toList.map .plain])))

theorem render_predicate_unambiguous_sampleMisread :
    ∃ text after,
      (predicate sampleMisread).render Settings.standard.inline
          (some (Scope.empty.bind "delta" (.int32 (-5)))) (some sampleMisleading) .empty =
        .ok (text, after) ∧
      text = "NOT (([a]] = 1) OR (b] = N'x'') OR (''1''=''1') OR " ++
        "((([n].[(1=1)] - -5) > -1) AND ([a]] = 1) OR (b] NOT IN (N'a,b)',NULL))))" ∧
      Phrase.parse? .sqlServer text = some sampleMisreadPhrase ∧
      sampleMisread.Shapes sampleMisreadPhrase := by
  obtain ⟨text, after, rendered, spelled⟩ : ∃ text after,
      (predicate sampleMisread).render Settings.standard.inline
          (some (Scope.empty.bind "delta" (.int32 (-5)))) (some sampleMisleading) .empty =
        .ok (text, after) ∧
      text = "NOT (([a]] = 1) OR (b] = N'x'') OR (''1''=''1') OR " ++
        "((([n].[(1=1)] - -5) > -1) AND ([a]] = 1) OR (b] NOT IN (N'a,b)',NULL))))" :=
    ⟨_, _, rfl, by decide +kernel⟩
  obtain ⟨condition, lowered, parsed, shapes, _⟩ := render_predicate_unambiguous rendered
  have lowering := lowered.complete
  cases lowering
  exact ⟨text, after, rendered, spelled, parsed, shapes⟩

end Clause

end QueryText
