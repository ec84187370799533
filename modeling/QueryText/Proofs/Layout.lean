import QueryText.Proofs.Inline
import QueryText.Proofs.Reading

/-!
# Layout of fragments

How the pieces of a fragment stand beside each other. Fixed texts hold no quotes and no signs that
mark parameters, open comments or end statements, and whatever comes from the caller is followed by
a delimiter or by nothing. So a written fragment is read back piece by piece, in every dialect and
in both modes.
-/

set_option autoImplicit false

namespace QueryText

/-!
## Fixed texts
-/

namespace Text

/-- A character that is no quote, marks no parameter and ends no statement. -/
def isInert (character : Char) : Bool :=
  isUnquoted character && !"@?:;".toList.contains character

/-- Inert characters that open no comment, whatever stands behind them: a minus or a slash is
followed by another character, and that is neither a minus nor a star. -/
def isCalm : List Char → Bool
  | [] => true
  | character :: rest =>
    isInert character &&
      (!"-/".toList.contains character || rest.head?.any fun next => !"-*".toList.contains next) &&
      isCalm rest

variable {left right : List Char}

theorem isCalm_append (leftCalm : isCalm left = true) (rightCalm : isCalm right = true) :
    isCalm (left ++ right) = true := by
  induction left with
  | nil => exact rightCalm
  | cons character rest ih =>
      rw [isCalm, Bool.and_eq_true, Bool.and_eq_true] at leftCalm
      obtain ⟨⟨inert, followed⟩, restCalm⟩ := leftCalm
      rw [List.cons_append, isCalm, Bool.and_eq_true, Bool.and_eq_true]
      refine ⟨⟨inert, ?_⟩, ih restCalm⟩
      cases rest with
      | nil =>
          have noSign : "-/".toList.contains character = false := by simpa using followed
          rw [noSign]
          rfl
      | cons next rest => exact followed

theorem isInert_of_isCalm {text : List Char} (calm : isCalm text = true) :
    ∀ character ∈ text, isInert character = true := by
  induction text with
  | nil => simp
  | cons character rest ih =>
      rw [isCalm, Bool.and_eq_true, Bool.and_eq_true] at calm
      exact List.forall_mem_cons.mpr ⟨calm.1.1, ih calm.2⟩

theorem isCalm_alphanumeric {text : List Char}
    (alphanumeric : ∀ character ∈ text, character.isAlphanum = true) : isCalm text = true := by
  induction text with
  | nil => rfl
  | cons character rest ih =>
      rw [List.forall_mem_cons] at alphanumeric
      have outside : ∀ signs : List Char, (∀ sign ∈ signs, sign.isAlphanum = false) →
          signs.contains character = false := by
        intro signs apart
        rw [Bool.eq_false_iff]
        intro contained
        have noAlphanum := apart character (List.contains_iff_mem.mp contained)
        rw [alphanumeric.1] at noAlphanum
        cases noAlphanum
      rw [isCalm, isInert, isUnquoted, outside _ (by decide), outside _ (by decide),
        outside _ (by decide), ih alphanumeric.2]
      rfl

end Text

/-!
## Spaced fragments
-/

def Text.isDelimiter (character : Char) : Bool :=
  " ,)=+-".toList.contains character

namespace Fragment

def isParted : Fragment → Bool
  | [] => true
  | .fixed text :: rest =>
    match text.toList with
    | [] => isParted rest
    | character :: _ => Text.isDelimiter character
  | _ => false

/-- Whatever a fragment takes from its caller is followed by a delimiter, and its fixed texts are
calm. Only a minus that subtracts a slot is not: nothing stands between it and the slot. Such a
fragment has to be told by `subtracts`. -/
inductive Spaced (subtracts : Bool) : Fragment → Prop where
  | nil : Spaced subtracts []
  | fixed {text : String} {rest : Fragment} :
      Text.isCalm text.toList = true → Spaced subtracts rest →
      Spaced subtracts (.fixed text :: rest)
  | subtracted {slot : Slot} {rest : Fragment} :
      subtracts = true → isParted rest = true → Spaced subtracts rest →
      Spaced subtracts (.fixed "-" :: .slot slot :: rest)
  | name {name : String} {rest : Fragment} :
      isParted rest = true → Spaced subtracts rest → Spaced subtracts (.name name :: rest)
  | slot {slot : Slot} {rest : Fragment} :
      isParted rest = true → Spaced subtracts rest → Spaced subtracts (.slot slot :: rest)
  | now {rest : Fragment} :
      isParted rest = true → Spaced subtracts rest → Spaced subtracts (.now :: rest)

theorem isParted_fixed {text : String} {rest : Fragment}
    (begins : text.toList.head?.any Text.isDelimiter = true) :
    isParted (.fixed text :: rest) = true := by
  cases characters : text.toList with
  | nil => simp [characters] at begins
  | cons character others => simpa [isParted, characters] using begins

theorem isParted_append {left right : Fragment} (leftParted : isParted left = true)
    (rightParted : isParted right = true) : isParted (left ++ right) = true := by
  fun_induction isParted left with
  | case1 => exact rightParted
  | case2 text rest empty ih => simpa [isParted, empty] using ih leftParted
  | case3 text rest character others filled => simpa [isParted, filled] using leftParted
  | case4 => cases leftParted

namespace Spaced

variable {subtracts : Bool} {left right : Fragment}

theorem append (leftSpaced : Spaced subtracts left) (rightSpaced : Spaced subtracts right)
    (parted : isParted right = true) : Spaced subtracts (left ++ right) := by
  induction leftSpaced with
  | nil => exact rightSpaced
  | fixed calm _ ih => exact .fixed calm ih
  | subtracted allowed follows _ ih => exact .subtracted allowed (isParted_append follows parted) ih
  | name follows _ ih => exact .name (isParted_append follows parted) ih
  | slot follows _ ih => exact .slot (isParted_append follows parted) ih
  | now follows _ ih => exact .now (isParted_append follows parted) ih

theorem separated {text : String} (leftSpaced : Spaced subtracts left)
    (rightSpaced : Spaced subtracts right)
    (calm : Text.isCalm text.toList = true)
    (begins : text.toList.head?.any Text.isDelimiter = true) :
    Spaced subtracts (left ++ .fixed text :: right) :=
  leftSpaced.append (.fixed calm rightSpaced) (isParted_fixed begins)

theorem parenthesized (spaced : Spaced subtracts left) : Spaced subtracts (parenthesized left) :=
  .fixed (by decide) (spaced.separated .nil (by decide) (by decide))

theorem joined {parts : List Fragment} (spaced : ∀ part ∈ parts, Spaced subtracts part) :
    Spaced subtracts (joined "," parts) := by
  induction parts with
  | nil => exact .nil
  | cons part rest ih =>
      rw [List.forall_mem_cons] at spaced
      cases rest with
      | nil => exact spaced.1
      | cons next rest => exact spaced.1.separated (ih spaced.2) (by decide) (by decide)

end Spaced

end Fragment

/-!
## Conditions and clauses
-/

open Fragment (Spaced)

variable {subtracts : Bool}

theorem Term.spaced (term : Term) : Spaced subtracts term.fragment := by
  induction term with
  | column name => exact .name rfl .nil
  | slot slot => exact .slot rfl .nil
  | arithmetic op left right leftIH rightIH =>
      refine .parenthesized (leftIH.separated rightIH ?_ ?_) <;> cases op <;> decide

theorem Condition.spaced (condition : Condition) : Spaced subtracts condition.fragment := by
  induction condition with
  | truth holds => cases holds <;> exact .fixed (by decide) .nil
  | comparison op left right =>
      refine left.spaced.separated right.spaced ?_ ?_ <;> cases op <;> decide
  | nullTest negated term =>
      refine term.spaced.separated .nil ?_ ?_ <;> cases negated <;> decide
  | like column pattern => exact .name rfl (.fixed (by decide) (.slot rfl .nil))
  | inList negated column items =>
      have slots : ∀ part ∈ items.map fun item => [Piece.slot item], Spaced subtracts part := by
        intro part member
        obtain ⟨item, _, rfl⟩ := List.mem_map.mp member
        exact .slot rfl .nil
      have listed := (Spaced.joined slots).parenthesized
      cases negated <;> exact .name rfl (.fixed (by decide) listed)
  | and left right leftIH rightIH | or left right leftIH rightIH =>
      exact leftIH.parenthesized.separated rightIH.parenthesized (by decide) (by decide)
  | not operand ih => exact .fixed (by decide) ih.parenthesized

namespace Context

variable {context : Context}

private theorem insertedValue_spaced {assignment : Assignment} {fragment : Fragment}
    (written : context.insertedValue assignment = .ok fragment) : Spaced subtracts fragment := by
  unfold insertedValue at written
  split at written
  · obtain ⟨slot, _, written⟩ := Result.bind_eq_ok_iff.mp written
    cases written
    exact .slot rfl .nil
  · cases written
    exact .now rfl .nil
  all_goals
    cases written
    exact .fixed (by decide) .nil

theorem valuesFragment_spaced {assignments : List Assignment} {fragment : Fragment}
    (written : context.valuesFragment assignments = .ok fragment) : Spaced subtracts fragment := by
  obtain ⟨_, values, valuesOk, rfl⟩ := valuesFragment_eq_ok_iff.mp written
  have valued : ∀ part ∈ values, Spaced subtracts part := by
    intro part member
    obtain ⟨assignment, _, written⟩ := Result.exists_of_mem valuesOk member
    exact insertedValue_spaced written
  have named : ∀ part ∈ assignments.map fun assignment => [Piece.name assignment.key],
      Spaced subtracts part := by
    intro part member
    obtain ⟨assignment, _, rfl⟩ := List.mem_map.mp member
    exact .name rfl .nil
  exact (Spaced.joined named).parenthesized.separated (Spaced.joined valued).parenthesized
    (by decide) (by decide)

private theorem assignmentFragment_spaced {assignment : Assignment} {fragment : Fragment}
    (written : context.assignmentFragment assignment = .ok fragment) : Spaced true fragment := by
  obtain ⟨value, valueOk, written⟩ := Result.bind_eq_ok_iff.mp written
  cases written
  refine .name rfl (.fixed (by decide) ?_)
  unfold assignedValue at valueOk
  split at valueOk
  · obtain ⟨slot, _, valueOk⟩ := Result.bind_eq_ok_iff.mp valueOk
    cases valueOk
    exact .slot rfl .nil
  · cases valueOk
    exact .now rfl .nil
  · obtain ⟨slot, _, valueOk⟩ := Result.bind_eq_ok_iff.mp valueOk
    cases valueOk
    exact .name rfl (.fixed (by decide) (.slot rfl .nil))
  · obtain ⟨slot, _, valueOk⟩ := Result.bind_eq_ok_iff.mp valueOk
    cases valueOk
    exact .name rfl (.subtracted rfl rfl .nil)

theorem setFragment_spaced {assignments : List Assignment} {fragment : Fragment}
    (written : context.setFragment assignments = .ok fragment) : Spaced true fragment := by
  obtain ⟨_, resolved, parts, _, partsOk, rfl⟩ := setFragment_eq_ok_iff.mp written
  refine .fixed (by decide) (.joined fun part member => ?_)
  obtain ⟨assignment, _, written⟩ := Result.exists_of_mem partsOk member
  exact assignmentFragment_spaced written

theorem filterFragment_spaced {expr : Expr} {fragment : Fragment}
    (written : context.filterFragment expr = .ok fragment) : Spaced subtracts fragment := by
  obtain ⟨condition, _, rfl⟩ := filterFragment_eq_ok_iff.mp written
  exact .fixed (by decide) condition.spaced

end Context

/-!
## Statements
-/

theorem Filter.fragment?_spaced {filter : Filter} {settings : Settings} {clause : Option Fragment}
    (written : filter.fragment? settings = .ok clause) :
    Spaced subtracts (clause.getD []) ∧ Fragment.isParted (clause.getD []) = true := by
  rcases Filter.fragment?_eq_ok_iff.mp written with ⟨_, rfl⟩ | ⟨_, condition, _, _, rfl⟩
  · exact ⟨.nil, rfl⟩
  · exact ⟨.fixed (by decide) (.fixed (by decide) condition.spaced),
      Fragment.isParted_fixed (by decide)⟩

/-- A text that may stand behind a statement: calm, and empty or led by a blank. -/
def Text.Trails (text : String) : Prop :=
  isCalm text.toList = true ∧ ∀ character ∈ text.toList.head?, character = ' '

namespace Text

theorem trails_append {left right : String} (leftTrails : Trails left)
    (rightTrails : Trails right) : Trails (left ++ right) := by
  unfold Trails
  rw [String.toList_append]
  refine ⟨isCalm_append leftTrails.1 rightTrails.1, fun character head => ?_⟩
  cases characters : left.toList with
  | nil => exact rightTrails.2 character (by simpa [characters] using head)
  | cons first rest => exact leftTrails.2 character (by simpa [characters] using head)

theorem trails_repr {text : String} (trails : Trails text) (filled : text.toList ≠ [])
    (number : Nat) : Trails (text ++ number.repr) := by
  obtain ⟨first, rest, characters⟩ := List.exists_cons_of_ne_nil filled
  unfold Trails
  rw [String.toList_append]
  refine ⟨isCalm_append trails.1 (isCalm_alphanumeric (repr_alphanumeric number)), ?_⟩
  exact fun character head => trails.2 character (by simpa [characters] using head)

theorem trails_ofDecide {text : String}
    (holds : (isCalm text.toList && text.toList.head?.all (· == ' ')) = true) : Trails text := by
  rw [Bool.and_eq_true, Option.all_eq_true] at holds
  exact ⟨holds.1, fun character head => eq_of_beq (holds.2 character head)⟩

end Text

namespace Dialect

open Text (Trails trails_append trails_repr trails_ofDecide)

private theorem limitClause_trails {unlimited : Option String}
    (calm : ∀ text ∈ unlimited, Trails (" LIMIT " ++ text)) (limit offset : Option UInt64) :
    Trails (limitClause unlimited limit offset) := by
  have empty : Trails "" := trails_ofDecide (by decide)
  unfold limitClause
  refine trails_append ?_ ?_
  · cases limit with
    | some rows => exact trails_repr (trails_ofDecide (by decide)) (by decide) _
    | none =>
        cases offset with
        | none => exact empty
        | some skipped =>
            cases unlimited with
            | none => exact empty
            | some text => exact calm text rfl
  · cases offset with
    | none => exact empty
    | some skipped => exact trails_repr (trails_ofDecide (by decide)) (by decide) _

private theorem fetchClause_trails (limit offset : Option UInt64) :
    Trails (fetchClause limit offset) := by
  have skip : ∀ skipped : UInt64, Trails (" OFFSET " ++ skipped.toNat.repr ++ " ROWS") :=
    fun skipped => trails_append (trails_repr (trails_ofDecide (by decide)) (by decide) _)
      (trails_ofDecide (by decide))
  have fetch : ∀ rows : UInt64, Trails (" FETCH NEXT " ++ rows.toNat.repr ++ " ROWS ONLY") :=
    fun rows => trails_append (trails_repr (trails_ofDecide (by decide)) (by decide) _)
      (trails_ofDecide (by decide))
  cases limit with
  | some rows => exact trails_append (skip _) (fetch rows)
  | none =>
      cases offset with
      | none => exact trails_ofDecide (by decide)
      | some skipped => exact trails_append (skip skipped) (trails_ofDecide (by decide))

private theorem rowsClause_trails {limit offset : Option UInt64} {paging : String}
    (written : rowsClause limit offset = .ok paging) : Trails paging := by
  unfold rowsClause at written
  split at written
  · cases written
    exact trails_ofDecide (by decide)
  · cases written
    exact trails_repr (trails_ofDecide (by decide)) (by decide) _
  · cases written
    exact trails_append (trails_repr (trails_ofDecide (by decide)) (by decide) _)
      (trails_ofDecide (by decide))
  · split at written
    · cases written
    · split at written
      · cases written
        have first := trails_repr (trails_ofDecide (by decide) : Trails " ROWS ") (by decide)
        exact trails_repr (trails_append (first _) (trails_ofDecide (by decide)))
          (by simp [String.toList_append]) _
      · cases written

theorem pagingText_trails {dialect : Dialect} {limit offset : Option UInt64} {paging : String}
    (written : dialect.pagingText limit offset = .ok paging) : Trails paging := by
  cases dialect with
  | sqlite | mySql =>
      cases written
      refine limitClause_trails ?_ _ _
      intro unlimited same
      cases same
      exact trails_ofDecide (by decide)
  | postgreSql =>
      cases written
      refine limitClause_trails ?_ _ _
      intro unlimited same
      cases same
  | sqlServer | oracle =>
      cases written
      exact fetchClause_trails _ _
  | firebird => exact rowsClause_trails written

end Dialect

namespace Select

variable {query : Select} {fragment : Fragment}

private theorem columnsFragment_spaced (query : Select) :
    Spaced subtracts query.columnsFragment := by
  unfold columnsFragment
  split
  · exact .fixed (by decide) .nil
  · refine .joined fun part member => ?_
    obtain ⟨column, _, rfl⟩ := List.mem_map.mp member
    exact .name rfl .nil

private theorem sourceFragment_spaced (written : query.sourceFragment = .ok fragment) :
    Spaced subtracts fragment ∧ fragment.isParted = true := by
  obtain ⟨clause, clauseOk, rfl⟩ := sourceFragment_eq_ok_iff.mp written
  obtain ⟨spaced, parted⟩ := Filter.fragment?_spaced clauseOk
  exact ⟨.fixed (by decide) (.name parted spaced), Fragment.isParted_fixed (by decide)⟩

private theorem orderFragment_spaced (written : query.orderFragment = .ok fragment) :
    Spaced subtracts fragment ∧ fragment.isParted = true := by
  obtain ⟨columns, _, rfl⟩ := orderFragment_eq_ok_iff.mp written
  split
  · exact ⟨.nil, rfl⟩
  · refine ⟨.fixed (by decide) (.fixed (by decide) (.joined fun part member => ?_)),
      Fragment.isParted_fixed (by decide)⟩
    obtain ⟨index, bound, rfl⟩ := List.getElem_of_mem member
    rw [List.getElem_zipWith, SortKey.fragment]
    split <;> exact .name (by decide) (.fixed (by decide) .nil)

theorem rowsFragment_spaced (written : query.rowsFragment = .ok fragment) :
    Spaced subtracts fragment := by
  obtain ⟨_, source, order, paging, sourceOk, orderOk, pagingOk, rfl⟩ :=
    rowsFragment_eq_ok_iff.mp written
  obtain ⟨sourceSpaced, sourceParted⟩ := sourceFragment_spaced sourceOk
  obtain ⟨orderSpaced, orderParted⟩ := orderFragment_spaced orderOk
  obtain ⟨calm, led⟩ := Dialect.pagingText_trails pagingOk
  have pagingParted : Fragment.isParted [.fixed paging] = true := by
    cases characters : paging.toList with
    | nil => simp [Fragment.isParted, characters]
    | cons first rest =>
        obtain rfl := led first (by simp [characters])
        simp [Fragment.isParted, characters, Text.isDelimiter]
  have selected : Spaced subtracts (query.columnsFragment ++ source) :=
    (columnsFragment_spaced query).append sourceSpaced sourceParted
  have ordered := selected.append orderSpaced orderParted
  have paged := ordered.append (.fixed calm .nil) pagingParted
  exact .fixed (by decide) paged

theorem totalFragment_spaced (written : query.totalFragment = .ok fragment) :
    Spaced subtracts fragment := by
  obtain ⟨source, sourceOk, rfl⟩ := totalFragment_eq_ok_iff.mp written
  exact .fixed (by decide) (.fixed (by decide) (sourceFragment_spaced sourceOk).1)

end Select

theorem Insert.fragment_spaced {row : Insert} {fragment : Fragment}
    (written : row.fragment = .ok fragment) : Spaced subtracts fragment := by
  rcases Insert.fragment_eq_ok_iff.mp written with ⟨_, rfl⟩ | ⟨values, valuesOk, rfl⟩
  · exact .fixed (by decide) (.name (by decide) (.fixed (by decide) .nil))
  · exact .fixed (by decide) (.name rfl
      (.fixed (by decide) (Context.valuesFragment_spaced valuesOk)))

theorem Update.fragment_spaced {change : Update} {fragment : Fragment}
    (written : change.fragment = .ok fragment) : Spaced true fragment := by
  obtain ⟨set, clause, setOk, clauseOk, rfl⟩ := Update.fragment_eq_ok_iff.mp written
  obtain ⟨spaced, parted⟩ := Filter.fragment?_spaced clauseOk
  have assigned := (Context.setFragment_spaced setOk).append spaced parted
  exact .fixed (by decide) (.name rfl (.fixed (by decide) assigned))

theorem Delete.fragment_spaced {removal : Delete} {fragment : Fragment}
    (written : removal.fragment = .ok fragment) : Spaced subtracts fragment := by
  obtain ⟨clause, clauseOk, rfl⟩ := Delete.fragment_eq_ok_iff.mp written
  refine .fixed (by decide) ?_
  cases clause with
  | some clause =>
      obtain ⟨spaced, parted⟩ := Filter.fragment?_spaced clauseOk
      exact .name parted spaced
  | none =>
      rw [Option.getD_none]
      split
      · exact .name rfl .nil
      · exact .name (by decide) (.fixed (by decide) .nil)

/-- Every request is laid out so that its pieces can be told apart. -/
theorem Request.fragment_spaced {request : Request} {fragment : Fragment}
    (written : request.fragment = .ok fragment) : Spaced true fragment := by
  cases request with
  | rows query => exact Select.rowsFragment_spaced written
  | total query => exact Select.totalFragment_spaced written
  | insert row => exact Insert.fragment_spaced written
  | update change => exact Update.fragment_spaced written
  | delete removal => exact Delete.fragment_spaced written
  | filter expr scope entity settings => exact Context.filterFragment_spaced written
  | values table assignments settings =>
      exact Context.valuesFragment_spaced (rowValuesFragment_eq_ok_iff.mp written).2

/-!
## Reading fragments
-/

namespace Settings

/-- The lexemes of a slot behind `bound` parameters. -/
def slotLexemes (settings : Settings) (bound : Nat) (slot : Slot) : List Lexeme :=
  if settings.useParameters then
    (settings.dialect.markerSign :: (parameterName slot.base bound).toList).map .plain
  else settings.dialect.literalLexemes slot.value

/-- The number of parameters after some slots have been written behind `bound` parameters. -/
def after (settings : Settings) (bound : Nat) (slots : List Slot) : Nat :=
  if settings.useParameters then bound + slots.length else bound

theorem after_nil (settings : Settings) (bound : Nat) : settings.after bound [] = bound := by
  unfold after
  split <;> rfl

theorem after_append (settings : Settings) (bound : Nat) (left right : List Slot) :
    settings.after bound (left ++ right) = settings.after (settings.after bound left) right := by
  unfold after
  split
  · rw [List.length_append, Nat.add_assoc]
  · rfl

end Settings

namespace Fragment

/-- The lexemes of a fragment that is written behind `bound` parameters. -/
def lexemes (settings : Settings) (bound : Nat) : Fragment → List Lexeme
  | [] => []
  | .fixed text :: rest => text.toList.map .plain ++ lexemes settings bound rest
  | .name name :: rest => settings.dialect.nameLexemes name ++ lexemes settings bound rest
  | .now :: rest => settings.dialect.nowLexemes ++ lexemes settings bound rest
  | .slot slot :: rest =>
    settings.slotLexemes bound slot ++ lexemes settings (settings.after bound [slot]) rest

variable {settings : Settings} {fragment : Fragment}

theorem lexemes_append (bound : Nat) (left right : Fragment) :
    lexemes settings bound (left ++ right) =
      lexemes settings bound left ++ lexemes settings (settings.after bound left.slots) right := by
  induction left generalizing bound with
  | nil =>
      rw [slots_nil, Settings.after_nil]
      rfl
  | cons piece rest ih =>
      cases piece with
      | fixed text => simp only [List.cons_append, lexemes, slots_fixed, ih, List.append_assoc]
      | name name => simp only [List.cons_append, lexemes, slots_name, ih, List.append_assoc]
      | now => simp only [List.cons_append, lexemes, slots_now, ih, List.append_assoc]
      | slot slot =>
          have advanced := settings.after_append bound [slot] (slots rest)
          rw [List.singleton_append] at advanced
          simp only [List.cons_append, lexemes, slots_slot, advanced, ih, List.append_assoc]

theorem lexemes_fixed (bound : Nat) (text : String) (rest : Fragment) :
    lexemes settings bound (.fixed text :: rest) =
      text.toList.map .plain ++ lexemes settings bound rest := rfl

theorem lexemes_parenthesized (bound : Nat) :
    lexemes settings bound (parenthesized fragment) =
      .plain '(' :: (lexemes settings bound fragment ++ [.plain ')']) := by
  rw [parenthesized, List.cons_append, lexemes_fixed, lexemes_append]
  rfl

theorem text_parted (parted : isParted fragment = true) (bound : Nat) :
    ∀ character ∈ (fragment.text settings bound).toList.head?,
      Text.isDelimiter character = true := by
  fun_induction isParted fragment with
  | case1 => simp [text]
  | case2 content rest empty ih => simpa [text, String.toList_append, empty] using ih parted
  | case3 content rest first others filled =>
      simpa [text, String.toList_append, filled] using parted
  | case4 => cases parted

theorem lexemes_parted (parted : isParted fragment = true) (bound : Nat) :
    ∀ lexeme ∈ (fragment.lexemes settings bound).head?,
      ∃ character, lexeme = .plain character ∧ Text.isDelimiter character = true := by
  fun_induction isParted fragment with
  | case1 => simp [lexemes]
  | case2 content rest empty ih => simpa [lexemes, empty] using ih parted
  | case3 content rest first others filled => simpa [lexemes, filled] using parted
  | case4 => cases parted

theorem text_unquoted (parted : isParted fragment = true) (bound : Nat) :
    Text.Unquoted (fragment.text settings bound).toList := by
  have delimiters : ∀ character ∈ " ,)=+-".toList, Text.isUnquoted character = true := by decide
  intro character head
  exact delimiters character (List.contains_iff_mem.mp (text_parted parted bound character head))

private theorem lexemes?_slot {slot : Slot} (parted : isParted fragment = true)
    (literal : settings.useParameters = false → slot.value.hasLiteral = true)
    (read : ∀ bound, settings.dialect.lexemes? (fragment.text settings bound).toList =
      some (fragment.lexemes settings bound)) (bound : Nat) :
    settings.dialect.lexemes? (text settings bound (.slot slot :: fragment)).toList =
      some (lexemes settings bound (.slot slot :: fragment)) := by
  rw [text, lexemes, Settings.slotLexemes, Settings.after]
  split
  · rw [String.toList_append]
    exact Dialect.lexemes?_marker (read _) _ _
  · next inlines =>
    rw [String.toList_append]
    exact Dialect.lexemes?_literal (read _) (text_unquoted parted _)
      (literal (Bool.eq_false_iff.mpr inlines))

/-- The text of a spaced fragment is read back piece by piece. Literals are written only for values
that have one. -/
theorem lexemes?_text (spaced : Spaced subtracts fragment)
    (writable : settings.useParameters = false → fragment.Writable) (bound : Nat) :
    settings.dialect.lexemes? (fragment.text settings bound).toList =
      some (fragment.lexemes settings bound) := by
  induction spaced generalizing bound with
  | nil => exact Dialect.lexemes?_nil
  | fixed calm _ ih =>
      rw [text, lexemes, String.toList_append]
      refine Dialect.lexemes?_plain _ (fun character member => ?_) (ih writable bound)
      exact (Bool.and_eq_true_iff.mp (Text.isInert_of_isCalm calm character member)).1
  | subtracted _ parted _ ih =>
      rw [text, lexemes, String.toList_append]
      refine Dialect.lexemes?_plain "-".toList (by decide) ?_
      exact lexemes?_slot parted (fun inlines => (writable_slot.mp (writable inlines)).1)
        (ih fun inlines => (writable_slot.mp (writable inlines)).2) bound
  | name parted _ ih =>
      rw [text, lexemes, String.toList_append]
      exact Dialect.lexemes?_quotedName (ih writable bound) (text_unquoted parted bound) _
  | slot parted _ ih =>
      exact lexemes?_slot parted (fun inlines => (writable_slot.mp (writable inlines)).1)
        (ih fun inlines => (writable_slot.mp (writable inlines)).2) bound
  | now parted _ ih =>
      rw [text, lexemes, String.toList_append]
      exact Dialect.lexemes?_now (ih writable bound)

end Fragment

namespace Request

variable {request : Request} {fragment : Fragment}

theorem fragment_writable (written : request.fragment = .ok fragment)
    (inlines : request.settings.useParameters = false) : fragment.Writable := by
  have same : request.settings.inline = request.settings := by rw [Settings.inline, ← inlines]
  have agree := (request.fragment_agree fragment).mp
  rw [same, withSettings_settings] at agree
  exact (agree written).2

theorem lexemes?_rendered (written : request.fragment = .ok fragment) :
    request.settings.dialect.lexemes? (Fragment.rendered request.settings fragment).sql.toList =
      some (fragment.lexemes request.settings 0) :=
  Fragment.lexemes?_text (fragment_spaced written) (fragment_writable written) 0

end Request

end QueryText
