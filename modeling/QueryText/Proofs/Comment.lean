import QueryText.Proofs.Layout

/-!
# Comments

Two minus signs or a slash and a star outside of all quotes begin a comment, and a semicolon ends a
statement. No name and no value of the caller brings one of these into a statement, with one
exception: SET writes a column minus a value without blanks, and the literal of a negative number
begins with a second minus.
-/

set_option autoImplicit false

namespace QueryText

/-!
## Neighbours
-/

section Pairs

variable {α : Type} {first second item : α} {front rest : List α}

theorem pair_infix_cons :
    [first, second] <:+: item :: rest ↔
      (item = first ∧ rest.head? = some second) ∨ [first, second] <:+: rest := by
  rw [List.infix_cons_iff, List.cons_prefix_cons]
  refine or_congr_left (and_congr eq_comm ?_)
  cases rest with
  | nil => simp
  | cons next rest => simpa [List.cons_prefix_cons] using eq_comm

theorem pair_infix_append :
    [first, second] <:+: front ++ rest ↔
      [first, second] <:+: front ∨ [first, second] <:+: rest ∨
        (front.getLast? = some first ∧ rest.head? = some second) := by
  induction front with
  | nil => simp
  | cons item front ih =>
      rw [List.cons_append, pair_infix_cons, pair_infix_cons, ih]
      cases front with
      | nil => simp [or_comm]
      | cons next front => simp [List.getLast?_cons_cons, or_assoc]

theorem pair_infix_skip (absent : first ∉ front) :
    [first, second] <:+: front ++ rest ↔ [first, second] <:+: rest := by
  induction front with
  | nil => rfl
  | cons item front ih =>
      rw [List.mem_cons, not_or] at absent
      rw [List.cons_append, pair_infix_cons, ih absent.2]
      simp [Ne.symm absent.1]

end Pairs

namespace Lexeme

theorem plain_mem_iff {character : Char} {lexemes : List Lexeme} :
    .plain character ∈ lexemes ↔ character ∈ plains lexemes := by
  induction lexemes with
  | nil => simp
  | cons lexeme lexemes ih => cases lexeme <;> simp [ih]

def Adjacent (first second : Char) (lexemes : List Lexeme) : Prop :=
  [.plain first, .plain second] <:+: lexemes

def Opener (first second : Char) : Prop :=
  (first = '-' ∧ second = '-') ∨ (first = '/' ∧ second = '*')

variable {first second : Char} {front rest : List Lexeme}

theorem Opener.signs (opener : Opener first second) :
    first ∈ "-/".toList ∧ second ∈ "-*".toList := by
  rcases opener with ⟨rfl, rfl⟩ | ⟨rfl, rfl⟩ <;> decide

theorem adjacent_skip (absent : ∀ character ∈ plains front, character ≠ first) :
    Adjacent first second (front ++ rest) ↔ Adjacent first second rest :=
  pair_infix_skip fun member => absent first (plain_mem_iff.mp member) rfl

theorem adjacent_calm (opener : Opener first second) {text : List Char}
    (calm : Text.isCalm text = true) :
    Adjacent first second (text.map .plain ++ rest) ↔ Adjacent first second rest := by
  induction text with
  | nil => rfl
  | cons character text ih =>
      rw [Text.isCalm, Bool.and_eq_true, Bool.and_eq_true] at calm
      have apart : ¬(Lexeme.plain character = .plain first ∧
          (text.map Lexeme.plain ++ rest).head? = some (.plain second)) := by
        intro given
        obtain ⟨same, head⟩ := given
        cases same
        have sign : "-/".toList.contains first = true := List.contains_iff_mem.mpr opener.signs.1
        have followed : text.head?.any (fun next => !"-*".toList.contains next) = true := by
          simpa only [sign, Bool.not_true, Bool.false_or] using calm.1.2
        obtain ⟨next, found, other⟩ := (Option.any_eq_true _ _).mp followed
        obtain ⟨others, rfl⟩ := List.head?_eq_some_iff.mp found
        cases head
        rw [List.contains_iff_mem.mpr opener.signs.2] at other
        cases other
      exact pair_infix_cons.trans ((or_iff_right apart).trans (ih calm.2))

end Lexeme

namespace Dialect

variable {dialect : Dialect} {first second : Char}

private theorem sign_notMem_term (opener : Lexeme.Opener first second) :
    isTermCharacter first = false ∧ isTermCharacter second = false := by
  rcases opener with ⟨rfl, rfl⟩ | ⟨rfl, rfl⟩ <;> decide

theorem adjacent_name (opener : Lexeme.Opener first second) {name : String} {rest : List Lexeme} :
    Lexeme.Adjacent first second (dialect.nameLexemes name ++ rest) ↔
      Lexeme.Adjacent first second rest := by
  refine Lexeme.adjacent_skip fun character member => ?_
  rw [plains_nameLexemes name character member]
  rcases opener with ⟨rfl, rfl⟩ | ⟨rfl, rfl⟩ <;> decide

theorem adjacent_now (opener : Lexeme.Opener first second) {rest : List Lexeme} :
    Lexeme.Adjacent first second (dialect.nowLexemes ++ rest) ↔
      Lexeme.Adjacent first second rest := by
  refine Lexeme.adjacent_skip fun character member same => ?_
  have inTerm := plains_nowLexemes character member
  rw [same, (sign_notMem_term opener).1] at inTerm
  cases inTerm

theorem adjacent_marker (opener : Lexeme.Opener first second) {base : String} {position : Nat}
    {rest : List Lexeme} :
    Lexeme.Adjacent first second
        ((dialect.markerSign :: (parameterName base position).toList).map .plain ++ rest) ↔
      Lexeme.Adjacent first second rest := by
  refine Lexeme.adjacent_skip ?_
  have noSign : isNameCharacter first = false ∧ dialect.markerSign ≠ first := by
    rcases opener with ⟨rfl, rfl⟩ | ⟨rfl, rfl⟩ <;> cases dialect <;> decide
  rw [Lexeme.plains_map_plain]
  refine List.forall_mem_cons.mpr ⟨noSign.2, fun character member same => ?_⟩
  have inName := parameterName_nameCharacter base position character member
  rw [same, noSign.1] at inName
  cases inName

theorem adjacent_literal (opener : Lexeme.Opener first second) {value : Value}
    {rest : List Lexeme} (writable : value.hasLiteral = true) :
    Lexeme.Adjacent first second (dialect.literalLexemes value ++ rest) ↔
      Lexeme.Adjacent first second rest := by
  obtain ⟨body, written, filled, inTerm⟩ := dialect.literalLexemes_eq writable
  have absent : ∀ sign, isTermCharacter sign = false →
      ∀ character ∈ Lexeme.plains body, character ≠ sign := by
    intro sign outside character member same
    have inside := inTerm character member
    rw [same, outside] at inside
    cases inside
  have skipped : Lexeme.Adjacent first second (body ++ rest) ↔
      Lexeme.Adjacent first second rest :=
    Lexeme.adjacent_skip (absent first (sign_notMem_term opener).1)
  rw [written]
  by_cases negative : value.isNegative = true
  · obtain ⟨lexeme, others, rfl⟩ := List.exists_cons_of_ne_nil filled
    have apart : ¬(Lexeme.plain '-' = .plain first ∧
        (lexeme :: others ++ rest).head? = some (.plain second)) := by
      intro given
      obtain ⟨_, head⟩ := given
      cases head
      exact absent second (sign_notMem_term opener).2 second (by simp) rfl
    rw [if_pos negative]
    exact pair_infix_cons.trans ((or_iff_right apart).trans skipped)
  · rw [if_neg negative]
    exact skipped

theorem head_literal {value : Value} {rest : List Lexeme} (writable : value.hasLiteral = true) :
    (dialect.literalLexemes value ++ rest).head? = some (.plain '-') ↔
      value.isNegative = true := by
  obtain ⟨body, written, filled, inTerm⟩ := dialect.literalLexemes_eq writable
  obtain ⟨lexeme, others, rfl⟩ := List.exists_cons_of_ne_nil filled
  rw [written]
  by_cases negative : value.isNegative = true
  · simp [negative]
  · have noMinus : lexeme ≠ .plain '-' := by
      intro same
      subst same
      exact absurd (inTerm '-' (by simp)) (by decide)
    simp [negative, noMinus]

end Dialect

/-!
## Fragments
-/

def Fragment.Subtracts (fragment : Fragment) (slot : Slot) : Prop :=
  [.fixed "-", .slot slot] <:+: fragment

namespace Fragment

variable {settings : Settings} {fragment : Fragment} {slot : Slot} {first second : Char}

theorem subtracts_cons {piece : Piece} (other : piece ≠ .fixed "-") :
    Subtracts (piece :: fragment) slot ↔ fragment.Subtracts slot := by
  refine pair_infix_cons.trans (or_iff_right fun ⟨same, _⟩ => other same)

theorem minus_ne_calm {text : String} (calm : Text.isCalm text.toList = true) :
    Piece.fixed text ≠ .fixed "-" := by
  intro same
  cases same
  exact absurd calm (by decide)

theorem subtracts_minus {other : Slot} :
    Subtracts (.fixed "-" :: .slot other :: fragment) slot ↔
      other = slot ∨ fragment.Subtracts slot := by
  refine pair_infix_cons.trans (or_congr ?_ (subtracts_cons (by simp)))
  simp

theorem Spaced.not_subtracts (spaced : Spaced false fragment) : ¬fragment.Subtracts slot := by
  induction spaced with
  | nil => simp [Subtracts]
  | fixed calm _ ih => rwa [subtracts_cons (minus_ne_calm calm)]
  | subtracted allowed => cases allowed
  | name _ _ ih | slot _ _ ih | now _ _ ih => rwa [subtracts_cons (by simp)]

private theorem adjacent_slot (opener : Lexeme.Opener first second)
    (literal : settings.useParameters = false → slot.value.hasLiteral = true) {holds : Prop}
    (others : ∀ bound, Lexeme.Adjacent first second (fragment.lexemes settings bound) ↔ holds)
    (bound : Nat) :
    Lexeme.Adjacent first second (lexemes settings bound (.slot slot :: fragment)) ↔ holds := by
  rw [lexemes, Settings.slotLexemes]
  split
  · exact (Dialect.adjacent_marker opener).trans (others _)
  · next inlines =>
    have writable := literal (Bool.eq_false_iff.mpr inlines)
    exact (Dialect.adjacent_literal opener writable).trans (others _)

private theorem head_slot (literal : settings.useParameters = false → slot.value.hasLiteral = true)
    (bound : Nat) :
    (lexemes settings bound (.slot slot :: fragment)).head? = some (.plain '-') ↔
      settings.useParameters = false ∧ slot.value.isNegative = true := by
  have noMinus : ∀ dialect : Dialect, dialect.markerSign ≠ '-' := by
    intro dialect
    cases dialect <;> decide
  rw [lexemes, Settings.slotLexemes]
  split
  · next binds => simp [binds, noMinus]
  · next inlines =>
    have inlined := Bool.eq_false_iff.mpr inlines
    rw [Dialect.head_literal (literal inlined)]
    simp [inlined]

/-- A spaced fragment opens a comment only where a negative literal is subtracted. -/
theorem adjacent_lexemes_iff {subtracts : Bool} (opener : Lexeme.Opener first second)
    (spaced : Spaced subtracts fragment)
    (writable : settings.useParameters = false → fragment.Writable) (bound : Nat) :
    Lexeme.Adjacent first second (fragment.lexemes settings bound) ↔
      first = '-' ∧ settings.useParameters = false ∧
        ∃ slot, fragment.Subtracts slot ∧ slot.value.isNegative = true := by
  induction spaced generalizing bound with
  | nil => simp [lexemes, Lexeme.Adjacent, Subtracts]
  | fixed calm _ ih =>
      rw [lexemes, Lexeme.adjacent_calm opener calm, ih writable]
      simp only [subtracts_cons (minus_ne_calm calm)]
  | @subtracted slot rest _ _ _ ih =>
      have literal := fun inlines => (writable_slot.mp (writable inlines)).1
      have others := adjacent_slot opener literal
        (ih fun inlines => (writable_slot.mp (writable inlines)).2) bound
      have minus : "-".toList.map Lexeme.plain = [.plain '-'] := by decide
      rw [lexemes, minus, List.singleton_append]
      refine pair_infix_cons.trans ((or_congr_right others).trans ?_)
      simp only [subtracts_minus, or_and_right, exists_or, exists_eq_left']
      rcases opener with ⟨rfl, rfl⟩ | ⟨rfl, rfl⟩
      · rw [head_slot literal]
        simp only [true_and, and_or_left]
      · simp
  | name _ _ ih =>
      rw [lexemes, Dialect.adjacent_name opener, ih writable]
      simp only [subtracts_cons (Piece.noConfusion : Piece.name _ ≠ .fixed "-")]
  | slot _ _ ih =>
      have literal := fun inlines => (writable_slot.mp (writable inlines)).1
      rw [adjacent_slot opener literal (ih fun inlines => (writable_slot.mp (writable inlines)).2)]
      simp only [subtracts_cons (Piece.noConfusion : Piece.slot _ ≠ .fixed "-")]
  | now _ _ ih =>
      rw [lexemes, Dialect.adjacent_now opener, ih writable]
      simp only [subtracts_cons (Piece.noConfusion : Piece.now ≠ .fixed "-")]

private theorem semicolon_notMem_slot (bound : Nat)
    (literal : settings.useParameters = false → slot.value.hasLiteral = true)
    (others : ∀ bound, ';' ∉ Lexeme.plains (fragment.lexemes settings bound)) :
    ';' ∉ Lexeme.plains (lexemes settings bound (.slot slot :: fragment)) := by
  rw [lexemes, Settings.slotLexemes]
  split
  · rw [Lexeme.plains_append, Lexeme.plains_map_plain, List.mem_append, not_or]
    refine ⟨fun member => ?_, others _⟩
    rcases List.mem_cons.mp member with sign | inName
    · revert sign
      cases settings.dialect <;> decide
    · exact absurd (parameterName_nameCharacter _ _ _ inName) (by decide)
  · next inlines =>
    obtain ⟨body, written, _, inTerm⟩ :=
      settings.dialect.literalLexemes_eq (literal (Bool.eq_false_iff.mpr inlines))
    rw [written, Lexeme.plains_append, Lexeme.plains_append, List.mem_append, List.mem_append,
      not_or, not_or]
    refine ⟨⟨?_, fun member => absurd (inTerm _ member) (by decide)⟩, others _⟩
    split <;> decide

theorem semicolon_notMem_lexemes {subtracts : Bool} (spaced : Spaced subtracts fragment)
    (writable : settings.useParameters = false → fragment.Writable) (bound : Nat) :
    ';' ∉ Lexeme.plains (fragment.lexemes settings bound) := by
  induction spaced generalizing bound with
  | nil => simp [lexemes]
  | fixed calm _ ih =>
      rw [lexemes, Lexeme.plains_append, Lexeme.plains_map_plain, List.mem_append, not_or]
      exact ⟨fun member => absurd (Text.isInert_of_isCalm calm _ member) (by decide),
        ih writable bound⟩
  | subtracted _ _ _ ih =>
      rw [lexemes, Lexeme.plains_append, List.mem_append, not_or]
      exact ⟨by decide, semicolon_notMem_slot bound
        (fun inlines => (writable_slot.mp (writable inlines)).1)
        (ih fun inlines => (writable_slot.mp (writable inlines)).2)⟩
  | name _ _ ih =>
      rw [lexemes, Lexeme.plains_append, List.mem_append, not_or]
      exact ⟨fun member => absurd (Dialect.plains_nameLexemes _ _ member) (by decide),
        ih writable bound⟩
  | slot _ _ ih =>
      exact semicolon_notMem_slot bound (fun inlines => (writable_slot.mp (writable inlines)).1)
        (ih fun inlines => (writable_slot.mp (writable inlines)).2)
  | now _ _ ih =>
      rw [lexemes, Lexeme.plains_append, List.mem_append, not_or]
      exact ⟨fun member => absurd (Dialect.plains_nowLexemes _ member) (by decide),
        ih writable bound⟩

end Fragment

/-!
## Requests
-/

namespace Fragment

variable {slot : Slot}

theorem subtracts_joined {parts : List Fragment} :
    Subtracts (joined "," parts) slot ↔ ∃ part ∈ parts, part.Subtracts slot := by
  induction parts with
  | nil => simp [joined, Subtracts]
  | cons part rest ih =>
      cases rest with
      | nil => simp [joined]
      | cons next rest =>
          have noSeam : ¬(part.getLast? = some (.fixed "-") ∧
              (Piece.fixed "," :: joined "," (next :: rest)).head? = some (.slot slot)) := by simp
          rw [joined, Subtracts, pair_infix_append, or_iff_left noSeam, List.exists_mem_cons_iff]
          exact or_congr_right ((subtracts_cons (by simp)).trans ih)

end Fragment

namespace Context

variable {context : Context} {assignment : Assignment}

theorem assignmentFragment_subtracts {fragment : Fragment} {slot : Slot}
    (written : context.assignmentFragment assignment = .ok fragment) :
    fragment.Subtracts slot ↔
      assignment.op = .subtract ∧
        ⟨assignment.key, assignment.value, assignment.dataType⟩ = slot := by
  obtain ⟨value, valueOk, written⟩ := Result.bind_eq_ok_iff.mp written
  cases written
  rw [Fragment.subtracts_cons (by simp), Fragment.subtracts_cons (by simp)]
  unfold assignedValue at valueOk
  cases assigned : assignment.op with
  | now =>
      rw [assigned] at valueOk
      cases valueOk
      simp [Fragment.Subtracts, pair_infix_cons]
  | assign | add =>
      rw [assigned] at valueOk
      obtain ⟨placed, _, valueOk⟩ := Result.bind_eq_ok_iff.mp valueOk
      cases valueOk
      simp [Fragment.Subtracts, pair_infix_cons]
  | subtract =>
      rw [assigned] at valueOk
      obtain ⟨placed, placedOk, valueOk⟩ := Result.bind_eq_ok_iff.mp valueOk
      cases valueOk
      obtain ⟨_, rfl⟩ := slot_eq_ok_iff.mp placedOk
      simp [Fragment.Subtracts, pair_infix_cons]

theorem resolvedAssignment_op {resolved : Assignment}
    (found : context.resolvedAssignment assignment = .ok resolved) :
    resolved.op = assignment.op := by
  unfold resolvedAssignment at found
  split at found
  · cases found
    rfl
  · obtain ⟨column, _, found⟩ := Result.bind_eq_ok_iff.mp found
    simp only at found
    split at found
    · cases found
      rfl
    · obtain ⟨value, _, found⟩ := Result.bind_eq_ok_iff.mp found
      cases found
      rfl

/-- The slots that SET subtracts are the values of the assignments that subtract, as the entity
resolves them. -/
theorem setFragment_subtracts {assignments : List Assignment} {fragment : Fragment} {slot : Slot}
    (written : context.setFragment assignments = .ok fragment) :
    fragment.Subtracts slot ↔
      ∃ assignment ∈ assignments, assignment.op = .subtract ∧
        ∃ resolved, context.resolvedAssignment assignment = .ok resolved ∧
          ⟨resolved.key, resolved.value, resolved.dataType⟩ = slot := by
  obtain ⟨_, resolved, parts, resolvedOk, partsOk, rfl⟩ := setFragment_eq_ok_iff.mp written
  rw [Fragment.subtracts_cons (Fragment.minus_ne_calm (by decide)), Fragment.subtracts_joined]
  constructor
  · intro given
    obtain ⟨part, partMember, subtracts⟩ := given
    obtain ⟨column, columnMember, partOk⟩ := Result.exists_of_mem partsOk partMember
    obtain ⟨assignment, member, found⟩ := Result.exists_of_mem resolvedOk columnMember
    obtain ⟨subtracting, placed⟩ := (assignmentFragment_subtracts partOk).mp subtracts
    exact ⟨assignment, member, (resolvedAssignment_op found).symm.trans subtracting, column, found,
      placed⟩
  · intro given
    obtain ⟨assignment, member, subtracting, column, found, placed⟩ := given
    obtain ⟨other, otherMember, otherFound⟩ := Result.exists_of_mem_left resolvedOk member
    obtain rfl : column = other := Except.ok.inj (found.symm.trans otherFound)
    obtain ⟨part, partMember, partOk⟩ := Result.exists_of_mem_left partsOk otherMember
    exact ⟨part, partMember, (assignmentFragment_subtracts partOk).mpr
      ⟨(resolvedAssignment_op found).trans subtracting, placed⟩⟩

end Context

theorem Update.fragment_subtracts {change : Update} {fragment : Fragment} {slot : Slot}
    (written : change.fragment = .ok fragment) :
    fragment.Subtracts slot ↔
      ∃ assignment ∈ change.assignments, assignment.op = .subtract ∧
        ∃ resolved,
          (change.filter.context change.settings).resolvedAssignment assignment = .ok resolved ∧
          ⟨resolved.key, resolved.value, resolved.dataType⟩ = slot := by
  obtain ⟨set, clause, setOk, clauseOk, rfl⟩ := Update.fragment_eq_ok_iff.mp written
  obtain ⟨clauseSpaced, clauseParted⟩ := Filter.fragment?_spaced clauseOk
  have noSeam : ¬(set.getLast? = some (.fixed "-") ∧
      (clause.getD []).head? = some (.slot slot)) := by
    intro given
    obtain ⟨_, head⟩ := given
    obtain ⟨rest, clauseFilled⟩ := List.head?_eq_some_iff.mp head
    rw [clauseFilled] at clauseParted
    cases clauseParted
  have inSet : Fragment.Subtracts (set ++ clause.getD []) slot ↔ set.Subtracts slot :=
    pair_infix_append.trans (or_iff_left fun elsewhere =>
      elsewhere.elim clauseSpaced.not_subtracts noSeam)
  rw [List.cons_append, List.cons_append, List.cons_append,
    Fragment.subtracts_cons (Fragment.minus_ne_calm (by decide)),
    Fragment.subtracts_cons (by simp),
    Fragment.subtracts_cons (Fragment.minus_ne_calm (by decide)), inSet]
  exact Context.setFragment_subtracts setOk

/-- A negative number is subtracted, and its literal is written behind the minus. -/
def Request.SubtractsNegative : Request → Prop
  | .update change =>
    change.settings.useParameters = false ∧
      ∃ assignment ∈ change.assignments, assignment.op = .subtract ∧
        ∃ resolved,
          (change.filter.context change.settings).resolvedAssignment assignment = .ok resolved ∧
          resolved.value.isNegative = true
  | _ => False

namespace Request

variable {request : Request} {fragment : Fragment}

theorem subtractsNegative_iff (written : request.fragment = .ok fragment) :
    request.SubtractsNegative ↔
      request.settings.useParameters = false ∧
        ∃ slot, fragment.Subtracts slot ∧ slot.value.isNegative = true := by
  have free : Fragment.Spaced false fragment →
      (False ↔ request.settings.useParameters = false ∧
        ∃ slot, fragment.Subtracts slot ∧ slot.value.isNegative = true) := fun spaced =>
    ⟨False.elim, fun ⟨_, _, subtracts, _⟩ => spaced.not_subtracts subtracts⟩
  cases request with
  | rows query => exact free (Select.rowsFragment_spaced written)
  | total query => exact free (Select.totalFragment_spaced written)
  | insert row => exact free (Insert.fragment_spaced written)
  | update change =>
      refine and_congr_right fun _ => ?_
      simp only [Update.fragment_subtracts written]
      constructor
      · intro given
        obtain ⟨assignment, member, subtracting, resolved, found, negative⟩ := given
        exact ⟨_, ⟨assignment, member, subtracting, resolved, found, rfl⟩, negative⟩
      · intro given
        obtain ⟨_, ⟨assignment, member, subtracting, resolved, found, rfl⟩, negative⟩ := given
        exact ⟨assignment, member, subtracting, resolved, found, negative⟩
  | delete removal => exact free (Delete.fragment_spaced written)
  | filter expr scope entity settings => exact free (Context.filterFragment_spaced written)
  | values table assignments settings =>
      exact free (Context.valuesFragment_spaced (rowValuesFragment_eq_ok_iff.mp written).2)

/-- Every quotation in a statement is closed, and outside of all quotes stand no semicolon, no slash
before a star, and two minus signs only where a negative number is subtracted and written as a
literal. -/
theorem opens_comment_iff {rendered : Rendered} (success : request.outcome = .ok rendered) :
    ∃ lexemes, request.settings.dialect.lexemes? rendered.sql.toList = some lexemes ∧
      .plain ';' ∉ lexemes ∧ ¬Lexeme.Adjacent '/' '*' lexemes ∧
      (Lexeme.Adjacent '-' '-' lexemes ↔ request.SubtractsNegative) := by
  obtain ⟨fragment, written, rfl⟩ := outcome_eq_ok_iff.mp success
  have spaced := fragment_spaced written
  have writable := fragment_writable written
  refine ⟨_, lexemes?_rendered written, ?_, ?_, ?_⟩
  · rw [Lexeme.plain_mem_iff]
    exact Fragment.semicolon_notMem_lexemes spaced writable 0
  · rw [Fragment.adjacent_lexemes_iff (.inr ⟨rfl, rfl⟩) spaced writable]
    intro given
    obtain ⟨slash, _⟩ := given
    exact absurd slash (by decide)
  · rw [Fragment.adjacent_lexemes_iff (.inl ⟨rfl, rfl⟩) spaced writable,
      subtractsNegative_iff written]
    exact and_iff_right rfl

/-- A change that subtracts a value of minus three before its filter, with literals. -/
def sampleDecrease : Request :=
  .update
    { table := "t"
      assignments := [.subtract "c" (.int32 (-3))]
      filter := { expr := some (.compare .eq (.property "id") (.literal (.int32 1))) }
      settings := { useParameters := false } }

theorem opens_comment_sampleDecrease :
    ∃ rendered lexemes, sampleDecrease.outcome = .ok rendered ∧
      rendered.sql = "UPDATE [t] SET [c]=[c]--3 WHERE [id] = 1" ∧
      sampleDecrease.settings.dialect.lexemes? rendered.sql.toList = some lexemes ∧
      Lexeme.Adjacent '-' '-' lexemes := by
  obtain ⟨rendered, success, text⟩ : ∃ rendered, sampleDecrease.outcome = .ok rendered ∧
      rendered.sql = "UPDATE [t] SET [c]=[c]--3 WHERE [id] = 1" := ⟨_, rfl, rfl⟩
  obtain ⟨lexemes, read, _, _, opens⟩ := opens_comment_iff success
  have negative : sampleDecrease.SubtractsNegative :=
    ⟨rfl, .subtract "c" (.int32 (-3)), List.mem_cons_self .., rfl, _, rfl, by decide⟩
  exact ⟨rendered, lexemes, success, text, read, opens.mpr negative⟩

end Request

end QueryText
