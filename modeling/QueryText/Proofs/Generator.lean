import QueryText.Dialect.Generator
import QueryText.Proofs.Decoding
import QueryText.Proofs.Reading
import QueryText.Proofs.Words

/-!
# Names of key generators

PostgreSql takes the name of a generator as a text. The statement puts the name between the quotes as
it is, so that the name is read back exactly if there is nothing in it to escape.
-/

set_option autoImplicit false

namespace QueryText.Dialect

open Text

variable {dialect : Dialect} {text content rest : List Char}

/-- Where a backslash stands for itself, a content is read from its escaped form only. -/
theorem escaped_of_textContent? {escapes : Bool} (literal : escapes = false)
    (read : textContent? escapes text = some (content, rest)) :
    text = postgreSql.escaped content ++ '\'' :: rest := by
  fun_induction textContent? escapes text generalizing content with
  | case1 => cases read
  | case2 others ih =>
      obtain ⟨⟨tail, behind⟩, tailRead, same⟩ := Option.map_eq_some_iff.mp read
      cases same
      rw [ih tailRead]
      rfl
  | case3 others =>
      cases read
      rfl
  | case4 _ _ escaping => exact absurd (literal.symm.trans escaping) (by decide)
  | case5 next others _ ih =>
      obtain ⟨⟨tail, behind⟩, tailRead, same⟩ := Option.map_eq_some_iff.mp read
      cases same
      rw [ih tailRead]
      rfl
  | case6 character others _ noQuote _ ih =>
      obtain ⟨⟨tail, behind⟩, tailRead, same⟩ := Option.map_eq_some_iff.mp read
      cases same
      rw [ih tailRead, escaped, if_neg noQuote, if_neg (by simp)]
      rfl

theorem length_le_length_escaped (content : List Char) :
    content.length ≤ (dialect.escaped content).length := by
  fun_induction dialect.escaped content with
  | case1 => exact Nat.le_refl 0
  | case2 _ ih => exact Nat.succ_le_succ (Nat.le_succ_of_le ih)
  | case3 _ _ _ _ ih => exact Nat.succ_le_succ (Nat.le_succ_of_le ih)
  | case4 _ _ _ _ ih => exact Nat.succ_le_succ ih

theorem quote_notMem_of_escaped_eq_self (same : postgreSql.escaped content = content) :
    '\'' ∉ content := by
  induction content with
  | nil => exact List.not_mem_nil
  | cons character content ih =>
      have long := postgreSql.length_le_length_escaped content
      rw [escaped] at same
      split at same
      · -- A quote is written twice, and nothing behind it becomes shorter.
        have lengths := congrArg List.length same
        simp only [List.length_cons] at lengths
        omega
      · next noQuote =>
        rw [if_neg (by simp)] at same
        have tail := ih (List.cons.inj same).2
        simp [tail, Ne.symm noQuote]

/-- Between quotes, a content stands for itself exactly if it holds no quote. -/
theorem textContent?_self_iff (follows : rest.head? ≠ some '\'') :
    textContent? postgreSql.escapesBackslash (content ++ '\'' :: rest) = some (content, rest) ↔
      '\'' ∉ content := by
  refine ⟨fun read => ?_, fun noQuote => ?_⟩
  · have whole := escaped_of_textContent? rfl read
    exact quote_notMem_of_escaped_eq_self (List.append_cancel_right whole).symm
  · have kept : postgreSql.escaped content = content :=
      escaped_eq_self noQuote fun product => nomatch product
    have read := postgreSql.textContent?_escaped content follows
    rwa [kept] at read

theorem textLiteral?_eq_some_iff {name : String} :
    dialect.textLiteral? ('\'' :: text) = some (name, rest) ↔
      textContent? dialect.escapesBackslash text = some (name.toList, rest) := by
  rw [textLiteral?, Option.map_eq_some_iff]
  refine ⟨?_, fun read => ⟨_, read, by simp⟩⟩
  rintro ⟨⟨content, behind⟩, read, same⟩
  cases same
  rw [read, id, String.toList_ofList]

/-- The statement for PostgreSql takes one literal. It is read as the name of the generator, with
nothing but the last parenthesis behind it, exactly if neither the table nor the key holds a quote. -/
theorem nextKeyStatement_reads_iff (table key : String) :
    ∃ literal : String,
      postgreSql.nextKeyStatement table key = .ok ("SELECT nextval(" ++ literal ++ ")") ∧
      (postgreSql.textLiteral? (literal ++ ")").toList =
          some (lowercase table ++ "_" ++ lowercase key ++ "_seq", [')']) ↔
        '\'' ∉ table.toList ∧ '\'' ∉ key.toList) := by
  let name := lowercase table ++ "_" ++ lowercase key ++ "_seq"
  have quotes : '\'' ∉ name.toList ↔ '\'' ∉ table.toList ∧ '\'' ∉ key.toList := by
    rw [← textQuote_mem_lowercase_iff table, ← textQuote_mem_lowercase_iff key]
    simp [name]
  refine ⟨"'" ++ name ++ "'", ?_, ?_⟩
  · refine congrArg Except.ok (String.toList_inj.mp ?_)
    simp [name]
  · have opened : ("'" ++ name ++ "'" ++ ")").toList = '\'' :: (name.toList ++ '\'' :: [')']) := by
      simp
    rw [opened, textLiteral?_eq_some_iff, textContent?_self_iff (by decide), quotes]

/-- The quote of the table ends the literal behind its first letter. -/
example : postgreSql.nextKeyStatement "o'brien" "Id" = .ok "SELECT nextval('o'brien_id_seq')" :=
  congrArg Except.ok (by decide +kernel)

end QueryText.Dialect
