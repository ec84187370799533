import Mathlib.Data.List.Induction
import QueryText.Proofs.Instantiation

/-!
# Paths of captures

A captured variable with members behind it is followed from the variable on, through one object
after the other. It has the value that it ends at. Where the way ends before, the error names the
first step that fails and, with dots, the way up to there.
-/

set_option autoImplicit false

namespace QueryText

/-!
## Following a path
-/

/-- The expression `root.member.member`, with any number of members. -/
def Expr.memberPath (root : String) (members : List String) : Expr :=
  members.foldl .field (.captured root)

/-- How a path of members is shown. -/
def dotted (root : String) (members : List String) : String :=
  ".".intercalate (root :: members)

/-- What members lead to from here. Only objects have members. -/
def Capture.follow? : Capture → List String → Option Capture
  | capture, [] => some capture
  | .object inner, member :: rest => do
    let next ← inner.get? member
    next.follow? rest
  | .value _, _ :: _ => none

/-- What members lead to that stand behind a variable. -/
def Scope.follow? (scope : Scope) (root : String) (members : List String) : Option Capture := do
  let start ← scope.get? root
  start.follow? members

/-- What becomes of a path that is used as an operand. -/
inductive Context.Resolves (context : Context) (root : String) (members : List String) :
    Except RenderError Value → Prop where
  | value {value : Value} :
      context.bindings.follow? root members = some (.value value) →
      Resolves context root members (.ok value)
  | noScope : context.scope = none →
      Resolves context root members (.error (.unknownCapture root))
  | noVariable {scope : Scope} : context.scope = some scope → scope.get? root = none →
      Resolves context root members (.error (.unknownCapture root))
  | noMember (passed rest : List String) {member : String} {inner : Scope} :
      members = passed ++ member :: rest →
      context.bindings.follow? root passed = some (.object inner) → inner.get? member = none →
      Resolves context root members (.error (.unknownMember (dotted root passed) member))
  | noObject (passed rest : List String) {member : String} {value : Value} :
      members = passed ++ member :: rest →
      context.bindings.follow? root passed = some (.value value) →
      Resolves context root members (.error (.unknownMember (dotted root passed) member))
  | object {inner : Scope} :
      context.bindings.follow? root members = some (.object inner) →
      Resolves context root members
        (.error (.typeMismatch (dotted root members) "value" "object"))

variable {root member : String} {members passed rest : List String}

/-!
## The text of a path
-/

theorem dotted_concat (root : String) (members : List String) (member : String) :
    dotted root (members ++ [member]) = dotted root members ++ "." ++ member := by
  rw [dotted, ← List.cons_append, String.intercalate_append_of_ne_nil (List.cons_ne_nil _ _)
    (List.cons_ne_nil _ _), String.intercalate_singleton, ← dotted]

namespace Expr

theorem memberPath_concat (root : String) (members : List String) (member : String) :
    memberPath root (members ++ [member]) = .field (memberPath root members) member :=
  List.foldl_concat ..

theorem path_memberPath (root : String) (members : List String) :
    (memberPath root members).path = dotted root members := by
  induction members using List.reverseRecOn with
  | nil => rfl
  | append_singleton members member ih => rw [memberPath_concat, dotted_concat, path, ih]

end Expr

/-!
## Where a path leads
-/

theorem Capture.follow?_append (capture : Capture) (passed rest : List String) :
    capture.follow? (passed ++ rest) = (capture.follow? passed).bind fun next =>
      next.follow? rest := by
  induction passed generalizing capture with
  | nil => rfl
  | cons member passed ih =>
      cases capture with
      | value value => rfl
      | object inner =>
          rw [List.cons_append, follow?, follow?]
          cases inner.get? member with
          | none => rfl
          | some next => exact ih next

theorem Scope.follow?_append (scope : Scope) (root : String) (passed rest : List String) :
    scope.follow? root (passed ++ rest) = (scope.follow? root passed).bind fun next =>
      next.follow? rest := by
  unfold follow?
  cases scope.get? root with
  | none => rfl
  | some start => exact start.follow?_append passed rest

theorem Capture.follow?_object (inner : Scope) (member : String) :
    (Capture.object inner).follow? [member] = inner.get? member := by
  rw [follow?]
  cases inner.get? member <;> rfl

/-- Members are followed to their end, or there is a first one that leads nowhere. -/
theorem Capture.follow?_cases (capture : Capture) (members : List String) :
    (∃ reached, capture.follow? members = some reached) ∨
      ∃ passed member rest reached, members = passed ++ member :: rest ∧
        capture.follow? passed = some reached ∧ reached.follow? [member] = none := by
  induction members generalizing capture with
  | nil => exact .inl ⟨capture, rfl⟩
  | cons member rest ih =>
      have step := capture.follow?_append [member]
      cases next : capture.follow? [member] with
      | none => exact .inr ⟨[], member, rest, capture, rfl, rfl, next⟩
      | some next' =>
          rw [next] at step
          rcases ih next' with
            ⟨reached, ends⟩ | ⟨passed, broken, others, reached, rfl, way, fails⟩
          · exact .inl ⟨reached, (step rest).trans ends⟩
          · exact .inr
              ⟨member :: passed, broken, others, reached, rfl, (step passed).trans way, fails⟩

/-- A path that is read from its last member inward leads where it is followed to. -/
theorem Scope.reached?_memberPath (scope : Scope) (root : String) (members : List String) :
    scope.reached? (.memberPath root members) = scope.follow? root members := by
  induction members using List.reverseRecOn with
  | nil =>
      change scope.get? root = _
      unfold follow?
      cases scope.get? root <;> rfl
  | append_singleton members member ih =>
      rw [Expr.memberPath_concat, follow?_append, reached?, ih]
      cases scope.follow? root members with
      | none => rfl
      | some reached =>
          cases reached with
          | value value => rfl
          | object inner => exact (Capture.follow?_object inner member).symm

/-!
## What a path is resolved to
-/

namespace Context

variable {context : Context} {error : RenderError}

theorem captured_memberPath_iff {capture : Capture} :
    context.captured (.memberPath root members) = .ok capture ↔
      context.bindings.follow? root members = some capture := by
  rw [captured_eq_ok_iff, Scope.reached?_memberPath]

/-- A step that fails decides about the path, whatever stands behind it. -/
theorem captured_memberPath_error (passed rest : List String)
    (failed : context.captured (.memberPath root passed) = .error error) :
    context.captured (.memberPath root (passed ++ rest)) = .error error := by
  induction rest using List.reverseRecOn with
  | nil => rwa [List.append_nil]
  | append_singleton rest member ih =>
      rw [← List.append_assoc, Expr.memberPath_concat, captured, ih]
      rfl

theorem captured_root_error (members : List String) (missing : context.bindings.get? root = none) :
    context.captured (.memberPath root members) = .error (.unknownCapture root) := by
  have start : context.captured (.captured root) = .error (.unknownCapture root) := by
    rw [captured]
    cases known : context.scope with
    | none => rfl
    | some scope =>
        rw [bindings, known, Option.getD_some] at missing
        simp only [Scope.lookup, missing]
  exact captured_memberPath_error [] members start

/-- The first member that leads nowhere is the one that the error names. -/
theorem captured_member_error {reached : Capture} (rest : List String)
    (way : context.bindings.follow? root passed = some reached)
    (fails : reached.follow? [member] = none) :
    context.captured (.memberPath root (passed ++ member :: rest)) =
      .error (.unknownMember (dotted root passed) member) := by
  have found := captured_memberPath_iff.mpr way
  rw [List.append_cons]
  refine captured_memberPath_error _ rest ?_
  rw [Expr.memberPath_concat, captured, found, Expr.path_memberPath]
  cases reached with
  | value value => rfl
  | object inner =>
      rw [Capture.follow?_object] at fails
      simp only [bind, Except.bind, fails]

theorem captureValue_error {path : Expr} (failed : context.captured path = .error error) :
    context.captureValue path = .error error := by
  rw [captureValue, failed]
  rfl

theorem Resolves.captureValue {outcome : Except RenderError Value}
    (resolves : context.Resolves root members outcome) :
    context.captureValue (.memberPath root members) = outcome := by
  cases resolves with
  | value ends =>
      rw [Context.captureValue, captured_memberPath_iff.mpr ends]
      rfl
  | noScope unknown =>
      refine captureValue_error (captured_root_error members ?_)
      rw [bindings, unknown]
      rfl
  | noVariable known missing =>
      refine captureValue_error (captured_root_error members ?_)
      rw [bindings, known]
      exact missing
  | noMember passed rest parts way missing =>
      subst parts
      refine captureValue_error (captured_member_error rest way ?_)
      rw [Capture.follow?_object, missing]
  | noObject passed rest parts way =>
      subst parts
      exact captureValue_error (captured_member_error rest way rfl)
  | object ends =>
      rw [Context.captureValue, captured_memberPath_iff.mpr ends, ← Expr.path_memberPath]
      rfl

theorem resolves_total (context : Context) (root : String) (members : List String) :
    ∃ outcome, context.Resolves root members outcome := by
  cases known : context.scope with
  | none => exact ⟨_, .noScope known⟩
  | some scope =>
      have bound : context.bindings = scope := by
        rw [bindings, known]
        rfl
      cases found : scope.get? root with
      | none => exact ⟨_, .noVariable known found⟩
      | some start =>
          have way (passed : List String) :
              context.bindings.follow? root passed = start.follow? passed := by
            rw [bound, Scope.follow?, found]
            rfl
          rcases start.follow?_cases members with
            ⟨reached, ends⟩ | ⟨passed, member, rest, reached, parts, reaches, fails⟩
          · cases reached with
            | value value => exact ⟨_, .value ((way members).trans ends)⟩
            | object inner => exact ⟨_, .object ((way members).trans ends)⟩
          · cases reached with
            | value value => exact ⟨_, .noObject passed rest parts ((way passed).trans reaches)⟩
            | object inner =>
                rw [Capture.follow?_object] at fails
                exact ⟨_, .noMember passed rest parts ((way passed).trans reaches) fails⟩

theorem operand_memberPath (context : Context) (root : String) (members : List String) :
    context.operand (.memberPath root members) =
      (context.captureValue (.memberPath root members)).map .value := by
  induction members using List.reverseRecOn with
  | nil => exact bind_pure_comp ..
  | append_singleton members member =>
      rw [Expr.memberPath_concat]
      exact bind_pure_comp ..

/-- A path of captures that is used as an operand is the value that it is followed to, or it fails
with the error of its first step that leads nowhere. One of these is the case for every path. -/
theorem operand_resolves (context : Context) (root : String) (members : List String) :
    (∀ outcome, context.Resolves root members outcome →
      context.operand (.memberPath root members) = outcome.map .value) ∧
    ∃ outcome, context.Resolves root members outcome := by
  refine ⟨fun outcome resolves => ?_, resolves_total context root members⟩
  rw [operand_memberPath, resolves.captureValue]

/-- A user with a name and a key, which is an object. -/
def sampleUser : Context where
  scope := some <| Scope.empty.bindObject "user" <|
    (Scope.empty.bind "name" (.text "Ada")).bindObject "key" (Scope.empty.bind "id" (.int32 7))

theorem operand_resolves_sampleUser :
    sampleUser.operand (.field (.field (.captured "user") "key") "id") = .ok (.value (.int32 7)) ∧
    sampleUser.operand (.captured "other") = .error (.unknownCapture "other") ∧
    sampleUser.operand (.field (.field (.field (.captured "user") "key") "code") "first") =
      .error (.unknownMember "user.key" "code") ∧
    sampleUser.operand (.field (.field (.captured "user") "name") "first") =
      .error (.unknownMember "user.name" "first") ∧
    sampleUser.operand (.field (.captured "user") "key") =
      .error (.typeMismatch "user.key" "value" "object") ∧
    ({} : Context).operand (.field (.captured "user") "name") =
      .error (.unknownCapture "user") := by
  refine ⟨?_, ?_, ?_, ?_, ?_, ?_⟩
  · exact (operand_resolves sampleUser "user" ["key", "id"]).1 _ (.value rfl)
  · exact (operand_resolves sampleUser "other" []).1 _ (.noVariable rfl rfl)
  · exact (operand_resolves sampleUser "user" ["key", "code", "first"]).1 _
      (.noMember ["key"] ["first"] rfl rfl rfl)
  · exact (operand_resolves sampleUser "user" ["name", "first"]).1 _
      (.noObject ["name"] [] rfl rfl)
  · exact (operand_resolves sampleUser "user" ["key"]).1 _ (.object rfl)
  · exact (operand_resolves {} "user" ["name"]).1 _ (.noScope rfl)

end Context

end QueryText
