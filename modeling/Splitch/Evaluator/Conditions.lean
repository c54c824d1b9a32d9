/-
# Conditions of a Targeting Rule

The match of a context by the Conditions of a rule (`conditions.ts`), on the contexts and the
Conditions of the contract (`leaf-schemas-runtime.ts`, `leaf-schemas-flag.ts`).

A regular expression engine is a parameter (`RegExp`); logging is left out.  A Condition is one of ten
operators on a value, and a list of them is a conjunction that stops at the first one which is false or
throws.

An attribute is read from an object as a property, so that a name which the object does not carry is looked
up in `Object.prototype`.  Most operators compare the value with texts and numbers, and a function that was
inherited equals none of them.  But the negated operators are true of whatever is not equal.  So a Condition
on an attribute that the context does not carry never matches, just when it does not ask a negated question
about a member of `Object.prototype` (`missing_attribute_iff`); and there is one that does match
(`inherited_attribute_matches`).

The result is about lists as well: where such a Condition does not inherit its answer, a list that contains
it answers `false`, or has a Condition before it throw.
-/
import Mathlib

namespace Splitch

namespace Evaluator

/-! ## 1. Values -/

/-- A finite number, with the zero that `Object.is` tells from zero. -/
inductive JsNumber
  | finite (value : Rat)
  | negativeZero
  deriving DecidableEq, Repr

def JsNumber.toRat : JsNumber → Rat
  | finite value => value
  | negativeZero => 0

inductive Scalar
  | boolean (value : Bool)
  | number (value : JsNumber)
  | string (value : String)
  deriving DecidableEq, Repr

/-- What a JSON text can stand for. -/
inductive JsonValue
  | null
  | scalar (value : Scalar)
  | array (items : List JsonValue)
  | object (members : List (String × JsonValue))

/-- What the lookup of an attribute finds: a value of the context, or a member of
`Object.prototype` (each one is a function, or the prototype object). -/
inductive JsValue
  | json (value : JsonValue)
  | inherited (name : String)

inductive ConditionOperator
  | eq
  | neq
  | gt
  | lt
  | gte
  | lte
  | in_
  | not_in
  | matches_
  | not_matches
  deriving DecidableEq, Repr

inductive ConditionValue
  | scalar (value : Scalar)
  | array (items : List Scalar)
  deriving DecidableEq, Repr

structure Condition where
  attributeName : String
  operator : ConditionOperator
  value : ConditionValue
  deriving DecidableEq, Repr

structure EvaluationContext where
  targetingKey : String
  idType : String
  /-- The own properties. -/
  attributes : List (String × JsonValue)

/-! ## 2. What an evaluation throws -/

inductive FailureReason
  | error
  | stale
  deriving DecidableEq, Repr

inductive EvaluationThrow
  | evaluatePathError (message errorCode : String)
  | conditionMatchError (message errorCode : String)
  | providerError (message errorCode : String) (resolutionReason : FailureReason)
  | assignmentStoreError (message : String)
  /-- Any other `Error`, by its message, or a value that is none. -/
  | other (message : Option String)
  deriving DecidableEq, Repr

/-- `new RegExp(pattern).test(text)`; `none` where the pattern is a syntax error. -/
abbrev RegExp := String → String → Option Bool

/-! ## 3. Attributes -/

def OBJECT_PROTOTYPE : List String :=
  ["constructor", "__defineGetter__", "__defineSetter__", "hasOwnProperty", "__lookupGetter__",
    "__lookupSetter__", "isPrototypeOf", "propertyIsEnumerable", "toString", "valueOf", "__proto__",
    "toLocaleString"]

/-- `object[name] ?? null`: `none` is `null`. -/
def readProperty (object : List (String × JsonValue)) (name : String) : Option JsValue :=
  match object.lookup name with
  | some .null => none
  | some value => some (.json value)
  | none => if name ∈ OBJECT_PROTOTYPE then some (.inherited name) else none

def contextValue (context : EvaluationContext) (name : String) : Option JsValue :=
  if name = "targetingKey" then some (.json (.scalar (.string context.targetingKey)))
  else if name = "idType" then some (.json (.scalar (.string context.idType)))
  else readProperty context.attributes name

/-! ## 4. Operators -/

/-- `Object.is(actual, expected)` with a scalar of a Condition. -/
def objectIs : JsValue → Scalar → Bool
  | .json (.scalar actual), expected => actual = expected
  | _, _ => false

def comparableValues : JsValue → List JsValue
  | .json (.array items) => items.map .json
  | actual => [actual]

/-- An array of a Condition is no value of a context. -/
def anyEquals (actual : JsValue) : ConditionValue → Bool
  | .scalar expected => (comparableValues actual).any (objectIs · expected)
  | .array _ => false

def intersects (actual : JsValue) (expected : List Scalar) : Bool :=
  (comparableValues actual).any fun actualValue => expected.any (objectIs actualValue)

def compareNumbers (actual : JsValue) (expected : ConditionValue) (predicate : Rat → Rat → Bool) :
    Bool :=
  match actual, expected with
  | .json (.scalar (.number a)), .scalar (.number b) => predicate a.toRat b.toRat
  | _, _ => false

section

variable (regExp : RegExp)

def matchesRegex (actual : JsValue) (expected : ConditionValue) : Except EvaluationThrow Bool :=
  match actual, expected with
  | .json (.scalar (.string text)), .scalar (.string pattern) =>
    match regExp pattern text with
    | none => throw (.conditionMatchError "Invalid regex condition" "INTERNAL_SERVER_ERROR")
    | some found => return found
  | _, _ => return false

/-- The `switch` on the operator. -/
def applyOperator (actual : JsValue) (condition : Condition) : Except EvaluationThrow Bool :=
  match condition.operator with
  | .eq => return anyEquals actual condition.value
  | .neq => return !anyEquals actual condition.value
  | .gt => return compareNumbers actual condition.value (· > ·)
  | .lt => return compareNumbers actual condition.value (· < ·)
  | .gte => return compareNumbers actual condition.value (· ≥ ·)
  | .lte => return compareNumbers actual condition.value (· ≤ ·)
  | .in_ =>
    match condition.value with
    | .array items => return intersects actual items
    | .scalar _ => return false
  | .not_in =>
    match condition.value with
    | .array items => return !intersects actual items
    | .scalar _ => return false
  | .matches_ => matchesRegex regExp actual condition.value
  | .not_matches => return !(← matchesRegex regExp actual condition.value)

def matchesCondition (condition : Condition) (context : EvaluationContext) :
    Except EvaluationThrow Bool :=
  match contextValue context condition.attributeName with
  | none => return false
  | some actual => applyOperator regExp actual condition

def matchesConditions (conditions : List Condition) (context : EvaluationContext) :
    Except EvaluationThrow Bool :=
  if conditions.length = 0 then
    throw (.conditionMatchError "resolved Targeting Rule has no Conditions" "INTERNAL_SERVER_ERROR")
  else conditions.allM (matchesCondition regExp · context)

end

/-! ## 5. Lists of Conditions -/

section

variable {regExp : RegExp} {context : EvaluationContext} {condition : Condition}
  {conditions before after : List Condition}

/-- The Condition throws: its pattern is no regular expression. -/
def Throws (regExp : RegExp) (context : EvaluationContext) (condition : Condition) : Prop :=
  ∃ thrown, matchesCondition regExp condition context = .error thrown

theorem matchesConditions_cons : matchesConditions regExp (condition :: conditions) context =
    (condition :: conditions).allM (matchesCondition regExp · context) := if_neg nofun

/-- A list that matches has each of its Conditions match. -/
theorem matchesCondition_of_matchesConditions
    (h : matchesConditions regExp conditions context = .ok true) (hmem : condition ∈ conditions) :
    matchesCondition regExp condition context = .ok true := by
  cases conditions with
  | nil => cases hmem
  | cons first rest =>
    rw [matchesConditions_cons] at h
    generalize first :: rest = all at h hmem
    induction all with
    | nil => cases hmem
    | cons first rest ih =>
      rw [List.allM_cons] at h
      cases hfirst : matchesCondition regExp first context with
      | error thrown =>
        rw [hfirst] at h
        cases h
      | ok matched =>
        rw [hfirst] at h
        cases matched with
        | false => cases Except.ok.inj h
        | true =>
          rcases List.mem_cons.mp hmem with rfl | hrest
          · exact hfirst
          · exact ih h hrest

/-- A Condition that does not match decides, where none before it throws. -/
theorem matchesConditions_of_false (hbefore : ∀ other ∈ before, ¬ Throws regExp context other)
    (h : matchesCondition regExp condition context = .ok false) :
    matchesConditions regExp (before ++ condition :: after) context = .ok false := by
  have hall : (before ++ condition :: after).allM (matchesCondition regExp · context) =
      .ok false := by
    induction before with
    | nil =>
      rw [List.nil_append, List.allM_cons, h]
      rfl
    | cons first rest ih =>
      rw [List.cons_append, List.allM_cons]
      cases hfirst : matchesCondition regExp first context with
      | error thrown => exact absurd ⟨thrown, hfirst⟩ (hbefore first List.mem_cons_self)
      | ok matched =>
        cases matched with
        | false => rfl
        | true => exact ih fun other hother => hbefore other (List.mem_cons_of_mem _ hother)
  cases before with
  | nil => exact matchesConditions_cons.trans hall
  | cons => exact matchesConditions_cons.trans hall

/-! ## 6. Missing attributes -/

/-- The context carries no such attribute, or carries it as `null`. -/
def Missing (context : EvaluationContext) (name : String) : Prop :=
  name ≠ "targetingKey" ∧ name ≠ "idType" ∧
    (context.attributes.lookup name = none ∨ context.attributes.lookup name = some .null)

/-- The operators that a value of no kind satisfies. -/
def Negated (condition : Condition) : Prop :=
  match condition.operator, condition.value with
  | .neq, _ | .not_matches, _ | .not_in, .array _ => True
  | _, _ => False

/-- The lookup finds a member of `Object.prototype`, which satisfies the Condition. -/
def Inherits (context : EvaluationContext) (condition : Condition) : Prop :=
  context.attributes.lookup condition.attributeName = none ∧
    condition.attributeName ∈ OBJECT_PROTOTYPE ∧ Negated condition

@[simp] theorem intersects_inherited (name : String) (items : List Scalar) :
    intersects (.inherited name) items = false := by
  simp [intersects, comparableValues, objectIs]

theorem applyOperator_inherited (regExp : RegExp) (condition : Condition) (name : String) :
    applyOperator regExp (.inherited name) condition = .ok true ∧ Negated condition ∨
      applyOperator regExp (.inherited name) condition = .ok false ∧ ¬ Negated condition := by
  obtain ⟨attributeName, operator, value⟩ := condition
  cases operator with
  | neq =>
    left
    cases value <;> exact ⟨rfl, trivial⟩
  | not_matches =>
    left
    cases value <;> exact ⟨rfl, trivial⟩
  | not_in =>
    cases value with
    | scalar => exact .inr ⟨rfl, id⟩
    | array items =>
      refine .inl ⟨?_, trivial⟩
      simp [applyOperator]
      rfl
  | in_ =>
    right
    cases value with
    | scalar => exact ⟨rfl, id⟩
    | array items =>
      refine ⟨?_, id⟩
      simp [applyOperator]
      rfl
  | eq | gt | lt | gte | lte | matches_ =>
    right
    cases value <;> exact ⟨rfl, id⟩

/-- **A Condition on a missing attribute** is false, unless it inherits its answer. An attribute is
read as a member of the object, so a name that `Object.prototype` has is found there; of what is found
there the negated operators hold, and the plain ones do not. -/
theorem matchesCondition_missing (regExp : RegExp)
    (hmissing : Missing context condition.attributeName) :
    matchesCondition regExp condition context = .ok true ∧ Inherits context condition ∨
      matchesCondition regExp condition context = .ok false ∧ ¬ Inherits context condition := by
  obtain ⟨hkey, htype, hown⟩ := hmissing
  unfold matchesCondition contextValue readProperty
  rw [if_neg hkey, if_neg htype]
  rcases hown with hnone | hnull
  · rw [hnone]
    dsimp only
    by_cases hmember : condition.attributeName ∈ OBJECT_PROTOTYPE
    · rw [if_pos hmember]
      rcases applyOperator_inherited regExp condition condition.attributeName with
        ⟨happly, hnegated⟩ | ⟨happly, hplain⟩
      · exact .inl ⟨happly, hnone, hmember, hnegated⟩
      · exact .inr ⟨happly, fun h => hplain h.2.2⟩
    · rw [if_neg hmember]
      exact .inr ⟨rfl, fun h => hmember h.2.1⟩
  · rw [hnull]
    refine .inr ⟨rfl, fun h => ?_⟩
    rw [h.1] at hnull
    cases hnull

end

/-- **Conditions on missing attributes never match**, just where they do not inherit their answer.
A list that contains such a Condition answers `false`, or has a Condition before it throw; it is
never satisfied. -/
theorem missing_attribute_iff (regExp : RegExp) (context : EvaluationContext)
    (condition : Condition) (hmissing : Missing context condition.attributeName) :
    ((∀ before after, (∀ other ∈ before, ¬ Throws regExp context other) →
        matchesConditions regExp (before ++ condition :: after) context = .ok false) ∧
      ∀ conditions, condition ∈ conditions →
        matchesConditions regExp conditions context ≠ .ok true) ↔
      ¬ Inherits context condition := by
  rcases matchesCondition_missing regExp hmissing with
    ⟨hmatches, hinherits⟩ | ⟨hfails, hplain⟩
  · refine iff_of_false (fun h => ?_) (not_not_intro hinherits)
    have hfalse := h.1 [] [] nofun
    rw [List.nil_append, matchesConditions_cons, List.allM_cons, hmatches] at hfalse
    cases Except.ok.inj hfalse
  · refine iff_of_true ⟨fun before after hbefore => ?_, fun conditions hmem htrue => ?_⟩ hplain
    · exact matchesConditions_of_false hbefore hfails
    · rw [matchesCondition_of_matchesConditions htrue hmem] at hfails
      cases Except.ok.inj hfails

/-- Nobody has an attribute `valueOf`. -/
def anonymousContext : EvaluationContext where
  targetingKey := "user-1"
  idType := "user"
  attributes := [("plan", .scalar (.string "free"))]

def outsideUS : Condition where
  attributeName := "country"
  operator := .neq
  value := .scalar (.string "US")

theorem missing_attribute_country :
    ((∀ before after, (∀ other ∈ before, ¬ Throws (fun _ _ => some false) anonymousContext other) →
        matchesConditions (fun _ _ => some false) (before ++ outsideUS :: after) anonymousContext =
          .ok false) ∧
      ∀ conditions, outsideUS ∈ conditions →
        matchesConditions (fun _ _ => some false) conditions anonymousContext ≠ .ok true) ↔
      ¬ Inherits anonymousContext outsideUS :=
  missing_attribute_iff (fun _ _ => some false) anonymousContext outsideUS
    ⟨by decide, by decide, .inl rfl⟩

/-- **A Condition on a missing attribute that matches**: its name is a member of
`Object.prototype`. -/
theorem inherited_attribute_matches :
    Missing anonymousContext "valueOf" ∧
      matchesConditions (fun _ _ => none)
        [{ attributeName := "valueOf", operator := .neq, value := .scalar (.string "beta") }]
        anonymousContext = .ok true :=
  ⟨⟨by decide, by decide, .inl rfl⟩, rfl⟩

end Evaluator

end Splitch
