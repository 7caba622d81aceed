import Restyle.ConversionError

set_option autoImplicit false

/-! # The text of a condition

A feature test becomes one `is` clause for each value, and a run-time expression is wrapped in
`eval`, without the pair of parentheses that may enclose it. -/

namespace Restyle

namespace Condition

/-! ## Enclosing parentheses -/

/-- Whether a text closes a parenthesis that was open before it, when `depth` more have been opened
since. -/
def closesOuter : Nat → List Char → Bool
  | _, [] => false
  | depth, '(' :: rest => closesOuter (depth + 1) rest
  | 0, ')' :: _ => true
  | depth + 1, ')' :: rest => closesOuter depth rest
  | depth, _ :: rest => closesOuter depth rest

/-- Remove one pair of parentheses that encloses the whole text. In `(a) && (b)` the first
parenthesis is closed before the end, so nothing is removed. -/
def stripParens (cs : List Char) : List Char :=
  match cs with
  | '(' :: rest =>
    if rest.getLast? == some ')' && !closesOuter 0 rest.dropLast then rest.dropLast else cs
  | _ => cs

end Condition

/-- The text of a feature test: its clauses, joined by `||`. -/
def FeatureTest.text (test : FeatureTest) : Except ConditionalFault String :=
  if (Text.trim test.property.toList).isEmpty then .error .noProperty
  else if test.values.isEmpty then .error (.noValues test.property)
  else .ok (" || ".intercalate (test.values.map clause))
where
  /-- The clause for one value. -/
  clause (value : String) : String :=
    (if test.negated then "!" else "") ++ "is(\"" ++ test.property ++ "\", \"" ++ value ++ "\")"

/-- The text of a condition, as it stands between the parentheses of an `@if`. -/
def Condition.text : Condition → Except ConditionalFault String
  | .feature test => test.text
  | .runtime expression =>
    let stripped := stripParens (Text.trim expression.toList)
    if (Text.trim stripped).isEmpty then .error .emptyExpression
    else .ok ("eval('" ++ String.ofList stripped ++ "')")

end Restyle
