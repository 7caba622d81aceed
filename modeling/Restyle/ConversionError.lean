import Restyle.Stylesheet

set_option autoImplicit false

/-! # Why a conversion fails -/

namespace Restyle

/-- What is wrong with a conditional block. -/
inductive ConditionalFault where
  /-- A feature test without the name of a property. -/
  | noProperty
  /-- A feature test without a value to compare with. -/
  | noValues (property : String)
  /-- A run-time condition without an expression. -/
  | emptyExpression
  /-- A branch that does not belong to an `@if` block, by the name of its kind. -/
  | strayBranch (kind : String)
  /-- A node among the branches of an `@if` block that is none, by the name of its kind. -/
  | foreignBranch (kind : String)
  /-- A fault that a caller describes in its own words. -/
  | described (reason : String)
deriving DecidableEq, Repr

/-- The description of a fault. -/
def ConditionalFault.reason : ConditionalFault → String
  | .noProperty => "property test has no property name"
  | .noValues property => "property test on " ++ property ++ " has no values"
  | .emptyExpression => "runtime condition is empty"
  | .strayBranch kind => kind ++ " outside of an @if block"
  | .foreignBranch kind => "unexpected " ++ kind ++ " among @else branches"
  | .described reason => reason

/-- Why a stylesheet cannot be converted. -/
inductive ConversionError where
  /-- A declared constant has no name in the table in use. -/
  | unknownConstant (kind : ConstantKind) (key : String)
  /-- A conditional block is malformed or misplaced. -/
  | invalidConditional (fault : ConditionalFault)
  /-- Two keys lead to the same name; `first` was declared earlier. -/
  | nameCollision (first second name : String)
deriving DecidableEq, Repr

/-- The message of an error. -/
def ConversionError.message : ConversionError → String
  | .unknownConstant kind key => "unknown @" ++ kind.name ++ " rule [" ++ key ++ "]"
  | .invalidConditional fault => "invalid conditional: " ++ fault.reason
  | .nameCollision first second name =>
    "constants [" ++ first ++ "] and [" ++ second ++ "] both map to " ++ name

end Restyle
