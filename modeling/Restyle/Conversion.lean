import Restyle.Sink

set_option autoImplicit false

/-! # Conversions

What a conversion is asked for and what it delivers. -/

namespace Restyle

/-- How to convert: whether to leave out properties that are not valid, and the layout. -/
structure Options where
  lenient : Bool
  layout : Layout
deriving DecidableEq, Repr

/-- Nothing is left out, and the output is indented. -/
def Options.default : Options := ⟨false, .pretty⟩

/-- A problem that does not end a conversion. -/
inductive Warning where
  /-- A property was left out; with the reason for which it was refused. -/
  | invalidProperty (property reason : String)
deriving DecidableEq, Repr

namespace Warning

/-- The code of a kind of warning. -/
def code : Warning → String
  | .invalidProperty .. => "invalid_property"

/-- The message of a warning. -/
def message : Warning → String
  | .invalidProperty property reason =>
    "the following property is not valid and will be skipped: " ++ property ++ " (" ++ reason ++ ")"

/-- The text that a warning is about. -/
def subject : Warning → String
  | .invalidProperty property _ => property

end Warning

/-- The output of a conversion. -/
structure Conversion where
  gss : String
  warnings : List Warning
deriving DecidableEq, Repr

end Restyle
