import Restyle.Conversion
import Restyle.Json.Fields

set_option autoImplicit false

/-! # Options and conversions from JSON -/

namespace Restyle

open Json

/-- The layout with a given name. -/
def Layout.ofName? : String → Option Layout
  | "pretty" => some .pretty
  | "compact" => some .compact
  | _ => none

/-- The name of a layout. -/
def Layout.name : Layout → String
  | .pretty => "pretty"
  | .compact => "compact"

/-- Decode a layout. -/
def Layout.ofJson? : Nat → Json → Option Layout := choice? ofName?

/-- Decode options. -/
def Options.ofJson? : Nat → Json → Option Options :=
  record? ["lenient", "layout"] fun levels fields =>
    match fields with
    | [lenient, layout] => do
      some ⟨← defaulting Options.default.lenient bool? lenient,
        ← defaulting Options.default.layout (Layout.ofJson? levels) layout⟩
    | _ => none

/-- Decode a warning: an object that gives its kind beside its fields, or the array of its kind and
its fields. It is read whole before its kind is known. -/
def Warning.ofJson? (levels : Nat) (value : Json) : Option Warning :=
  if usableWithin levels value then
    match fieldsOf ["kind", "property", "reason"] value with
    | some [some (.string "invalid_property"), some (.string property), some (.string reason)] =>
      some (.invalidProperty property reason)
    | _ => none
  else none

/-- Decode a conversion. -/
def Conversion.ofJson? : Nat → Json → Option Conversion :=
  record? ["gss", "warnings"] fun levels fields =>
    match fields with
    | [gss, warnings] => do
      some ⟨← required string? gss, ← defaulting [] (list? Warning.ofJson? levels) warnings⟩
    | _ => none

end Restyle
