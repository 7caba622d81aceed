import Restyle.Constant.Collect
import Restyle.Gss.Printer

set_option autoImplicit false

/-! # Converting stylesheets

A conversion takes the `@external` directives out of a stylesheet, resolves them, names the
constants, and prints what is left. -/

namespace Restyle

/-- How to convert stylesheets: the options, the names of constants unless they are to be derived,
and the checker of declarations. -/
structure Converter where
  options : Options
  names : Option NameTable
  checker : Checker

/-- The names of the constants of a stylesheet. -/
def Converter.namesFor (converter : Converter) (constants : List Constant) :
    Except ConversionError NameTable :=
  match converter.names with
  | some names => .ok names
  | none => NameTable.ofConstants constants

/-- Convert a stylesheet to GSS. -/
def Converter.convert (converter : Converter) (sheet : Stylesheet) :
    Except ConversionError Conversion := do
  let stripped := sheet.stripExternals
  let names ← converter.namesFor stripped.constants
  let setup : PrintSetup :=
    { names
      externals := (ExternalClasses.ofStylesheet sheet).resolve
      constants := stripped.constants
      options := converter.options
      checker := converter.checker }
  setup.generate stripped

end Restyle
