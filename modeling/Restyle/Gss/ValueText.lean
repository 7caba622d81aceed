import Restyle.Constant.NameTable
import Restyle.Value

set_option autoImplicit false

/-! # The text of values

The terms of a list are written one after the other, each behind a blank if it is spaced and is not
the first to show. A name that is the key of a constant is replaced by the name of the constant. -/

namespace Restyle

/-- A text without its backslashes. -/
def unescape (text : String) : String := String.ofList (text.toList.filter (· != '\\'))

/-- The call that gives the value of a resource, with its unit if there is one. -/
def resourceCall (path : String) : Option String → String
  | none => "value('" ++ path ++ "')"
  | some suffix =>
    if suffix.isEmpty then "value('" ++ path ++ "')"
    else "value('" ++ path ++ "', '" ++ suffix ++ "')"

mutual

/-- The text of a value. In the address of a resource, `inUrl`, a path stands for itself. -/
def Value.text (names : NameTable) (inUrl : Bool) : Value → String
  | .literal text => unescape text
  | .ident name => unescape (names[name]?.getD name)
  | .expression code => code
  | .resourcePath path suffix => unescape (if inUrl then path else resourceCall path suffix)
  | .list terms => Term.textBehind names inUrl "" terms

/-- The text of a list of terms behind a text that is already written. -/
def Term.textBehind (names : NameTable) (inUrl : Bool) (written : String) : List Term → String
  | [] => written
  | ⟨value, spaced⟩ :: rest =>
    let before := if spaced && !written.isEmpty then written ++ " " else written
    Term.textBehind names inUrl (before ++ Value.text names inUrl value) rest

end

/-- The text of a list of terms. -/
def Term.textAll (names : NameTable) (inUrl : Bool) (terms : List Term) : String :=
  textBehind names inUrl "" terms

/-- The text of a property; `noFlip` puts a mark in front of it that keeps its direction. -/
def Property.text (names : NameTable) (noFlip : Bool) (p : Property) : String :=
  (if noFlip then "/* @noflip */ " else "") ++ p.name ++ ": " ++ Term.textAll names false p.values ++
    (if p.important then " !important" else "")

/-- The right-hand side of a constant, by its kind. -/
def Constant.text (names : NameTable) (inUrl : Bool) (c : Constant) : String :=
  let values := Term.textAll names inUrl c.values
  match c.kind with
  | .plain => values
  | .eval => "eval('" ++ values ++ "')"
  | .url => "resourceUrl(\"" ++ values ++ "\")"

end Restyle
