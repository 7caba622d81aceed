import Restyle.Json.Printer
import Restyle.Stylesheet

set_option autoImplicit false

/-! # Stylesheets as JSON

The full spelling of a tree: records as objects with all their fields in order, alternatives as
objects with one member. An optional text that is not there is left out, and so is an empty list of
refiners. -/

namespace Restyle

/-- An alternative with its content. -/
def Json.tagged (tag : String) (content : Json) : Json := .object [(tag, content)]

/-- A member for an optional text, if it is there. -/
def Json.optionalMember (key : String) : Option String → List (String × Json)
  | some text => [(key, .string text)]
  | none => []

/-- A list of texts. -/
def Json.ofStrings (texts : List String) : Json := .array (texts.map .string)

/-! ## Selectors, values and conditions -/

/-- The spelling of a refiner. -/
def Refiner.toJson : Refiner → Json
  | .className name => .tagged "class" (.string name)
  | .id name => .tagged "id" (.string name)
  | .element name => .tagged "element" (.string name)

/-- The spelling of a selector. -/
def Selector.toJson (s : Selector) : Json :=
  .object (("text", .string s.text) ::
    if s.refiners.isEmpty then [] else [("refiners", .array (s.refiners.map Refiner.toJson))])

mutual

/-- The spelling of a value. -/
def Value.toJson : Value → Json
  | .literal text => .tagged "literal" (.string text)
  | .ident name => .tagged "ident" (.string name)
  | .expression code => .tagged "expression" (.string code)
  | .resourcePath path suffix =>
    .tagged "resource_path" (.object (("path", .string path) :: Json.optionalMember "suffix" suffix))
  | .list terms => .tagged "list" (.array (Term.toJsonAll terms))

/-- The spelling of a term. -/
def Term.toJson : Term → Json
  | ⟨value, spaced⟩ => .object [("value", Value.toJson value), ("spaced", .bool spaced)]

/-- The spellings of terms. -/
def Term.toJsonAll : List Term → List Json
  | [] => []
  | term :: rest => Term.toJson term :: Term.toJsonAll rest

end

/-- The spelling of a property. -/
def Property.toJson (p : Property) : Json :=
  .object [("name", .string p.name), ("values", .array (Term.toJsonAll p.values)),
    ("important", .bool p.important)]

/-- The spelling of a declaration. -/
def Constant.toJson (c : Constant) : Json :=
  .object [("kind", .string c.kind.name), ("key", .string c.key),
    ("values", .array (Term.toJsonAll c.values))]

/-- The spelling of a feature test. -/
def FeatureTest.toJson (t : FeatureTest) : Json :=
  .object [("property", .string t.property), ("values", .ofStrings t.values),
    ("negated", .bool t.negated)]

/-- The spelling of a condition. -/
def Condition.toJson : Condition → Json
  | .feature test => .tagged "feature_test" test.toJson
  | .runtime expression => .tagged "runtime" (.string expression)

/-! ## Nodes -/

/-- A member for a list of selectors. -/
def Json.selectorsMember (selectors : List Selector) : String × Json :=
  ("selectors", .array (selectors.map Selector.toJson))

/-- A member for a list of properties. -/
def Json.propertiesMember (properties : List Property) : String × Json :=
  ("properties", .array (properties.map Property.toJson))

mutual

/-- The spelling of a node. -/
def Node.toJson : Node → Json
  | .rule selectors properties =>
    .tagged "rule" (.object [Json.selectorsMember selectors, Json.propertiesMember properties])
  | .ifBlock condition nodes branches =>
    .tagged "if" (.object [("condition", condition.toJson), ("nodes", .array (toJsonAll nodes)),
      ("else_nodes", .array (toJsonAll branches))])
  | .elseIf condition nodes branches =>
    .tagged "else_if" (.object [("condition", condition.toJson), ("nodes", .array (toJsonAll nodes)),
      ("else_nodes", .array (toJsonAll branches))])
  | .elseBlock nodes => .tagged "else" (.object [("nodes", .array (toJsonAll nodes))])
  | .media queries nodes =>
    .tagged "media" (.object [("media", .ofStrings queries), ("nodes", .array (toJsonAll nodes))])
  | .page pseudoPage properties =>
    .tagged "page" (.object (Json.optionalMember "pseudo_page" pseudoPage ++
      [Json.propertiesMember properties]))
  | .fontFace properties => .tagged "font_face" (.object [Json.propertiesMember properties])
  | .sprite selectors resource properties =>
    .tagged "sprite" (.object [Json.selectorsMember selectors, ("resource", .string resource),
      Json.propertiesMember properties])
  | .noFlip nodes => .tagged "no_flip" (.object [("nodes", .array (toJsonAll nodes))])
  | .constant decl => .tagged "def" decl.toJson
  | .external params => .tagged "external" (.object [("params", .array (params.map Value.toJson))])
  | .unknownAtRule text => .tagged "unknown_at_rule" (.object [("rule", .string text)])

/-- The spellings of nodes. -/
def Node.toJsonAll : List Node → List Json
  | [] => []
  | node :: rest => Node.toJson node :: Node.toJsonAll rest

end

/-- The spelling of a stylesheet. -/
def Stylesheet.toJson (sheet : Stylesheet) : Json :=
  .object [("nodes", .array (Node.toJsonAll sheet.nodes))]

/-- The full spelling of a stylesheet as a text. -/
def Stylesheet.toText (sheet : Stylesheet) : String := sheet.toJson.pretty

end Restyle
