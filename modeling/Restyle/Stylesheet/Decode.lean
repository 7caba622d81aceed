import Restyle.Json.Fields
import Restyle.Json.Reader
import Restyle.Stylesheet

set_option autoImplicit false

/-! # Stylesheets from JSON

A tree may be spelled in several ways. Fields that have a default may be left out, records may be
arrays, a selector may be its text alone, and a term its value alone. Every decoder is given the
levels of nesting that are left for the value in front of it, and recursion is on these levels.

Selectors and terms are told apart by their shape, so they are read whole before they are decoded:
what stands in them under an unknown key has to be usable too. -/

namespace Restyle

open Json

/-! ## Selectors -/

/-- Decode a refiner. -/
def Refiner.ofJson? (value : Json) : Option Refiner :=
  match onlyMember? value with
  | some ("class", .string name) => some (.className name)
  | some ("id", .string name) => some (.id name)
  | some ("element", .string name) => some (.element name)
  | _ => none

/-- The selector with a text and the refiners that are given, or those found in the text. -/
def Selector.ofParts (text : String) : Option (List Refiner) → Selector
  | some refiners => ⟨text, refiners⟩
  | none => ofText text

/-- Decode a selector. -/
def Selector.ofJson? (levels : Nat) (value : Json) : Option Selector :=
  match value with
  | .string text => some (ofText text)
  | .object members =>
    if usableWithin levels value then
      match memberFields ["text", "refiners"] members with
      | some [text, refiners] => do
        let text ← required string? text
        let refiners ← nullable (list? (fun _ => Refiner.ofJson?) levels) refiners
        some (.ofParts text refiners)
      | _ => none
    else none
  | _ => none

/-! ## Values -/

/-- Decode the path of a resource. -/
def Value.resource? : Nat → Json → Option Value :=
  record? ["path", "suffix"] fun _ fields =>
    match fields with
    | [path, suffix] => do
      let path ← required string? path
      let suffix ← nullable string? suffix
      some (.resourcePath path suffix)
    | _ => none

/-- Decode a term that is written as an object with its value and whether it is spaced. -/
def Term.full? (inner : Json → Option Value) : Json → Option Term
  | .object members =>
    match memberFields ["value", "spaced"] members with
    | some [value, spaced] => do
      let value ← required inner value
      let spaced ← defaulting true bool? spaced
      some ⟨value, spaced⟩
    | _ => none
  | _ => none

/-- Decode a term: in full, with the decoder `inner` for its value, or else by its value alone, with
the decoder `whole`. -/
def Term.decode? (levels : Nat) (whole inner : Json → Option Value) (value : Json) : Option Term :=
  if usableWithin levels value then
    (full? inner value).or ((whole value).map fun value => ⟨value, true⟩)
  else none

/-- Decode a value. -/
def Value.ofJson? : Nat → Json → Option Value
  | levels + 1, .object [(tag, content)] =>
    match tag with
    | "literal" => content.string?.map .literal
    | "ident" => content.string?.map .ident
    | "expression" => content.string?.map .expression
    | "resource_path" => resource? levels content
    | "list" =>
      match levels, content with
      | 1, .array items => (items.mapM (Term.decode? 0 (fun _ => none) fun _ => none)).map .list
      | levels + 2, .array items =>
        (items.mapM (Term.decode? (levels + 1) (ofJson? (levels + 1)) (ofJson? levels))).map .list
      | _, _ => none
    | _ => none
  | _, _ => none

/-- Decode a term. -/
def Term.ofJson? : Nat → Json → Option Term
  | 0 => decode? 0 (fun _ => none) fun _ => none
  | levels + 1 => decode? (levels + 1) (Value.ofJson? (levels + 1)) (Value.ofJson? levels)

/-! ## Properties, constants and conditions -/

/-- Decode a property. -/
def Property.ofJson? : Nat → Json → Option Property :=
  record? ["name", "values", "important"] fun levels fields =>
    match fields with
    | [name, values, important] => do
      let name ← required string? name
      let values ← defaulting [] (list? Term.ofJson? levels) values
      let important ← defaulting false bool? important
      some ⟨name, values, important⟩
    | _ => none

/-- The kind of constant with a given name. -/
def ConstantKind.ofName? : String → Option ConstantKind
  | "def" => some .plain
  | "eval" => some .eval
  | "url" => some .url
  | _ => none

/-- Decode a kind of constant. -/
def ConstantKind.ofJson? : Nat → Json → Option ConstantKind := choice? ofName?

/-- Decode a declaration. -/
def Constant.ofJson? : Nat → Json → Option Constant :=
  record? ["kind", "key", "values"] fun levels fields =>
    match fields with
    | [kind, key, values] => do
      let kind ← required (ConstantKind.ofJson? levels) kind
      let key ← required string? key
      let values ← defaulting [] (list? Term.ofJson? levels) values
      some ⟨kind, key, values⟩
    | _ => none

/-- Decode a feature test. -/
def FeatureTest.ofJson? : Nat → Json → Option FeatureTest :=
  record? ["property", "values", "negated"] fun levels fields =>
    match fields with
    | [property, values, negated] => do
      let property ← required string? property
      let values ← required (strings? levels) values
      let negated ← defaulting false bool? negated
      some ⟨property, values, negated⟩
    | _ => none

/-- Decode a condition. -/
def Condition.ofJson? : Nat → Json → Option Condition
  | levels + 1, .object [(tag, content)] =>
    match tag with
    | "feature_test" => (FeatureTest.ofJson? levels content).map .feature
    | "runtime" => content.string?.map .runtime
    | _ => none
  | _, _ => none

/-! ## Nodes -/

/-- Decode the content of a node of the given tag: `levels` levels are left for its fields, and
`nodes` decodes the lists of nodes among them. -/
def Node.content? (levels : Nat) (nodes : Json → Option (List Node)) (tag : String)
    (content : Json) : Option Node :=
  let selectors := required (list? Selector.ofJson? levels)
  let properties := defaulting [] (list? Property.ofJson? levels)
  let nodes := defaulting [] nodes
  match tag with
  | "rule" =>
    match fieldsOf ["selectors", "properties"] content with
    | some [s, p] => do some (.rule (← selectors s) (← properties p))
    | _ => none
  | "if" =>
    match fieldsOf ["condition", "nodes", "else_nodes"] content with
    | some [c, n, b] => do
      some (.ifBlock (← required (Condition.ofJson? levels) c) (← nodes n) (← nodes b))
    | _ => none
  | "else_if" =>
    match fieldsOf ["condition", "nodes", "else_nodes"] content with
    | some [c, n, b] => do
      some (.elseIf (← required (Condition.ofJson? levels) c) (← nodes n) (← nodes b))
    | _ => none
  | "else" =>
    match fieldsOf ["nodes"] content with
    | some [n] => do some (.elseBlock (← nodes n))
    | _ => none
  | "media" =>
    match fieldsOf ["media", "nodes"] content with
    | some [m, n] => do some (.media (← required (strings? levels) m) (← nodes n))
    | _ => none
  | "page" =>
    match fieldsOf ["pseudo_page", "properties"] content with
    | some [q, p] => do some (.page (← nullable string? q) (← properties p))
    | _ => none
  | "font_face" =>
    match fieldsOf ["properties"] content with
    | some [p] => do some (.fontFace (← properties p))
    | _ => none
  | "sprite" =>
    match fieldsOf ["selectors", "resource", "properties"] content with
    | some [s, r, p] => do
      some (.sprite (← selectors s) (← required string? r) (← properties p))
    | _ => none
  | "no_flip" =>
    match fieldsOf ["nodes"] content with
    | some [n] => do some (.noFlip (← nodes n))
    | _ => none
  | "def" => (Constant.ofJson? (levels + 1) content).map .constant
  | "external" =>
    match fieldsOf ["params"] content with
    | some [p] => do some (.external (← defaulting [] (list? Value.ofJson? levels) p))
    | _ => none
  | "unknown_at_rule" =>
    match fieldsOf ["rule"] content with
    | some [r] => do some (.unknownAtRule (← required string? r))
    | _ => none
  | _ => none

/-- Decode a node: an object with its tag and its content. -/
def Node.ofJson? : Nat → Json → Option Node
  | levels + 3, .object [(tag, content)] =>
    content? (levels + 1) (fun | .array items => items.mapM (ofJson? levels) | _ => none) tag content
  | 2, .object [(tag, content)] => content? 0 (fun _ => none) tag content
  | _, _ => none

/-- Decode a stylesheet. -/
def Stylesheet.ofJson? : Nat → Json → Option Stylesheet :=
  record? ["nodes"] fun levels fields =>
    match fields with
    | [nodes] => (defaulting [] (list? Node.ofJson? levels) nodes).map Stylesheet.mk
    | _ => none

/-- The stylesheet that a text spells. -/
def Stylesheet.ofText? (text : String) : Option Stylesheet :=
  (parse? text).bind (ofJson? maxNesting)

end Restyle
