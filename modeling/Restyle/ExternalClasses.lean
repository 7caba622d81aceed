import Restyle.Stylesheet.Edit
import Restyle.Stylesheet.Walk
import Std.Data.ExtTreeSet

set_option autoImplicit false

/-! # External classes

The `@external` directives of a stylesheet list the classes that keep their name: by name, by a
pattern that ends in `*`, or all of them by `*` alone. `ExternalClasses` records the classes that
selectors use and what the directives list, in any order; `resolve` gives the classes that are meant.
Directives have no meaning beyond that, so `Stylesheet.stripExternals` takes them out. -/

namespace Restyle

/-- A set of names, in the order of their code points. -/
abbrev NameSet := Std.ExtTreeSet String

/-- The classes in use and the classes that are listed. -/
structure ExternalClasses where
  /-- The classes that selectors use. -/
  used : NameSet
  /-- The classes that are listed by name. -/
  listed : NameSet
  /-- The patterns that are listed, without their `*`, in order of appearance. -/
  stems : List String
  /-- Whether `*` is listed. From then on nothing more is listed. -/
  everything : Bool

namespace ExternalClasses

/-- Nothing is used and nothing is listed. -/
def empty : ExternalClasses := ⟨∅, ∅, [], false⟩

/-- Record a class that a selector uses. -/
def addUsed (e : ExternalClasses) (name : String) : ExternalClasses :=
  { e with used := e.used.insert name }

/-! ## Directives -/

/-- The text between two quotes `q` that enclose the whole text, if they do. -/
def between? (q : Char) : List Char → Option (List Char)
  | [] => none
  | c :: rest => if c = q ∧ rest.getLast? = some q then some rest.dropLast else none

/-- A text without the quotes that may enclose it. -/
def unquote (cs : List Char) : List Char :=
  ((between? '\'' cs).or (between? '"' cs)).getD cs

/-- Record one name or pattern of a directive. -/
def addToken (e : ExternalClasses) (token : String) : ExternalClasses :=
  let cs := unquote token.toList
  if cs.isEmpty || e.everything then e
  else if cs = ['*'] then { e with everything := true }
  else if cs.getLast? = some '*' then { e with stems := e.stems ++ [String.ofList cs.dropLast] }
  else { e with listed := e.listed.insert (String.ofList cs) }

/-- Whether a value is the comma between two entries of a list. -/
def isSeparator : Value → Bool
  | .literal text => text == ","
  | _ => false

mutual

/-- Record a parameter of a directive. -/
def addParam (e : ExternalClasses) : Value → ExternalClasses
  | .literal token => e.addToken token
  | .ident token => e.addToken token
  | .expression token => e.addToken token
  | .resourcePath path _ => e.addToken path
  | .list terms => addTerms e terms

/-- Record the entries of a list, up to a `*` among them. -/
def addTerms (e : ExternalClasses) : List Term → ExternalClasses
  | [] => e
  | ⟨value, _⟩ :: rest =>
    if e.everything then e
    else if isSeparator value then addTerms e rest
    else addTerms (addParam e value) rest

end

/-- Record the parameters of a directive, up to a `*` among them. -/
def addDirective (e : ExternalClasses) : List Value → ExternalClasses
  | [] => e
  | param :: rest => if e.everything then e else addDirective (e.addParam param) rest

/-! ## Resolution -/

/-- The first position from `lo` to `hi` at which a test fails, found by halving. The test must not
succeed behind a position at which it fails. -/
def partitionPoint {α : Type} (test : α → Bool) (xs : Array α) (lo hi : Nat) : Nat :=
  if lo < hi then
    let mid := lo + (hi - lo) / 2
    if xs[mid]?.any test then partitionPoint test xs (mid + 1) hi
    else partitionPoint test xs lo mid
  else lo
termination_by hi - lo

/-- The classes in use that start with a stem. In the order of code points they follow each other
from the first class that is not before the stem. -/
def withStem (e : ExternalClasses) (stem : String) : List String :=
  let names := e.used.toList.toArray
  let start := partitionPoint (fun name => decide (name < stem)) names 0 names.size
  (names.toList.drop start).takeWhile fun name => stem.toList.isPrefixOf name.toList

/-- The classes that are external. -/
def resolve (e : ExternalClasses) : NameSet :=
  if e.everything then e.used else e.listed.insertMany (e.stems.flatMap e.withStem)

/-! ## Collection -/

/-- Record what a part of a stylesheet uses or lists. -/
def see : Item → ExternalClasses → ExternalClasses
  | .selector selector, e => selector.classNames.foldl addUsed e
  | .content (.external params), e => e.addDirective params
  | _, e => e

/-- The classes that a stylesheet uses and lists. -/
def ofStylesheet (sheet : Stylesheet) : ExternalClasses := (Visitor.observing see).after sheet empty

end ExternalClasses

/-- Whether a node is an `@external` directive. -/
def Node.isExternal : Node → Bool
  | .external _ => true
  | _ => false

/-- A stylesheet without its `@external` directives. -/
def Stylesheet.stripExternals (sheet : Stylesheet) : Stylesheet :=
  ⟨((Editor.removing Node.isExternal).editNodes sheet.nodes ()).1⟩

end Restyle
