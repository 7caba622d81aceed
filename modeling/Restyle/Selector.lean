import Restyle.Text.Alphabetic
import Restyle.Text.Blank

set_option autoImplicit false

/-! # Selectors

A selector is kept as it was written, with the names that matter to a conversion beside it: the
element names, classes and ids of its compounds. `Selector.ofText` finds those names in the text.
A name ends at the first ASCII character that is no letter, digit, `-` or `_`, unless a backslash
stands before it. Pseudo classes and attribute tests give no name. -/

namespace Restyle

/-- A name that a selector asks for. -/
inductive Refiner where
  | className (name : String)
  | id (name : String)
  | element (name : String)
deriving DecidableEq, Repr

/-- One selector of the list in front of a rule. -/
structure Selector where
  text : String
  refiners : List Refiner
deriving DecidableEq, Repr

namespace Selector

/-! ## Finding the names in a text -/

/-- Whether a character continues a name without a backslash before it. -/
def isNameChar (c : Char) : Bool :=
  c.isAlphanum || c == '-' || c == '_' || !Text.isAscii c

/-- Read a name behind the characters `name` that are already read, last first: the whole name with
its escapes resolved, and what is left. -/
def takeName (name : List Char) : List Char → List Char × List Char
  | [] => (name.reverse, [])
  | ['\\'] => (name.reverse, [])
  | '\\' :: c :: rest => takeName (c :: name) rest
  | c :: rest => if isNameChar c then takeName (c :: name) rest else (name.reverse, c :: rest)

theorem length_takeName (name cs : List Char) : (takeName name cs).2.length ≤ cs.length := by
  fun_induction takeName name cs <;> simp_all <;> omega

/-- Whether a character separates two compounds. -/
def isCombinator (c : Char) : Bool :=
  Text.isBlank c || c == '>' || c == '+' || c == '~' || c == ',' || c == '(' || c == ')'

/-- Put a refiner in front of those found so far, unless its name is empty. -/
def found (refiner : String → Refiner) (name : List Char) (refiners : List Refiner) :
    List Refiner :=
  if name.isEmpty then refiners else refiner (String.ofList name) :: refiners

/-- Find the names in a text behind the refiners found so far, last first. `start` tells whether a
compound starts here; only there an element name can stand. -/
def scan (start : Bool) (refiners : List Refiner) : List Char → List Refiner
  | [] => refiners.reverse
  | c :: cs =>
    if c == '.' then
      scan false (found .className (takeName [] cs).1 refiners) (takeName [] cs).2
    else if c == '#' then
      scan false (found .id (takeName [] cs).1 refiners) (takeName [] cs).2
    else if c == ':' then
      scan false refiners (takeName [] (cs.dropWhile (· == ':'))).2
    else if c == '[' then
      scan false refiners ((cs.dropWhile (· != ']')).drop 1)
    else if c == '\\' then
      scan false refiners (cs.drop 1)
    else if isCombinator c then
      scan true refiners cs
    else if start && (Text.isAlphabetic c || c == '_') then
      scan false (.element (String.ofList (takeName [c] cs).1) :: refiners) (takeName [c] cs).2
    else
      scan false refiners cs
termination_by cs => cs.length
decreasing_by
  all_goals simp only [List.length_cons]
  · have := length_takeName [] cs; omega
  · have := length_takeName [] cs; omega
  · have := length_takeName [] (cs.dropWhile (· == ':'))
    have := (List.dropWhile_sublist (l := cs) (· == ':')).length_le
    omega
  · have := (List.dropWhile_sublist (l := cs) (· != ']')).length_le
    simp only [List.length_drop]
    omega
  · simp only [List.length_drop]; omega
  · omega
  · have := length_takeName [c] cs; omega
  · omega

/-- The selector with the given text and the names found in it. -/
def ofText (text : String) : Selector := ⟨text, scan true [] text.toList⟩

/-! ## Classes -/

/-- The classes that a selector asks for. -/
def classNames (s : Selector) : List String :=
  s.refiners.filterMap fun
    | .className name => some name
    | _ => none

end Selector

end Restyle
