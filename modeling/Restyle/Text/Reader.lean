set_option autoImplicit false

/-! # Readers of texts

A reader gets the characters that are left and either leaves some of them or is stuck in front of some
of them. A reader of one part is stuck at once or not at all. A reader that is put together from others
may be stuck further behind, and only where it says so does it go back: `optional`, `choice` and `many`
start again from the place where a part of theirs began. -/

namespace Restyle.Text

/-- What a reader leaves, or the place where it is stuck. -/
abbrev Reading := Except (List Char) (List Char)

/-- Read some of the characters that are left. -/
abbrev Reader := List Char → Reading

namespace Reader

/-! ## Single parts -/

/-- Read one character of a class. -/
def one (p : Char → Bool) : Reader
  | [] => .error []
  | c :: rest => if p c then .ok rest else .error (c :: rest)

/-- Read one given character. -/
def char (c : Char) : Reader := one (· == c)

/-- Read all characters of a class up to the first other one. -/
def run (p : Char → Bool) : Reader := fun cs => .ok (cs.dropWhile p)

/-- Read a given text. -/
def literal (text : List Char) : Reader := fun cs =>
  if text.isPrefixOf cs then .ok (cs.drop text.length) else .error cs

/-- The rest from where a given text stands for the first time, if it does. -/
def find? (text : List Char) : List Char → Option (List Char)
  | [] => if text.isPrefixOf [] then some [] else none
  | c :: cs => if text.isPrefixOf (c :: cs) then some (c :: cs) else find? text cs

/-- Read up to a given text. -/
def upTo (text : List Char) : Reader := fun cs =>
  match find? text cs with
  | some rest => .ok rest
  | none => .error cs

/-- Nothing may be left. -/
def atEnd : Reader
  | [] => .ok []
  | c :: rest => .error (c :: rest)

/-! ## Several parts -/

/-- Read with one reader behind another. -/
def seq : List Reader → Reader
  | [], cs => .ok cs
  | p :: ps, cs => p cs >>= seq ps

/-- Read with the first of some readers that is not stuck. If all of them are, this is stuck where the
last one is. -/
def choice : List Reader → Reader
  | [], cs => .error cs
  | [p], cs => p cs
  | p :: q :: ps, cs =>
    match p cs with
    | .ok rest => .ok rest
    | .error _ => choice (q :: ps) cs

/-- Read a part that may be missing. -/
def optional (p : Reader) : Reader := fun cs =>
  match p cs with
  | .ok rest => .ok rest
  | .error _ => .ok cs

/-- Read a part as often as it stands here. A part that takes no characters cannot be repeated. -/
def many (p : Reader) (cs : List Char) : Reading :=
  match p cs with
  | .ok rest => if rest.length < cs.length then many p rest else .error rest
  | .error _ => .ok cs
termination_by cs.length

/-- Read a part at least once. -/
def many1 (p : Reader) : Reader := seq [p, many p]

/-- Read at least one character of a class, up to the first other one. -/
def run1 (p : Char → Bool) : Reader := seq [one p, run p]

/-- Read a part whose text passes a test. A part that does not is not read at all. -/
def verify (test : List Char → Bool) (p : Reader) : Reader := fun cs => do
  let rest ← p cs
  if test (cs.take (cs.length - rest.length)) then .ok rest else .error cs

/-- Read with a reader that may use itself on what is left behind a first character. -/
def fix (f : Reader → Reader) (cs : List Char) : Reading :=
  f (fun rest => if _h : rest.length < cs.length then fix f rest else .error rest) cs
termination_by cs.length

end Reader

end Restyle.Text
