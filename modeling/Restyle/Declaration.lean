import Restyle.Text.Blank
import Restyle.Text.Reader

set_option autoImplicit false

/-! # Checking declarations

A declaration is valid when the block `body{…}` around it fits this grammar:

    block       := blanks selector "{" blanks declaration blanks [";"] blanks "}" blanks
    declaration := [comment blanks] name blanks ":" (blanks token)+ [blanks "!" blanks important]
    comment     := "/*" … "*/"
    name        := ["-"] letter (letter | digit | "-" | "_")*
    token       := string | word "(" arguments ")" | "," | word

Blanks are spaces, tabs, carriage returns and line feeds. There is a reader for each part of the
grammar. Where the reading of a block is stuck is the place that a refusal reports, as an offset in
bytes. -/

namespace Restyle

/-- Why a block is refused: a message, and the offset in bytes it is about. -/
structure Refusal where
  offset : Nat
  message : String
deriving DecidableEq, Repr

/-- The refusal as one text. -/
def Refusal.text (r : Refusal) : String := r.message ++ " at offset " ++ toString r.offset

/-- A checker accepts a block or refuses it. -/
abbrev Checker := String → Except Refusal Unit

namespace Declaration

open Text (Reader)
open Text.Reader

/-! ## Characters -/

/-- The blanks of the grammar. -/
def isSpace (c : Char) : Bool := c == ' ' || c == '\t' || c == '\r' || c == '\n'

/-- Whether a character continues the name of a property. -/
def isNameChar (c : Char) : Bool := c.isAlphanum || c == '-' || c == '_'

/-- The characters that end a word, besides blank ones. -/
def wordBreaks : List Char := ['\'', '"', '(', ')', '\x7b', '\x7d', ';', ':', '!', '=', ',']

/-- Whether a character can stand in a word. -/
def isWordChar (c : Char) : Bool := !Text.isBlank c && !wordBreaks.contains c

/-- The characters that do not stand for themselves among the arguments of a function. -/
def argumentBreaks : List Char := ['(', ')', '"', '\'']

/-- Whether a character stands for itself among the arguments of a function. -/
def isPlainChar (c : Char) : Bool := !argumentBreaks.contains c

/-! ## Tokens of a value -/

/-- Read the blanks that stand here. -/
def readSpace : Reader := run isSpace

/-- Read a text in quotes `q`. -/
def readQuoted (q : Char) : Reader := seq [char q, run (· != q), char q]

def readString : Reader := choice [readQuoted '"', readQuoted '\'']

def readWord : Reader := run1 isWordChar

/-- Read one of the arguments of a function, with a reader for the arguments in parentheses. -/
def readArgument (arguments : Reader) : Reader :=
  choice [readString, seq [char '(', arguments, char ')'], run1 isPlainChar]

/-- Read the arguments of a function: anything in which parentheses and quotes are balanced. -/
def readArguments : Reader := fix fun arguments => many (readArgument arguments)

def readFunction : Reader := seq [readWord, char '(', readArguments, char ')']

def readToken : Reader := choice [readString, readFunction, char ',', readWord]

/-- Read a value: at least one token. -/
def readValue : Reader := many1 (seq [readSpace, readToken])

/-! ## The parts of a block -/

def readSelector : Reader := run1 (· != '\x7b')

def readComment : Reader := seq [literal ['/', '*'], upTo ['*', '/'], literal ['*', '/']]

/-- Read the name of a property. -/
def readName : Reader := seq [optional (char '-'), one Char.isAlpha, run isNameChar]

/-- Whether a word is `important`, in letters of either case. -/
def isImportant (word : List Char) : Bool := word.map Char.toLower == "important".toList

/-- Read the mark of an important declaration. -/
def readImportant : Reader := seq [char '!', readSpace, verify isImportant (run1 Char.isAlpha)]

def readDeclaration : Reader :=
  seq [optional (seq [readComment, readSpace]), readName, readSpace, char ':', readValue,
    optional (seq [readSpace, readImportant])]

/-- Read a block to the end of the text. -/
def readBlock : Reader :=
  seq [readSpace, readSelector, char '\x7b', readSpace, readDeclaration, readSpace,
    optional (char ';'), readSpace, char '\x7d', readSpace, atEnd]

/-! ## The checker -/

/-- The length of a text in bytes. -/
def byteLength (cs : List Char) : Nat := cs.foldr (fun c length => c.utf8Size + length) 0

/-- The refusal of a block whose reading is stuck in front of `rest`. -/
def refusalAt (block rest : List Char) : Refusal :=
  ⟨byteLength block - byteLength rest,
    match rest with
    | [] => "unexpected end of block"
    | c :: _ => "unexpected '" ++ String.ofList [c] ++ "'"⟩

/-- Check a block against the grammar of declarations. -/
def check : Checker := fun block =>
  match readBlock block.toList with
  | .ok _ => .ok ()
  | .error rest => .error (refusalAt block.toList rest)

end Declaration

end Restyle
