import Restyle.Condition
import Restyle.Conversion
import Restyle.Declaration
import Restyle.ExternalClasses
import Restyle.Gss.ValueText

set_option autoImplicit false

/-! # Printing GSS

A stylesheet is printed in three parts: a line with the external classes, a line for each constant,
and the nodes in document order. Where line breaks, braces and commas go depends on what has been
printed before; a printer keeps that in its flags. -/

namespace Restyle

/-- What a printer remembers between two steps. -/
structure Flags where
  /-- A line break is owed before the next rule, or before the next selector of a list. -/
  breakPending : Bool
  /-- The opening brace of the current rule is owed. -/
  bracePending : Bool
  /-- A comma is owed before the next selector. -/
  commaPending : Bool
  /-- Values are part of the address of a resource. -/
  inUrl : Bool
  /-- Properties are marked to keep their direction. -/
  noFlip : Bool
deriving DecidableEq, Repr

/-- The flags at the beginning: as if a rule had just ended. -/
def Flags.initial : Flags := ⟨true, false, false, false, false⟩

/-- What stays the same while a stylesheet is printed. -/
structure PrintSetup where
  names : NameTable
  externals : NameSet
  constants : List Constant
  options : Options
  checker : Checker

/-- A printer: its output, its flags and the warnings it has given. -/
structure Printer where
  sink : Sink
  flags : Flags
  warnings : List Warning

namespace Printer

/-- A printer that has printed nothing. -/
def new (layout : Layout) : Printer := ⟨.empty layout, .initial, []⟩

/-! ## Text and punctuation -/

/-- Apply an operation to the sink. -/
def onSink (p : Printer) (f : Sink → Sink) : Printer := { p with sink := f p.sink }

/-- Print a text. -/
def print (p : Printer) (text : String) : Printer := p.onSink (·.write text)

/-- Print a line break. -/
def breakLine (p : Printer) : Printer := p.onSink Sink.breakLine

/-- Print an optional line break. -/
def breakLineOptional (p : Printer) : Printer := p.onSink Sink.breakLineOptional

/-- Print an opening brace and indent what follows. -/
def openBrace (p : Printer) : Printer :=
  p.onSink fun s => (((s.writeOptional " ").write "\x7b").breakLineOptional).indent

/-- End the indentation and print a closing brace. -/
def closeBrace (p : Printer) : Printer :=
  p.onSink fun s => (s.dedent.write "\x7d").breakLineOptional

/-- Print the end of a declaration. -/
def semicolon (p : Printer) : Printer := p.onSink fun s => (s.write ";").breakLineOptional

/-- Print a comma. -/
def comma (p : Printer) : Printer := p.onSink fun s => (s.write ",").writeOptional " "

/-- Change the flags. -/
def setFlags (p : Printer) (f : Flags → Flags) : Printer := { p with flags := f p.flags }

/-- Print the opening brace of the current rule, if it is owed. -/
def openPendingBrace (p : Printer) : Printer :=
  if p.flags.bracePending then p.openBrace.setFlags ({ · with bracePending := false }) else p

/-! ## The header -/

/-- Print the line of the external classes, if there are any. -/
def printExternals (p : Printer) (names : List String) : Printer :=
  if names.isEmpty then p
  else (names.foldl (fun p name => (p.print " ").print (spelled name)) (p.print "@external")).semicolon
where
  /-- A name as it is listed: quoted when it looks like a pattern. -/
  spelled (name : String) : String :=
    if name.toList.getLast? = some '*' then "'" ++ name ++ "'" else name

/-- Print the line of a constant. -/
def printConstant (setup : PrintSetup) (p : Printer) (decl : Constant) :
    Except ConversionError Printer :=
  match setup.names[decl.key]? with
  | none => .error (.unknownConstant decl.kind decl.key)
  | some name =>
    let p := p.setFlags ({ · with inUrl := decl.kind = .url })
    let value := decl.text setup.names p.flags.inUrl
    let p := p.setFlags ({ · with inUrl := false })
    .ok (p.print ("@def " ++ name ++ " " ++ value)).semicolon

/-- Print the lines of some constants. -/
def printConstantList (setup : PrintSetup) (p : Printer) : List Constant → Except ConversionError Printer
  | [] => .ok p
  | decl :: rest => do
    let p ← printConstant setup p decl
    printConstantList setup p rest

/-- Print the lines of all constants, with a line break behind them if there are any. -/
def printConstants (setup : PrintSetup) (p : Printer) : Except ConversionError Printer := do
  let p ← printConstantList setup p setup.constants
  .ok (if setup.constants.isEmpty then p else p.breakLineOptional)

/-! ## Rules -/

/-- Print a property. In a lenient conversion, a property that the checker refuses is left out with
a warning. -/
def printProperty (setup : PrintSetup) (p : Printer) (property : Property) : Printer :=
  let p := p.openPendingBrace
  let text := property.text setup.names p.flags.noFlip
  if setup.options.lenient then
    match setup.checker ("body\x7b" ++ text ++ "\x7d") with
    | .ok () => (p.print text).semicolon
    | .error refusal =>
      { p with warnings := p.warnings ++ [.invalidProperty text refusal.text] }
  else (p.print text).semicolon

/-- Print properties. -/
def printProperties (setup : PrintSetup) (p : Printer) (properties : List Property) : Printer :=
  properties.foldl (printProperty setup) p

/-- Print a selector, behind a comma and on a new line if these are owed. -/
def printSelector (p : Printer) (selector : Selector) : Printer :=
  let p := if p.flags.commaPending then p.comma else p
  let p := if p.flags.breakPending then p.breakLine else p
  let p := p.setFlags ({ · with commaPending := true, breakPending := true })
  p.print (unescape selector.text)

/-- Print the selectors of a rule. -/
def printSelectors (p : Printer) (selectors : List Selector) : Printer :=
  selectors.foldl printSelector p

/-- Begin a rule. -/
def beginRule (p : Printer) : Printer :=
  let p := if p.flags.breakPending then p.breakLineOptional else p
  p.setFlags ({ · with bracePending := true, commaPending := false, breakPending := false })

/-- End a rule. -/
def endRule (p : Printer) : Printer :=
  p.openPendingBrace.closeBrace.setFlags ({ · with breakPending := true })

/-- Print the media that a block is for. -/
def printMedia (p : Printer) : List String → Printer
  | [] => p
  | first :: rest => rest.foldl (fun p medium => p.comma.print medium) ((p.print " ").print first)

/-! ## Conditional blocks -/

/-- Begin a conditional block. -/
def openConditional (keyword : String) (condition : Condition) (p : Printer) :
    Except ConversionError Printer :=
  match condition.text with
  | .error fault => .error (.invalidConditional fault)
  | .ok text =>
    .ok ((p.print (keyword ++ " (" ++ text ++ ")")).openBrace.setFlags
      ({ · with breakPending := false }))

/-! ## Nodes -/

mutual

/-- Print a node. -/
def printNode (setup : PrintSetup) : Node → Printer → Except ConversionError Printer
  | .rule selectors properties, p =>
    .ok ((p.beginRule.printSelectors selectors).printProperties setup properties).endRule
  | .ifBlock condition nodes branches, p => do
    let p ← openConditional "@if" condition p.breakLine
    let p ← printNodes setup nodes p
    let p ← printBranches setup branches p
    .ok (p.closeBrace.setFlags ({ · with breakPending := true }))
  | .elseIf condition nodes branches, _ =>
    .error (.invalidConditional (.strayBranch (Node.elseIf condition nodes branches).kindName))
  | .elseBlock nodes, _ =>
    .error (.invalidConditional (.strayBranch (Node.elseBlock nodes).kindName))
  | .media queries nodes, p => do
    let p ← printNodes setup nodes ((p.print "@media").printMedia queries).openBrace
    .ok p.closeBrace
  | .page pseudoPage properties, p =>
    let p := p.print "@page"
    let p := match pseudoPage with
      | some pseudo => p.print (" :" ++ pseudo)
      | none => p
    .ok (p.openBrace.printProperties setup properties).closeBrace
  | .fontFace properties, p =>
    .ok ((p.print "@font-face").openBrace.printProperties setup properties).closeBrace
  | .sprite selectors resource properties, p =>
    let p := (p.beginRule.printSelectors selectors).openPendingBrace
    let p := (p.print ("gwt-sprite: \"" ++ unescape resource ++ "\"")).semicolon
    .ok (p.printProperties setup properties).endRule
  | .noFlip nodes, p => do
    let outer := p.flags.noFlip
    let p ← printNodes setup nodes (p.setFlags ({ · with noFlip := true }))
    .ok (p.setFlags ({ · with noFlip := outer }))
  | .constant _, p => .ok p
  | .external _, p => .ok p
  | .unknownAtRule rule, p => .ok (p.print rule).breakLineOptional

/-- Print nodes one after the other. -/
def printNodes (setup : PrintSetup) : List Node → Printer → Except ConversionError Printer
  | [], p => .ok p
  | n :: rest, p => do
    let p ← printNode setup n p
    printNodes setup rest p

/-- Print the branches of a conditional block. Each closes the block before it. -/
def printBranches (setup : PrintSetup) : List Node → Printer → Except ConversionError Printer
  | [], p => .ok p
  | .elseIf condition nodes branches :: rest, p => do
    let p ← openConditional "@elseif" condition p.closeBrace
    let p ← printNodes setup nodes p
    let p ← printBranches setup branches p
    printBranches setup rest p
  | .elseBlock nodes :: rest, p => do
    let p := (p.closeBrace.print "@else").openBrace.setFlags ({ · with breakPending := false })
    let p ← printNodes setup nodes p
    printBranches setup rest p
  | other :: _, _ => .error (.invalidConditional (.foreignBranch other.kindName))

end

end Printer

/-- Print a stylesheet as GSS. -/
def PrintSetup.generate (setup : PrintSetup) (sheet : Stylesheet) :
    Except ConversionError Conversion := do
  let p := (Printer.new setup.options.layout).printExternals setup.externals.toList
  let p ← p.printConstants setup
  let p ← Printer.printNodes setup sheet.nodes p
  .ok ⟨p.sink.buffer, p.warnings⟩

end Restyle
