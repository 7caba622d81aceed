import Restyle.Converter
import Restyle.FileSystem
import Restyle.Report
import Restyle.Stylesheet.Decode

set_option autoImplicit false

/-! # Conversion jobs

A job reads a stylesheet, converts it and may write the output to a file. It is described once, over
any means of access to files; `FileSystem.access` lets it run on a file system that is a value. -/

namespace Restyle

/-! ## Access to files -/

/-- Means of reading and writing texts. -/
structure FileAccess (m : Type → Type) where
  readText : String → m (Except FileFault String)
  readStdin : m (Except FileFault String)
  writeText : String → String → m (Except FileFault Unit)

/-- Access to a file system that is a value. -/
def FileSystem.access : FileAccess (StateM FileSystem) where
  readText path := do return (← get).readText path
  readStdin := do return decodeText (← get).stdin
  writeText path text := do
    match (← get).writeText path text with
    | .ok fs => set fs; return .ok ()
    | .error fault => return .error fault

/-! ## Jobs -/

/-- Where a stylesheet is read from. -/
inductive Source where
  | stdin
  | file (path : String)
deriving DecidableEq, Repr

namespace Source

/-- The source that an argument names: `-` is standard input. -/
def ofArgument (argument : String) : Source := if argument = "-" then .stdin else .file argument

/-- The name of a source. -/
def name : Source → String
  | .stdin => "-"
  | .file path => path

end Source

/-- A job: where to read the stylesheet, where to write the output, where to read the names of
constants, and how to convert. -/
structure Job where
  input : Source
  output : Option String
  names : Option String
  options : Options
deriving DecidableEq, Repr

/-- Whether the output of a job is to go where its input comes from. -/
def Job.overwritesInput (job : Job) : Bool :=
  match job.input, job.output with
  | .file input, some output => Path.same input output
  | _, _ => false

/-- Refuse a job that would overwrite its input. -/
def Job.validate (job : Job) : Except Failure Unit :=
  if job.overwritesInput then
    .error (.invalidArguments ("output " ++ job.output.getD "" ++ " would overwrite the input"))
  else .ok ()

/-! ## Decoding -/

/-- Decode a table of names: an object of texts, where a later member outdoes an earlier one. -/
def NameTable.ofJson? (levels : Nat) (value : Json) : Option NameTable :=
  match levels, value with
  | _ + 1, .object members =>
    (members.mapM fun member => (Json.string? member.2).map fun name => (member.1, name)).map
      fun entries => entries.foldl (fun table entry => table.insert entry.1 entry.2) ∅
  | _, _ => none

/-- Read a text as a stylesheet. The message for any other text is the same: it does not say where
the text goes wrong. -/
def decodeStylesheet (name text : String) : Except Failure Stylesheet :=
  match Stylesheet.ofText? text with
  | some sheet => .ok sheet
  | none => .error (.undecodable name "the text does not spell a stylesheet")

/-- Read a text as a table of names, again with one message for any other text. -/
def decodeNames (name text : String) : Except Failure NameTable :=
  match (Json.parse? text).bind (NameTable.ofJson? Json.maxNesting) with
  | some table => .ok table
  | none => .error (.undecodable name "the text does not spell a table of names")

/-! ## Running a job -/

section Run

variable {m : Type → Type} [Monad m] (access : FileAccess m)

/-- A stage of a job that needs no access to files. -/
def stage {α : Type} (result : Except Failure α) : ExceptT Failure m α := ExceptT.mk (pure result)

/-- Read the text of a source. -/
def Source.read (source : Source) : ExceptT Failure m String := do
  let text ← match source with
    | .stdin => access.readStdin
    | .file path => access.readText path
  match text with
  | .ok text => return text
  | .error fault => throw (.unreadable source.name fault)

/-- Read a table of names from a file. -/
def loadNames (path : String) : ExceptT Failure m NameTable := do
  let text ← (Source.file path).read access
  stage (decodeNames path text)

/-- Write the output of a job, if it is to be written to a file. -/
def Job.write (job : Job) (gss : String) : ExceptT Failure m Unit := do
  match job.output with
  | none => return ()
  | some path =>
    match ← access.writeText path gss with
    | .ok () => return ()
    | .error fault => throw (.unwritable path fault)

/-- Do a job. Its stages are validation, reading and decoding the stylesheet, reading and decoding
the names of constants, conversion, and writing; the first that fails ends it. -/
def Job.run (job : Job) : ExceptT Failure m ConversionReport := do
  stage job.validate
  let text ← job.input.read access
  let sheet ← stage (decodeStylesheet job.input.name text)
  let names ← match job.names with
    | none => pure none
    | some path => some <$> loadNames access path
  let converter : Converter := { options := job.options, names, checker := Declaration.check }
  let conversion ← stage ((converter.convert sheet).mapError .conversion)
  job.write access conversion.gss
  return { ConversionReport.ofConversion job.input.name conversion with output := job.output }

end Run

end Restyle
