import Restyle.Job

set_option autoImplicit false

/-! # The command line

The program converts the stylesheet in a file, or on standard input when no file is named. An option
that takes a value has it behind a `=` or in the next argument; `--` ends the options. Arguments are
looked at in their order, and the first that asks for help or cannot be accepted decides. -/

namespace Restyle.CommandLine

/-! ## Arguments -/

/-- What is printed when a conversion succeeds. -/
inductive Format where
  /-- The output, unless it has been written to a file. -/
  | text
  /-- The report. -/
  | json
deriving DecidableEq, Repr

/-- The format with a given name. -/
def Format.ofName? : String → Option Format
  | "text" => some .text
  | "json" => some .json
  | _ => none

/-- How much is logged. -/
inductive LogLevel where
  | trace
  | debug
  | info
  | warn
  | error
deriving DecidableEq, Repr

/-- The log level with a given name. -/
def LogLevel.ofName? : String → Option LogLevel
  | "trace" => some .trace
  | "debug" => some .debug
  | "info" => some .info
  | "warn" => some .warn
  | "error" => some .error
  | _ => none

/-- The arguments that have been given. -/
structure Arguments where
  input : Option String
  output : Option String
  names : Option String
  lenient : Bool
  compact : Bool
  format : Option Format
  logLevel : Option LogLevel
deriving DecidableEq, Repr

namespace Arguments

/-- No argument has been given. -/
def none : Arguments := ⟨.none, .none, .none, false, false, .none, .none⟩

/-- Give the input, which can be given once. -/
def setInput (a : Arguments) (text : String) : Option Arguments :=
  if a.input.isSome then .none else some { a with input := some text }

/-- Give a path to an option that has none yet. The path may not be empty. -/
def path? (given : Option String) (text : String) : Option String :=
  if given.isSome || text.isEmpty then .none else some text

/-- Give an option its value. Every option can be given once. -/
def setOption (a : Arguments) (name value : String) : Option Arguments :=
  match name with
  | "output" => (path? a.output value).map fun path => { a with output := some path }
  | "mapping" => (path? a.names value).map fun path => { a with names := some path }
  | "format" =>
    if a.format.isSome then .none
    else (Format.ofName? value).map fun format => { a with format := some format }
  | "log-level" =>
    if a.logLevel.isSome then .none
    else (LogLevel.ofName? value).map fun level => { a with logLevel := some level }
  | _ => .none

/-- Whether an option of this name takes a value. -/
def takesValue (name : String) : Bool := ["output", "mapping", "format", "log-level"].contains name

/-- Give a switch. Every switch can be given once. -/
def setSwitch (a : Arguments) (name : String) : Option Arguments :=
  match name with
  | "lenient" => if a.lenient then .none else some { a with lenient := true }
  | "compact" => if a.compact then .none else some { a with compact := true }
  | _ => .none

/-- The job that is asked for. -/
def job (a : Arguments) : Job where
  input := .ofArgument (a.input.getD "-")
  output := a.output
  names := a.names
  options := ⟨a.lenient, if a.compact then .compact else .pretty⟩

end Arguments

/-! ## Reading the command line -/

/-- An argument by its form. -/
inductive Form where
  /-- The argument `--`. -/
  | divider
  /-- An option by its long name, with the value that is attached to it. -/
  | option (name : String) (value : Option String)
  /-- A letter that is no option. -/
  | unknown
  /-- Anything else, `-` included. -/
  | plain (text : String)
deriving DecidableEq, Repr

namespace Form

/-- A long option: what stands before and behind its first `=`. -/
def ofLong (cs : List Char) : Form :=
  .option (String.ofList (cs.takeWhile (· != '=')))
    (match cs.dropWhile (· != '=') with
      | [] => none
      | _ :: value => some (String.ofList value))

/-- The value that is attached to the letter of an option, if there is one. -/
def attached? : List Char → Option String
  | [] => none
  | '=' :: value => some (String.ofList value)
  | value => some (String.ofList value)

/-- Options by their letters. Only the first letter counts, the others are its value. -/
def ofShort : List Char → Form
  | 'o' :: value => .option "output" (attached? value)
  | 'h' :: _ => .option "help" none
  | 'V' :: _ => .option "version" none
  | _ => .unknown

/-- The form of an argument. -/
def ofText (text : String) : Form :=
  match text.toList with
  | ['-', '-'] => .divider
  | '-' :: '-' :: cs => ofLong cs
  | ['-'] => .plain text
  | '-' :: cs => ofShort cs
  | _ => .plain text

end Form

/-- What a command line asks for. -/
inductive Command where
  | convert (arguments : Arguments)
  | help
  | version
  /-- Something that cannot be accepted. -/
  | misuse
deriving DecidableEq, Repr

/-- Read the arguments behind `--`. -/
def readPlain (a : Arguments) : List String → Command
  | [] => .convert a
  | text :: rest =>
    match a.setInput text with
    | some a => readPlain a rest
    | none => .misuse

/-- Read arguments. -/
def read (a : Arguments) : List String → Command
  | [] => .convert a
  | argument :: rest =>
    match Form.ofText argument with
    | .divider => readPlain a rest
    | .unknown => .misuse
    | .plain text =>
      match a.setInput text with
      | some a => read a rest
      | none => .misuse
    | .option "help" none => .help
    | .option "version" none => .version
    | .option name (some value) =>
      match a.setOption name value with
      | some a => read a rest
      | none => .misuse
    | .option name none =>
      if Arguments.takesValue name then
        match rest with
        | [] => .misuse
        | next :: rest =>
          match Form.ofText next with
          | .plain value =>
            match a.setOption name value with
            | some a => read a rest
            | none => .misuse
          | _ => .misuse
      else
        match a.setSwitch name with
        | some a => read a rest
        | none => .misuse

/-- What a command line asks for. -/
def Command.ofArguments (arguments : List String) : Command := read .none arguments

/-! ## Doing what is asked for -/

/-- The program and its version. -/
def versionText : String := "css2gss 0.1.0\n"

/-- How to use the program. -/
def helpText : String :=
  "\n".intercalate
    ["Convert legacy CssResource stylesheets to GSS",
      "",
      "Usage: css2gss [OPTIONS] [INPUT]",
      "",
      "Arguments:",
      "  [INPUT]  Stylesheet tree (JSON); - reads stdin [default: -]",
      "",
      "Options:",
      "      --log-level <LOG_LEVEL>  Log level [trace, debug, info, warn, error; default: warn]",
      "  -o, --output <OUTPUT>        Write GSS to this file",
      "      --mapping <MAPPING>      JSON object mapping constant keys to GSS names",
      "      --lenient                Skip properties that are not valid GSS, with a warning",
      "      --compact                Omit optional whitespace and indentation",
      "      --format <FORMAT>        Output format [text, json; default: text]",
      "  -h, --help                   Print help",
      "  -V, --version                Print version",
      ""]

/-- What the program prints. -/
inductive Reply where
  | text (text : String)
  | report (report : ConversionReport)
  | failure (report : FailureReport)

/-- A reply as it is printed. -/
def Reply.printed : Reply → String
  | .text content => content
  | .report r => r.toJson.printed
  | .failure r => r.toJson.printed

/-- The end of a run: the exit code and the reply. -/
structure Exit where
  code : Nat
  reply : Reply

/-- The reply to a conversion that succeeded. -/
def replyTo (format : Format) (report : ConversionReport) : Reply :=
  match format with
  | .json => .report report
  | .text => .text (if report.output.isNone then report.gss else "")

/-- The end of a run that converts. -/
def Exit.ofResult (format : Format) : Except Failure ConversionReport → Exit
  | .ok report => ⟨0, replyTo format report⟩
  | .error failure => ⟨failure.code, .failure (.ofFailure failure)⟩

/-- Do what a command line asks for. -/
def run {m : Type → Type} [Monad m] (access : FileAccess m) (arguments : List String) : m Exit :=
  match Command.ofArguments arguments with
  | .convert a => do
    let result ← (a.job.run access).run
    return .ofResult (a.format.getD .text) result
  | .help => return ⟨0, .text helpText⟩
  | .version => return ⟨0, .text versionText⟩
  | .misuse => return ⟨2, .text ""⟩

end Restyle.CommandLine
