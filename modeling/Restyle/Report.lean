import Restyle.Conversion
import Restyle.Failure
import Restyle.Json.Fields
import Restyle.Json.Printer

set_option autoImplicit false

/-! # Reports

A job ends with a report: of what it delivered, or of why it failed. A report is printed as one
JSON object, and its first two members tell whether the job succeeded and in which version of this
format the report is written. -/

namespace Restyle

/-- The version of the format of reports. -/
def schemaVersion : String := "1"

/-! ## Reports of success -/

/-- A warning in a report. -/
structure Notice where
  code : String
  message : String
  subject : Option String
deriving DecidableEq, Repr

/-- The notice of a warning. -/
def Notice.ofWarning (w : Warning) : Notice := ⟨w.code, w.message, some w.subject⟩

/-- The report of a conversion: where the tree came from, where the output went if it went to a
file, the output, and the warnings. -/
structure ConversionReport where
  status : String
  version : String
  input : String
  output : Option String
  gss : String
  warnings : List Notice
deriving DecidableEq, Repr

/-- The report of a conversion whose output has not been written to a file. -/
def ConversionReport.ofConversion (input : String) (c : Conversion) : ConversionReport :=
  ⟨"ok", schemaVersion, input, none, c.gss, c.warnings.map Notice.ofWarning⟩

/-! ## Reports of failure -/

/-- What is reported of a failure. -/
structure FailureInfo where
  code : Nat
  message : String
  /-- The parts of the failure, by name. -/
  details : Option Json

/-- The report of a failure. -/
structure FailureReport where
  status : String
  version : String
  error : FailureInfo

/-- The parts of a failure, for those that have any. -/
def Failure.details? : Failure → Option Json
  | .conversion (.unknownConstant kind key) =>
    some (.object [("key", .string key), ("kind", .string kind.name)])
  | .conversion (.nameCollision first second name) =>
    some (.object [("keys", .array [.string first, .string second]), ("name", .string name)])
  | .unreadable path _ => some (.object [("path", .string path)])
  | .unwritable path _ => some (.object [("path", .string path)])
  | _ => none

/-- The report of a failure. -/
def FailureReport.ofFailure (f : Failure) : FailureReport :=
  ⟨"error", schemaVersion, ⟨f.code, f.message, f.details?⟩⟩

/-! ## Printing -/

/-- A member that is left out when there is nothing to say. -/
def Json.memberOf? (key : String) : Option Json → List (String × Json)
  | some value => [(key, value)]
  | none => []

/-- A notice as JSON. -/
def Notice.toJson (n : Notice) : Json :=
  .object ([("code", .string n.code), ("message", .string n.message)] ++
    Json.memberOf? "subject" (n.subject.map .string))

/-- The report of a conversion as JSON. -/
def ConversionReport.toJson (r : ConversionReport) : Json :=
  .object ([("status", .string r.status), ("schema_version", .string r.version),
      ("input", .string r.input)] ++ Json.memberOf? "output" (r.output.map .string) ++
    [("gss", .string r.gss), ("warnings", .array (r.warnings.map Notice.toJson))])

/-- What is reported of a failure, as JSON. -/
def FailureInfo.toJson (i : FailureInfo) : Json :=
  .object ([("code", .ofNat i.code), ("message", .string i.message)] ++
    Json.memberOf? "details" i.details)

/-- The report of a failure as JSON. -/
def FailureReport.toJson (r : FailureReport) : Json :=
  .object [("status", .string r.status), ("schema_version", .string r.version),
    ("error", r.error.toJson)]

/-- A report as it is printed: indented, with a line break at the end. -/
def Json.printed (report : Json) : String := report.pretty ++ "\n"

/-! ## Reading -/

open Json

/-- Decode a notice. -/
def Notice.ofJson? : Nat → Json → Option Notice :=
  fullRecord? ["code", "message", "subject"] fun _ fields =>
    match fields with
    | [code, message, subject] => do
      some ⟨← required string? code, ← required string? message, ← nullable string? subject⟩
    | _ => none

/-- Decode the report of a conversion. -/
def ConversionReport.ofJson? : Nat → Json → Option ConversionReport :=
  fullRecord? ["status", "schema_version", "input", "output", "gss", "warnings"] fun levels fields =>
    match fields with
    | [status, version, input, output, gss, warnings] => do
      some ⟨← required string? status, ← required string? version, ← required string? input,
        ← nullable string? output, ← required string? gss,
        ← required (list? Notice.ofJson? levels) warnings⟩
    | _ => none

/-- Decode a code, an integer that fits one byte. -/
def FailureInfo.code? : Json → Option Nat
  | .number ⟨.ofNat n, none⟩ => if n < 256 then some n else none
  | _ => none

/-- Decode what is reported of a failure. The details are read whole and kept. -/
def FailureInfo.ofJson? : Nat → Json → Option FailureInfo :=
  fullRecord? ["code", "message", "details"] fun levels fields =>
    match fields with
    | [code, message, details] => do
      some ⟨← required code? code, ← required string? message,
        ← nullable (fun value => if usableWithin levels value then some value.ordered else none)
          details⟩
    | _ => none

/-- Decode the report of a failure. -/
def FailureReport.ofJson? : Nat → Json → Option FailureReport :=
  fullRecord? ["status", "schema_version", "error"] fun levels fields =>
    match fields with
    | [status, version, error] => do
      some ⟨← required string? status, ← required string? version,
        ← required (FailureInfo.ofJson? levels) error⟩
    | _ => none

end Restyle
