import Restyle.Proofs.Json.ReadBack
import Restyle.Proofs.Json.Records
import Restyle.Report

set_option autoImplicit false

/-! # Reports read back

A report is printed as one JSON text with a line break behind it, and whoever reads that text gets the
report: no character of it is lost in the escapes of the strings, and a member that is left out is
read as absent.

The only numbers in a report are codes, and a code fits one byte. So it suffices to know that the digits
of such a number read back (`Json.legible_ofNat`). The details of a failure may be any value that is
legible, has the members of its objects in the order of their keys and does not nest too deep; those
that are reported nest two levels.
-/

namespace Restyle

namespace Json

/-! ## Printed values -/

/-- The line break behind a printed value is passed over. -/
theorem parse?_printed {value : Json} (h : Legible value) : parse? value.printed = some value := by
  have hline : Written ['\n'] [] := .blank (by decide) .nil
  have hwritten : Written (prettyChars 0 value ++ ['\n']) (tokens value ++ []) :=
    written_prettyChars 0 value h (endsNumber_lineBreak 0 []) hline
  refine parse?_of_written ?_
  rw [printed, String.toList_append, pretty, String.toList_ofList]
  rwa [List.append_nil] at hwritten

/-- The digits of a number of one byte are the whole part of a numeral with that value. -/
theorem whole_toDigits {n : Nat} (h : n < 256) :
    ∃ whole : List Nat, Whole (Nat.toDigits 10 n) whole ∧
      Numeral.inRange ⟨false, whole, [], none⟩ = true ∧
      Numeral.value ⟨false, whole, [], none⟩ = ⟨n, none⟩ := by
  have hdigits : ∀ k : Fin 256, (Nat.toDigits 10 k.val).all Char.isDigit = true ∧
      (Nat.toDigits 10 k.val = ['0'] ∨ (Nat.toDigits 10 k.val).head?.any (· != '0') = true) ∧
      Numeral.inRange ⟨false, (Nat.toDigits 10 k.val).map digitValue, [], none⟩ = true ∧
      Numeral.value ⟨false, (Nat.toDigits 10 k.val).map digitValue, [], none⟩ = ⟨k.val, none⟩ := by
    decide +kernel
  obtain ⟨hall, hfirst, hrange, hvalue⟩ := hdigits ⟨n, h⟩
  refine ⟨_, ?_, hrange, hvalue⟩
  rcases hfirst with hzero | hfirst
  · rw [hzero]
    exact .zero
  · cases hlist : Nat.toDigits 10 n with
    | nil => simp [hlist] at hfirst
    | cons c cs =>
        simp only [hlist, List.head?_cons, Option.any_some, bne_iff_ne] at hfirst
        rw [hlist, List.all_eq_true] at hall
        exact .digits hfirst ⟨List.cons_ne_nil _ _, hall⟩

theorem legible_ofNat {n : Nat} (h : n < 256) : Legible (.ofNat n) := by
  obtain ⟨whole, hwhole, hrange, hvalue⟩ := whole_toDigits h
  have hliteral := Literal.number (.positive hwhole .none .none) hrange
  rw [hvalue, List.append_nil, List.append_nil] at hliteral
  exact hliteral

/-- The object of the fields that are given gives them. -/
theorem gives_given (names : List String) (entries : List (Option Json)) :
    Gives names entries (.object (given names entries)) :=
  ⟨[], nofun, by rw [List.append_nil]⟩

/-- A record without defaults is decoded from the object of the fields that are given. -/
theorem Decodes.fullRecord {α : Type} {names : List String} {entries : List (Option Json)}
    {fields : Nat → List (Option Json) → Option α} {x : α} (hnames : names.Nodup)
    (hlength : entries.length = names.length)
    (hfields : ∀ levels, (∀ entry, some entry ∈ entries → depth entry ≤ levels) →
      fields levels entries = some x) :
    Decodes (fullRecord? names fields) (.object (given names entries)) x :=
  Decodes.record (gives_given names entries) hnames hlength hfields

end Json

open Json

/-! ## Reports of success -/

/-- The report of a conversion that a text spells. -/
def ConversionReport.ofText? (text : String) : Option ConversionReport :=
  (parse? text).bind (ofJson? maxNesting)

theorem nullable_string (text : Option String) :
    nullable string? (text.map .string) = some text := by
  cases text with
  | none => rfl
  | some text => rfl

theorem Notice.decodes (n : Notice) : Decodes Notice.ofJson? n.toJson n := by
  have heq : n.toJson = .object (given ["code", "message", "subject"]
      [some (.string n.code), some (.string n.message), n.subject.map .string]) := by
    rw [toJson]
    cases n.subject <;> rfl
  rw [heq]
  refine Decodes.fullRecord (by decide) rfl fun levels _ => ?_
  simp [required, string?, nullable_string]

theorem Notice.legible_toJson (n : Notice) : Legible n.toJson := by
  rw [toJson]
  cases n.subject <;> simp [memberOf?]

theorem Notice.depth_toJson (n : Notice) : depth n.toJson = 1 := by
  rw [toJson]
  cases n.subject <;> rfl

theorem depthAll_notices (notices : List Notice) : depthAll (notices.map Notice.toJson) ≤ 1 := by
  induction notices with
  | nil => exact Nat.zero_le 1
  | cons n notices ih =>
      rw [List.map_cons, depthAll, n.depth_toJson]
      omega

namespace ConversionReport

theorem decodes (r : ConversionReport) : Decodes ofJson? r.toJson r := by
  have heq : r.toJson = .object (given
      ["status", "schema_version", "input", "output", "gss", "warnings"]
      [some (.string r.status), some (.string r.version), some (.string r.input),
        r.output.map .string, some (.string r.gss),
        some (.array (r.warnings.map Notice.toJson))]) := by
    rw [toJson]
    cases r.output <;> rfl
  rw [heq]
  refine Decodes.fullRecord (by decide) rfl fun levels hlevels => ?_
  have hnotices : Decodes (list? Notice.ofJson?) (.array (r.warnings.map Notice.toJson)) r.warnings :=
    Decodes.list (by simp [List.forall₂_map_right_iff, List.forall₂_same, Notice.decodes])
  have hwarnings := hnotices levels (hlevels _ (by simp))
  simp [required, string?, nullable_string, hwarnings]

theorem legible_toJson (r : ConversionReport) : Legible r.toJson := by
  rw [toJson]
  cases r.output <;> simp [memberOf?, Notice.legible_toJson]

theorem depth_toJson_le (r : ConversionReport) : depth r.toJson ≤ 3 := by
  have hnotices := depthAll_notices r.warnings
  rw [toJson]
  cases r.output <;> simp [memberOf?] <;> omega

/-- A printed report of success reads back. -/
theorem ofText?_printed (r : ConversionReport) : ofText? r.toJson.printed = some r := by
  have hdepth : depth r.toJson ≤ maxNesting := Nat.le_trans r.depth_toJson_le (by decide)
  rw [ofText?, parse?_printed r.legible_toJson, Option.bind_some, r.decodes maxNesting hdepth]

end ConversionReport

/-! ## Reports of failure -/

/-- The report of a failure that a text spells. -/
def FailureReport.ofText? (text : String) : Option FailureReport :=
  (parse? text).bind (ofJson? maxNesting)

/-- What is asked of a failure so that its report can be read: a code of one byte, and details that
are legible and in order. Details that are `null` would be read as absent. -/
structure FailureInfo.Readable (i : FailureInfo) : Prop where
  code : i.code < 256
  details : ∀ value ∈ i.details, value ≠ .null ∧ Legible value ∧ value.ordered = value

namespace FailureInfo

/-- A code is the integer of one byte and nothing else, not even a number with the same value. -/
theorem code?_eq_some_iff {value : Json} {n : Nat} :
    code? value = some n ↔ value = .ofNat n ∧ n < 256 := by
  constructor
  · intro h
    unfold code? at h
    split at h
    · rw [Option.ite_none_right_eq_some] at h
      obtain ⟨hlt, hn⟩ := h
      cases hn
      exact ⟨rfl, hlt⟩
    · cases h
  · rintro ⟨rfl, h⟩
    exact if_pos h

/-- Details are read whole if the levels suffice for them. -/
theorem nullable_details {i : FailureInfo} (h : i.Readable) {levels : Nat}
    (hlevels : ∀ value ∈ i.details, depth value ≤ levels) :
    nullable (fun value => if usableWithin levels value then some value.ordered else none) i.details
      = some i.details := by
  cases hdetails : i.details with
  | none => rfl
  | some value =>
      obtain ⟨hnull, hlegible, hordered⟩ := h.details value hdetails
      have husable := (usableWithin_iff value levels hlegible).mpr (hlevels value hdetails)
      rw [nullable]
      · rw [if_pos husable, hordered]
        rfl
      · rintro rfl
        exact hnull rfl

theorem decodes {i : FailureInfo} (h : i.Readable) : Decodes ofJson? i.toJson i := by
  have heq : i.toJson = .object (given ["code", "message", "details"]
      [some (.ofNat i.code), some (.string i.message), i.details]) := by
    rw [toJson]
    cases i.details <;> rfl
  rw [heq]
  refine Decodes.fullRecord (by decide) rfl fun levels hlevels => ?_
  have hdetails := nullable_details h fun value hvalue =>
    hlevels value (by simp [Option.mem_def.mp hvalue])
  simp [required, string?, code?_eq_some_iff.mpr ⟨rfl, h.code⟩, hdetails]

theorem legible_toJson {i : FailureInfo} (h : i.Readable) : Legible i.toJson := by
  have hcode := legible_ofNat h.code
  rw [toJson]
  cases hdetails : i.details with
  | none => simp [memberOf?, hcode]
  | some value => simp [memberOf?, hcode, (h.details value hdetails).2.1]

end FailureInfo

namespace FailureReport

theorem decodes {r : FailureReport} (h : r.error.Readable) : Decodes ofJson? r.toJson r := by
  show Decodes ofJson? (.object (given ["status", "schema_version", "error"]
    [some (.string r.status), some (.string r.version), some r.error.toJson])) r
  refine Decodes.fullRecord (by decide) rfl fun levels hlevels => ?_
  have herror := FailureInfo.decodes h levels (hlevels _ (by simp))
  simp [required, string?, herror]

theorem legible_toJson {r : FailureReport} (h : r.error.Readable) : Legible r.toJson := by
  simp [toJson, FailureInfo.legible_toJson h]

/-- A printed report of a failure reads back. -/
theorem ofText?_printed {r : FailureReport} (h : r.error.Readable)
    (hdepth : depth r.toJson ≤ maxNesting) : ofText? r.toJson.printed = some r := by
  rw [ofText?, parse?_printed (legible_toJson h), Option.bind_some, decodes h maxNesting hdepth]

end FailureReport

/-! ### Which failures have details -/

namespace Failure

/-- A failure that is about certain constants or a certain file, which are told as its details. -/
inductive Detailed : Failure → Prop where
  | unknownConstant (kind : ConstantKind) (key : String) :
      Detailed (.conversion (.unknownConstant kind key))
  | nameCollision (first second name : String) :
      Detailed (.conversion (.nameCollision first second name))
  | unreadable (path : String) (fault : FileFault) : Detailed (.unreadable path fault)
  | unwritable (path : String) (fault : FileFault) : Detailed (.unwritable path fault)

theorem details?_eq_none_iff (f : Failure) : f.details? = none ↔ ¬ f.Detailed := by
  constructor
  · intro hnone hdetailed
    cases hdetailed <;> cases hnone
  · intro hplain
    unfold details?
    split
    · exact absurd (.unknownConstant _ _) hplain
    · exact absurd (.nameCollision _ _ _) hplain
    · exact absurd (.unreadable _ _) hplain
    · exact absurd (.unwritable _ _) hplain
    · rfl

/-- Details are objects of strings, or of a list of strings. -/
theorem of_details? {f : Failure} {value : Json} (h : f.details? = some value) :
    value ≠ .null ∧ Legible value ∧ depth value ≤ 2 := by
  unfold details? at h
  split at h <;> cases h <;> simp [depthAll]

/-- The members of details are reported in the order of their keys. -/
theorem ordered_details? {f : Failure} {value : Json} (h : f.details? = some value) :
    value.ordered = value := by
  have hkind : ¬ "kind" < "key" := by decide
  have hname : ¬ "name" < "keys" := by decide
  unfold details? at h
  split at h <;> cases h <;> simp [ordered, orderedAll, orderedMembers, insertMember, hkind, hname]

theorem code_lt (f : Failure) : f.code < 256 := by
  cases f <;> simp [code]

theorem readable (f : Failure) : (FailureReport.ofFailure f).error.Readable where
  code := f.code_lt
  details _ hvalue := ⟨(of_details? hvalue).1, (of_details? hvalue).2.1, ordered_details? hvalue⟩

theorem depth_report_le (f : Failure) : depth (FailureReport.ofFailure f).toJson ≤ 4 := by
  have hdetails : depthMembers (memberOf? "details" f.details?) ≤ 2 := by
    cases h : f.details? with
    | none => exact Nat.zero_le 2
    | some value => simpa [memberOf?] using (of_details? h).2.2
  simp only [FailureReport.ofFailure, FailureReport.toJson, FailureInfo.toJson, List.cons_append,
    List.nil_append, depth_object, depthMembers_cons, depthMembers_nil, depth_string]
  have hcode : depth (.ofNat f.code) = 0 := rfl
  omega

/-- The printed report of a failure reads back. -/
theorem ofText?_report (f : Failure) :
    FailureReport.ofText? (FailureReport.ofFailure f).toJson.printed
      = some (FailureReport.ofFailure f) :=
  FailureReport.ofText?_printed f.readable (Nat.le_trans f.depth_report_le (by decide))

end Failure

/-! ## All reports -/

/-- **Nothing is lost in a printed report.** The report of every conversion reads back, with the output
as it was generated and the properties that were left out as the subjects of its warnings, in their
order. So does the report of every failure, which has details exactly if the failure is about certain
constants or a certain file. -/
theorem reports_readBack :
    (∀ (input : String) (c : Conversion) (output : Option String),
      let report := { ConversionReport.ofConversion input c with output := output }
      ConversionReport.ofText? report.toJson.printed = some report ∧ report.gss = c.gss ∧
        report.warnings.map Notice.subject
          = c.warnings.map fun | .invalidProperty property _ => some property) ∧
    (∀ f : Failure,
      FailureReport.ofText? (FailureReport.ofFailure f).toJson.printed
          = some (FailureReport.ofFailure f) ∧
        ((FailureReport.ofFailure f).error.details = none ↔ ¬ f.Detailed)) := by
  refine ⟨?_, fun f => ⟨f.ofText?_report, f.details?_eq_none_iff⟩⟩
  intro input c output report
  refine ⟨report.ofText?_printed, rfl, ?_⟩
  show (c.warnings.map Notice.ofWarning).map Notice.subject = _
  rw [List.map_map]
  apply List.map_congr_left
  rintro ⟨property, reason⟩ _
  rfl

end Restyle
