import Restyle.Proofs.Job.Stages

set_option autoImplicit false

/-! # Jobs and the files that they read

A job is refused when the paths of its input and its output have the same components. Whether the output
goes where the input comes from is another question: a path leads to a location, and several lists of
components may lead to the same one. A job is safe exactly if the first question answers the second
(`Job.Notices`): it is then refused whenever its output leads to its input, and otherwise it writes
elsewhere. So it is for paths that start alike and do not go up (`Path.Comparable`), and for all paths
that lead to different locations. It is not so in general: a `.` in front of one path only, a path from
the root beside a relative one and a way up each go unnoticed, and the input is lost. -/

namespace Restyle

/-- Two paths that can be compared by their components: they start alike, and neither goes up. -/
structure Path.Comparable (first second : String) : Prop where
  leading : Path.leading? first = Path.leading? second
  first_descends : ".." ∉ Path.segments first
  second_descends : ".." ∉ Path.segments second

theorem Path.Comparable.same_of_locate_eq {first second : String} {fs : FileSystem}
    (h : Path.Comparable first second) (hlocate : fs.locate second = fs.locate first) :
    Path.same first second = true :=
  decide_eq_true (FileSystem.components_eq_of_locate_eq h.leading h.first_descends h.second_descends
    hlocate.symm)

/-- A file system with an empty stylesheet in the working directory. -/
def FileSystem.sample : FileSystem where
  workingDirectory := ["w"]
  entries := [(["w"], .directory), (["w", "in.json"], .file "\x7b\x7d".toUTF8)]
  stdin := .empty

namespace Job

/-- If the output of a job leads to its input, the paths have the same components. -/
def Notices (job : Job) (fs : FileSystem) (input : String) : Prop :=
  ∀ output, job.output = some output → fs.locate output = fs.locate input →
    Path.same input output = true

section

variable {job : Job} {input output : String} {fs : FileSystem}

theorem overwritesInput_eq (hinput : job.input = .file input) (houtput : job.output = some output) :
    job.overwritesInput = Path.same input output := by
  rw [overwritesInput, hinput, houtput]

/-- Only a job that would overwrite its input is refused for its arguments. -/
theorem overwritesInput_of_error {message : String} {after : FileSystem}
    (h : outcome (job.run FileSystem.access) fs = (.error (.invalidArguments message), after)) :
    job.overwritesInput = true := by
  have hfirst := (error_iff_firstFailure? FileSystem.lawful_access job fs _).mp (congrArg Prod.fst h)
  obtain ⟨stage, -, hstage⟩ := List.exists_of_findSome?_eq_some hfirst
  have hraises := raises_of_failureAt hstage
  cases stage with
  | validation =>
      rw [failureAt, validate] at hstage
      split at hstage
      · assumption
      · cases hstage
  | reading | decoding | readingNames | decodingNames | conversion | writing => exact hraises.elim

/-- A job that is refused for its arguments does nothing. -/
theorem outcome_of_overwritesInput (houtput : job.output = some output)
    (h : job.overwritesInput = true) :
    outcome (job.run FileSystem.access) fs
      = (.error (.invalidArguments ("output " ++ output ++ " would overwrite the input")), fs) := by
  have hvalidate : job.validate
      = .error (.invalidArguments ("output " ++ output ++ " would overwrite the input")) := by
    rw [validate, if_pos h, houtput, Option.getD_some]
  rw [run_eq, hvalidate]
  exact outcome_bind_error (outcome_stage _ fs) _

/-- What stands at a location that the output does not lead to stays there. -/
theorem entryAt_of_locate_ne {location : Location}
    (h : ∀ output, job.output = some output → fs.locate output ≠ location) :
    FileSystem.entryAt (outcome (job.run FileSystem.access) fs).2 location = fs.entryAt location := by
  rcases run_cases FileSystem.lawful_access job fs with
    ⟨failure, after, -, hrun, hkept⟩ | ⟨conversion, after, -, -, hrun, hstored⟩
  · rw [hrun]
    exact congrFun hkept location
  · -- A success has stored its output, and that is all it has changed.
    rw [hrun]
    rw [stateAt_fileSystem] at hstored
    cases houtput : job.output with
    | none =>
        rw [houtput] at hstored
        exact congrFun hstored location
    | some output =>
        rw [houtput] at hstored
        exact hstored.2 location (h output houtput).symm

end

/-- **A job spares its input** exactly if it notices when its output leads there. If so, it is refused
in that case and the file system left as it is, and in any case the file that the stylesheet is read from
is still there afterwards. Paths that can be compared by their components are always noticed. -/
theorem run_spares_input {job : Job} {input : String} (fs : FileSystem)
    (hinput : job.input = .file input) :
    (job.Notices fs input ↔
      ∀ output, job.output = some output → fs.locate output = fs.locate input →
        outcome (job.run FileSystem.access) fs
          = (.error (.invalidArguments ("output " ++ output ++ " would overwrite the input")), fs)) ∧
    (job.Notices fs input → ∀ location entry, fs.find input = .ok (location, entry) →
      location = fs.locate input ∧
        FileSystem.entryAt (outcome (job.run FileSystem.access) fs).2 location = some entry) ∧
    ((∀ output, job.output = some output → Path.Comparable input output) → job.Notices fs input) := by
  have hrefused : job.Notices fs input → ∀ output, job.output = some output →
      fs.locate output = fs.locate input →
      outcome (job.run FileSystem.access) fs
        = (.error (.invalidArguments ("output " ++ output ++ " would overwrite the input")), fs) := by
    intro hnotices output houtput hlocate
    refine outcome_of_overwritesInput houtput ?_
    rw [overwritesInput_eq hinput houtput]
    exact hnotices output houtput hlocate
  refine ⟨⟨hrefused, ?_⟩, ?_, ?_⟩
  · intro hrefuses output houtput hlocate
    rw [← overwritesInput_eq hinput houtput]
    exact overwritesInput_of_error (hrefuses output houtput hlocate)
  · intro hnotices location entry hfind
    obtain ⟨rfl, hentry⟩ := FileSystem.of_find hfind
    refine ⟨rfl, ?_⟩
    rw [← hentry]
    -- The output leads to the input, and nothing is written, or it leads elsewhere.
    by_cases h : ∃ output, job.output = some output ∧ fs.locate output = fs.locate input
    · obtain ⟨output, houtput, hlocate⟩ := h
      rw [hrefused hnotices output houtput hlocate]
    · exact entryAt_of_locate_ne fun output houtput hlocate => h ⟨output, houtput, hlocate⟩
  · intro hcomparable output houtput
    exact (hcomparable output houtput).same_of_locate_eq

/-- An output that leads to the input is refused; one that leads elsewhere spares it, also from an input
that goes up. -/
theorem run_spares_input_sample :
    (Path.Comparable "./in.json" ".//./in.json" ∧
      FileSystem.sample.locate ".//./in.json" = FileSystem.sample.locate "./in.json" ∧
      outcome (Job.run FileSystem.access
          ⟨.file "./in.json", some ".//./in.json", none, ⟨false, .pretty⟩⟩) .sample
        = (.error (.invalidArguments "output .//./in.json would overwrite the input"), .sample)) ∧
    ¬ Path.Comparable "../w/in.json" "out.gss" ∧
      FileSystem.entryAt (outcome (Job.run FileSystem.access
        ⟨.file "../w/in.json", some "out.gss", none, ⟨false, .pretty⟩⟩) .sample).2 ["w", "in.json"]
        = some (.file "\x7b\x7d".toUTF8) := by
  have hcomparable : Path.Comparable "./in.json" ".//./in.json" := ⟨by decide, by decide, by decide⟩
  have hlocate : FileSystem.sample.locate ".//./in.json" = FileSystem.sample.locate "./in.json" := by
    decide
  refine ⟨⟨hcomparable, hlocate, ?_⟩, fun h => absurd h.first_descends (by decide), ?_⟩
  · obtain ⟨hrefused, -, hnotices⟩ := @run_spares_input
      ⟨.file "./in.json", some ".//./in.json", none, ⟨false, .pretty⟩⟩ _ .sample rfl
    refine hrefused.mp (hnotices fun output houtput => ?_) _ rfl hlocate
    cases houtput
    exact hcomparable
  · obtain ⟨-, hspared, -⟩ := @run_spares_input
      ⟨.file "../w/in.json", some "out.gss", none, ⟨false, .pretty⟩⟩ _ .sample rfl
    refine (hspared (fun output houtput hsame => ?_) _ _ rfl).2
    cases houtput
    exact absurd hsame (by decide)

/-- A job that converts the stylesheet of the sample goes through all its stages. -/
theorem outcome_sample (output : String) {after : FileSystem}
    (hother : Path.same "in.json" output = false)
    (hwrite : FileSystem.sample.writeText output "" = .ok after) :
    outcome (Job.run FileSystem.access ⟨.file "in.json", some output, none, ⟨false, .pretty⟩⟩) .sample
      = (.ok ⟨"ok", "1", "in.json", some output, "", []⟩, after) := by
  -- A job of its own name is not evaluated where only its parts are asked for.
  generalize hjob : (⟨.file "in.json", some output, none, ⟨false, .pretty⟩⟩ : Job) = job
  have hvalid : job.validate = .ok () := by
    have hspares : job.overwritesInput = false := by rw [← hjob]; exact hother
    rw [validate, hspares]
    rfl
  have hconverted : job.converted? FileSystem.access .sample = some (.ok ⟨"", []⟩) := by
    have hsheet : job.sheet? FileSystem.access .sample = some ⟨[]⟩ := by
      rw [← hjob]
      show (FileSystem.decodeText (String.toUTF8 "\x7b\x7d")).toOption.bind Stylesheet.ofText? = _
      rw [FileSystem.decodeText_toUTF8]
      decide +kernel
    rw [converted?, hsheet, ← hjob]
    show some (Converter.convert _ _) = _
    simp only [Converter.convert_eq, Converter.setupFor, Stylesheet.stripExternals_eq]
    decide +kernel
  have houtput : job.output = some output := by rw [← hjob]
  rw [outcome_of_converted hvalid hconverted houtput hwrite, ← hjob]
  rfl

/-- A `.` in front, a path from the root and a way up are not noticed: the job succeeds, and instead of
the stylesheet its input holds the output. -/
theorem run_overwrites_input :
    FileSystem.sample.entryAt ["w", "in.json"] = some (.file "\x7b\x7d".toUTF8) ∧
    ∀ output ∈ ["./in.json", "/w/in.json", "../w/in.json"],
      FileSystem.sample.locate output = FileSystem.sample.locate "in.json" ∧
      ∃ result after,
        outcome (Job.run FileSystem.access
          ⟨.file "in.json", some output, none, ⟨false, .pretty⟩⟩) .sample = (.ok result, after) ∧
        after.entryAt ["w", "in.json"] = some (.file "".toUTF8) := by
  refine ⟨rfl, fun output houtput => ?_⟩
  rw [List.mem_cons, List.mem_cons, List.mem_singleton] at houtput
  rcases houtput with rfl | rfl | rfl
  · exact ⟨by decide, _, _, outcome_sample "./in.json" (by decide) rfl, rfl⟩
  · exact ⟨by decide, _, _, outcome_sample "/w/in.json" (by decide) rfl, rfl⟩
  · exact ⟨by decide, _, _, outcome_sample "../w/in.json" (by decide) rfl, rfl⟩

end Job

end Restyle
