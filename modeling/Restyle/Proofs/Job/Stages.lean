import Restyle.CommandLine
import Restyle.Proofs.Externals.Placement
import Restyle.Proofs.FileSystem.Locations
import Restyle.Proofs.Report.ReadBack

set_option autoImplicit false

/-! # The stages of a job

A job goes through seven stages. `Job.failureAt` says of each of them by itself what it has to complain
about, given what the stages before it deliver, and several may have a complaint. The job ends with that
of the first in the order of the stages, and until then nothing has been written.

What files there are is seen through `entryAt`, which tells what stands at a location in a state of the
system, and `locate`, which tells where a path leads. Of the access to files it is assumed that reading
leaves all files as they were, that a write that succeeds stores the whole text in one file, and that a
write that fails leaves all files as they were (`FileAccess.Lawful`). Which faults occur is left open. A
reading may change the system in other ways, as one that uses up standard input does, so each stage is
judged in the state that it finds (`Job.stateAt`).
-/

namespace Restyle

/-! ## Access to files -/

/-- What is assumed of the access to the files of a system. -/
structure FileAccess.Lawful {σ : Type} (access : FileAccess (StateM σ))
    (entryAt : σ → Location → Option Entry) (locate : σ → String → Location) : Prop where
  readText : ∀ (path : String) (s : σ), entryAt ((access.readText path).run s).2 = entryAt s
  readStdin : ∀ s : σ, entryAt (access.readStdin.run s).2 = entryAt s
  writeText_ok : ∀ {path text : String} {s after : σ},
    (access.writeText path text).run s = (.ok (), after) →
      entryAt after (locate s path) = some (.file text.toUTF8) ∧
        ∀ other, other ≠ locate s path → entryAt after other = entryAt s other
  writeText_error : ∀ {path text : String} {fault : FileFault} {s after : σ},
    (access.writeText path text).run s = (.error fault, after) → entryAt after = entryAt s

theorem FileSystem.run_writeText (path text : String) (fs : FileSystem) :
    (FileSystem.access.writeText path text).run fs = match fs.writeText path text with
      | .ok after => (.ok (), after)
      | .error fault => (.error fault, fs) := by
  show (StateT.run (match fs.writeText path text with
    | .ok after => (do set after; return .ok ())
    | .error fault => return .error fault : StateM FileSystem (Except FileFault Unit)) fs) = _
  cases fs.writeText path text with
  | ok after => rfl
  | error fault => rfl

/-- The file systems that are values meet the assumptions. -/
theorem FileSystem.lawful_access :
    FileSystem.access.Lawful FileSystem.entryAt FileSystem.locate where
  readText _ _ := rfl
  readStdin _ := rfl
  writeText_ok {path text fs after} h := by
    rw [run_writeText] at h
    cases hwrite : fs.writeText path text with
    | ok written =>
        rw [hwrite] at h
        cases h
        exact of_writeText hwrite
    | error fault =>
        rw [hwrite] at h
        cases h
  writeText_error {path text fault fs after} h := by
    rw [run_writeText] at h
    cases hwrite : fs.writeText path text with
    | ok written =>
        rw [hwrite] at h
        cases h
    | error fault =>
        rw [hwrite] at h
        cases h
        rfl

/-! ## Outcomes -/

/-- The error of a result, if it is one. -/
def errorOf? {ε α : Type} : Except ε α → Option ε
  | .error e => some e
  | .ok _ => none

@[simp]
theorem errorOf?_ok {ε α : Type} (a : α) : errorOf? (.ok a : Except ε α) = none := rfl

@[simp]
theorem errorOf?_error {ε α : Type} (e : ε) : errorOf? (.error e : Except ε α) = some e := rfl

theorem errorOf?_mapError {ε ε' α : Type} (f : ε → ε') (result : Except ε α) :
    errorOf? (result.mapError f) = (errorOf? result).map f := by
  cases result with
  | ok a => rfl
  | error e => rfl

theorem errorOf?_eq_none {ε α : Type} {result : Except ε α} {a : α} (h : result.toOption = some a) :
    errorOf? result = none := by
  cases result with
  | ok b => rfl
  | error e => cases h

theorem mapError_eq_ok {ε ε' α : Type} {f : ε → ε'} {result : Except ε α} {a : α}
    (h : result.mapError f = .ok a) : result = .ok a := by
  cases result with
  | ok b => cases h; rfl
  | error e => cases h

section Outcome

variable {σ α β : Type}

/-- What a computation delivers from a state, and the state that it leaves behind. -/
def outcome (x : ExceptT Failure (StateM σ) α) (s : σ) : Except Failure α × σ := (x.run.run s).run

theorem outcome_bind (x : ExceptT Failure (StateM σ) α) (f : α → ExceptT Failure (StateM σ) β)
    (s : σ) :
    outcome (x >>= f) s = match outcome x s with
      | (.ok a, after) => outcome (f a) after
      | (.error failure, after) => (.error failure, after) := by
  unfold outcome
  rw [ExceptT.run_bind, StateT.run_bind]
  rcases x.run.run s with ⟨_ | _, _⟩
  · rfl
  · rfl

theorem outcome_bind_ok {x : ExceptT Failure (StateM σ) α} {a : α} {s after : σ}
    (h : outcome x s = (.ok a, after)) (f : α → ExceptT Failure (StateM σ) β) :
    outcome (x >>= f) s = outcome (f a) after := by
  rw [outcome_bind, h]

theorem outcome_bind_error {x : ExceptT Failure (StateM σ) α} {failure : Failure} {s after : σ}
    (h : outcome x s = (.error failure, after)) (f : α → ExceptT Failure (StateM σ) β) :
    outcome (x >>= f) s = (.error failure, after) := by
  rw [outcome_bind, h]

theorem outcome_map (f : α → β) (x : ExceptT Failure (StateM σ) α) (s : σ) :
    outcome (f <$> x) s = ((outcome x s).1.map f, (outcome x s).2) := by
  rw [map_eq_pure_bind, outcome_bind]
  rcases outcome x s with ⟨_ | _, _⟩
  · rfl
  · rfl

theorem outcome_stage (result : Except Failure α) (s : σ) : outcome (stage result) s = (result, s) :=
  rfl

theorem outcome_lift (x : StateM σ α) (s : σ) :
    outcome (liftM x : ExceptT Failure (StateM σ) α) s = (.ok (x.run s).1, (x.run s).2) := rfl

/-- A step ends the computation with its error, or hands on what it delivers. -/
theorem of_outcome_bind {x : ExceptT Failure (StateM σ) α} {f : α → ExceptT Failure (StateM σ) β}
    {s after : σ} {result : Except Failure α} {r : Except Failure β × σ}
    (hstep : outcome x s = (result, after)) (hrun : outcome (x >>= f) s = r) :
    (∃ failure, errorOf? result = some failure ∧ r = (.error failure, after)) ∨
    ∃ a, result = .ok a ∧ errorOf? result = none ∧ outcome (f a) after = r := by
  cases result with
  | error failure =>
      rw [outcome_bind_error hstep] at hrun
      exact .inl ⟨failure, rfl, hrun.symm⟩
  | ok a =>
      rw [outcome_bind_ok hstep] at hrun
      exact .inr ⟨a, rfl, rfl, hrun⟩

end Outcome

/-! ## What each stage has to complain about -/

/-- The table of names that a text spells. -/
def NameTable.ofText? (text : String) : Option NameTable :=
  (Json.parse? text).bind (ofJson? Json.maxNesting)

/-- The stages of a job. -/
inductive Stage where
  | validation
  | reading
  | decoding
  | readingNames
  | decodingNames
  | conversion
  | writing
deriving DecidableEq

namespace Stage

/-- The stages in their order. -/
def inOrder : List Stage :=
  [.validation, .reading, .decoding, .readingNames, .decodingNames, .conversion, .writing]

/-- The kind of failure that a stage ends a job with. -/
def Raises : Stage → Failure → Prop
  | .validation, .invalidArguments _ => True
  | .reading, .unreadable .. => True
  | .decoding, .undecodable .. => True
  | .readingNames, .unreadable .. => True
  | .decodingNames, .undecodable .. => True
  | .conversion, .conversion _ => True
  | .writing, .unwritable .. => True
  | _, _ => False

end Stage

section Stages

variable {σ : Type} (access : FileAccess (StateM σ)) (s : σ)

/-- What reading a file gives. -/
def textOf (path : String) : Except FileFault String := ((access.readText path).run s).1

/-- What reading a source gives. -/
def Source.text : Source → Except FileFault String
  | .stdin => (access.readStdin.run s).1
  | .file path => textOf access s path

/-- The state that the reading of a source leaves behind. -/
def Source.after : Source → σ
  | .stdin => (access.readStdin.run s).2
  | .file path => ((access.readText path).run s).2

namespace Job

variable (job : Job)

/-- The state that a stage of a job finds: the input has been read, and then the names. -/
def stateAt : Stage → σ
  | .validation | .reading => s
  | .decoding | .readingNames => job.input.after access s
  | .decodingNames | .conversion | .writing =>
      match job.names with
      | none => job.input.after access s
      | some path => (Source.file path).after access (job.input.after access s)

/-- The stylesheet of a job, if it can be read and decoded. -/
def sheet? : Option Stylesheet :=
  (job.input.text access (job.stateAt access s .reading)).toOption.bind Stylesheet.ofText?

/-- What reading the names that are supplied to a job gives, from the path of their file. -/
def namesText (path : String) : Except FileFault String :=
  textOf access (job.stateAt access s .readingNames) path

/-- The table of names that is supplied to a job, if it can be read and decoded where there is one. -/
def supplied? : Option (Option NameTable) :=
  match job.names with
  | none => some none
  | some path => ((job.namesText access s path).toOption.bind NameTable.ofText?).map some

/-- What converting the stylesheet of a job with the names supplied to it gives. -/
def converted? : Option (Except ConversionError Conversion) :=
  (job.sheet? access s).bind fun sheet =>
    (job.supplied? access s).map fun names =>
      Converter.convert ⟨job.options, names, Declaration.check⟩ sheet

/-- What a stage of a job has to complain about. A stage for which something is missing has nothing to
complain about. -/
def failureAt : Stage → Option Failure
  | .validation => errorOf? job.validate
  | .reading =>
      (errorOf? (job.input.text access (job.stateAt access s .reading))).map
        (.unreadable job.input.name)
  | .decoding =>
      (job.input.text access (job.stateAt access s .reading)).toOption.bind fun text =>
        errorOf? (decodeStylesheet job.input.name text)
  | .readingNames =>
      job.names.bind fun path => (errorOf? (job.namesText access s path)).map (.unreadable path)
  | .decodingNames =>
      job.names.bind fun path =>
        (job.namesText access s path).toOption.bind fun text => errorOf? (decodeNames path text)
  | .conversion => (job.converted? access s).bind fun result => (errorOf? result).map .conversion
  | .writing =>
      job.output.bind fun path =>
        ((job.converted? access s).bind Except.toOption).bind fun conversion =>
          (errorOf? ((access.writeText path conversion.gss).run
            (job.stateAt access s .writing)).1).map (.unwritable path)

/-- The complaint of the first stage that has one. -/
def firstFailure? : Option Failure := Stage.inOrder.findSome? (job.failureAt access s)

end Job

end Stages

namespace Job

variable {σ : Type} {access : FileAccess (StateM σ)} {entryAt : σ → Location → Option Entry}
  {locate : σ → String → Location}

theorem raises_of_failureAt {job : Job} {s : σ} {stage : Stage} {failure : Failure}
    (h : job.failureAt access s stage = some failure) : stage.Raises failure := by
  cases stage with
  | validation =>
      rw [failureAt, validate] at h
      split at h
      · cases h; trivial
      · cases h
  | reading =>
      obtain ⟨fault, -, rfl⟩ := Option.map_eq_some_iff.mp h
      trivial
  | decoding =>
      obtain ⟨text, -, h⟩ := Option.bind_eq_some_iff.mp h
      rw [decodeStylesheet] at h
      split at h
      · cases h
      · cases h; trivial
  | readingNames =>
      obtain ⟨path, -, h⟩ := Option.bind_eq_some_iff.mp h
      obtain ⟨fault, -, rfl⟩ := Option.map_eq_some_iff.mp h
      trivial
  | decodingNames =>
      obtain ⟨path, -, h⟩ := Option.bind_eq_some_iff.mp h
      obtain ⟨text, -, h⟩ := Option.bind_eq_some_iff.mp h
      rw [decodeNames] at h
      split at h
      · cases h
      · cases h; trivial
  | conversion =>
      obtain ⟨result, -, h⟩ := Option.bind_eq_some_iff.mp h
      obtain ⟨error, -, rfl⟩ := Option.map_eq_some_iff.mp h
      trivial
  | writing =>
      obtain ⟨path, -, h⟩ := Option.bind_eq_some_iff.mp h
      obtain ⟨conversion, -, h⟩ := Option.bind_eq_some_iff.mp h
      obtain ⟨fault, -, rfl⟩ := Option.map_eq_some_iff.mp h
      trivial

/-- Reading leaves all files as they were. -/
theorem entryAt_after (lawful : access.Lawful entryAt locate) (source : Source) (s : σ) :
    entryAt (source.after access s) = entryAt s := by
  cases source with
  | stdin => exact lawful.readStdin s
  | file path => exact lawful.readText path s

/-- Until the output is written all files are as they were. -/
theorem entryAt_stateAt (lawful : access.Lawful entryAt locate) (job : Job) (s : σ) (stage : Stage) :
    entryAt (job.stateAt access s stage) = entryAt s := by
  have hinput := entryAt_after lawful job.input s
  cases stage with
  | validation | reading => rfl
  | decoding | readingNames => exact hinput
  | decodingNames | conversion | writing =>
      rw [stateAt]
      split
      · exact hinput
      · exact (entryAt_after lawful _ _).trans hinput

theorem outcome_read (source : Source) (s : σ) :
    outcome (source.read access) s
      = ((source.text access s).mapError (.unreadable source.name), source.after access s) := by
  cases source with
  | stdin =>
      show outcome (liftM access.readStdin >>= fun text => _) s = _
      rw [outcome_bind_ok (outcome_lift _ s)]
      show _ = (Except.mapError _ (access.readStdin.run s).1, (access.readStdin.run s).2)
      cases (access.readStdin.run s).1 with
      | ok text => rfl
      | error fault => rfl
  | file path =>
      show outcome (liftM (access.readText path) >>= fun text => _) s = _
      rw [outcome_bind_ok (outcome_lift _ s)]
      show _ = (Except.mapError _ ((access.readText path).run s).1, ((access.readText path).run s).2)
      cases ((access.readText path).run s).1 with
      | ok text => rfl
      | error fault => rfl

theorem outcome_loadNames (path : String) (s : σ) :
    outcome (loadNames access path) s
      = (((textOf access s path).mapError (.unreadable path)).bind (decodeNames path),
          (Source.file path).after access s) := by
  rw [loadNames, outcome_bind, outcome_read, Source.text]
  cases textOf access s path with
  | error fault => rfl
  | ok text => rfl

theorem outcome_write_none {job : Job} (h : job.output = none) (gss : String) (s : σ) :
    outcome (job.write access gss) s = (.ok (), s) := by
  rw [write, h]
  rfl

theorem outcome_write_some {job : Job} {path : String} (h : job.output = some path) (gss : String)
    (s : σ) :
    outcome (job.write access gss) s
      = (((access.writeText path gss).run s).1.mapError (.unwritable path),
          ((access.writeText path gss).run s).2) := by
  rw [write, h]
  show outcome (liftM (access.writeText path gss) >>= fun result => _) s = _
  rw [outcome_bind_ok (outcome_lift _ s)]
  cases ((access.writeText path gss).run s).1 with
  | ok _ => rfl
  | error fault => rfl

/-! ## The stages of a run -/

/-- Load the names that are supplied to a job. -/
def loadSupplied (access : FileAccess (StateM σ)) (job : Job) :
    ExceptT Failure (StateM σ) (Option NameTable) :=
  match job.names with
  | none => pure none
  | some path => some <$> loadNames access path

/-- The report of a job that has converted its stylesheet and written the output. -/
def report (job : Job) (conversion : Conversion) : ConversionReport :=
  { ConversionReport.ofConversion job.input.name conversion with output := job.output }

/-- Write what has been converted, and report it. -/
def deliver (access : FileAccess (StateM σ)) (job : Job) (conversion : Conversion) :
    ExceptT Failure (StateM σ) ConversionReport := do
  job.write access conversion.gss
  return job.report conversion

theorem run_eq (job : Job) :
    job.run access = (do
      stage job.validate
      let text ← job.input.read access
      let sheet ← stage (decodeStylesheet job.input.name text)
      let names ← job.loadSupplied access
      let conversion ← stage
        ((Converter.convert ⟨job.options, names, Declaration.check⟩ sheet).mapError .conversion)
      job.deliver access conversion) := by
  unfold run loadSupplied
  cases job.names with
  | none => rfl
  | some path => rfl

theorem toOption_decodeStylesheet (name text : String) :
    (decodeStylesheet name text).toOption = Stylesheet.ofText? text := by
  rw [decodeStylesheet]
  cases Stylesheet.ofText? text with
  | none => rfl
  | some sheet => rfl

theorem toOption_decodeNames (name text : String) :
    (decodeNames name text).toOption = NameTable.ofText? text := by
  rw [decodeNames, ← NameTable.ofText?]
  cases NameTable.ofText? text with
  | none => rfl
  | some table => rfl

/-- What goes wrong when the names are loaded is the complaint of one of the two stages that load
them. -/
theorem outcome_loadSupplied (job : Job) (s : σ) :
    ∃ result, outcome (job.loadSupplied access) (job.input.after access s)
        = (result, job.stateAt access s .conversion) ∧
      errorOf? result
        = (job.failureAt access s .readingNames).or (job.failureAt access s .decodingNames) ∧
      result.toOption = job.supplied? access s := by
  rw [loadSupplied, supplied?, failureAt, failureAt, stateAt]
  cases job.names with
  | none => exact ⟨.ok none, rfl, rfl, rfl⟩
  | some path =>
      have htext : textOf access (job.input.after access s) path = job.namesText access s path := rfl
      refine ⟨_, by rw [outcome_map, outcome_loadNames, htext], ?_⟩
      simp only [Option.bind_some]
      -- Only a text that has been read can fail to be decoded.
      rcases job.namesText access s path with fault | text
      · exact ⟨rfl, rfl⟩
      have hspelled := toOption_decodeNames path text
      rcases hdecoded : decodeNames path text with failure | table
      · rw [hdecoded] at hspelled
        simp [Except.bind, Except.mapError, Except.map, Except.toOption, hdecoded, ← hspelled]
      · rw [hdecoded] at hspelled
        simp [Except.bind, Except.mapError, Except.map, Except.toOption, hdecoded, ← hspelled]

theorem firstFailure?_eq (job : Job) (s : σ) :
    job.firstFailure? access s = (job.failureAt access s .validation).or
      ((job.failureAt access s .reading).or ((job.failureAt access s .decoding).or
        (((job.failureAt access s .readingNames).or (job.failureAt access s .decodingNames)).or
          ((job.failureAt access s .conversion).or (job.failureAt access s .writing))))) := by
  have hcons : ∀ (stage : Stage) (rest : List Stage),
      (stage :: rest).findSome? (job.failureAt access s)
        = (job.failureAt access s stage).or (rest.findSome? (job.failureAt access s)) := by
    intro stage rest
    rw [List.findSome?_cons]
    cases job.failureAt access s stage with
    | none => rfl
    | some failure => rfl
  simp only [firstFailure?, Stage.inOrder, hcons, List.findSome?_nil, Option.or_none, Option.or_assoc]

/-- **The stages before the writing.** One of them fails, and the job ends there with all files as they
were, or what has been converted is left to be delivered. -/
theorem run_before_writing (lawful : access.Lawful entryAt locate) (job : Job) (s : σ) :
    (∃ failure after, job.firstFailure? access s = some failure ∧
      outcome (job.run access) s = (.error failure, after) ∧ entryAt after = entryAt s) ∨
    ∃ conversion, job.converted? access s = some (.ok conversion) ∧
      job.firstFailure? access s = job.failureAt access s .writing ∧
      outcome (job.run access) s
        = outcome (job.deliver access conversion) (job.stateAt access s .writing) := by
  have hkept := entryAt_stateAt lawful job s
  generalize hrun : outcome (job.run access) s = r
  rw [run_eq] at hrun
  rw [firstFailure?_eq]
  -- Each stage is peeled off the run together with its complaint, which is `none` from then on.
  have hvalidation : errorOf? job.validate = job.failureAt access s .validation := rfl
  rcases of_outcome_bind (outcome_stage _ s) hrun with ⟨failure, hfails, rfl⟩ | ⟨_, -, hpasses, hrun⟩
  · exact .inl ⟨failure, s, by rw [← hvalidation, hfails, Option.some_or], rfl, rfl⟩
  rw [← hvalidation, hpasses, Option.none_or]
  have hreading : errorOf? ((job.input.text access s).mapError (.unreadable job.input.name))
      = job.failureAt access s .reading := errorOf?_mapError _ _
  rcases of_outcome_bind (outcome_read job.input s) hrun with
    ⟨failure, hfails, rfl⟩ | ⟨text, htext, hpasses, hrun⟩
  · exact .inl ⟨failure, _, by rw [← hreading, hfails, Option.some_or], rfl, hkept .decoding⟩
  rw [← hreading, hpasses, Option.none_or]
  have htext := mapError_eq_ok htext
  have hdecoding : errorOf? (decodeStylesheet job.input.name text)
      = job.failureAt access s .decoding := by
    rw [failureAt, stateAt, htext]
    rfl
  rcases of_outcome_bind (outcome_stage _ _) hrun with
    ⟨failure, hfails, rfl⟩ | ⟨sheet, hsheet, hpasses, hrun⟩
  · exact .inl ⟨failure, _, by rw [← hdecoding, hfails, Option.some_or], rfl, hkept .readingNames⟩
  rw [← hdecoding, hpasses, Option.none_or]
  obtain ⟨result, hload, hloading, hsupplied⟩ := @outcome_loadSupplied σ access job s
  rcases of_outcome_bind hload hrun with ⟨failure, hfails, rfl⟩ | ⟨names, rfl, hpasses, hrun⟩
  · exact .inl ⟨failure, _, by rw [← hloading, hfails, Option.some_or], rfl, hkept .conversion⟩
  rw [← hloading, hpasses, Option.none_or]
  have hconverted : job.converted? access s
      = some (Converter.convert ⟨job.options, names, Declaration.check⟩ sheet) := by
    have hspelled : job.sheet? access s = some sheet := by
      rw [sheet?, stateAt, htext]
      show Stylesheet.ofText? text = some sheet
      rw [← toOption_decodeStylesheet job.input.name, hsheet]
      rfl
    rw [converted?, hspelled, ← hsupplied]
    rfl
  have hconversion : errorOf? ((Converter.convert ⟨job.options, names, Declaration.check⟩
      sheet).mapError .conversion) = job.failureAt access s .conversion := by
    rw [failureAt, hconverted]
    exact errorOf?_mapError _ _
  rcases of_outcome_bind (outcome_stage _ _) hrun with
    ⟨failure, hfails, rfl⟩ | ⟨conversion, hconvert, hpasses, hrun⟩
  · exact .inl ⟨failure, _, by rw [← hconversion, hfails, Option.some_or], rfl, hkept .writing⟩
  rw [← hconversion, hpasses, Option.none_or]
  rw [mapError_eq_ok hconvert] at hconverted
  exact .inr ⟨conversion, hconverted, rfl, hrun.symm⟩

/-- When the arguments are valid and the stylesheet has been converted, only the writing can fail. -/
theorem firstFailure?_of_converted {job : Job} {s : σ} {conversion : Conversion}
    (hvalid : job.validate = .ok ())
    (hconverted : job.converted? access s = some (.ok conversion)) :
    job.firstFailure? access s = job.failureAt access s .writing := by
  -- A conversion is only come to with a stylesheet and names, and so past the stages that give them.
  obtain ⟨sheet, hsheet, hnames⟩ := Option.bind_eq_some_iff.mp hconverted
  obtain ⟨names, hnames, -⟩ := Option.map_eq_some_iff.mp hnames
  obtain ⟨text, htext, hspelled⟩ := Option.bind_eq_some_iff.mp hsheet
  have hvalidation : job.failureAt access s .validation = none := by
    rw [failureAt, hvalid, errorOf?_ok]
  have hreading : job.failureAt access s .reading = none := by
    rw [failureAt, errorOf?_eq_none htext, Option.map_none]
  have hdecoding : job.failureAt access s .decoding = none := by
    rw [failureAt, htext, Option.bind_some]
    exact errorOf?_eq_none ((toOption_decodeStylesheet _ _).trans hspelled)
  have hloading :
      (job.failureAt access s .readingNames).or (job.failureAt access s .decodingNames) = none := by
    obtain ⟨result, -, hloading, hsupplied⟩ := @outcome_loadSupplied σ access job s
    rw [← hloading]
    exact errorOf?_eq_none (hsupplied.trans hnames)
  have hconversion : job.failureAt access s .conversion = none := by
    rw [failureAt, hconverted]
    rfl
  rw [firstFailure?_eq, hvalidation, hreading, hdecoding, hloading, hconversion]
  simp only [Option.none_or]

/-! ## How a job ends -/

/-- After a write to the output of a job, if it has one, the file there holds the text and everything
else is as the write has found it. -/
def Stored (entryAt : σ → Location → Option Entry) (locate : σ → String → Location) (found after : σ)
    (text : String) : Option String → Prop
  | none => entryAt after = entryAt found
  | some path =>
      entryAt after (locate found path) = some (.file text.toUTF8) ∧
        ∀ other, other ≠ locate found path → entryAt after other = entryAt found other

/-- **How a job ends.** It fails with the complaint of the first stage that has one and leaves all files
as they were, or no stage has a complaint and what has been converted is stored. -/
theorem run_cases (lawful : access.Lawful entryAt locate) (job : Job) (s : σ) :
    (∃ failure after, job.firstFailure? access s = some failure ∧
      outcome (job.run access) s = (.error failure, after) ∧ entryAt after = entryAt s) ∨
    ∃ conversion after, job.firstFailure? access s = none ∧
      job.converted? access s = some (.ok conversion) ∧
      outcome (job.run access) s = (.ok (job.report conversion), after) ∧
      Stored entryAt locate (job.stateAt access s .writing) after conversion.gss job.output := by
  rcases run_before_writing lawful job s with
    ⟨failure, after, hfirst, hrun, hkept⟩ | ⟨conversion, hconverted, hfirst, hrun⟩
  · exact .inl ⟨failure, after, hfirst, hrun, hkept⟩
  have hkept := entryAt_stateAt lawful job s .writing
  rw [hfirst, hrun, deliver, failureAt, hconverted]
  -- What is left is the writing, from a state of which only the files are known.
  generalize job.stateAt access s .writing = found at hkept ⊢
  cases hout : job.output with
  | none =>
      rw [outcome_bind_ok (outcome_write_none hout _ found)]
      exact .inr ⟨conversion, found, rfl, rfl, rfl, rfl⟩
  | some path =>
      have hwrite : outcome (job.write access conversion.gss) found = _ :=
        outcome_write_some hout conversion.gss found
      rcases hstep : (access.writeText path conversion.gss).run found with ⟨fault | ⟨⟩, after⟩
      · rw [hstep] at hwrite
        rw [outcome_bind_error hwrite]
        refine .inl ⟨.unwritable path fault, after, ?_, rfl, (lawful.writeText_error hstep).trans hkept⟩
        simp [Except.toOption, hstep]
      · rw [hstep] at hwrite
        rw [outcome_bind_ok hwrite]
        refine .inr ⟨conversion, after, ?_, rfl, rfl, lawful.writeText_ok hstep⟩
        simp [Except.toOption, hstep]

theorem error_iff_firstFailure? (lawful : access.Lawful entryAt locate) (job : Job) (s : σ)
    (failure : Failure) :
    (outcome (job.run access) s).1 = .error failure ↔ job.firstFailure? access s = some failure := by
  rcases run_cases lawful job s with
    ⟨actual, after, hfirst, hrun, -⟩ | ⟨conversion, after, hfirst, -, hrun, -⟩
  · rw [hrun, hfirst, Except.error.injEq, Option.some.injEq]
  · rw [hrun, hfirst]
    exact ⟨fun h => (by cases h), fun h => (by cases h)⟩

theorem entryAt_of_error (lawful : access.Lawful entryAt locate) {job : Job} {s : σ} {failure : Failure}
    (h : (outcome (job.run access) s).1 = .error failure) :
    entryAt (outcome (job.run access) s).2 = entryAt s := by
  rcases run_cases lawful job s with
    ⟨actual, after, -, hrun, hkept⟩ | ⟨conversion, after, -, -, hrun, -⟩
  · rw [hrun]
    exact hkept
  · rw [hrun] at h
    cases h

theorem of_ok (lawful : access.Lawful entryAt locate) {job : Job} {s : σ} {result : ConversionReport}
    (h : (outcome (job.run access) s).1 = .ok result) :
    (∃ sheet names conversion, job.sheet? access s = some sheet ∧
      job.supplied? access s = some names ∧
      Converter.convert ⟨job.options, names, Declaration.check⟩ sheet = .ok conversion ∧
      result = job.report conversion) ∧
    Stored entryAt locate (job.stateAt access s .writing) (outcome (job.run access) s).2 result.gss
      job.output := by
  rcases run_cases lawful job s with
    ⟨_, _, -, hrun, -⟩ | ⟨conversion, after, -, hconverted, hrun, hstored⟩
  · rw [hrun] at h
    cases h
  · rw [hrun] at h ⊢
    cases h
    obtain ⟨sheet, hsheet, hconverted⟩ := Option.bind_eq_some_iff.mp hconverted
    obtain ⟨names, hnames, hconvert⟩ := Option.map_eq_some_iff.mp hconverted
    exact ⟨⟨sheet, names, conversion, hsheet, hnames, hconvert, rfl⟩, hstored⟩

end Job

/-! ## What the command line tells -/

namespace CommandLine

/-- The end of a run tells how the conversion went: the exit code of a failure is also in what is
printed, and after a success the code is 0 and the format decides what is printed. -/
def Exit.Tells (exit : Exit) (a : Arguments) : Except Failure ConversionReport → Prop
  | .error failure =>
      exit.code = failure.code ∧ exit.code ≠ 0 ∧
        ∃ told, FailureReport.ofText? exit.reply.printed = some told ∧ told.error.code = exit.code
  | .ok report =>
      exit.code = 0 ∧
        exit.reply.printed = match a.format.getD .text, a.output with
          | .json, _ => report.toJson.printed
          | .text, none => report.gss
          | .text, some _ => ""

theorem tells_of_error (a : Arguments) (format : Format) (failure : Failure) :
    (Exit.ofResult format (.error failure)).Tells a (.error failure) := by
  refine ⟨rfl, ?_, FailureReport.ofFailure failure, failure.ofText?_report, rfl⟩
  show failure.code ≠ 0
  cases failure <;> simp [Failure.code]

theorem tells_of_ok {a : Arguments} {report : ConversionReport} (h : report.output = a.output) :
    (Exit.ofResult (a.format.getD .text) (.ok report)).Tells a (.ok report) := by
  refine ⟨rfl, ?_⟩
  show (replyTo (a.format.getD .text) report).printed = _
  rw [← h]
  cases a.format.getD .text with
  | json => rfl
  | text =>
      rw [replyTo, Reply.printed]
      cases report.output with
      | none => rfl
      | some path => rfl

theorem run_convert {σ : Type} {access : FileAccess (StateM σ)} {arguments : List String}
    {a : Arguments} (h : Command.ofArguments arguments = .convert a) (s : σ) :
    (run access arguments).run s
      = (Exit.ofResult (a.format.getD .text) (outcome (a.job.run access) s).1,
          (outcome (a.job.run access) s).2) := by
  rw [run, h]
  rfl

end CommandLine

/-- **The first stage that fails decides.** Each stage finds all files as they were. A job ends with an
error exactly if a stage has a complaint, and the error is the complaint of the first one, of the kind
that this stage raises; no file changes. Otherwise it reports what the converter makes of the stylesheet
and the names, and stores it in the output file, if there is one; no other file changes. A command line
that asks for a conversion does the job and tells how it went. -/
theorem Job.first_failure_decides {σ : Type} {access : FileAccess (StateM σ)}
    {entryAt : σ → Location → Option Entry} {locate : σ → String → Location}
    (lawful : access.Lawful entryAt locate) (s : σ) :
    (∀ job : Job,
      (∀ stage, entryAt (job.stateAt access s stage) = entryAt s) ∧
      (∀ stage failure, job.failureAt access s stage = some failure → stage.Raises failure) ∧
      (∀ failure, (outcome (job.run access) s).1 = .error failure ↔
        job.firstFailure? access s = some failure) ∧
      (∀ failure, (outcome (job.run access) s).1 = .error failure →
        entryAt (outcome (job.run access) s).2 = entryAt s) ∧
      ∀ result, (outcome (job.run access) s).1 = .ok result →
        (∃ sheet names conversion, job.sheet? access s = some sheet ∧
          job.supplied? access s = some names ∧
          Converter.convert ⟨job.options, names, Declaration.check⟩ sheet = .ok conversion ∧
          result = job.report conversion) ∧
        Stored entryAt locate (job.stateAt access s .writing) (outcome (job.run access) s).2 result.gss
          job.output) ∧
    ∀ arguments a, CommandLine.Command.ofArguments arguments = .convert a →
      ((CommandLine.run access arguments).run s).2 = (outcome (a.job.run access) s).2 ∧
      ((CommandLine.run access arguments).run s).1.Tells a (outcome (a.job.run access) s).1 := by
  refine ⟨fun job => ⟨entryAt_stateAt lawful job s, fun _ _ => raises_of_failureAt,
    error_iff_firstFailure? lawful job s, fun _ => entryAt_of_error lawful, fun _ => of_ok lawful⟩,
    fun arguments a hconvert => ?_⟩
  rw [CommandLine.run_convert hconvert]
  refine ⟨rfl, ?_⟩
  -- A report names the output that the arguments ask for, which decides what is printed.
  rcases hresult : (outcome (a.job.run access) s).1 with failure | result
  · exact CommandLine.tells_of_error a (a.format.getD .text) failure
  · obtain ⟨⟨-, -, conversion, -, -, -, rfl⟩, -⟩ := of_ok lawful hresult
    exact CommandLine.tells_of_ok rfl

/-! ## Jobs on file systems -/

theorem FileSystem.decodeText_toUTF8 (text : String) : decodeText text.toUTF8 = .ok text := by
  have htext : String.fromUTF8? text.toUTF8 = some text := by
    rw [String.fromUTF8?, String.toUTF8_eq_toByteArray, dif_pos text.isValidUTF8]
    rfl
  rw [decodeText, htext]

/-- On a file system that is a value, reading changes nothing at all. -/
theorem Job.stateAt_fileSystem (job : Job) (fs : FileSystem) (stage : Stage) :
    job.stateAt FileSystem.access fs stage = fs := by
  have hafter : ∀ source : Source, source.after FileSystem.access fs = fs := by
    intro source
    cases source with
    | stdin => rfl
    | file path => rfl
  cases stage with
  | validation | reading => rfl
  | decoding | readingNames => exact hafter job.input
  | decodingNames | conversion | writing =>
      rw [stateAt, hafter]
      split
      · rfl
      · exact hafter _

/-- A job that is valid and whose stylesheet is converted succeeds if its output can be written. -/
theorem Job.outcome_of_converted {job : Job} {fs after : FileSystem} {conversion : Conversion}
    {output : String} (hvalid : job.validate = .ok ())
    (hconverted : job.converted? FileSystem.access fs = some (.ok conversion))
    (houtput : job.output = some output) (hwrite : fs.writeText output conversion.gss = .ok after) :
    outcome (job.run FileSystem.access) fs = (.ok (job.report conversion), after) := by
  have hstep : (FileSystem.access.writeText output conversion.gss).run fs = (.ok (), after) := by
    rw [FileSystem.run_writeText, hwrite]
  have hwritten : job.failureAt FileSystem.access fs .writing = none := by
    rw [failureAt, houtput, hconverted, stateAt_fileSystem]
    simp [Except.toOption, hstep]
  rcases run_before_writing FileSystem.lawful_access job fs with
    ⟨failure, _, hfirst, -, -⟩ | ⟨actual, hactual, -, hrun⟩
  · rw [firstFailure?_of_converted hvalid hconverted, hwritten] at hfirst
    cases hfirst
  · obtain rfl : conversion = actual := by
      rw [hconverted] at hactual
      cases hactual
      rfl
    rw [hrun, stateAt_fileSystem, deliver, outcome_bind, outcome_write_some houtput, hstep]
    rfl

/-- A file system with a text for a stylesheet in the working directory, and one for its names. -/
def FileSystem.holding (sheet names : String) : FileSystem where
  workingDirectory := ["w"]
  entries := [(["w"], .directory), (["w", "in.json"], .file sheet.toUTF8),
    (["w", "names.json"], .file names.toUTF8)]
  stdin := .empty

/-- The job that converts this stylesheet with these names. -/
def Job.naming : Job := ⟨.file "in.json", some "out.gss", some "names.json", ⟨false, .pretty⟩⟩

theorem Job.converted?_naming {sheetText namesText : String} {sheet : Stylesheet} {names : NameTable}
    (hsheet : Stylesheet.ofText? sheetText = some sheet)
    (hnames : NameTable.ofText? namesText = some names) :
    naming.converted? FileSystem.access (.holding sheetText namesText)
      = some (Converter.convert ⟨⟨false, .pretty⟩, some names, Declaration.check⟩ sheet) := by
  have hread : naming.sheet? FileSystem.access (.holding sheetText namesText) = some sheet := by
    show (FileSystem.decodeText sheetText.toUTF8).toOption.bind Stylesheet.ofText? = some sheet
    rw [FileSystem.decodeText_toUTF8]
    exact hsheet
  have hsupplied :
      naming.supplied? FileSystem.access (.holding sheetText namesText) = some (some names) := by
    show ((FileSystem.decodeText namesText.toUTF8).toOption.bind NameTable.ofText?).map some = _
    rw [FileSystem.decodeText_toUTF8]
    show (NameTable.ofText? namesText).map some = some (some names)
    rw [hnames, Option.map_some]
  rw [converted?, hread, hsupplied]
  rfl

/-- A stylesheet with a constant that a rule refers to. -/
def Stylesheet.themedText : String :=
  "\x7b\"nodes\": [" ++
    "\x7b\"def\": \x7b\"kind\": \"def\", \"key\": \"main\", " ++
      "\"values\": [\x7b\"literal\": \"red\"\x7d]\x7d\x7d, " ++
    "\x7b\"rule\": \x7b\"selectors\": [\".a\"], \"properties\": [" ++
      "\x7b\"name\": \"color\", \"values\": [\x7b\"ident\": \"main\"\x7d]\x7d]\x7d\x7d]\x7d"

/-- A file system with this stylesheet, and a name for its constant. -/
def FileSystem.themed : FileSystem :=
  .holding Stylesheet.themedText "\x7b\"main\": \"MAIN_COLOR\"\x7d"

theorem Job.converted?_themed :
    naming.converted? FileSystem.access .themed
      = some (.ok ⟨"@def MAIN_COLOR red;\n\n\n.a \x7b\n  color: MAIN_COLOR;\n\x7d\n", []⟩) := by
  have hsheet : Stylesheet.ofText? Stylesheet.themedText
      = some ⟨[.constant ⟨.plain, "main", [⟨.literal "red", true⟩]⟩,
          .rule [⟨".a", [.className "a"]⟩] [⟨"color", [⟨.ident "main", true⟩], false⟩]]⟩ := by
    decide +kernel
  have hnames : NameTable.ofText? "\x7b\"main\": \"MAIN_COLOR\"\x7d"
      = some (Std.ExtTreeMap.ofList [("main", "MAIN_COLOR")]) := by
    decide +kernel
  rw [FileSystem.themed, converted?_naming hsheet hnames]
  simp only [Converter.convert_eq, Converter.setupFor, Stylesheet.stripExternals_eq]
  decide +kernel

theorem Job.first_failure_decides_sample :
    FileSystem.access.Lawful FileSystem.entryAt FileSystem.locate ∧
      ((CommandLine.run FileSystem.access
        ["in.json", "--mapping", "names.json", "-o", "out.gss"]).run .themed).1.code = 0 ∧
      Stored FileSystem.entryAt FileSystem.locate .themed
        (outcome (naming.run FileSystem.access) .themed).2
        "@def MAIN_COLOR red;\n\n\n.a \x7b\n  color: MAIN_COLOR;\n\x7d\n" (some "out.gss") ∧
      (outcome (Job.run FileSystem.access
        ⟨.file "none.json", none, some "names.json", ⟨false, .pretty⟩⟩) .themed).1
        = .error (.unreadable "none.json" .notFound) := by
  have hasked : CommandLine.Command.ofArguments
      ["in.json", "--mapping", "names.json", "-o", "out.gss"]
      = .convert ⟨some "in.json", some "out.gss", some "names.json", false, false, none, none⟩ := by
    decide +kernel
  -- Stated of every file system, so that the run on this one is not evaluated.
  have hcode : ∀ {fs : FileSystem} {result : ConversionReport},
      (outcome (naming.run FileSystem.access) fs).1 = .ok result →
      ((CommandLine.run FileSystem.access
        ["in.json", "--mapping", "names.json", "-o", "out.gss"]).run fs).1.code = 0 := by
    intro fs result hdone
    have htells := ((first_failure_decides FileSystem.lawful_access fs).2 _ _ hasked).2
    rw [show CommandLine.Arguments.job _ = naming from rfl, hdone] at htells
    exact htells.1
  have hjob := (first_failure_decides FileSystem.lawful_access .themed).1
  have hdone := congrArg Prod.fst (outcome_of_converted rfl converted?_themed rfl rfl)
  exact ⟨FileSystem.lawful_access, hcode hdone, ((hjob _).2.2.2.2 _ hdone).2,
    ((hjob _).2.2.1 _).mpr rfl⟩

end Restyle
