import Restyle.Proofs.Constant.Naming
import Restyle.Proofs.Printing.Header
import Restyle.Proofs.Printing.WellFormed

set_option autoImplicit false

/-! # How a conversion ends

A conversion names the constants, prints the header and prints the nodes. Each stage can fail in one
way: two keys clash, a constant has no name, a conditional block is malformed. The first stage that
fails decides the outcome, and a stylesheet that passes all of them is converted
(`Converter.convert_outcome`).
-/

namespace Restyle

namespace Converter

/-! ## What can be wrong -/

section Stages

variable (converter : Converter) (sheet : Stylesheet)

/-- Names are to be derived, and two keys lead to the same name. -/
def Clashes : Prop := converter.names = none ∧ Constant.Clash sheet.declared

/-- `decl` is the first constant, in document order, for which the supplied table has no name. -/
def FirstMissing (decl : Constant) : Prop :=
  ∃ names, converter.names = some names ∧ names[decl.key]? = none ∧
    ∃ before after, sheet.declared = before ++ decl :: after ∧
      ∀ other ∈ before, names[other.key]? ≠ none

/-- The supplied table has no name for some constant. -/
def Incomplete : Prop :=
  ∃ names, converter.names = some names ∧ ∃ decl ∈ sheet.declared, names[decl.key]? = none

end Stages

variable {converter : Converter} {sheet : Stylesheet} {names : NameTable}

theorem firstMissing_iff (hnames : converter.names = some names) (decl : Constant) :
    converter.FirstMissing sheet decl ↔ Constant.unnamed? names sheet.declared = some decl := by
  unfold FirstMissing Constant.unnamed?
  rw [List.find?_eq_some_iff_append]
  constructor
  · rintro ⟨table, htable, hnone, before, after, hsplit, hbefore⟩
    rw [hnames] at htable
    cases htable
    refine ⟨by simp [hnone], before, after, hsplit, ?_⟩
    intro other hother
    simpa using hbefore other hother
  · rintro ⟨hnone, before, after, hsplit, hbefore⟩
    refine ⟨names, hnames, by simpa using hnone, before, after, hsplit, ?_⟩
    intro other hother
    simpa using hbefore other hother

theorem incomplete_iff (hnames : converter.names = some names) :
    converter.Incomplete sheet ↔ Constant.unnamed? names sheet.declared ≠ none := by
  unfold Incomplete Constant.unnamed?
  rw [Ne, List.find?_eq_none]
  constructor
  · rintro ⟨table, htable, decl, hdecl, hnone⟩ hall
    rw [hnames] at htable
    cases htable
    exact hall decl hdecl (by simp [hnone])
  · intro hsome
    by_contra hcomplete
    apply hsome
    intro decl hdecl hnone
    exact hcomplete ⟨names, hnames, decl, hdecl, by simpa using hnone⟩

/-- Supplied names do not clash: they are taken as they are. -/
theorem not_clashes_of_supplied (h : converter.names = some names) (sheet : Stylesheet) :
    ¬ converter.Clashes sheet := by
  rintro ⟨hnone, -⟩
  rw [h] at hnone
  cases hnone

theorem not_incomplete_of_derived (h : converter.names = none) (sheet : Stylesheet) :
    ¬ converter.Incomplete sheet := by
  rintro ⟨names, hsome, -⟩
  rw [h] at hsome
  cases hsome

/-! ## The stages in order -/

/-- Behind the naming of the constants, the header fails before the nodes do. -/
theorem failure?_convert (hnames : converter.namesFor sheet.declared = .ok names) :
    failure? (converter.convert sheet)
      = ((Constant.unnamed? names sheet.declared).map Constant.complaint).or
          ((Node.faultAll? sheet.stripExternals.nodes).map .invalidConditional) := by
  rw [convert_eq, Stylesheet.constants_stripExternals, hnames]
  show failure? ((converter.setupFor sheet names).generate sheet.stripExternals) = _
  rw [PrintSetup.failure?_generate, PrintSetup.failure?_header]
  show ((Constant.unnamed? names sheet.stripExternals.constants).map _).or _ = _
  rw [Stylesheet.constants_stripExternals]

/-- A derived table has a name for every constant. -/
theorem unnamed?_of_derived (hderived : NameTable.ofConstants sheet.declared = .ok names) :
    Constant.unnamed? names sheet.declared = none := by
  unfold Constant.unnamed?
  rw [List.find?_eq_none]
  intro decl hdecl
  have hmem : decl.key ∈ sheet.declared.map (·.key) := List.mem_map_of_mem hdecl
  rw [NameTable.getElem?_of_ofConstants hderived, if_pos hmem]
  simp

/-! ## Outcomes -/

/-- How a conversion with a table `names` ends once the table is there. -/
theorem convert_cases_of_names (hnames : converter.namesFor sheet.declared = .ok names) :
    (∃ decl, Constant.unnamed? names sheet.declared = some decl ∧
      converter.convert sheet = .error decl.complaint) ∨
    (Constant.unnamed? names sheet.declared = none ∧ ¬ sheet.stripExternals.WellFormed ∧
      ∃ fault, converter.convert sheet = .error (.invalidConditional fault)) ∨
    (Constant.unnamed? names sheet.declared = none ∧ sheet.stripExternals.WellFormed ∧
      ∃ conversion, converter.convert sheet = .ok conversion) := by
  have hfailure := failure?_convert hnames
  cases hunnamed : Constant.unnamed? names sheet.declared with
  | some decl =>
      rw [hunnamed] at hfailure
      exact Or.inl ⟨decl, rfl, failure?_eq_some_iff.mp hfailure⟩
  | none =>
      rw [hunnamed] at hfailure
      right
      cases hfault : Node.faultAll? sheet.stripExternals.nodes with
      | some fault =>
          left
          rw [hfault] at hfailure
          refine ⟨rfl, ?_, fault, failure?_eq_some_iff.mp hfailure⟩
          intro hformed
          rw [← Stylesheet.faultAll?_eq_none_iff, hfault] at hformed
          cases hformed
      | none =>
          right
          rw [hfault] at hfailure
          refine ⟨rfl, (Stylesheet.faultAll?_eq_none_iff _).mp hfault, ?_⟩
          cases hresult : converter.convert sheet with
          | ok conversion => exact ⟨conversion, rfl⟩
          | error e =>
              rw [hresult] at hfailure
              cases hfailure

/-- A conversion ends in one of four ways, each with its own cause. -/
theorem convert_cases (converter : Converter) (sheet : Stylesheet) :
    (converter.Clashes sheet ∧ ¬ converter.Incomplete sheet ∧
      ∃ first second name, converter.convert sheet = .error (.nameCollision first second name)) ∨
    (¬ converter.Clashes sheet ∧ converter.Incomplete sheet ∧
      ∃ decl, converter.FirstMissing sheet decl ∧
        converter.convert sheet = .error decl.complaint) ∨
    (¬ converter.Clashes sheet ∧ ¬ converter.Incomplete sheet ∧ ¬ sheet.stripExternals.WellFormed ∧
      ∃ fault, converter.convert sheet = .error (.invalidConditional fault)) ∨
    (¬ converter.Clashes sheet ∧ ¬ converter.Incomplete sheet ∧ sheet.stripExternals.WellFormed ∧
      ∃ conversion, converter.convert sheet = .ok conversion) := by
  -- A supplied table cannot clash, and a derived one cannot lack a constant.
  cases hsupplied : converter.names with
  | some names =>
      have hnames : converter.namesFor sheet.declared = .ok names := by
        rw [namesFor, hsupplied]
      have hclashes := not_clashes_of_supplied hsupplied sheet
      have hincomplete : converter.Incomplete sheet ↔ _ := incomplete_iff hsupplied
      rcases convert_cases_of_names hnames with
        ⟨decl, hdecl, herror⟩ | ⟨hnone, hformed⟩ | ⟨hnone, hformed⟩
      · have hsome : Constant.unnamed? names sheet.declared ≠ none := by simp [hdecl]
        exact Or.inr (Or.inl ⟨hclashes, hincomplete.mpr hsome, decl,
          (firstMissing_iff hsupplied decl).mpr hdecl, herror⟩)
      · have hcomplete := fun h => hincomplete.mp h hnone
        exact Or.inr (Or.inr (Or.inl ⟨hclashes, hcomplete, hformed⟩))
      · have hcomplete := fun h => hincomplete.mp h hnone
        exact Or.inr (Or.inr (Or.inr ⟨hclashes, hcomplete, hformed⟩))
  | none =>
      have hnames : converter.namesFor sheet.declared = NameTable.ofConstants sheet.declared := by
        rw [namesFor, hsupplied]
      have hcomplete := not_incomplete_of_derived hsupplied sheet
      rcases NameTable.ofConstants_cases sheet.declared with
        ⟨hdistinct, table, htable⟩ | ⟨hclash, first, second, name, herror⟩
      · have hclashes : ¬ converter.Clashes sheet := fun h => hdistinct h.2
        have hnamed := unnamed?_of_derived htable
        rcases convert_cases_of_names (hnames.trans htable) with
          ⟨decl, hdecl, -⟩ | ⟨-, hformed⟩ | ⟨-, hformed⟩
        · -- a derived table names every constant
          rw [hnamed] at hdecl
          cases hdecl
        · exact Or.inr (Or.inr (Or.inl ⟨hclashes, hcomplete, hformed⟩))
        · exact Or.inr (Or.inr (Or.inr ⟨hclashes, hcomplete, hformed⟩))
      · left
        refine ⟨⟨hsupplied, hclash⟩, hcomplete, first, second, name, ?_⟩
        rw [convert_eq, Stylesheet.constants_stripExternals, hnames, herror]
        rfl

/-- There is only one first missing constant. -/
theorem FirstMissing.unique {first second : Constant} (hfirst : converter.FirstMissing sheet first)
    (hsecond : converter.FirstMissing sheet second) : first = second := by
  obtain ⟨names, hnames, -⟩ := id hfirst
  rw [firstMissing_iff hnames] at hfirst hsecond
  exact Option.some.inj (hfirst.symm.trans hsecond)

theorem not_firstMissing (hcomplete : ¬ converter.Incomplete sheet) (decl : Constant) :
    ¬ converter.FirstMissing sheet decl := by
  rintro ⟨names, hnames, hnone, before, after, hsplit, -⟩
  refine hcomplete ⟨names, hnames, decl, ?_, hnone⟩
  rw [hsplit]
  exact List.mem_append_right _ List.mem_cons_self

/-- The outcome of a conversion. Derived names can clash, a supplied table can lack a constant, and
what is left without the external classes can be malformed. The first of these is reported, a missing
constant as the first in document order; a stylesheet with none of them is converted. -/
theorem convert_outcome (converter : Converter) (sheet : Stylesheet) :
    ((∃ first second name, converter.convert sheet = .error (.nameCollision first second name)) ↔
      converter.Clashes sheet) ∧
    ((∃ kind key, converter.convert sheet = .error (.unknownConstant kind key)) ↔
      converter.Incomplete sheet) ∧
    (∀ kind key, converter.convert sheet = .error (.unknownConstant kind key) ↔
      ∃ decl, converter.FirstMissing sheet decl ∧ decl.kind = kind ∧ decl.key = key) ∧
    ((∃ fault, converter.convert sheet = .error (.invalidConditional fault)) ↔
      ¬ converter.Clashes sheet ∧ ¬ converter.Incomplete sheet ∧
        ¬ Stylesheet.WellFormed ⟨Node.withoutAll Node.isExternal sheet.nodes⟩) ∧
    ((∃ conversion, converter.convert sheet = .ok conversion) ↔
      ¬ converter.Clashes sheet ∧ ¬ converter.Incomplete sheet ∧
        Stylesheet.WellFormed ⟨Node.withoutAll Node.isExternal sheet.nodes⟩) := by
  rw [← Stylesheet.stripExternals_eq]
  rcases convert_cases converter sheet with
    ⟨hclash, hcomplete, first, second, name, hresult⟩ |
    ⟨hclash, hincomplete, decl, hdecl, hresult⟩ |
    ⟨hclash, hcomplete, hformed, fault, hresult⟩ |
    ⟨hclash, hcomplete, hformed, conversion, hresult⟩
  · have hmissing := not_firstMissing hcomplete
    simp [hresult, hclash, hcomplete, hmissing]
  · rw [hresult]
    refine ⟨?_, ?_, ?_, ?_, ?_⟩
    · simp [hclash, Constant.complaint]
    · simp [hincomplete, Constant.complaint]
    · intro kind key
      constructor
      · intro heq
        cases heq
        exact ⟨decl, hdecl, rfl, rfl⟩
      · -- The kind and the key alone do not fix a constant, but only one is missing first.
        rintro ⟨other, hother, rfl, rfl⟩
        rw [hdecl.unique hother]
        rfl
    · simp [hincomplete, Constant.complaint]
    · simp [hincomplete]
  · have hmissing := not_firstMissing hcomplete
    simp [hresult, hclash, hcomplete, hformed, hmissing]
  · have hmissing := not_firstMissing hcomplete
    simp [hresult, hclash, hcomplete, hformed, hmissing]

end Converter

end Restyle
