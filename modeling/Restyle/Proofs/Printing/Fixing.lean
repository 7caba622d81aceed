import Restyle.Proofs.Declaration.FixedMark
import Restyle.Proofs.Printing.Lenient
import Restyle.Proofs.Printing.Unnesting

set_option autoImplicit false

/-! # Putting nodes into a `noFlip` block

`Node.Wraps` puts neighbours into a `noFlip` block, at any place of a tree where a body stands. The
properties of the tree stay the same in the same order, and some of them are printed with a mark now
(`Node.Wraps.declarations`). Whether and where a conversion fails stays the same too, since faults have
to do with conditional blocks only.

The checker does not mind the mark (`Declaration.check_marked`), so a lenient conversion leaves out the
same properties before and after (`Converter.agree_of_wraps`).
-/

namespace Restyle

namespace Node

/-! ## One step -/

/-- Whether the hole of a block is its list of branches. -/
def Frame.holdsBranches : Frame → Bool
  | ifBranches .. => true
  | elseIfBranches .. => true
  | _ => false

/-- Some neighbours are put into a `noFlip` block, somewhere in a list of nodes. The list is one of
branches or the body of a block; only in a body may the new block stand. -/
inductive Wraps : Bool → List Node → List Node → Prop where
  | here (nodes rest : List Node) : Wraps false (nodes ++ rest) (.noFlip nodes :: rest)
  | behind {branches : Bool} (n : Node) {rest rest' : List Node} (h : Wraps branches rest rest') :
      Wraps branches (n :: rest) (n :: rest')
  | inside {branches : Bool} (frame : Frame) (rest : List Node) {ns ns' : List Node}
      (h : Wraps frame.holdsBranches ns ns') :
      Wraps branches (frame.fill ns :: rest) (frame.fill ns' :: rest)

/-! ## What a step does not change -/

/-- The collectors see the same parts in the same order. -/
theorem Wraps.marksAll_eq {branches : Bool} {ns ns' : List Node} (h : Wraps branches ns ns') :
    marksAll ns' = marksAll ns := by
  induction h with
  | here nodes rest => rw [marksAll, marks, marksAll_append]
  | behind n _ ih => rw [marksAll, marksAll, ih]
  | inside frame rest _ ih => cases frame <;> simp only [Frame.fill, marksAll, marks, ih]

/-- The same step can be made when the directives are gone. -/
theorem Wraps.withoutAll {branches : Bool} {ns ns' : List Node} (h : Wraps branches ns ns') :
    Wraps branches (Node.withoutAll isExternal ns) (Node.withoutAll isExternal ns') := by
  induction h with
  | here nodes rest =>
      rw [withoutAll_append]
      exact .here (Node.withoutAll isExternal nodes) (Node.withoutAll isExternal rest)
  | behind n _ ih =>
      rw [Node.withoutAll, Node.withoutAll]
      split
      · exact ih
      · exact .behind _ ih
  | inside frame rest _ ih =>
      cases frame with
      | ifBody condition branches =>
          exact .inside (.ifBody condition (Node.withoutAll isExternal branches)) _ ih
      | ifBranches condition nodes =>
          exact .inside (.ifBranches condition (Node.withoutAll isExternal nodes)) _ ih
      | elseIfBody condition branches =>
          exact .inside (.elseIfBody condition (Node.withoutAll isExternal branches)) _ ih
      | elseIfBranches condition nodes =>
          exact .inside (.elseIfBranches condition (Node.withoutAll isExternal nodes)) _ ih
      | elseBody => exact .inside .elseBody _ ih
      | mediaBody queries => exact .inside (.mediaBody queries) _ ih
      | noFlipBody => exact .inside .noFlipBody _ ih

theorem faultAll?_append (ms ns : List Node) :
    faultAll? (ms ++ ns) = (faultAll? ms).or (faultAll? ns) := by
  induction ms with
  | nil => rfl
  | cons m ms ih => rw [List.cons_append, faultAll?, faultAll?, ih, Option.or_assoc]

/-- The first fault of a body or of a list of branches. -/
def placeFault? : Bool → List Node → Option ConditionalFault
  | false => faultAll?
  | true => branchFault?

/-- The first fault is the same. -/
theorem Wraps.placeFault?_eq {branches : Bool} {ns ns' : List Node} (h : Wraps branches ns ns') :
    placeFault? branches ns' = placeFault? branches ns := by
  induction h with
  | here nodes rest =>
      show (faultAll? nodes).or (faultAll? rest) = _
      exact (faultAll?_append nodes rest).symm
  | @behind branches n rest rest' _ ih =>
      cases branches with
      | false => exact congrArg (fault? n).or ih
      | true =>
          have ih : branchFault? rest' = branchFault? rest := ih
          cases n with
          | elseIf condition nodes inner => simp only [placeFault?, branchFault?, ih]
          | elseBlock nodes => simp only [placeFault?, branchFault?, ih]
          | _ => rfl
  | @inside branches frame rest ns ns' _ ih =>
      -- a block that is out of place is refused by its kind, before anyone looks inside
      cases branches with
      | false => cases frame <;>
          simp only [Frame.holdsBranches, placeFault?] at ih <;>
          simp only [Frame.fill, placeFault?, faultAll?, fault?, ih]
      | true => cases frame <;>
          simp only [Frame.holdsBranches, placeFault?] at ih <;>
          simp only [Frame.fill, placeFault?, branchFault?, ih, kindName]

/-! ## The properties of the tree -/

theorem declarations_true {n : Node}
    (hbody : ∀ fixed, declarationsAll true n.body
      = (declarationsAll fixed n.body).map fun d => (true, d.2))
    (hbranches : ∀ fixed, declarationsAll true n.branches
      = (declarationsAll fixed n.branches).map fun d => (true, d.2)) (fixed : Bool) :
    declarations true n = (declarations fixed n).map fun d => (true, d.2) := by
  have htrue : n.fixes true = true := by cases n <;> rfl
  rw [declarations_eq, declarations_eq fixed, htrue, hbody (n.fixes fixed),
    hbranches (n.fixes fixed), List.map_append, List.map_append, List.map_map]
  rfl

/-- In a `noFlip` block all properties are printed with the mark. -/
theorem declarationsAll_true (fixed : Bool) (ns : List Node) :
    declarationsAll true ns = (declarationsAll fixed ns).map fun d => (true, d.2) := by
  induction ns using parts_induction generalizing fixed with
  | nil => rfl
  | cons n rest hbody hbranches hrest =>
      rw [declarationsAll, declarationsAll, List.map_append,
        declarations_true hbody hbranches fixed, hrest fixed]

/-- The same property, which may have got a mark. -/
def MaybeFixed (d d' : Bool × Property) : Prop := d'.2 = d.2 ∧ (d'.1 = d.1 ∨ d'.1 = true)

theorem forall₂_maybeFixed_refl (ds : List (Bool × Property)) : List.Forall₂ MaybeFixed ds ds :=
  List.forall₂_same.mpr fun _ _ => ⟨rfl, Or.inl rfl⟩

theorem declarationsAll_append (fixed : Bool) (ms ns : List Node) :
    declarationsAll fixed (ms ++ ns) = declarationsAll fixed ms ++ declarationsAll fixed ns := by
  induction ms with
  | nil => rfl
  | cons m ms ih => rw [List.cons_append, declarationsAll, declarationsAll, ih, List.append_assoc]

/-- A step keeps the properties of a tree in their order. -/
theorem Wraps.declarations {branches : Bool} {ns ns' : List Node} (h : Wraps branches ns ns')
    (fixed : Bool) :
    List.Forall₂ MaybeFixed (declarationsAll fixed ns) (declarationsAll fixed ns') := by
  induction h generalizing fixed with
  | here nodes rest =>
      have hmarked : List.Forall₂ MaybeFixed (declarationsAll fixed nodes)
          (declarationsAll true nodes) := by
        rw [declarationsAll_true fixed nodes, List.forall₂_map_right_iff]
        exact List.forall₂_same.mpr fun _ _ => ⟨rfl, Or.inr rfl⟩
      rw [declarationsAll_append]
      exact List.rel_append hmarked (forall₂_maybeFixed_refl _)
  | behind n _ ih => exact List.rel_append (forall₂_maybeFixed_refl _) (ih fixed)
  | inside frame rest _ ih =>
      refine List.rel_append ?_ (forall₂_maybeFixed_refl _)
      cases frame with
      | ifBody condition branches => exact List.rel_append (ih fixed) (forall₂_maybeFixed_refl _)
      | ifBranches condition nodes => exact List.rel_append (forall₂_maybeFixed_refl _) (ih fixed)
      | elseIfBody condition branches => exact List.rel_append (ih fixed) (forall₂_maybeFixed_refl _)
      | elseIfBranches condition nodes => exact List.rel_append (forall₂_maybeFixed_refl _) (ih fixed)
      | elseBody => exact ih fixed
      | mediaBody queries => exact ih fixed
      | noFlipBody => exact ih true

end Node

/-! ## What the checker says -/

namespace Property

theorem text_fixed (names : NameTable) (property : Property) :
    property.text names true = Declaration.fixedMark ++ property.text names false := by
  simp [Property.text, Declaration.fixedMark, String.append_assoc]

/-- With the mark, a property is refused for the same reason, fourteen bytes later. -/
theorem refusal?_fixed {names : NameTable} {property : Property}
    (h : ¬ Declaration.StartsComment (property.text names false)) :
    property.refusal? Declaration.check names true
      = (property.refusal? Declaration.check names false).map (Refusal.later 14) := by
  have hcheck : Declaration.check ("body\x7b" ++ property.text names true ++ "\x7d")
      = (Declaration.check ("body\x7b" ++ property.text names false ++ "\x7d")).mapError
          (Refusal.later 14) := by
    rw [text_fixed]
    exact Declaration.check_marked h
  unfold refusal?
  rw [hcheck]
  cases Declaration.check ("body\x7b" ++ property.text names false ++ "\x7d") with
  | ok _ => rfl
  | error refusal => rfl

/-- The same property with the same verdict, if its text does not start with a comment. -/
def AcceptedAlike (checker : Checker) (names : NameTable) (d d' : Bool × Property) : Prop :=
  d'.2 = d.2 ∧ (¬ Declaration.StartsComment (d.2.text names false) →
    d'.2.accepted checker names d'.1 = d.2.accepted checker names d.1)

theorem acceptedAlike_of_maybeFixed (names : NameTable) {d d' : Bool × Property}
    (h : Node.MaybeFixed d d') : AcceptedAlike Declaration.check names d d' := by
  obtain ⟨fixed, property⟩ := d
  obtain ⟨fixed', _⟩ := d'
  obtain ⟨rfl, hfixed⟩ := h
  refine ⟨rfl, fun hcomment => ?_⟩
  have hmark := refusal?_fixed hcomment
  rcases hfixed with rfl | rfl
  · rfl
  · cases fixed with
    | true => rfl
    | false => simp only [accepted, hmark, Option.isNone_map]

end Property

/-! ## Conversions -/

/-- Neighbours somewhere in a stylesheet are put into a `noFlip` block. -/
def Stylesheet.Wraps (sheet other : Stylesheet) : Prop := Node.Wraps false sheet.nodes other.nodes

namespace Stylesheet.Wraps

variable {sheet other : Stylesheet}

theorem stripExternals (h : sheet.Wraps other) : sheet.stripExternals.Wraps other.stripExternals := by
  rw [stripExternals_eq, stripExternals_eq]
  exact h.withoutAll

theorem constants_eq (h : sheet.Wraps other) :
    other.stripExternals.constants = sheet.stripExternals.constants := by
  rw [Stylesheet.constants_eq, Stylesheet.constants_eq, h.stripExternals.marksAll_eq]

theorem setupFor_eq (h : sheet.Wraps other) (converter : Converter) (names : NameTable) :
    converter.setupFor other names = converter.setupFor sheet names := by
  unfold Converter.setupFor
  rw [ExternalClasses.ofStylesheet_eq, ExternalClasses.ofStylesheet_eq, h.marksAll_eq, h.constants_eq]

/-- Printing fails alike. -/
theorem failure?_generate (h : sheet.Wraps other) (setup : PrintSetup) :
    failure? (setup.generate other) = failure? (setup.generate sheet) := by
  have hfault : Node.faultAll? other.nodes = Node.faultAll? sheet.nodes := h.placeFault?_eq
  rw [setup.failure?_generate, setup.failure?_generate, hfault]

end Stylesheet.Wraps

namespace Converter

/-- A converter with the lenient mode on or off. -/
def withLenient (converter : Converter) (lenient : Bool) : Converter :=
  { converter with options := { converter.options with lenient := lenient } }

/-- What a lenient conversion leaves out: it warns of each property that is refused, in document order,
and has the text of the strict conversion without these properties. -/
structure LeavesOut (converter : Converter) (table : NameTable) (sheet : Stylesheet)
    (conversion : Conversion) : Prop where
  warnings_eq :
    conversion.warnings = sheet.declarations.filterMap (Property.warning? converter.checker table)
  convert_eq :
    (converter.withLenient false).convert (sheet.prune (Property.accepted converter.checker table))
      = .ok ⟨conversion.gss, []⟩

/-- Deleting properties changes neither the names nor the setup of a conversion. -/
theorem convert_prune (converter : Converter) (kept : Bool → Property → Bool) (sheet : Stylesheet) :
    converter.convert (sheet.prune kept)
      = (converter.namesFor sheet.stripExternals.constants >>= fun names =>
          (converter.setupFor sheet names).generate (sheet.stripExternals.prune kept)) := by
  have hsetup : converter.setupFor (sheet.prune kept) = converter.setupFor sheet := by
    funext names
    unfold setupFor
    rw [Stylesheet.externals_prune, Stylesheet.stripExternals_prune, Stylesheet.constants_prune]
  rw [convert_eq, hsetup, Stylesheet.stripExternals_prune, Stylesheet.constants_prune]

theorem leavesOut_of_generate {converter : Converter} {table : NameTable} {sheet : Stylesheet}
    {conversion : Conversion}
    (htable : converter.namesFor sheet.stripExternals.constants = .ok table)
    (h : ((converter.setupFor sheet table).withLenient true).generate sheet.stripExternals
      = .ok conversion) :
    LeavesOut converter table sheet conversion := by
  have hlenient := (converter.setupFor sheet table).generate_lenient sheet.stripExternals
  rw [h, Stylesheet.declarations_stripExternals] at hlenient
  obtain ⟨⟨gss, _⟩, hstrict, rfl, rfl⟩ := hlenient.exists_of_ok
  refine ⟨rfl, ?_⟩
  have hnames : (converter.withLenient false).namesFor sheet.stripExternals.constants = .ok table :=
    htable
  rw [convert_prune, hnames]
  exact hstrict

/-- Two conversions go through the same properties in the same order and leave out the same ones, apart
from properties whose text starts with a comment. -/
def SkipAlike (converter : Converter) (sheet other : Stylesheet) (plain fixed : Conversion) : Prop :=
  ∃ table, LeavesOut converter table sheet plain ∧ LeavesOut converter table other fixed ∧
    List.Forall₂ (Property.AcceptedAlike converter.checker table) sheet.declarations
      other.declarations

/-- Lenient conversions fail alike before and after nodes are put into a `noFlip` block, or both succeed
and leave out the same properties. -/
theorem agree_of_wraps {converter : Converter} (hchecker : converter.checker = Declaration.check)
    {sheet other : Stylesheet} (h : sheet.Wraps other) :
    Agree (SkipAlike converter sheet other) ((converter.withLenient true).convert sheet)
      ((converter.withLenient true).convert other) := by
  have hnames : (converter.withLenient true).namesFor = converter.namesFor := rfl
  rw [convert_eq, convert_eq, hnames, h.constants_eq]
  cases htable : converter.namesFor sheet.stripExternals.constants with
  | error e => exact .error e
  | ok table =>
      have hother : converter.namesFor other.stripExternals.constants = .ok table := by
        rw [h.constants_eq, htable]
      -- The two printers fail alike, so that it is enough to compare two successes.
      have hfail := h.stripExternals.failure?_generate ((converter.setupFor sheet table).withLenient true)
      show Agree _ (((converter.setupFor sheet table).withLenient true).generate _)
        (((converter.setupFor other table).withLenient true).generate _)
      rw [h.setupFor_eq]
      cases hplain : ((converter.setupFor sheet table).withLenient true).generate
          sheet.stripExternals with
      | error e =>
          rw [hplain, failure?_error, failure?_eq_some_iff] at hfail
          rw [hfail]
          exact .error e
      | ok plain =>
          cases hfixed : ((converter.setupFor sheet table).withLenient true).generate
              other.stripExternals with
          | error e =>
              rw [hplain, hfixed] at hfail
              cases hfail
          | ok fixed =>
              rw [← h.setupFor_eq] at hfixed
              refine .ok ⟨table, leavesOut_of_generate htable hplain,
                leavesOut_of_generate hother hfixed, ?_⟩
              rw [hchecker]
              exact (Node.Wraps.declarations h false).imp fun _ _ =>
                Property.acceptedAlike_of_maybeFixed table

/-- **The mark of a fixed direction does not change a verdict.** A text that does not start with a
comment is accepted with the mark in front of it if and only if it is accepted without it, and where it
is refused, the message is the same and the offset is larger by the fourteen bytes of the mark. So a
lenient conversion leaves out the same properties when nodes are put into a `noFlip` block. -/
theorem fixed_verdict :
    (∀ text : String, ¬ Declaration.StartsComment text →
      Declaration.check ("body\x7b" ++ ("/* @noflip */ " ++ text) ++ "\x7d")
        = (Declaration.check ("body\x7b" ++ text ++ "\x7d")).mapError
            fun refusal => ⟨refusal.offset + 14, refusal.message⟩) ∧
    ∀ (layout : Layout) (names : Option NameTable) (sheet other : Stylesheet), sheet.Wraps other →
      let converter : Converter := ⟨⟨true, layout⟩, names, Declaration.check⟩
      Agree (SkipAlike converter sheet other) (converter.convert sheet) (converter.convert other) := by
  refine ⟨fun text h => Declaration.check_marked h, ?_⟩
  intro layout names sheet other h converter
  exact agree_of_wraps rfl h

/-- A rule with one property that is kept and one that is left out, in the body of an `@media`. -/
theorem fixed_verdict_zoom :
    let rule : Node := .rule [⟨".a", []⟩]
      [⟨"left", [⟨.literal "0", true⟩], false⟩, ⟨"*zoom", [⟨.literal "1", true⟩], true⟩]
    let sheet : Stylesheet := ⟨[.media ["print"] [.noFlip [], rule]]⟩
    let other : Stylesheet := ⟨[.media ["print"] [.noFlip [], .noFlip [rule]]]⟩
    let converter : Converter := ⟨⟨true, .compact⟩, none, Declaration.check⟩
    let plain : Conversion := ⟨"@media print\x7b.a\x7bleft: 0;\x7d\x7d",
      [.invalidProperty "*zoom: 1 !important" "unexpected '*' at offset 5"]⟩
    let fixed : Conversion := ⟨"@media print\x7b.a\x7b/* @noflip */ left: 0;\x7d\x7d",
      [.invalidProperty "/* @noflip */ *zoom: 1 !important" "unexpected '*' at offset 19"]⟩
    ¬ Declaration.StartsComment "*zoom: 1 !important" ∧
      Declaration.check "body\x7b*zoom: 1 !important\x7d" = .error ⟨5, "unexpected '*'"⟩ ∧
      Declaration.check "body\x7b/* @noflip */ *zoom: 1 !important\x7d"
        = .error ⟨19, "unexpected '*'"⟩ ∧
      sheet.Wraps other ∧ converter.convert sheet = .ok plain ∧ converter.convert other = .ok fixed ∧
      SkipAlike converter sheet other plain fixed := by
  intro rule sheet other converter plain fixed
  have hcomment : ¬ Declaration.StartsComment "*zoom: 1 !important" := by decide
  have hcheck : Declaration.check "body\x7b*zoom: 1 !important\x7d" = .error ⟨5, "unexpected '*'"⟩ := by
    decide +kernel
  have hmarked := fixed_verdict.1 "*zoom: 1 !important" hcomment
  have hwraps : sheet.Wraps other :=
    .inside (.mediaBody ["print"]) [] (.behind (.noFlip []) (.here [rule] []))
  have hplain : converter.convert sheet = .ok plain := by
    simp only [convert_eq, setupFor, Stylesheet.stripExternals_eq]
    decide +kernel
  have hfixed : converter.convert other = .ok fixed := by
    simp only [convert_eq, setupFor, Stylesheet.stripExternals_eq]
    decide +kernel
  have hagree : Agree (SkipAlike converter sheet other) (converter.convert sheet)
      (converter.convert other) := fixed_verdict.2 .compact none sheet other hwraps
  rw [hplain, hfixed] at hagree
  obtain ⟨_, hsame, hskip⟩ := hagree.exists_of_ok
  cases hsame
  refine ⟨hcomment, hcheck, ?_, hwraps, hplain, hfixed, hskip⟩
  exact hmarked.trans (congrArg (Except.mapError _) hcheck)

end Converter

end Restyle
