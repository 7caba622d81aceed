import Restyle.Proofs.Printing.Faults
import Restyle.Proofs.Printing.Posture
import Restyle.Proofs.Tree.Pruning

set_option autoImplicit false

/-! # Lenient conversions

A lenient conversion leaves out the properties that the checker refuses. It comes to the same as
deleting these properties first and converting what is left strictly, apart from the warnings
(`Converter.convert_lenient`).

The two runs do not go in step. A lenient printer opens the brace of a rule in front of a property even
if it then leaves the property out, while the strict printer of the pruned rule opens it later, at a
property that is kept or at the end of the rule. They meet again wherever no brace is owed.
-/

namespace Restyle

/-! ## What is left out -/

/-- Why a checker refuses a property, in the form in which it would be printed. -/
def Property.refusal? (checker : Checker) (names : NameTable) (fixed : Bool) (property : Property) :
    Option Refusal :=
  match checker ("body\x7b" ++ property.text names fixed ++ "\x7d") with
  | .ok () => none
  | .error refusal => some refusal

/-- Whether a checker accepts a property. -/
def Property.accepted (checker : Checker) (names : NameTable) (fixed : Bool) (property : Property) :
    Bool :=
  (property.refusal? checker names fixed).isNone

/-- The warning about a property that is left out. -/
def Property.warning? (checker : Checker) (names : NameTable) (declaration : Bool × Property) :
    Option Warning :=
  (declaration.2.refusal? checker names declaration.1).map fun refusal =>
    .invalidProperty (declaration.2.text names declaration.1) refusal.text

namespace PrintSetup

/-- A setup with the lenient mode on or off. -/
def withLenient (setup : PrintSetup) (lenient : Bool) : PrintSetup :=
  { setup with options := { setup.options with lenient := lenient } }

/-- Whether a property is kept by a lenient conversion. -/
def kept (setup : PrintSetup) : Bool → Property → Bool :=
  Property.accepted setup.checker setup.names

/-- The warnings about those of some properties that are left out. -/
def warningsFor (setup : PrintSetup) (declarations : List (Bool × Property)) : List Warning :=
  declarations.filterMap (Property.warning? setup.checker setup.names)

end PrintSetup

namespace Printer

/-! ## Warnings do not matter -/

/-- A printer that has given more warnings. -/
def warn (p : Printer) (warnings : List Warning) : Printer :=
  { p with warnings := p.warnings ++ warnings }

theorem warn_nil (p : Printer) : p.warn [] = p := by simp [warn]

@[simp] theorem flags_warn (p : Printer) (ws : List Warning) : (p.warn ws).flags = p.flags := rfl

/-- A printer with more warnings prints the same. -/
theorem congruence_warn (ws : List Warning) : Congruence fun p q => p = q.warn ws where
  flags_eq := by rintro _ q rfl; rfl
  setFlags := by rintro _ q f rfl; rfl
  write := by rintro _ q text rfl; rfl
  blank := by rintro _ q rfl; rfl
  breakLine := by rintro _ q rfl; rfl
  breakLineOptional := by rintro _ q rfl; rfl
  indent := by rintro _ q rfl; rfl
  dedent := by rintro _ q rfl; rfl

/-- Without the lenient mode no warning is given. -/
theorem congruence_warnings (ws : List Warning) :
    Congruence fun p q => p = q ∧ p.warnings = ws where
  flags_eq := by rintro _ q ⟨rfl, _⟩; rfl
  setFlags := by rintro _ q f ⟨rfl, h⟩; exact ⟨rfl, h⟩
  write := by rintro _ q text ⟨rfl, h⟩; exact ⟨rfl, h⟩
  blank := by rintro _ q ⟨rfl, h⟩; exact ⟨rfl, h⟩
  breakLine := by rintro _ q ⟨rfl, h⟩; exact ⟨rfl, h⟩
  breakLineOptional := by rintro _ q ⟨rfl, h⟩; exact ⟨rfl, h⟩
  indent := by rintro _ q ⟨rfl, h⟩; exact ⟨rfl, h⟩
  dedent := by rintro _ q ⟨rfl, h⟩; exact ⟨rfl, h⟩

/-! ## Properties -/

section Properties

variable (setup : PrintSetup)

theorem openPendingBrace_warn (p : Printer) (ws : List Warning) :
    (p.warn ws).openPendingBrace = p.openPendingBrace.warn ws :=
  (congruence_warn ws).openPendingBrace rfl

/-- A property that is kept is printed as in a strict run; one that is refused leaves the open brace
and a warning. -/
theorem printProperty_lenient (p : Printer) (ws : List Warning) (property : Property) :
    printProperty (setup.withLenient true) (p.warn ws) property
      = if setup.kept p.flags.noFlip property then
          (printProperty (setup.withLenient false) p property).warn ws
        else p.openPendingBrace.warn (ws ++ setup.warningsFor [(p.flags.noFlip, property)]) := by
  cases h : setup.checker ("body\x7b" ++ property.text setup.names p.flags.noFlip ++ "\x7d") with
  | ok _ =>
      have hkept : setup.kept p.flags.noFlip property = true := by
        simp [PrintSetup.kept, Property.accepted, Property.refusal?, h]
      rw [if_pos hkept]
      unfold printProperty
      rw [openPendingBrace_warn]
      simp only [PrintSetup.withLenient, flags_warn, noFlip_openPendingBrace, h]
      rfl
  | error refusal =>
      have hkept : ¬ setup.kept p.flags.noFlip property = true := by
        simp [PrintSetup.kept, Property.accepted, Property.refusal?, h]
      rw [if_neg hkept]
      unfold printProperty
      rw [openPendingBrace_warn]
      simp only [PrintSetup.withLenient, flags_warn, noFlip_openPendingBrace, h]
      simp [warn, PrintSetup.warningsFor, Property.warning?, Property.refusal?, h]

theorem warningsFor_of_kept {fixed : Bool} {property : Property}
    (h : setup.kept fixed property = true) : setup.warningsFor [(fixed, property)] = [] := by
  have hnone : property.refusal? setup.checker setup.names fixed = none := by
    simpa [PrintSetup.kept, Property.accepted] using h
  simp [PrintSetup.warningsFor, Property.warning?, hnone]

theorem warningsFor_append (xs ys : List (Bool × Property)) :
    setup.warningsFor (xs ++ ys) = setup.warningsFor xs ++ setup.warningsFor ys :=
  List.filterMap_append

/-- Up to the brace that may be owed, a lenient run through properties is the strict run through those
that are kept. -/
theorem printProperties_lenient (properties : List Property) (p : Printer) (ws : List Warning) :
    ((p.warn ws).printProperties (setup.withLenient true) properties).openPendingBrace
      = (p.printProperties (setup.withLenient false)
          (properties.filter (setup.kept p.flags.noFlip))).openPendingBrace.warn
        (ws ++ setup.warningsFor (properties.map (p.flags.noFlip, ·))) := by
  induction properties generalizing p ws with
  | nil =>
      rw [List.map_nil]
      show (p.warn ws).openPendingBrace = p.openPendingBrace.warn (ws ++ [])
      rw [List.append_nil, openPendingBrace_warn]
  | cons property rest ih =>
      have hcons : setup.warningsFor ((property :: rest).map (p.flags.noFlip, ·))
          = setup.warningsFor [(p.flags.noFlip, property)]
            ++ setup.warningsFor (rest.map (p.flags.noFlip, ·)) :=
        warningsFor_append setup [_] _
      show (printProperties (setup.withLenient true)
        (printProperty (setup.withLenient true) (p.warn ws) property) rest).openPendingBrace = _
      rw [printProperty_lenient, hcons]
      by_cases hkept : setup.kept p.flags.noFlip property = true
      · -- both runs print the property
        have hflip : (printProperty (setup.withLenient false) p property).flags.noFlip
            = p.flags.noFlip := by
          have h := congrArg Posture.noFlip (posture_printProperty (setup.withLenient false) p property)
          exact h.trans (noFlip_openPendingBrace p)
        rw [if_pos hkept, ih, hflip, warningsFor_of_kept setup hkept, List.nil_append,
          List.filter_cons_of_pos hkept]
        rfl
      · -- only the lenient run opens the brace
        rw [if_neg hkept, ih, noFlip_openPendingBrace, openPendingBrace_printProperties,
          List.append_assoc, List.filter_cons_of_neg hkept]

/-- A whole rule, from its first property to its end. -/
theorem endRule_lenient (properties : List Property) (p : Printer) (ws : List Warning) :
    ((p.warn ws).printProperties (setup.withLenient true) properties).endRule
      = (p.printProperties (setup.withLenient false)
          (properties.filter (setup.kept p.flags.noFlip))).endRule.warn
        (ws ++ setup.warningsFor (properties.map (p.flags.noFlip, ·))) := by
  unfold endRule
  rw [printProperties_lenient]
  rfl

/-- A block whose brace is open. -/
theorem printProperties_lenient_of_settled (properties : List Property) {p : Printer}
    (h : p.posture.bracePending = false) (ws : List Warning) :
    (p.warn ws).printProperties (setup.withLenient true) properties
      = (p.printProperties (setup.withLenient false)
          (properties.filter (setup.kept p.flags.noFlip))).warn
        (ws ++ setup.warningsFor (properties.map (p.flags.noFlip, ·))) := by
  have hmeet := printProperties_lenient setup properties p ws
  have hwarn : (p.warn ws).posture.bracePending = false := h
  have hleft := posture_printProperties (setup.withLenient true) properties hwarn
  have hright := posture_printProperties (setup.withLenient false)
    (properties.filter (setup.kept p.flags.noFlip)) h
  rwa [openPendingBrace_of_settled (by rw [hleft, hwarn]),
    openPendingBrace_of_settled (by rw [hright, h])] at hmeet

end Properties

/-! ## Nodes

The statements start the lenient printer with some warnings more than the strict one, so that they can
be used behind other nodes. -/

/-- How a run of a lenient printer ends beside that of a strict one. -/
def Warned (ws : List Warning) (p q : Printer) : Prop := p = q.warn ws

/-- A block of properties, from a state in the posture of another one. -/
theorem agree_block (setup : PrintSetup) (properties : List Property) {p q : Printer}
    (hq : q.posture = p.posture) (h : p.posture.bracePending = false) (ws : List Warning) :
    Agree (Warned (ws ++ setup.warningsFor (properties.map (p.posture.noFlip, ·))))
      (.ok ((q.warn ws).openBrace.printProperties (setup.withLenient true) properties).closeBrace)
      (.ok (q.openBrace.printProperties (setup.withLenient false)
        (properties.filter (setup.kept p.posture.noFlip))).closeBrace) := by
  have hopen : (q.warn ws).openBrace = q.openBrace.warn ws := rfl
  have hsettled : q.openBrace.posture.bracePending = false := by rw [posture_openBrace, hq, h]
  rw [hopen, printProperties_lenient_of_settled setup properties hsettled, ← hq]
  exact .ok rfl

/-- Where no property stands, no warning is added. -/
theorem warned_without (setup : PrintSetup) {p q : Printer} {ws : List Warning}
    (h : p = q.warn ws) : Warned (ws ++ setup.warningsFor []) p q :=
  h.trans (congrArg q.warn (List.append_nil ws).symm)

section Parts

variable {setup : PrintSetup} (n : Node) {p : Printer} (ws : List Warning)

/-- In front of the body of a node, the warnings are those for its own properties. -/
theorem enter_lenient (h : p.posture.bracePending = false) :
    Agree (Warned (ws ++ setup.warningsFor (n.ownProperties.map (p.posture.noFlip, ·))))
      (enter (setup.withLenient true) n (p.warn ws))
      (enter (setup.withLenient false) (n.prune setup.kept p.posture.noFlip) p) := by
  have cong := congruence_warn ws
  have hstart : p.warn ws = p.warn ws := rfl
  cases n with
  | rule selectors properties =>
      have hopen := cong.printSelectors selectors (cong.beginRule hstart)
      -- neither the head of the rule nor its selectors touch the mode
      have hflip : (p.beginRule.printSelectors selectors).flags.noFlip = p.posture.noFlip := by
        have := posture_printSelectors selectors p.beginRule
        rw [posture_beginRule] at this
        exact congrArg Posture.noFlip this
      refine .ok ?_
      rw [hopen, Warned, endRule_lenient, hflip]
      rfl
  | ifBlock condition _ _ =>
      exact (cong.openConditional "@if" condition (cong.breakLine hstart)).mono fun _ _ =>
        warned_without setup
  | elseIf _ _ _ | elseBlock _ => exact .error _
  | media queries _ =>
      exact .ok (warned_without setup
        (cong.openBrace (cong.printMedia queries (cong.write "@media" hstart))))
  | page pseudoPage properties =>
      cases pseudoPage with
      | none => exact agree_block setup properties (posture_print p "@page") h ws
      | some pseudo =>
          have hpage : ((p.print "@page").print (" :" ++ pseudo)).posture = p.posture := by
            rw [posture_print, posture_print]
          exact agree_block setup properties hpage h ws
  | fontFace properties => exact agree_block setup properties (posture_print p "@font-face") h ws
  | sprite selectors resource properties =>
      have hhead := cong.openPendingBrace (cong.printSelectors selectors (cong.beginRule hstart))
      have hopen :=
        cong.semicolon (cong.write ("gwt-sprite: \"" ++ unescape resource ++ "\"") hhead)
      have hflip : ((p.beginRule.printSelectors selectors).openPendingBrace.print
          ("gwt-sprite: \"" ++ unescape resource ++ "\"")).semicolon.flags.noFlip
            = p.posture.noFlip := by
        have := posture_openPendingBrace_beginRule selectors h
        rw [← posture_print _ ("gwt-sprite: \"" ++ unescape resource ++ "\""),
          ← posture_semicolon] at this
        exact congrArg Posture.noFlip this
      refine .ok ?_
      rw [hopen, Warned, endRule_lenient, hflip]
      rfl
  | noFlip _ => exact .ok (warned_without setup (cong.setFlags _ hstart))
  | constant _ | external _ => exact .ok (warned_without setup hstart)
  | unknownAtRule text =>
      exact .ok (warned_without setup (cong.breakLineOptional (cong.write text hstart)))

theorem leave_lenient (q : Printer) (more : List Warning) :
    leave (p.warn ws) n (q.warn more)
      = (leave p (n.prune setup.kept p.posture.noFlip) q).warn more := by
  cases n <;> rfl

theorem enterBranch_lenient :
    Agree (Warned (ws ++ setup.warningsFor (n.ownProperties.map (p.posture.noFlip, ·))))
      (enterBranch n (p.warn ws)) (enterBranch (n.prune setup.kept p.posture.noFlip) p) := by
  have cong := congruence_warn ws
  have hstart : p.warn ws = p.warn ws := rfl
  cases n with
  | elseIf condition _ _ =>
      exact (cong.openConditional "@elseif" condition (cong.closeBrace hstart)).mono fun _ _ =>
        warned_without setup
  | elseBlock _ =>
      exact .ok (warned_without setup
        (cong.setFlags _ (cong.openBrace (cong.write "@else" (cong.closeBrace hstart)))))
  | _ => exact .error _

end Parts

/-- From a state with some warnings more than the strict one, the lenient printer prints nodes, and
branches, as the strict one prints them pruned, and adds the warnings for their properties. -/
structure PrintsPruned (setup : PrintSetup) (ns : List Node) : Prop where
  nodes : ∀ {p : Printer} (ws : List Warning) (fixed : Bool), p.posture.noFlip = fixed →
    p.posture.bracePending = false →
    Agree (Warned (ws ++ setup.warningsFor (Node.declarationsAll fixed ns)))
      (printNodes (setup.withLenient true) ns (p.warn ws))
      (printNodes (setup.withLenient false) (Node.pruneAll setup.kept fixed ns) p)
  branches : ∀ {p : Printer} (ws : List Warning) (fixed : Bool), p.posture.noFlip = fixed →
    p.posture.bracePending = false →
    (Node.pruneAll setup.kept fixed ns ≠ [] → 0 < p.posture.level) →
    Agree (Warned (ws ++ setup.warningsFor (Node.declarationsAll fixed ns)))
      (printBranches (setup.withLenient true) ns (p.warn ws))
      (printBranches (setup.withLenient false) (Node.pruneAll setup.kept fixed ns) p)

/-- The inside of a node is begun in the mode that the node asks for. -/
theorem PrintsPruned.printInside {setup : PrintSetup} {n : Node} {p : Printer}
    (hbody : PrintsPruned setup n.body) (hbranches : PrintsPruned setup n.branches)
    (ws : List Warning) {fixed : Bool} (hfixed : p.posture.noFlip = n.fixes fixed)
    (h : p.posture.bracePending = false)
    (hlevel : (n.prune setup.kept fixed).branches ≠ [] → 0 < p.posture.level) :
    Agree (Warned (ws ++ (setup.warningsFor (Node.declarationsAll (n.fixes fixed) n.body)
        ++ setup.warningsFor (Node.declarationsAll (n.fixes fixed) n.branches))))
      (printInside (setup.withLenient true) n (p.warn ws))
      (printInside (setup.withLenient false) (n.prune setup.kept fixed) p) := by
  rw [Node.branches_prune] at hlevel
  rw [Printer.printInside, Printer.printInside, Node.body_prune, Node.branches_prune,
    ← List.append_assoc]
  refine (hbody.nodes ws _ hfixed h).bind_of_ok ?_
  rintro _ p₁ h₁ rfl
  have e₁ := posture_printNodes _ _ h h₁
  rw [← e₁] at hfixed h hlevel
  exact hbranches.branches _ _ hfixed h hlevel

theorem printsPruned (setup : PrintSetup) (ns : List Node) : PrintsPruned setup ns := by
  induction ns using Node.parts_induction with
  | nil =>
      exact ⟨fun _ _ _ _ => .ok (warned_without setup rfl),
        fun _ _ _ _ _ => .ok (warned_without setup rfl)⟩
  | cons n rest hbody hbranches hrest =>
      refine ⟨fun {p} ws fixed hfixed h => ?_, fun {p} ws fixed hfixed h hlevel => ?_⟩
      · subst hfixed
        -- The warnings come in the order of the steps: the node's own, those inside it, the rest.
        rw [Node.pruneAll, printNodes_cons, printNodes_cons, Node.declarationsAll,
          Node.declarations_eq, warningsFor_append, warningsFor_append, warningsFor_append,
          ← List.append_assoc, ← List.append_assoc]
        refine (enter_lenient n ws h).bind_of_ok ?_
        rintro _ p₁ h₁ rfl
        have e₁ := posture_enter h h₁
        have hsettled : p₁.posture.bracePending = false := by rw [e₁, Posture.bracePending_inside, h]
        have hfixed : p₁.posture.noFlip = n.fixes p.posture.noFlip := by
          rw [e₁, Posture.noFlip_inside, Node.fixes_prune]
        have hopen := level_enter_pos h h₁
        refine (hbody.printInside hbranches _ hfixed hsettled hopen).bind_of_ok ?_
        rintro _ p₂ h₂ rfl
        have e₂ := posture_leave ((posture_printInside hsettled hopen h₂).trans e₁)
        rw [leave_lenient]
        exact hrest.nodes _ _ (by rw [e₂]) (by rw [e₂, h])
      · subst hfixed
        have hopen := hlevel (List.cons_ne_nil _ _)
        rw [Node.pruneAll, printBranches_cons, printBranches_cons, Node.declarationsAll,
          Node.declarations_eq, warningsFor_append, warningsFor_append, warningsFor_append,
          ← List.append_assoc, ← List.append_assoc]
        refine (enterBranch_lenient n ws).bind_of_ok ?_
        rintro _ p₁ h₁ rfl
        have e₁ := posture_enterBranch hopen h₁
        -- A branch that can be entered is no `noFlip` block, so that its direction is not fixed anew.
        have hfixed : p₁.posture.noFlip = n.fixes p.posture.noFlip := by
          rw [e₁, ← Node.fixes_prune setup.kept p.posture.noFlip, fixes_of_enterBranch h₁]
        rw [← e₁] at h hopen
        refine (hbody.printInside hbranches _ hfixed h fun _ => hopen).bind_of_ok ?_
        rintro _ p₂ h₂ rfl
        have e₂ := posture_printInside h (fun _ => hopen) h₂
        rw [← e₂] at h hopen
        exact hrest.branches _ _ (by rw [e₂, e₁]) h fun _ => hopen

/-! ## Strict runs -/

theorem keptByProperties_strict (setup : PrintSetup) (ws : List Warning) :
    KeptByProperties (fun p q => p = q ∧ p.warnings = ws) (setup.withLenient false)
      (setup.withLenient false) := by
  rintro p _ property ⟨rfl, h⟩
  obtain ⟨-, hopen⟩ := (congruence_warnings ws).openPendingBrace ⟨Eq.refl p, h⟩
  exact ⟨rfl, hopen⟩

/-- A strict run gives no warning. -/
theorem warnings_printNodes_strict (setup : PrintSetup) (ns : List Node) {p q : Printer}
    (h : printNodes (setup.withLenient false) ns p = .ok q) : q.warnings = p.warnings := by
  have hrun := (congruence_warnings p.warnings).printNodes (keptByProperties_strict setup p.warnings)
    ns (And.intro (Eq.refl p) rfl)
  rw [h] at hrun
  cases hrun with
  | ok hq => exact hq.2

end Printer

/-! ## Conversions -/

namespace PrintSetup

/-- The header depends on the lenient mode as little as it gives warnings. -/
theorem header_withLenient (setup : PrintSetup) (lenient : Bool) :
    Agree (fun p q => p = q ∧ p.warnings = []) (setup.withLenient lenient).header setup.header :=
  (Printer.congruence_warnings []).header rfl rfl rfl ⟨rfl, rfl⟩

/-- Whether printing fails, and how, does not depend on the lenient mode. -/
theorem failure?_generate_withLenient (setup : PrintSetup) (lenient : Bool) (sheet : Stylesheet) :
    failure? ((setup.withLenient lenient).generate sheet) = failure? (setup.generate sheet) := by
  have hheader := ((setup.header_withLenient lenient).mono fun _ _ h => h.1).eq
  rw [failure?_generate, failure?_generate, hheader]

theorem generate_lenient (setup : PrintSetup) (sheet : Stylesheet) :
    Agree (fun lenient strict =>
        strict.warnings = [] ∧ lenient = ⟨strict.gss, setup.warningsFor sheet.declarations⟩)
      ((setup.withLenient true).generate sheet)
      ((setup.withLenient false).generate (sheet.prune setup.kept)) := by
  have hstrict := ((setup.header_withLenient false).mono fun _ _ h => h.1).eq
  rw [generate_eq, generate_eq, hstrict]
  refine (setup.header_withLenient true).bind_of_ok ?_
  rintro p _ hp ⟨rfl, hquiet⟩
  have hposture := Printer.posture_header hp
  have hrun := (Printer.printsPruned setup sheet.nodes).nodes [] false (by rw [hposture])
    (by rw [hposture])
  rw [Printer.warn_nil] at hrun
  refine hrun.bind_of_ok ?_
  rintro _ q hq rfl
  have hnone := (Printer.warnings_printNodes_strict setup _ hq).trans hquiet
  refine .ok ⟨hnone, ?_⟩
  show Conversion.mk q.sink.buffer (q.warnings ++ _) = _
  rw [hnone]
  rfl

end PrintSetup

/-- **A lenient conversion is the strict conversion of what the checker accepts.** It fails with the
error of the strict conversion, or delivers the text that the strict conversion makes of the stylesheet
without the refused properties, and warns about each of these in document order. -/
theorem Converter.convert_lenient (layout : Layout) (names : Option NameTable) (checker : Checker)
    (sheet : Stylesheet) :
    (∃ e, Converter.convert ⟨⟨true, layout⟩, names, checker⟩ sheet = .error e ∧
      Converter.convert ⟨⟨false, layout⟩, names, checker⟩ sheet = .error e) ∨
    ∃ table gss out,
      Converter.namesFor ⟨⟨false, layout⟩, names, checker⟩ sheet.stripExternals.constants
        = .ok table ∧
      Converter.convert ⟨⟨true, layout⟩, names, checker⟩ sheet
        = .ok ⟨gss, sheet.declarations.filterMap (Property.warning? checker table)⟩ ∧
      Converter.convert ⟨⟨false, layout⟩, names, checker⟩
          (sheet.prune (Property.accepted checker table)) = .ok ⟨gss, []⟩ ∧
      Converter.convert ⟨⟨false, layout⟩, names, checker⟩ sheet = .ok out := by
  have hnames : Converter.namesFor ⟨⟨true, layout⟩, names, checker⟩ sheet.stripExternals.constants
      = Converter.namesFor ⟨⟨false, layout⟩, names, checker⟩ sheet.stripExternals.constants := rfl
  rw [Converter.convert_eq, Converter.convert_eq, hnames]
  cases htable : Converter.namesFor ⟨⟨false, layout⟩, names, checker⟩
      sheet.stripExternals.constants with
  | error e => exact .inl ⟨e, rfl, rfl⟩
  | ok table =>
      set setup : PrintSetup := Converter.setupFor ⟨⟨false, layout⟩, names, checker⟩ sheet table
      -- the conversion of the pruned stylesheet has the same names, externals and constants
      have hpruned : Converter.convert ⟨⟨false, layout⟩, names, checker⟩
            (sheet.prune (Property.accepted checker table))
          = (setup.withLenient false).generate (sheet.stripExternals.prune setup.kept) := by
        rw [Converter.convert_eq, Stylesheet.stripExternals_prune, Stylesheet.constants_prune, htable]
        show (Converter.setupFor _ _ table).generate _ = _
        unfold Converter.setupFor
        rw [Stylesheet.externals_prune, Stylesheet.stripExternals_prune, Stylesheet.constants_prune]
        rfl
      have hlenient := setup.generate_lenient sheet.stripExternals
      have hfail := setup.failure?_generate_withLenient true sheet.stripExternals
      rw [Stylesheet.declarations_stripExternals, ← hpruned] at hlenient
      cases hout : (setup.withLenient true).generate sheet.stripExternals with
      | error e =>
          rw [hout] at hfail
          exact .inl ⟨e, hout, failure?_eq_some_iff.mp hfail.symm⟩
      | ok lenient =>
          rw [hout] at hlenient hfail
          cases hstrict : setup.generate sheet.stripExternals with
          | error e =>
              rw [hstrict] at hfail
              cases hfail
          | ok out =>
              obtain ⟨⟨gss, _⟩, hgss, rfl, rfl⟩ := hlenient.exists_of_ok
              exact .inr ⟨table, gss, out, rfl, hout, hgss, hstrict⟩

end Restyle
