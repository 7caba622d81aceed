import Restyle.Converter
import Restyle.Proofs.Printing.Parts
import Mathlib.Tactic.Common

set_option autoImplicit false

/-! # Two printers side by side

Everything that a printer does to its output goes through six operations of the sink, and what it
does next depends on its flags only. A relation between two printers that implies equal flags and is
kept by these operations (`Printer.Congruence`) is therefore kept by the printing of a header. If the
printing of a single property keeps it too, the printing of every tree does: both printers fail with
the same error, or both succeed and are related again (`Congruence.printNodes`).
-/

namespace Restyle

/-! ## Results side by side -/

/-- Two results agree up to a relation: they are the same error, or both are values and related. -/
inductive Agree {α β : Type} (R : α → β → Prop) :
    Except ConversionError α → Except ConversionError β → Prop where
  | error (e : ConversionError) : Agree R (.error e) (.error e)
  | ok {a : α} {b : β} (h : R a b) : Agree R (.ok a) (.ok b)

namespace Agree

variable {α β γ δ : Type} {R : α → β → Prop} {S : γ → δ → Prop}

/-- One step behind another. -/
theorem bind {x : Except ConversionError α} {y : Except ConversionError β}
    {f : α → Except ConversionError γ} {g : β → Except ConversionError δ}
    (h : Agree R x y) (hfg : ∀ a b, R a b → Agree S (f a) (g b)) : Agree S (x >>= f) (y >>= g) := by
  cases h with
  | error e => exact .error e
  | ok h => exact hfg _ _ h

/-- One step behind another, which may rely on the success of the step before. -/
theorem bind_of_ok {x : Except ConversionError α} {y : Except ConversionError β}
    {f : α → Except ConversionError γ} {g : β → Except ConversionError δ}
    (h : Agree R x y) (hfg : ∀ a b, y = .ok b → R a b → Agree S (f a) (g b)) :
    Agree S (x >>= f) (y >>= g) := by
  cases h with
  | error e => exact .error e
  | ok h => exact hfg _ _ rfl h

/-- Beside a success stands a success. -/
theorem exists_of_ok {a : α} {y : Except ConversionError β} (h : Agree R (.ok a) y) :
    ∃ b, y = .ok b ∧ R a b := by
  cases h with
  | ok h => exact ⟨_, rfl, h⟩

theorem mono {R' : α → β → Prop} {x : Except ConversionError α} {y : Except ConversionError β}
    (h : Agree R x y) (hR : ∀ a b, R a b → R' a b) : Agree R' x y := by
  cases h with
  | error e => exact .error e
  | ok h => exact .ok (hR _ _ h)

theorem refl (x : Except ConversionError α) : Agree (fun a b => a = b) x x := by
  cases x with
  | error e => exact .error e
  | ok a => exact .ok rfl

/-- Results that agree up to equality are equal. -/
theorem eq {x y : Except ConversionError α} (h : Agree (fun a b => a = b) x y) : x = y := by
  cases h with
  | error e => rfl
  | ok h => rw [h]

end Agree

/-! ## Header and body -/

/-- Print what stands in front of the nodes. -/
def PrintSetup.header (setup : PrintSetup) : Except ConversionError Printer :=
  ((Printer.new setup.options.layout).printExternals setup.externals.toList).printConstants setup

/-- What a printer delivers. -/
def Printer.conversion (p : Printer) : Conversion := ⟨p.sink.buffer, p.warnings⟩

theorem PrintSetup.generate_eq (setup : PrintSetup) (sheet : Stylesheet) :
    setup.generate sheet
      = (setup.header >>= fun p => Printer.printNodes setup sheet.nodes p >>= fun p =>
          .ok p.conversion) := rfl

/-- The compact layout, with no constants and no external classes. -/
def PrintSetup.compact : PrintSetup := ⟨∅, ∅, [], ⟨false, .compact⟩, Declaration.check⟩

/-- A converter with derived names and compact output. -/
def Converter.compact : Converter := ⟨⟨false, .compact⟩, none, Declaration.check⟩

namespace Printer

/-! ## Relations that printing keeps -/

/-- A relation between printers that implies equal flags and is kept by each operation of the sink
and by a change of the flags. -/
structure Congruence (R : Printer → Printer → Prop) : Prop where
  flags_eq : ∀ {p q : Printer}, R p q → p.flags = q.flags
  setFlags : ∀ {p q : Printer} (f : Flags → Flags), R p q → R (p.setFlags f) (q.setFlags f)
  write : ∀ {p q : Printer} (text : String), R p q → R (p.print text) (q.print text)
  blank : ∀ {p q : Printer}, R p q →
    R (p.onSink (·.writeOptional " ")) (q.onSink (·.writeOptional " "))
  breakLine : ∀ {p q : Printer}, R p q → R p.breakLine q.breakLine
  breakLineOptional : ∀ {p q : Printer}, R p q → R p.breakLineOptional q.breakLineOptional
  indent : ∀ {p q : Printer}, R p q → R (p.onSink Sink.indent) (q.onSink Sink.indent)
  dedent : ∀ {p q : Printer}, R p q → R (p.onSink Sink.dedent) (q.onSink Sink.dedent)

/-- The printing of one property under two setups keeps a relation. -/
def KeptByProperties (R : Printer → Printer → Prop) (first second : PrintSetup) : Prop :=
  ∀ {p q : Printer} (property : Property), R p q →
    R (printProperty first p property) (printProperty second q property)

/-- From related states, two printers that print the same nodes, or the same branches, fail alike or come
to related states. -/
structure KeptByNodes (R : Printer → Printer → Prop) (first second : PrintSetup) (ns : List Node) :
    Prop where
  nodes : ∀ {p q : Printer}, R p q → Agree R (printNodes first ns p) (printNodes second ns q)
  branches : ∀ {p q : Printer}, R p q →
    Agree R (printBranches first ns p) (printBranches second ns q)

theorem KeptByProperties.printProperties {R : Printer → Printer → Prop} {first second : PrintSetup}
    (kept : KeptByProperties R first second) (properties : List Property) {p q : Printer}
    (h : R p q) : R (p.printProperties first properties) (q.printProperties second properties) := by
  induction properties generalizing p q with
  | nil => exact h
  | cons property rest ih => exact ih (kept property h)

namespace Congruence

variable {R : Printer → Printer → Prop}

section Steps

variable (cong : Congruence R) {p q : Printer}
include cong

/-! ### Punctuation -/

theorem openBrace (h : R p q) : R p.openBrace q.openBrace :=
  cong.indent (cong.breakLineOptional (cong.write _ (cong.blank h)))

theorem closeBrace (h : R p q) : R p.closeBrace q.closeBrace :=
  cong.breakLineOptional (cong.write _ (cong.dedent h))

theorem semicolon (h : R p q) : R p.semicolon q.semicolon :=
  cong.breakLineOptional (cong.write _ h)

theorem comma (h : R p q) : R p.comma q.comma := cong.blank (cong.write _ h)

/-- Both printers take the same branch of a test of their flags. -/
theorem ite (test : Flags → Bool) {p' q' : Printer} (h : R p q) (h' : R p' q') :
    R (if test p.flags then p' else p) (if test q.flags then q' else q) := by
  rw [← cong.flags_eq h]
  split
  · exact h'
  · exact h

theorem openPendingBrace (h : R p q) : R p.openPendingBrace q.openPendingBrace :=
  cong.ite (·.bracePending) h (cong.setFlags _ (cong.openBrace h))

/-! ### The header -/

theorem printNames (names : List String) (h : R p q) :
    R (names.foldl (fun p name => (p.print " ").print (printExternals.spelled name)) p)
      (names.foldl (fun p name => (p.print " ").print (printExternals.spelled name)) q) := by
  induction names generalizing p q with
  | nil => exact h
  | cons name rest ih => exact ih (cong.write _ (cong.write _ h))

theorem printExternals (names : List String) (h : R p q) :
    R (p.printExternals names) (q.printExternals names) := by
  unfold Printer.printExternals
  split
  · exact h
  · exact cong.semicolon (cong.printNames names (cong.write _ h))

section Header

variable {first second : PrintSetup} (hnames : first.names = second.names)
include hnames

theorem printConstant (decl : Constant) (h : R p q) :
    Agree R (Printer.printConstant first p decl) (Printer.printConstant second q decl) := by
  unfold Printer.printConstant
  rw [← hnames]
  cases first.names[decl.key]? with
  | none => exact .error _
  | some name => exact .ok (cong.semicolon (cong.write _ (cong.setFlags _ (cong.setFlags _ h))))

theorem printConstantList (decls : List Constant) (h : R p q) :
    Agree R (Printer.printConstantList first p decls)
      (Printer.printConstantList second q decls) := by
  induction decls generalizing p q with
  | nil => exact .ok h
  | cons decl rest ih => exact (cong.printConstant hnames decl h).bind fun _ _ => ih

theorem printConstants (hconstants : first.constants = second.constants) (h : R p q) :
    Agree R (p.printConstants first) (q.printConstants second) := by
  unfold Printer.printConstants
  rw [← hconstants]
  refine (cong.printConstantList hnames first.constants h).bind fun a b hab => .ok ?_
  split
  · exact hab
  · exact cong.breakLineOptional hab

end Header

/-! ### Rules -/

theorem printSelector (selector : Selector) (h : R p q) :
    R (p.printSelector selector) (q.printSelector selector) := by
  have hcomma := cong.ite (·.commaPending) h (cong.comma h)
  have hbreak := cong.ite (·.breakPending) hcomma (cong.breakLine hcomma)
  exact cong.write _ (cong.setFlags _ hbreak)

theorem printSelectors (selectors : List Selector) (h : R p q) :
    R (p.printSelectors selectors) (q.printSelectors selectors) := by
  induction selectors generalizing p q with
  | nil => exact h
  | cons selector rest ih => exact ih (cong.printSelector selector h)

theorem beginRule (h : R p q) : R p.beginRule q.beginRule := by
  unfold Printer.beginRule
  exact cong.setFlags _ (cong.ite (·.breakPending) h (cong.breakLineOptional h))

theorem endRule (h : R p q) : R p.endRule q.endRule :=
  cong.setFlags _ (cong.closeBrace (cong.openPendingBrace h))

theorem printMedia (queries : List String) (h : R p q) :
    R (p.printMedia queries) (q.printMedia queries) := by
  have hrest : ∀ (rest : List String) {p q : Printer}, R p q →
      R (rest.foldl (fun p medium => p.comma.print medium) p)
        (rest.foldl (fun p medium => p.comma.print medium) q) := by
    intro rest
    induction rest with
    | nil => intro p q h; exact h
    | cons medium rest ih => intro p q h; exact ih (cong.write _ (cong.comma h))
  cases queries with
  | nil => exact h
  | cons medium rest => exact hrest rest (cong.write _ (cong.write _ h))

theorem openConditional (keyword : String) (condition : Condition) (h : R p q) :
    Agree R (Printer.openConditional keyword condition p)
      (Printer.openConditional keyword condition q) := by
  unfold Printer.openConditional
  cases condition.text with
  | error fault => exact .error _
  | ok text => exact .ok (cong.setFlags _ (cong.openBrace (cong.write _ h)))

end Steps

/-! ### Nodes -/

variable {first second : PrintSetup}

theorem enter (cong : Congruence R) (kept : KeptByProperties R first second) (n : Node)
    {p q : Printer} (h : R p q) : Agree R (Printer.enter first n p) (Printer.enter second n q) := by
  cases n with
  | rule selectors properties =>
      have hselectors := cong.printSelectors selectors (cong.beginRule h)
      exact .ok (cong.endRule (kept.printProperties properties hselectors))
  | ifBlock condition _ _ => exact cong.openConditional "@if" condition (cong.breakLine h)
  | elseIf _ _ _ | elseBlock _ => exact .error _
  | media queries _ => exact .ok (cong.openBrace (cong.printMedia queries (cong.write "@media" h)))
  | page pseudoPage properties =>
      have hpage := cong.write "@page" h
      cases pseudoPage with
      | none => exact .ok (cong.closeBrace (kept.printProperties properties (cong.openBrace hpage)))
      | some pseudo =>
          have hpseudo := cong.write (" :" ++ pseudo) hpage
          exact .ok (cong.closeBrace (kept.printProperties properties (cong.openBrace hpseudo)))
  | fontFace properties =>
      have hopen := cong.openBrace (cong.write "@font-face" h)
      exact .ok (cong.closeBrace (kept.printProperties properties hopen))
  | sprite selectors resource properties =>
      have hopen := cong.openPendingBrace (cong.printSelectors selectors (cong.beginRule h))
      have hresource :=
        cong.semicolon (cong.write ("gwt-sprite: \"" ++ unescape resource ++ "\"") hopen)
      exact .ok (cong.endRule (kept.printProperties properties hresource))
  | noFlip _ => exact .ok (cong.setFlags _ h)
  | constant _ | external _ => exact .ok h
  | unknownAtRule rule => exact .ok (cong.breakLineOptional (cong.write rule h))

theorem leave (cong : Congruence R) (n : Node) {p q p' q' : Printer} (hstart : R p q)
    (h : R p' q') : R (Printer.leave p n p') (Printer.leave q n q') := by
  cases n with
  | ifBlock _ _ _ =>
      rw [Printer.leave, Printer.leave]
      exact cong.setFlags _ (cong.closeBrace h)
  | media _ _ => exact cong.closeBrace h
  | noFlip _ =>
      rw [Printer.leave, Printer.leave, cong.flags_eq hstart]
      exact cong.setFlags _ h
  | _ => exact h

theorem enterBranch (cong : Congruence R) (n : Node) {p q : Printer} (h : R p q) :
    Agree R (Printer.enterBranch n p) (Printer.enterBranch n q) := by
  cases n with
  | elseIf condition _ _ => exact cong.openConditional "@elseif" condition (cong.closeBrace h)
  | elseBlock _ =>
      exact .ok (cong.setFlags _ (cong.openBrace (cong.write "@else" (cong.closeBrace h))))
  | _ => exact .error _

theorem printInside {n : Node} (hbody : KeptByNodes R first second n.body)
    (hbranches : KeptByNodes R first second n.branches) {p q : Printer} (h : R p q) :
    Agree R (Printer.printInside first n p) (Printer.printInside second n q) :=
  (hbody.nodes h).bind fun _ _ h => hbranches.branches h

theorem keptByNodes (cong : Congruence R) (kept : KeptByProperties R first second) (ns : List Node) :
    KeptByNodes R first second ns := by
  induction ns using Node.parts_induction with
  | nil => exact ⟨.ok, .ok⟩
  | cons n rest hbody hbranches hrest =>
      refine ⟨fun {p q} hstart => ?_, fun {p q} h => ?_⟩
      · rw [printNodes_cons, printNodes_cons]
        refine (cong.enter kept n hstart).bind fun _ _ h => ?_
        refine (printInside hbody hbranches h).bind fun _ _ h => ?_
        exact hrest.nodes (cong.leave n hstart h)
      · rw [printBranches_cons, printBranches_cons]
        refine (cong.enterBranch n h).bind fun _ _ h => ?_
        exact (printInside hbody hbranches h).bind fun _ _ h => hrest.branches h

theorem printNodes (cong : Congruence R) (kept : KeptByProperties R first second) (ns : List Node)
    {p q : Printer} (h : R p q) :
    Agree R (Printer.printNodes first ns p) (Printer.printNodes second ns q) :=
  (cong.keptByNodes kept ns).nodes h

/-! ### Whole stylesheets -/

theorem header (cong : Congruence R) (hnames : first.names = second.names)
    (hexternals : first.externals = second.externals)
    (hconstants : first.constants = second.constants)
    (hnew : R (Printer.new first.options.layout) (Printer.new second.options.layout)) :
    Agree R first.header second.header := by
  unfold PrintSetup.header
  rw [← hexternals]
  exact cong.printConstants hnames hconstants (cong.printExternals first.externals.toList hnew)

/-- Two printers that start related deliver related conversions. -/
theorem generate (cong : Congruence R) (kept : KeptByProperties R first second)
    (hheader : Agree R first.header second.header) {S : Conversion → Conversion → Prop}
    (hS : ∀ p q : Printer, R p q → S p.conversion q.conversion) (sheet : Stylesheet) :
    Agree S (first.generate sheet) (second.generate sheet) := by
  rw [PrintSetup.generate_eq, PrintSetup.generate_eq]
  refine hheader.bind fun _ _ h => ?_
  exact (cong.printNodes kept sheet.nodes h).bind fun p q h => .ok (hS p q h)

end Congruence

end Printer

/-! ## Conversions as runs of a printer -/

/-- What stays the same while a converter prints a stylesheet. -/
def Converter.setupFor (converter : Converter) (sheet : Stylesheet) (names : NameTable) :
    PrintSetup where
  names := names
  externals := (ExternalClasses.ofStylesheet sheet).resolve
  constants := sheet.stripExternals.constants
  options := converter.options
  checker := converter.checker

theorem Converter.convert_eq (converter : Converter) (sheet : Stylesheet) :
    converter.convert sheet
      = (converter.namesFor sheet.stripExternals.constants >>= fun names =>
          (converter.setupFor sheet names).generate sheet.stripExternals) := rfl

end Restyle
