import Restyle.Proofs.Printing.Simulation

set_option autoImplicit false

/-! # What a node leaves as it was

Between two nodes no brace is owed. A node that is printed from such a state ends in such a state, and
the level of indentation and the flags for addresses and for direction are what they were
(`Printer.posture_printNode`). Blocks change them on the way, and each block takes its changes back.
-/

namespace Restyle.Printer

/-- What a node may change while it is printed, but not on the whole. -/
structure Posture where
  bracePending : Bool
  inUrl : Bool
  noFlip : Bool
  level : Nat
deriving DecidableEq, Repr

/-- The posture of a printer. -/
def posture (p : Printer) : Posture :=
  ⟨p.flags.bracePending, p.flags.inUrl, p.flags.noFlip, p.sink.level⟩

/-! ## Text and punctuation -/

theorem level_write (s : Sink) (text : String) : (s.write text).level = s.level := by
  unfold Sink.write
  split
  · rfl
  · rfl

theorem level_writeOptional (s : Sink) (text : String) :
    (s.writeOptional text).level = s.level := by
  unfold Sink.writeOptional
  split
  · rfl
  · exact level_write s text

theorem level_breakLineOptional (s : Sink) : s.breakLineOptional.level = s.level := by
  unfold Sink.breakLineOptional
  split
  · rfl
  · rfl

/-- An operation of the sink shows in the level only. -/
theorem posture_onSink (p : Printer) (f : Sink → Sink) :
    (p.onSink f).posture = { p.posture with level := (f p.sink).level } := rfl

@[simp] theorem posture_print (p : Printer) (text : String) : (p.print text).posture = p.posture := by
  rw [print, posture_onSink, level_write]
  rfl

@[simp] theorem posture_breakLine (p : Printer) : p.breakLine.posture = p.posture := rfl

@[simp] theorem posture_breakLineOptional (p : Printer) : p.breakLineOptional.posture = p.posture := by
  rw [breakLineOptional, posture_onSink, level_breakLineOptional]
  rfl

@[simp] theorem posture_openBrace (p : Printer) :
    p.openBrace.posture = { p.posture with level := p.posture.level + 1 } := by
  rw [openBrace, posture_onSink]
  simp only [Sink.indent, level_breakLineOptional, level_write, level_writeOptional]
  rfl

@[simp] theorem posture_closeBrace (p : Printer) :
    p.closeBrace.posture = { p.posture with level := p.posture.level - 1 } := by
  rw [closeBrace, posture_onSink]
  simp only [level_breakLineOptional, level_write, Sink.dedent]
  rfl

@[simp] theorem posture_semicolon (p : Printer) : p.semicolon.posture = p.posture := by
  rw [semicolon, posture_onSink, level_breakLineOptional, level_write]
  rfl

@[simp] theorem posture_comma (p : Printer) : p.comma.posture = p.posture := by
  rw [comma, posture_onSink, level_writeOptional, level_write]
  rfl

/-- No brace is owed behind `openPendingBrace`. -/
theorem posture_openPendingBrace (p : Printer) :
    p.openPendingBrace.posture
      = { p.posture with
          bracePending := false
          level := p.posture.level + if p.posture.bracePending then 1 else 0 } := by
  unfold openPendingBrace
  by_cases h : p.flags.bracePending = true
  · rw [if_pos h, if_pos (show p.posture.bracePending = true from h)]
    show { p.openBrace.posture with bracePending := false } = _
    rw [posture_openBrace]
  · rw [if_neg h, if_neg (show ¬ p.posture.bracePending = true from h)]
    have hfalse : p.posture.bracePending = false := Bool.eq_false_iff.mpr h
    rw [← hfalse]
    rfl

/-- Where no brace is owed, there is nothing to open. -/
theorem openPendingBrace_of_settled {p : Printer} (h : p.posture.bracePending = false) :
    p.openPendingBrace = p := if_neg (by simpa [posture] using h)

theorem noFlip_openPendingBrace (p : Printer) :
    p.openPendingBrace.flags.noFlip = p.flags.noFlip :=
  congrArg Posture.noFlip (posture_openPendingBrace p)

/-! ## The header -/

theorem posture_printExternals (names : List String) (p : Printer) :
    (p.printExternals names).posture = p.posture := by
  have hnames : ∀ (names : List String) (p : Printer),
      (names.foldl (fun p name => (p.print " ").print (printExternals.spelled name)) p).posture
        = p.posture := by
    intro names
    induction names with
    | nil => intro p; rfl
    | cons name rest ih => intro p; rw [List.foldl_cons, ih, posture_print, posture_print]
  unfold printExternals
  split
  · rfl
  · rw [posture_semicolon, hnames, posture_print]

theorem posture_printConstant {setup : PrintSetup} {decl : Constant} {p q : Printer}
    (h : p.posture.inUrl = false) (hq : printConstant setup p decl = .ok q) :
    q.posture = p.posture := by
  unfold printConstant at hq
  split at hq
  · cases hq
  · cases hq
    rw [posture_semicolon, posture_print, ← h]
    rfl

theorem posture_printConstantList {setup : PrintSetup} (decls : List Constant) {p q : Printer}
    (h : p.posture.inUrl = false) (hq : printConstantList setup p decls = .ok q) :
    q.posture = p.posture := by
  induction decls generalizing p with
  | nil =>
      cases hq
      rfl
  | cons decl rest ih =>
      obtain ⟨p₁, h₁, hq⟩ := ok_of_bind hq
      have e₁ := posture_printConstant h h₁
      rw [ih (by rw [e₁, h]) hq, e₁]

theorem posture_printConstants {setup : PrintSetup} {p q : Printer}
    (h : p.posture.inUrl = false) (hq : p.printConstants setup = .ok q) : q.posture = p.posture := by
  obtain ⟨p₁, h₁, hq⟩ := ok_of_bind hq
  cases hq
  rw [← posture_printConstantList setup.constants h h₁]
  split
  · rfl
  · exact posture_breakLineOptional p₁

/-- Behind the header no brace is owed and no block is open. -/
theorem posture_header {setup : PrintSetup} {p : Printer} (h : setup.header = .ok p) :
    p.posture = ⟨false, false, false, 0⟩ := by
  have hnew : ((Printer.new setup.options.layout).printExternals setup.externals.toList).posture
      = ⟨false, false, false, 0⟩ := by
    rw [posture_printExternals]
    rfl
  rw [posture_printConstants (by rw [hnew]) h, hnew]

/-! ## Rules -/

/-- A property is printed behind the brace that may be owed. -/
theorem posture_printProperty (setup : PrintSetup) (p : Printer) (property : Property) :
    (printProperty setup p property).posture = p.openPendingBrace.posture := by
  unfold printProperty
  simp only
  split
  · split
    · rw [posture_semicolon, posture_print]
    · rfl
  · rw [posture_semicolon, posture_print]

theorem posture_printProperties (setup : PrintSetup) (properties : List Property) {p : Printer}
    (h : p.posture.bracePending = false) :
    (p.printProperties setup properties).posture = p.posture := by
  induction properties generalizing p with
  | nil => rfl
  | cons property rest ih =>
      have hone : (printProperty setup p property).posture = p.posture := by
        rw [posture_printProperty, openPendingBrace_of_settled h]
      show (printProperties setup (printProperty setup p property) rest).posture = _
      rw [ih (by rw [hone, h]), hone]

/-- Whether or not a brace is owed in front of the properties, none is owed behind them once it has
been opened. -/
theorem posture_openPendingBrace_printProperties (setup : PrintSetup) (properties : List Property)
    (p : Printer) :
    (p.printProperties setup properties).openPendingBrace.posture = p.openPendingBrace.posture := by
  cases properties with
  | nil => rfl
  | cons property rest =>
      have hone := posture_printProperty setup p property
      have hsettled : (printProperty setup p property).posture.bracePending = false := by
        rw [hone, posture_openPendingBrace]
      show (printProperties setup (printProperty setup p property) rest).openPendingBrace.posture = _
      have hrest := posture_printProperties setup rest hsettled
      rw [openPendingBrace_of_settled (by rw [hrest, hsettled]), hrest, hone]

/-- Opening the brace early does not show once it has been opened at the latest. -/
theorem openPendingBrace_printProperties (setup : PrintSetup) (properties : List Property)
    (p : Printer) :
    (p.openPendingBrace.printProperties setup properties).openPendingBrace
      = (p.printProperties setup properties).openPendingBrace := by
  have hsettled : p.openPendingBrace.posture.bracePending = false := by
    rw [posture_openPendingBrace]
  have htwice := openPendingBrace_of_settled hsettled
  cases properties with
  | nil => exact htwice
  | cons property rest =>
      have hone : printProperty setup p.openPendingBrace property = printProperty setup p property := by
        unfold printProperty
        rw [htwice]
      show (printProperties setup (printProperty setup p.openPendingBrace property) rest).openPendingBrace
        = _
      rw [hone]
      rfl

theorem posture_printSelectors (selectors : List Selector) (p : Printer) :
    (p.printSelectors selectors).posture = p.posture := by
  induction selectors generalizing p with
  | nil => rfl
  | cons selector rest ih =>
      show (printSelectors (p.printSelector selector) rest).posture = _
      rw [ih, printSelector, posture_print]
      show (if _ then _ else _ : Printer).posture = _
      split_ifs <;> simp

theorem posture_beginRule (p : Printer) :
    p.beginRule.posture = { p.posture with bracePending := true } := by
  unfold beginRule
  show { (if _ then _ else _ : Printer).posture with bracePending := true } = _
  split_ifs <;> simp

theorem posture_endRule (p : Printer) :
    p.endRule.posture
      = { p.openPendingBrace.posture with level := p.openPendingBrace.posture.level - 1 } :=
  posture_closeBrace p.openPendingBrace

theorem posture_printMedia (queries : List String) (p : Printer) :
    (p.printMedia queries).posture = p.posture := by
  have hrest : ∀ (rest : List String) (p : Printer),
      (rest.foldl (fun p medium => p.comma.print medium) p).posture = p.posture := by
    intro rest
    induction rest with
    | nil => intro p; rfl
    | cons medium rest ih => intro p; rw [List.foldl_cons, ih, posture_print, posture_comma]
  cases queries with
  | nil => rfl
  | cons medium rest => rw [printMedia, hrest, posture_print, posture_print]

theorem posture_openConditional {keyword : String} {condition : Condition} {p q : Printer}
    (h : openConditional keyword condition p = .ok q) :
    q.posture = { p.posture with level := p.posture.level + 1 } := by
  unfold openConditional at h
  split at h
  · cases h
  · cases h
    show ((p.print _).openBrace).posture = _
    rw [posture_openBrace, posture_print]

/-- The `@else` of a branch closes one block and opens another. -/
theorem posture_openElse (p : Printer) :
    ((p.closeBrace.print "@else").openBrace.setFlags ({ · with breakPending := false })).posture
      = { p.posture with level := p.posture.level - 1 + 1 } := by
  show (p.closeBrace.print "@else").openBrace.posture = _
  rw [posture_openBrace, posture_print, posture_closeBrace]

/-! ## Nodes -/

/-- A block that is opened, filled with properties and closed. -/
theorem posture_block (setup : PrintSetup) (properties : List Property) {p : Printer}
    (h : p.posture.bracePending = false) :
    (p.openBrace.printProperties setup properties).closeBrace.posture = p.posture := by
  have hopen : p.openBrace.posture.bracePending = false := by rw [posture_openBrace, h]
  rw [posture_closeBrace, posture_printProperties setup properties hopen, posture_openBrace]
  rfl

/-- A rule from its beginning to its end, with what `q` has printed in between. -/
theorem posture_rule (setup : PrintSetup) (properties : List Property) {p q : Printer}
    (hq : q.openPendingBrace.posture = { p.posture with level := p.posture.level + 1 }) :
    (q.printProperties setup properties).endRule.posture = p.posture := by
  rw [posture_endRule, posture_openPendingBrace_printProperties, hq]
  rfl

theorem posture_openPendingBrace_beginRule (selectors : List Selector) {p : Printer}
    (h : p.posture.bracePending = false) :
    (p.beginRule.printSelectors selectors).openPendingBrace.posture
      = { p.posture with level := p.posture.level + 1 } := by
  rw [posture_openPendingBrace, posture_printSelectors, posture_beginRule, ← h]
  rfl

/-- The posture in which the body of a node is printed. -/
def Posture.inside (s : Posture) : Node → Posture
  | .ifBlock .. => { s with level := s.level + 1 }
  | .media .. => { s with level := s.level + 1 }
  | .noFlip _ => { s with noFlip := true }
  | _ => s

@[simp] theorem Posture.bracePending_inside (s : Posture) (n : Node) :
    (s.inside n).bracePending = s.bracePending := by
  cases n <;> rfl

@[simp] theorem Posture.noFlip_inside (s : Posture) (n : Node) :
    (s.inside n).noFlip = n.fixes s.noFlip := by
  cases n <;> rfl

theorem posture_enter {setup : PrintSetup} {n : Node} {p q : Printer}
    (h : p.posture.bracePending = false) (hq : enter setup n p = .ok q) :
    q.posture = p.posture.inside n := by
  cases n with
  | rule selectors properties =>
      cases hq
      exact posture_rule setup properties (posture_openPendingBrace_beginRule selectors h)
  | ifBlock condition _ _ => exact posture_openConditional (p := p.breakLine) hq
  | elseIf _ _ _ | elseBlock _ => cases hq
  | media queries _ =>
      cases hq
      rw [posture_openBrace, posture_printMedia, posture_print]
      rfl
  | page pseudoPage properties =>
      cases pseudoPage with
      | none =>
          cases hq
          have hpage := posture_print p "@page"
          exact (posture_block setup properties (by rw [hpage, h])).trans hpage
      | some pseudo =>
          cases hq
          have hpage : ((p.print "@page").print (" :" ++ pseudo)).posture = p.posture := by
            rw [posture_print, posture_print]
          exact (posture_block setup properties (by rw [hpage, h])).trans hpage
  | fontFace properties =>
      cases hq
      have hface := posture_print p "@font-face"
      exact (posture_block setup properties (by rw [hface, h])).trans hface
  | sprite selectors resource properties =>
      cases hq
      -- The resource is printed as a first property, so that the brace is no longer owed.
      have hopen := posture_openPendingBrace_beginRule selectors h
      refine posture_rule setup properties ?_
      rw [openPendingBrace_of_settled, posture_semicolon, posture_print, hopen]
      rw [posture_semicolon, posture_print, hopen, h]
  | noFlip _ | constant _ | external _ =>
      cases hq
      rfl
  | unknownAtRule rule =>
      cases hq
      rw [posture_breakLineOptional, posture_print]
      rfl

/-- Where a node has branches, a block is open behind its body. -/
theorem level_enter_pos {setup : PrintSetup} {n : Node} {p q : Printer}
    (h : p.posture.bracePending = false) (hq : enter setup n p = .ok q) (hn : n.branches ≠ []) :
    0 < q.posture.level := by
  rw [posture_enter h hq]
  cases n with
  | ifBlock _ _ _ => exact Nat.succ_pos _
  | elseIf _ _ _ => cases hq
  | _ => exact absurd rfl hn

theorem posture_leave {n : Node} {p q : Printer} (h : q.posture = p.posture.inside n) :
    (leave p n q).posture = p.posture := by
  cases n with
  | ifBlock _ _ _ =>
      show q.closeBrace.posture = _
      rw [posture_closeBrace, h]
      rfl
  | media _ _ =>
      rw [leave, posture_closeBrace, h]
      rfl
  | noFlip _ =>
      show { q.posture with noFlip := p.flags.noFlip } = _
      rw [h]
      rfl
  | _ => exact h

/-- A branch closes one block and opens another. -/
theorem posture_enterBranch {n : Node} {p q : Printer} (hlevel : 0 < p.posture.level)
    (hq : enterBranch n p = .ok q) : q.posture = p.posture := by
  cases n with
  | elseIf condition _ _ =>
      rw [posture_openConditional hq, posture_closeBrace, Nat.sub_add_cancel hlevel]
  | elseBlock _ =>
      cases hq
      rw [posture_openElse, Nat.sub_add_cancel hlevel]
  | _ => cases hq

theorem fixes_of_enterBranch {n : Node} {p q : Printer} (hq : enterBranch n p = .ok q)
    (fixed : Bool) : n.fixes fixed = fixed := by
  cases n with
  | elseIf _ _ _ | elseBlock _ => rfl
  | _ => cases hq

/-- Nodes leave the posture of the printer as it was, and so do branches. A list of branches starts
inside the block that its first member closes, hence the level. -/
structure KeepsPosture (setup : PrintSetup) (ns : List Node) : Prop where
  nodes : ∀ {p q : Printer}, p.posture.bracePending = false → printNodes setup ns p = .ok q →
    q.posture = p.posture
  branches : ∀ {p q : Printer}, p.posture.bracePending = false → (ns ≠ [] → 0 < p.posture.level) →
    printBranches setup ns p = .ok q → q.posture = p.posture

theorem KeepsPosture.printInside {setup : PrintSetup} {n : Node} {p q : Printer}
    (hbody : KeepsPosture setup n.body) (hbranches : KeepsPosture setup n.branches)
    (h : p.posture.bracePending = false) (hlevel : n.branches ≠ [] → 0 < p.posture.level)
    (hq : printInside setup n p = .ok q) : q.posture = p.posture := by
  obtain ⟨p₁, h₁, hq⟩ := ok_of_bind hq
  have e₁ := hbody.nodes h h₁
  rw [hbranches.branches (by rw [e₁, h]) (by rwa [e₁]) hq, e₁]

theorem keepsPosture (setup : PrintSetup) (ns : List Node) : KeepsPosture setup ns := by
  induction ns using Node.parts_induction with
  | nil =>
      refine ⟨fun _ hq => ?_, fun _ _ hq => ?_⟩
      · cases hq
        rfl
      · cases hq
        rfl
  | cons n rest hbody hbranches hrest =>
      refine ⟨fun {p q} h hq => ?_, fun {p q} h hlevel hq => ?_⟩
      · obtain ⟨p₁, p₂, h₁, h₂, hq⟩ := exists_of_printNodes_cons hq
        have e₁ := posture_enter h h₁
        have e₂ := hbody.printInside hbranches (by rw [e₁, Posture.bracePending_inside, h])
          (level_enter_pos h h₁) h₂
        have e₃ := posture_leave (e₂.trans e₁)
        rw [hrest.nodes (by rw [e₃, h]) hq, e₃]
      · have hopen := hlevel (List.cons_ne_nil n rest)
        obtain ⟨p₁, p₂, h₁, h₂, hq⟩ := exists_of_printBranches_cons hq
        have e₁ := posture_enterBranch hopen h₁
        have e₂ := hbody.printInside hbranches (by rw [e₁, h]) (fun _ => by rwa [e₁]) h₂
        rw [hrest.branches (by rw [e₂, e₁, h]) (fun _ => by rwa [e₂, e₁]) hq, e₂, e₁]

theorem posture_printInside {setup : PrintSetup} {n : Node} {p q : Printer}
    (h : p.posture.bracePending = false) (hlevel : n.branches ≠ [] → 0 < p.posture.level)
    (hq : printInside setup n p = .ok q) : q.posture = p.posture :=
  (keepsPosture setup n.body).printInside (keepsPosture setup n.branches) h hlevel hq

theorem posture_printNodes (setup : PrintSetup) (ns : List Node) {p q : Printer}
    (h : p.posture.bracePending = false) (hq : printNodes setup ns p = .ok q) :
    q.posture = p.posture := (keepsPosture setup ns).nodes h hq

theorem posture_printBranches (setup : PrintSetup) (bs : List Node) {p q : Printer}
    (h : p.posture.bracePending = false) (hlevel : bs ≠ [] → 0 < p.posture.level)
    (hq : printBranches setup bs p = .ok q) : q.posture = p.posture :=
  (keepsPosture setup bs).branches h hlevel hq

theorem posture_printNode (setup : PrintSetup) (n : Node) {p q : Printer}
    (h : p.posture.bracePending = false) (hq : printNode setup n p = .ok q) :
    q.posture = p.posture :=
  posture_printNodes setup [n] h (by rw [printNodes, hq]; rfl)

end Restyle.Printer
