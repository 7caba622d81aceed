import Restyle.Proofs.Printing.Faults
import Restyle.Proofs.Printing.Posture

set_option autoImplicit false

/-! # The header

In front of the nodes stand a line with the external classes and a line for each constant. Nothing is
indented there, so in either layout the header is a plain function of what it lists
(`PrintSetup.headerText`). Its printing fails at the first constant without a name
(`PrintSetup.failure?_header`), and what is printed later only comes behind it
(`PrintSetup.exists_gss_eq`).
-/

namespace Restyle

/-- What stands at the end of a line that a layout may break. -/
def Layout.lineEnd : Layout → String
  | .pretty => "\n"
  | .compact => ""

/-! ## Sinks that do not indent -/

namespace Sink

/-- Nothing is indented: the layout is compact, or no block is open. -/
def Flush (s : Sink) : Prop := s.layout = .compact ∨ s.level = 0

theorem Flush.indentation_eq {s : Sink} (h : s.Flush) : s.indentation = "" := by
  rcases h with hcompact | hlevel
  · simp [indentation, isCompact, hcompact]
  · simp [indentation, hlevel]

@[simp] theorem layout_write (s : Sink) (text : String) : (s.write text).layout = s.layout := by
  unfold write
  split
  · rfl
  · rfl

@[simp] theorem layout_breakLineOptional (s : Sink) : s.breakLineOptional.layout = s.layout := by
  unfold breakLineOptional
  split
  · rfl
  · rfl

theorem Flush.write {s : Sink} (h : s.Flush) (text : String) : (s.write text).Flush := by
  unfold Flush
  rw [layout_write, Printer.level_write]
  exact h

theorem Flush.breakLineOptional {s : Sink} (h : s.Flush) : s.breakLineOptional.Flush := by
  unfold Flush
  rw [layout_breakLineOptional, Printer.level_breakLineOptional]
  exact h

/-- Without indentation a text is written as it is. -/
theorem Flush.buffer_write {s : Sink} (h : s.Flush) (text : String) :
    (s.write text).buffer = s.buffer ++ text := by
  unfold Sink.write
  by_cases hempty : text.isEmpty = true
  · have htext : text = "" := by simpa using hempty
    rw [if_pos hempty, htext, String.append_empty]
  · rw [if_neg hempty]
    show s.buffer ++ s.indentation ++ text = _
    rw [h.indentation_eq, String.append_empty]

theorem buffer_breakLineOptional (s : Sink) :
    s.breakLineOptional.buffer = s.buffer ++ s.layout.lineEnd := by
  unfold breakLineOptional isCompact
  cases hlayout : s.layout with
  | compact => simp [Layout.lineEnd]
  | pretty =>
      simp only [reduceCtorEq, decide_false, Bool.false_eq_true, if_false]
      exact String.push_eq_append '\n'

end Sink

namespace Printer

/-! ## What has been written between two states -/

/-- From `p` to `q` a printer that does not indent has written `text`. -/
structure Wrote (layout : Layout) (text : String) (p q : Printer) : Prop where
  flush : q.sink.Flush
  layout_eq : q.sink.layout = layout
  buffer_eq : q.sink.buffer = p.sink.buffer ++ text

namespace Wrote

variable {layout : Layout} {text : String} {p q r : Printer}

theorem start (hflush : p.sink.Flush) (hlayout : p.sink.layout = layout) : Wrote layout "" p p :=
  ⟨hflush, hlayout, String.append_empty.symm⟩

/-- The flags and the warnings are no part of the output. -/
theorem of_sink_eq (h : Wrote layout text p q) (hr : r.sink = q.sink) : Wrote layout text p r := by
  refine ⟨?_, ?_, ?_⟩
  · rw [hr]
    exact h.flush
  · rw [hr, h.layout_eq]
  · rw [hr, h.buffer_eq]

theorem setFlags (h : Wrote layout text p q) (f : Flags → Flags) :
    Wrote layout text p (q.setFlags f) := h.of_sink_eq rfl

theorem print (h : Wrote layout text p q) (more : String) :
    Wrote layout (text ++ more) p (q.print more) := by
  refine ⟨h.flush.write more, ?_, ?_⟩
  · exact (Sink.layout_write q.sink more).trans h.layout_eq
  · show (q.sink.write more).buffer = _
    rw [h.flush.buffer_write, h.buffer_eq, String.append_assoc]

theorem breakLineOptional (h : Wrote layout text p q) :
    Wrote layout (text ++ layout.lineEnd) p q.breakLineOptional := by
  refine ⟨h.flush.breakLineOptional, ?_, ?_⟩
  · exact (Sink.layout_breakLineOptional q.sink).trans h.layout_eq
  · show q.sink.breakLineOptional.buffer = _
    rw [Sink.buffer_breakLineOptional, h.layout_eq, h.buffer_eq, String.append_assoc]

theorem semicolon (h : Wrote layout text p q) :
    Wrote layout (text ++ ";" ++ layout.lineEnd) p q.semicolon :=
  (h.print ";").breakLineOptional

end Wrote

end Printer

/-! ## The text of the header -/

/-- The line of the external classes; there is none without classes. -/
def externalLine (layout : Layout) (names : List String) : String :=
  if names.isEmpty then ""
  else
    "@external" ++ String.join (names.map fun name => " " ++ Printer.printExternals.spelled name)
      ++ ";" ++ layout.lineEnd

/-- The line of a constant. -/
def Constant.line (layout : Layout) (names : NameTable) (decl : Constant) : String :=
  "@def " ++ names[decl.key]?.getD "" ++ " " ++ decl.text names (decl.kind = .url)
    ++ ";" ++ layout.lineEnd

/-- The lines of constants, with a line break behind them if there are any. -/
def Constant.lines (layout : Layout) (names : NameTable) (decls : List Constant) : String :=
  String.join (decls.map (Constant.line layout names))
    ++ if decls.isEmpty then "" else layout.lineEnd

/-- What stands in front of the nodes. -/
def PrintSetup.headerText (setup : PrintSetup) : String :=
  externalLine setup.options.layout setup.externals.toList
    ++ Constant.lines setup.options.layout setup.names setup.constants

namespace Printer

variable {layout : Layout} {text : String} {p q r : Printer}

theorem Wrote.printNames (names : List String) (h : Wrote layout text p q) :
    Wrote layout (text ++ String.join (names.map fun name => " " ++ printExternals.spelled name)) p
      (names.foldl (fun p name => (p.print " ").print (printExternals.spelled name)) q) := by
  induction names generalizing text q with
  | nil =>
      rw [List.map_nil, String.join_nil, String.append_empty]
      exact h
  | cons name rest ih =>
      have hrest := ih ((h.print " ").print (printExternals.spelled name))
      rw [List.map_cons, String.join_cons, ← String.append_assoc, ← String.append_assoc]
      exact hrest

theorem Wrote.printExternals (names : List String) (h : Wrote layout text p q) :
    Wrote layout (text ++ externalLine layout names) p (q.printExternals names) := by
  unfold Printer.printExternals externalLine
  by_cases hempty : names.isEmpty = true
  · rw [if_pos hempty, if_pos hempty, String.append_empty]
    exact h
  · rw [if_neg hempty, if_neg hempty]
    have hline := ((h.print "@external").printNames names).semicolon
    simpa only [String.append_assoc] using hline

/-- The address flag that is set for the values of a constant is the kind of the constant. -/
theorem Wrote.printConstant {setup : PrintSetup} {decl : Constant} (h : Wrote layout text p q)
    (hr : Printer.printConstant setup q decl = .ok r) :
    Wrote layout (text ++ decl.line layout setup.names) p r := by
  unfold Printer.printConstant at hr
  unfold Constant.line
  cases hname : setup.names[decl.key]? with
  | none =>
      rw [hname] at hr
      cases hr
  | some name =>
      rw [hname] at hr
      cases hr
      have hline := (((h.setFlags ({ · with inUrl := decl.kind = .url })).setFlags
        ({ · with inUrl := false })).print ("@def " ++ name ++ " "
          ++ decl.text setup.names (decl.kind = .url))).semicolon
      rw [← String.append_assoc, ← String.append_assoc]
      exact hline

theorem Wrote.printConstantList {setup : PrintSetup} (decls : List Constant)
    (h : Wrote layout text p q) (hr : Printer.printConstantList setup q decls = .ok r) :
    Wrote layout (text ++ String.join (decls.map (Constant.line layout setup.names))) p r := by
  induction decls generalizing text q with
  | nil =>
      cases hr
      rw [List.map_nil, String.join_nil, String.append_empty]
      exact h
  | cons decl rest ih =>
      obtain ⟨q₁, h₁, hr⟩ := ok_of_bind hr
      have hrest := ih (h.printConstant h₁) hr
      rw [List.map_cons, String.join_cons, ← String.append_assoc]
      exact hrest

theorem Wrote.printConstants {setup : PrintSetup} (h : Wrote layout text p q)
    (hr : q.printConstants setup = .ok r) :
    Wrote layout (text ++ Constant.lines layout setup.names setup.constants) p r := by
  obtain ⟨q₁, h₁, hr⟩ := ok_of_bind hr
  cases hr
  have hlist := h.printConstantList setup.constants h₁
  unfold Constant.lines
  by_cases hempty : setup.constants.isEmpty = true
  · rw [if_pos hempty, if_pos hempty, String.append_empty]
    exact hlist
  · rw [if_neg hempty, if_neg hempty, ← String.append_assoc]
    exact hlist.breakLineOptional

end Printer

/-- The header is what the two lists call for, in either layout. -/
theorem PrintSetup.wrote_header {setup : PrintSetup} {p : Printer} (h : setup.header = .ok p) :
    Printer.Wrote setup.options.layout setup.headerText (.new setup.options.layout) p := by
  have hstart : Printer.Wrote setup.options.layout "" (.new setup.options.layout)
      (.new setup.options.layout) := Printer.Wrote.start (Or.inr rfl) rfl
  have hheader := (hstart.printExternals setup.externals.toList).printConstants h
  rwa [String.empty_append] at hheader

/-! ## Where the header fails -/

/-- The first of some constants that has no name. -/
def Constant.unnamed? (names : NameTable) (decls : List Constant) : Option Constant :=
  decls.find? fun decl => names[decl.key]?.isNone

/-- The complaint about a constant without a name. -/
def Constant.complaint (decl : Constant) : ConversionError := .unknownConstant decl.kind decl.key

theorem Printer.failure?_printConstantList (setup : PrintSetup) (decls : List Constant)
    (p : Printer) :
    failure? (printConstantList setup p decls)
      = (Constant.unnamed? setup.names decls).map Constant.complaint := by
  induction decls generalizing p with
  | nil => rfl
  | cons decl rest ih =>
      rw [printConstantList, failure?_bind fun p => ih p]
      unfold Constant.unnamed? printConstant
      cases hname : setup.names[decl.key]? with
      | none => simp [hname, Constant.complaint]
      | some name => simp [hname]

/-- The header fails at the first constant that has no name. -/
theorem PrintSetup.failure?_header (setup : PrintSetup) :
    failure? setup.header
      = (Constant.unnamed? setup.names setup.constants).map Constant.complaint := by
  unfold header Printer.printConstants
  rw [failure?_bind fun _ => failure?_ok _, Printer.failure?_printConstantList, Option.or_none]

/-! ## Behind the header -/

namespace Sink

/-- A sink that has taken a text before everything else. -/
def behind (text : String) (s : Sink) : Sink := { s with buffer := text ++ s.buffer }

variable (text : String) (s : Sink)

theorem write_behind (more : String) : (s.behind text).write more = (s.write more).behind text := by
  unfold write
  by_cases hempty : more.isEmpty = true
  · rw [if_pos hempty, if_pos hempty]
  · rw [if_neg hempty, if_neg hempty]
    unfold behind
    rw [← String.append_assoc, ← String.append_assoc]
    rfl

theorem breakLine_behind : (s.behind text).breakLine = s.breakLine.behind text := by
  unfold breakLine behind
  rw [String.push_eq_append, String.push_eq_append, String.append_assoc]

theorem writeOptional_behind (more : String) :
    (s.behind text).writeOptional more = (s.writeOptional more).behind text := by
  unfold writeOptional
  rw [write_behind]
  exact (apply_ite (behind text) s.isCompact s (s.write more)).symm

theorem breakLineOptional_behind :
    (s.behind text).breakLineOptional = s.breakLineOptional.behind text := by
  unfold breakLineOptional
  rw [breakLine_behind]
  exact (apply_ite (behind text) s.isCompact s s.breakLine).symm

end Sink

namespace Printer

/-- A printer that has written a text before everything else. -/
def behind (text : String) (p : Printer) : Printer := p.onSink (Sink.behind text)

/-- What has been written before does not matter to a printer. -/
theorem congruence_behind (text : String) : Congruence fun p q => p = q.behind text where
  flags_eq := by rintro _ q rfl; rfl
  setFlags := by rintro _ q f rfl; rfl
  write := by
    rintro _ q more rfl
    exact congrArg (fun s => { q with sink := s }) (Sink.write_behind text q.sink more)
  blank := by
    rintro _ q rfl
    exact congrArg (fun s => { q with sink := s }) (Sink.writeOptional_behind text q.sink " ")
  breakLine := by
    rintro _ q rfl
    exact congrArg (fun s => { q with sink := s }) (Sink.breakLine_behind text q.sink)
  breakLineOptional := by
    rintro _ q rfl
    exact congrArg (fun s => { q with sink := s }) (Sink.breakLineOptional_behind text q.sink)
  indent := by rintro _ q rfl; rfl
  dedent := by rintro _ q rfl; rfl

theorem keptByProperties_behind (text : String) (setup : PrintSetup) :
    KeptByProperties (fun p q => p = q.behind text) setup setup := by
  rintro _ q property rfl
  have hopen := (congruence_behind text).openPendingBrace (Eq.refl (q.behind text))
  have hflags : (q.openPendingBrace.behind text).flags = q.openPendingBrace.flags := rfl
  have hprint : ∀ declaration : String,
      ((q.openPendingBrace.behind text).print declaration).semicolon
        = ((q.openPendingBrace.print declaration).semicolon).behind text := fun declaration =>
    (congruence_behind text).semicolon ((congruence_behind text).write declaration rfl)
  unfold printProperty
  simp only [hopen, hflags, hprint]
  split
  · split
    · rfl
    · rfl
  · rfl

/-- Nodes only add to the output. -/
theorem exists_buffer_eq {setup : PrintSetup} {ns : List Node} {p q : Printer}
    (h : printNodes setup ns p = .ok q) : ∃ rest, q.sink.buffer = p.sink.buffer ++ rest := by
  -- the same run from the same state, but with nothing written yet
  have hp : p = (p.onSink ({ · with buffer := "" })).behind p.sink.buffer := by
    simp [behind, onSink, Sink.behind]
  have hrun := (congruence_behind p.sink.buffer).printNodes
    (keptByProperties_behind p.sink.buffer setup) ns hp
  rw [h] at hrun
  obtain ⟨q', -, hq⟩ := hrun.exists_of_ok
  exact ⟨q'.sink.buffer, by rw [hq]; rfl⟩

end Printer

/-- Whatever is printed starts with the header. -/
theorem PrintSetup.exists_gss_eq {setup : PrintSetup} {sheet : Stylesheet} {conversion : Conversion}
    (h : setup.generate sheet = .ok conversion) :
    ∃ rest, conversion.gss = setup.headerText ++ rest := by
  rw [generate_eq] at h
  obtain ⟨p, hp, h⟩ := ok_of_bind h
  obtain ⟨q, hq, h⟩ := ok_of_bind h
  cases h
  obtain ⟨rest, hrest⟩ := Printer.exists_buffer_eq hq
  have hheader : p.sink.buffer = setup.headerText := by
    rw [(wrote_header hp).buffer_eq]
    exact String.empty_append
  exact ⟨rest, by rw [← hheader]; exact hrest⟩

end Restyle
