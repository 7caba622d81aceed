import Restyle.Proofs.Printing.Simulation

set_option autoImplicit false

/-! # The two layouts

The compact layout leaves out optional blanks and line breaks and the indentation, and nothing else.
`Thinned` says what that means for two texts, `Printer.Thins` carries it through a run of two
printers, and `Converter.agree_layouts` states it for conversions: they fail together, warn alike,
and deliver texts that differ in blanks and line breaks only.
-/

namespace Restyle

/-! ## Deleting blanks from a text -/

/-- The characters in which the two layouts may differ. -/
def isLayoutBlank (c : Char) : Bool := c == ' ' || c == '\n'

/-- `short` is what is left of `long` when some of its blanks and line breaks are deleted: a
subsequence of it that has all the other characters. -/
structure Thinned (short long : String) : Prop where
  sublist : short.toList.Sublist long.toList
  solid_eq : short.toList.filter (!isLayoutBlank ·) = long.toList.filter (!isLayoutBlank ·)

namespace Thinned

variable {short long : String}

theorem empty : Thinned "" "" := ⟨.refl _, rfl⟩

/-- The same text behind both. -/
theorem append (h : Thinned short long) (text : String) :
    Thinned (short ++ text) (long ++ text) := by
  refine ⟨?_, ?_⟩
  · rw [String.toList_append, String.toList_append]
    exact h.sublist.append (.refl _)
  · rw [String.toList_append, String.toList_append, List.filter_append, List.filter_append,
      h.solid_eq]

/-- Blanks and line breaks behind the longer text only. -/
theorem append_right (h : Thinned short long) {blanks : String}
    (hblanks : ∀ c ∈ blanks.toList, isLayoutBlank c = true) : Thinned short (long ++ blanks) := by
  have hnone : blanks.toList.filter (!isLayoutBlank ·) = [] := by
    rw [List.filter_eq_nil_iff]
    intro c hc
    simp [hblanks c hc]
  refine ⟨?_, ?_⟩
  · rw [String.toList_append]
    exact h.sublist.trans (List.sublist_append_left _ _)
  · rw [String.toList_append, List.filter_append, hnone, List.append_nil, h.solid_eq]

end Thinned

/-! ## Two sinks -/

/-- A compact sink beside a pretty one, with the same text up to blanks. -/
structure Sink.Thins (c p : Sink) : Prop where
  compact : c.layout = .compact
  pretty : p.layout = .pretty
  buffer : Thinned c.buffer p.buffer

namespace Sink.Thins

variable {c p : Sink}

theorem indentation_compact (h : Sink.Thins c p) : c.indentation = "" := by
  simp [Sink.indentation, Sink.isCompact, h.compact]

theorem indentation_pretty (p : Sink) : ∀ x ∈ p.indentation.toList, isLayoutBlank x = true := by
  intro x hx
  unfold Sink.indentation at hx
  split at hx
  · rw [String.toList_ofList, List.mem_replicate] at hx
    rw [hx.2]
    rfl
  · simp at hx

/-- The indentation goes to the pretty text alone, and the text itself to both. -/
theorem write (h : Sink.Thins c p) (text : String) : Sink.Thins (c.write text) (p.write text) := by
  unfold Sink.write
  split
  · exact h
  · refine ⟨h.compact, h.pretty, ?_⟩
    show Thinned (c.buffer ++ c.indentation ++ text) (p.buffer ++ p.indentation ++ text)
    rw [h.indentation_compact, String.append_empty]
    exact (h.buffer.append_right (indentation_pretty p)).append text

theorem blank (h : Sink.Thins c p) : Sink.Thins (c.writeOptional " ") (p.writeOptional " ") := by
  have hc : c.writeOptional " " = c := by simp [Sink.writeOptional, Sink.isCompact, h.compact]
  have hp : p.writeOptional " " = p.write " " := by
    simp [Sink.writeOptional, Sink.isCompact, h.pretty]
  rw [hc, hp]
  refine ⟨h.compact, h.pretty, ?_⟩
  show Thinned c.buffer (p.buffer ++ p.indentation ++ " ")
  refine (h.buffer.append_right (indentation_pretty p)).append_right ?_
  intro x hx
  rw [List.mem_singleton.mp hx]
  rfl

theorem breakLine (h : Sink.Thins c p) : Sink.Thins c.breakLine p.breakLine := by
  refine ⟨h.compact, h.pretty, ?_⟩
  show Thinned (c.buffer.push '\n') (p.buffer.push '\n')
  rw [String.push_eq_append, String.push_eq_append]
  exact h.buffer.append _

theorem breakLineOptional (h : Sink.Thins c p) :
    Sink.Thins c.breakLineOptional p.breakLineOptional := by
  have hc : c.breakLineOptional = c := by
    simp [Sink.breakLineOptional, Sink.isCompact, h.compact]
  have hp : p.breakLineOptional = p.breakLine := by
    simp [Sink.breakLineOptional, Sink.isCompact, h.pretty]
  rw [hc, hp]
  refine ⟨h.compact, h.pretty, ?_⟩
  show Thinned c.buffer (p.buffer.push '\n')
  rw [String.push_eq_append]
  refine h.buffer.append_right ?_
  intro x hx
  rw [List.mem_singleton.mp hx]
  rfl

end Sink.Thins

/-! ## Two printers -/

/-- A compact printer beside a pretty one: the same flags and warnings, and the same text up to
blanks. The levels of indentation and the starts of lines need not agree. -/
structure Printer.Thins (c p : Printer) : Prop where
  sink : Sink.Thins c.sink p.sink
  flags : c.flags = p.flags
  warnings : c.warnings = p.warnings

namespace Printer.Thins

variable {c p : Printer}

theorem new : Printer.Thins (.new .compact) (.new .pretty) := ⟨⟨rfl, rfl, .empty⟩, rfl, rfl⟩

theorem onSink (h : Printer.Thins c p) {f : Sink → Sink} (hf : Sink.Thins (f c.sink) (f p.sink)) :
    Printer.Thins (c.onSink f) (p.onSink f) := ⟨hf, h.flags, h.warnings⟩

theorem congruence : Congruence Printer.Thins where
  flags_eq h := h.flags
  setFlags f h := ⟨h.sink, congrArg f h.flags, h.warnings⟩
  write text h := h.onSink (h.sink.write text)
  blank h := h.onSink h.sink.blank
  breakLine h := h.onSink h.sink.breakLine
  breakLineOptional h := h.onSink h.sink.breakLineOptional
  indent h := h.onSink ⟨h.sink.compact, h.sink.pretty, h.sink.buffer⟩
  dedent h := h.onSink ⟨h.sink.compact, h.sink.pretty, h.sink.buffer⟩

/-- Both printers form the same text of a property and ask the same checker about it. -/
theorem keptByProperties {first second : PrintSetup} (hnames : first.names = second.names)
    (hlenient : first.options.lenient = second.options.lenient)
    (hchecker : first.checker = second.checker) :
    KeptByProperties Printer.Thins first second := by
  intro c p property h
  have hopen := congruence.openPendingBrace h
  have hprint : ∀ text : String,
      Printer.Thins ((c.openPendingBrace.print text).semicolon)
        ((p.openPendingBrace.print text).semicolon) :=
    fun text => congruence.semicolon (congruence.write text hopen)
  unfold printProperty
  simp only [← hnames, ← hlenient, ← hchecker, ← hopen.flags]
  split
  · split
    · exact hprint _
    · exact ⟨hopen.sink, rfl, congrArg (· ++ _) hopen.warnings⟩
  · exact hprint _

end Printer.Thins

/-! ## Conversions -/

/-- **The layouts differ in blanks only.** A compact and a pretty conversion of the same stylesheet
fail with the same error, or both succeed with the same warnings, and then the compact text is the
pretty one without some of its blanks and line breaks. -/
theorem Converter.agree_layouts (lenient : Bool) (names : Option NameTable) (checker : Checker)
    (sheet : Stylesheet) :
    Agree (fun compact pretty : Conversion =>
        compact.warnings = pretty.warnings ∧ Thinned compact.gss pretty.gss)
      (Converter.convert ⟨⟨lenient, .compact⟩, names, checker⟩ sheet)
      (Converter.convert ⟨⟨lenient, .pretty⟩, names, checker⟩ sheet) := by
  rw [Converter.convert_eq, Converter.convert_eq]
  refine (Agree.refl (Converter.namesFor _ sheet.stripExternals.constants)).bind ?_
  rintro table _ rfl
  have hkept : Printer.KeptByProperties Printer.Thins
      (Converter.setupFor ⟨⟨lenient, .compact⟩, names, checker⟩ sheet table)
      (Converter.setupFor ⟨⟨lenient, .pretty⟩, names, checker⟩ sheet table) :=
    Printer.Thins.keptByProperties rfl rfl rfl
  have hheader := Printer.Thins.congruence.header
    (show (Converter.setupFor ⟨⟨lenient, .compact⟩, names, checker⟩ sheet table).names
      = (Converter.setupFor ⟨⟨lenient, .pretty⟩, names, checker⟩ sheet table).names from rfl)
    rfl rfl Printer.Thins.new
  refine Printer.Thins.congruence.generate hkept hheader ?_ _
  intro c p h
  exact ⟨h.warnings, h.sink.buffer⟩

end Restyle
