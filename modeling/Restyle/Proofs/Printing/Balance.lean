import Restyle.Proofs.Printing.PlainText
import Restyle.Proofs.Printing.Tasks

set_option autoImplicit false

/-! # Braces and indentation

Where a stylesheet can be printed, every node is begun and ended between two rules, and a brace is
closed only where one is open. Without braces and line breaks in the strings, the braces of the output
are those that the printer opens and closes: they are balanced (`Nests`), and in the pretty layout each
line is indented by two blanks for each brace that is open where it starts (`indentLines`).
`PrintSetup.braces_balance` puts these together.
-/

namespace Restyle

/-! ## Balanced braces -/

/-- A text that never closes more braces than it has opened, and leaves `depth` of them open. -/
structure Nests (text : List Char) (depth : Nat) : Prop where
  closed_le : ∀ stem, stem <+: text → stem.count '\x7d' ≤ stem.count '\x7b'
  opened_eq : text.count '\x7b' = text.count '\x7d' + depth

namespace Nests

variable {text more : List Char} {depth : Nat}

theorem nil : Nests [] 0 := by
  refine ⟨?_, rfl⟩
  intro stem hstem
  rw [List.prefix_nil.mp hstem]
  exact Nat.le_refl 0

/-- A stem of a text with one more character is the whole of it or a stem of the text. -/
theorem push (h : Nests text depth) {c : Char} {depth' : Nat}
    (hopened : (text ++ [c]).count '\x7b' = (text ++ [c]).count '\x7d' + depth') :
    Nests (text ++ [c]) depth' := by
  refine ⟨?_, hopened⟩
  intro stem hstem
  rcases List.prefix_concat_iff.mp hstem with rfl | hshort
  · omega
  · exact h.closed_le stem hshort

theorem openBrace (h : Nests text depth) : Nests (text ++ ['\x7b']) (depth + 1) := by
  have hopened := h.opened_eq
  apply h.push
  rw [List.count_append, List.count_append]
  simp only [List.count_singleton_self, List.count_singleton, beq_iff_eq]
  simp only [Char.reduceEq, if_false]
  omega

/-- Only where a brace is open, one may be closed. -/
theorem closeBrace (h : Nests text (depth + 1)) : Nests (text ++ ['\x7d']) depth := by
  have hopened := h.opened_eq
  apply h.push
  rw [List.count_append, List.count_append]
  simp only [List.count_singleton_self, List.count_singleton, beq_iff_eq]
  simp only [Char.reduceEq, if_false]
  omega

/-- Other characters change nothing. -/
theorem append (h : Nests text depth) (hmore : ∀ c ∈ more, c ≠ '\x7b' ∧ c ≠ '\x7d') :
    Nests (text ++ more) depth := by
  induction more generalizing text with
  | nil =>
      rw [List.append_nil]
      exact h
  | cons c rest ih =>
      rw [List.forall_mem_cons] at hmore
      obtain ⟨⟨hopen, hclose⟩, hrest⟩ := hmore
      have hone : Nests (text ++ [c]) depth := by
        apply h.push
        rw [List.count_append, List.count_append, List.count_singleton, List.count_singleton,
          if_neg (by simpa using hopen), if_neg (by simpa using hclose)]
        exact h.opened_eq
      have hall := ih hone hrest
      rwa [List.append_assoc] at hall

theorem append_plain (h : Nests text depth) {string : String} (hstring : Plain string) :
    Nests (text ++ string.toList) depth := by
  apply h.append
  intro c hc
  exact ⟨(hstring c hc).1, (hstring c hc).2.1⟩

end Nests

/-! ## Indented lines -/

/-- The number of open braces behind a character, when `depth` are open before it. -/
def depthBehind (depth : Nat) (c : Char) : Nat :=
  if c = '\x7b' then depth + 1 else if c = '\x7d' then depth - 1 else depth

/-- A text with its lines indented, when `depth` braces are open before it: the first character of a
line follows two blanks for each brace that is open, not counting one that this character closes. An
empty line stays empty. Whether the text itself starts a line is told by `atLineStart`. -/
def indentLines (depth : Nat) (atLineStart : Bool) : List Char → List Char
  | [] => []
  | c :: rest =>
      (if atLineStart && c != '\n' then
          List.replicate (2 * if c = '\x7d' then depth - 1 else depth) ' '
        else [])
        ++ c :: indentLines (depthBehind depth c) (c == '\n') rest

/-- Within a line nothing is indented. -/
theorem indentLines_false_append {text : List Char} (h : Plain (String.ofList text)) (depth : Nat)
    (rest : List Char) :
    indentLines depth false (text ++ rest) = text ++ indentLines depth false rest := by
  unfold Plain at h
  rw [String.toList_ofList] at h
  induction text with
  | nil => rfl
  | cons c text ih =>
      rw [List.forall_mem_cons] at h
      obtain ⟨⟨hopen, hclose, hbreak⟩, htext⟩ := h
      have hdepth : depthBehind depth c = depth := by
        rw [depthBehind, if_neg hopen, if_neg hclose]
      have hline : (c == '\n') = false := by simpa using hbreak
      rw [List.cons_append, indentLines, hdepth, hline, ih htext]
      rfl

/-- A plain text that starts a line is indented as a whole. -/
theorem indentLines_append {text : String} (h : Plain text) (hne : text.toList ≠ []) (depth : Nat)
    (atLineStart : Bool) (rest : List Char) :
    indentLines depth atLineStart (text.toList ++ rest)
      = (if atLineStart then List.replicate (2 * depth) ' ' else []) ++ text.toList
        ++ indentLines depth false rest := by
  cases htext : text.toList with
  | nil => exact absurd htext hne
  | cons c cs =>
      unfold Plain at h
      rw [htext, List.forall_mem_cons] at h
      obtain ⟨⟨hopen, hclose, hbreak⟩, hcs⟩ := h
      have hdepth : depthBehind depth c = depth := by
        rw [depthBehind, if_neg hopen, if_neg hclose]
      have hline : (c == '\n') = false := by simpa using hbreak
      have hstart : (c != '\n') = true := by simpa using hbreak
      have hplain : Plain (String.ofList cs) := by
        unfold Plain
        rwa [String.toList_ofList]
      have hrest := indentLines_false_append hplain depth rest
      rw [List.cons_append, indentLines, hdepth, hline, hstart, if_neg hclose, hrest, Bool.and_true,
        List.append_assoc]
      rfl

/-! ## Sinks -/

namespace Sink

/-- What a sink holds once an unindented text is written behind what it holds now. -/
def finish (s : Sink) (rest : List Char) : List Char :=
  s.buffer.toList ++ indentLines s.level s.atLineStart rest

variable {s : Sink} {depth : Nat}

theorem plain_blank : Plain " " := by decide

theorem indentation_plain (s : Sink) : Plain s.indentation := by
  intro c hc
  unfold indentation at hc
  split at hc
  · rw [String.toList_ofList, List.mem_replicate] at hc
    rw [hc.2]
    decide
  · simp at hc

theorem level_opening (s : Sink) : (Piece.opening.put s).level = s.level + 1 := by
  show ((((s.writeOptional " ").write "\x7b").breakLineOptional).indent).level = _
  simp only [indent, Printer.level_breakLineOptional, Printer.level_write,
    Printer.level_writeOptional]

theorem level_closing (s : Sink) : (Piece.closing.put s).level = s.level - 1 := by
  show ((s.dedent.write "\x7d").breakLineOptional).level = _
  rw [Printer.level_breakLineOptional, Printer.level_write]
  rfl

/-- One piece of some that close open braces only. -/
theorem depthAfter_put {piece : Piece} {rest : List Piece}
    (h : Piece.depthAfter s.level (piece :: rest) = some depth) :
    (piece = .closing → 0 < s.level)
      ∧ Piece.depthAfter (piece.put s).level rest = some depth := by
  cases piece with
  | text content =>
      refine ⟨nofun, ?_⟩
      rw [show (Piece.put (.text content) s).level = s.level from Printer.level_write s content]
      exact h
  | blank =>
      refine ⟨nofun, ?_⟩
      rw [show (Piece.put .blank s).level = s.level from Printer.level_writeOptional s " "]
      exact h
  | newline => exact ⟨nofun, h⟩
  | softBreak =>
      refine ⟨nofun, ?_⟩
      rw [show (Piece.put .softBreak s).level = s.level from Printer.level_breakLineOptional s]
      exact h
  | opening =>
      refine ⟨nofun, ?_⟩
      rw [level_opening]
      exact h
  | closing =>
      -- At level zero the count stops, and there is no depth behind the pieces.
      rw [level_closing]
      cases hlevel : s.level with
      | zero =>
          rw [hlevel] at h
          cases h
      | succ level =>
          rw [hlevel] at h
          exact ⟨fun _ => Nat.succ_pos level, h⟩

theorem nests_write (h : Nests s.buffer.toList depth) {text : String} (htext : Plain text) :
    Nests (s.write text).buffer.toList depth := by
  unfold write
  split
  · exact h
  · show Nests (s.buffer ++ s.indentation ++ text).toList depth
    rw [String.toList_append, String.toList_append]
    exact (h.append_plain s.indentation_plain).append_plain htext

theorem nests_breakLine (h : Nests s.buffer.toList depth) :
    Nests s.breakLine.buffer.toList depth := by
  show Nests (s.buffer.push '\n').toList depth
  rw [String.toList_push]
  apply h.append
  intro c hc
  rw [List.mem_singleton.mp hc]
  decide

theorem nests_breakLineOptional (h : Nests s.buffer.toList depth) :
    Nests s.breakLineOptional.buffer.toList depth := by
  unfold breakLineOptional
  split
  · exact h
  · exact nests_breakLine h

theorem nests_writeOptional (h : Nests s.buffer.toList depth) {text : String} (htext : Plain text) :
    Nests (s.writeOptional text).buffer.toList depth := by
  unfold writeOptional
  split
  · exact h
  · exact nests_write h htext

/-- A piece of plain text keeps the level of a sink equal to the number of open braces. -/
theorem nests_put {piece : Piece} (hplain : piece.IsPlain) (h : Nests s.buffer.toList s.level)
    (hopen : piece = .closing → 0 < s.level) :
    Nests (piece.put s).buffer.toList (piece.put s).level := by
  cases piece with
  | text content =>
      show Nests (s.write content).buffer.toList (s.write content).level
      rw [Printer.level_write]
      exact nests_write h hplain
  | blank =>
      show Nests (s.writeOptional " ").buffer.toList (s.writeOptional " ").level
      rw [Printer.level_writeOptional]
      exact nests_writeOptional h plain_blank
  | newline => exact nests_breakLine h
  | softBreak =>
      show Nests s.breakLineOptional.buffer.toList s.breakLineOptional.level
      rw [Printer.level_breakLineOptional]
      exact nests_breakLineOptional h
  | opening =>
      have hblank := (nests_writeOptional h plain_blank).append_plain
        (s.writeOptional " ").indentation_plain
      have hbrace : Nests ((s.writeOptional " ").write "\x7b").buffer.toList (s.level + 1) := by
        show Nests ((s.writeOptional " ").buffer ++ (s.writeOptional " ").indentation
          ++ "\x7b").toList (s.level + 1)
        rw [String.toList_append, String.toList_append]
        exact hblank.openBrace
      rw [level_opening]
      exact nests_breakLineOptional hbrace
  | closing =>
      obtain ⟨level, hs⟩ : ∃ level, s.level = level + 1 :=
        Nat.exists_eq_succ_of_ne_zero (Nat.ne_of_gt (hopen rfl))
      have hbrace : Nests (s.dedent.write "\x7d").buffer.toList level := by
        show Nests (s.buffer ++ s.dedent.indentation ++ "\x7d").toList level
        rw [String.toList_append, String.toList_append]
        -- The indentation in front of the brace is that of the level outside.
        have hindented := h.append_plain s.dedent.indentation_plain
        rw [hs] at hindented
        exact hindented.closeBrace
      rw [level_closing, hs]
      exact nests_breakLineOptional hbrace

/-- Behind plain pieces the open braces are those that the pieces have left open. -/
theorem nests_take {pieces : List Piece} (hplain : Piece.AllPlain pieces)
    (h : Nests s.buffer.toList s.level) (hdepth : Piece.depthAfter s.level pieces = some depth) :
    Nests (s.take pieces).buffer.toList depth := by
  induction pieces generalizing s with
  | nil =>
      cases hdepth
      exact h
  | cons piece rest ih =>
      obtain ⟨hpiece, hrest⟩ := List.forall_mem_cons.mp hplain
      obtain ⟨hopen, hdepth⟩ := depthAfter_put hdepth
      exact ih hrest (nests_put hpiece h hopen) hdepth

/-! ## Pretty sinks -/

theorem toList_indentation (h : s.layout = .pretty) :
    s.indentation.toList = if s.atLineStart then List.replicate (2 * s.level) ' ' else [] := by
  unfold indentation isCompact
  rw [h]
  cases s.atLineStart with
  | true => exact String.toList_ofList
  | false => rfl

theorem toList_buffer_write (h : s.layout = .pretty) {text : String} (hne : ¬ text.isEmpty = true) :
    (s.write text).buffer.toList
      = s.buffer.toList ++ (if s.atLineStart then List.replicate (2 * s.level) ' ' else [])
        ++ text.toList := by
  unfold write
  rw [if_neg hne]
  show (s.buffer ++ s.indentation ++ text).toList = _
  rw [String.toList_append, String.toList_append, toList_indentation h]

/-- Text that is written is indented like text that is still to come. -/
theorem finish_write (h : s.layout = .pretty) {text : String} (htext : Plain text) (rest : List Char) :
    (s.write text).finish rest = s.finish (text.toList ++ rest) := by
  by_cases hempty : text.isEmpty = true
  · have hnil : text = "" := by simpa using hempty
    rw [hnil]
    rfl
  · have hne : text.toList ≠ [] := by simpa [String.toList_eq_nil_iff] using hempty
    have hstart : (s.write text).atLineStart = false := by
      unfold write
      rw [if_neg hempty]
    rw [finish, finish, toList_buffer_write h hempty, Printer.level_write, hstart,
      indentLines_append htext hne]
    simp only [List.append_assoc]

theorem finish_breakLine (s : Sink) (rest : List Char) :
    s.breakLine.finish rest = s.finish ('\n' :: rest) := by
  show (s.buffer.push '\n').toList ++ indentLines s.level true rest = _
  rw [finish, indentLines, String.toList_push, List.append_assoc]
  simp [depthBehind]

theorem writeOptional_of_pretty (h : s.layout = .pretty) (text : String) :
    s.writeOptional text = s.write text := if_neg (by simp [isCompact, h])

theorem breakLineOptional_of_pretty (h : s.layout = .pretty) : s.breakLineOptional = s.breakLine :=
  if_neg (by simp [isCompact, h])

theorem layout_put (piece : Piece) (s : Sink) : (piece.put s).layout = s.layout := by
  have hblank : (s.writeOptional " ").layout = s.layout := by
    unfold writeOptional
    split
    · rfl
    · exact layout_write s " "
  cases piece with
  | text content => exact layout_write s content
  | blank => exact hblank
  | newline => rfl
  | softBreak => exact layout_breakLineOptional s
  | opening =>
      show (((s.writeOptional " ").write "\x7b").breakLineOptional).layout = _
      rw [layout_breakLineOptional, layout_write, hblank]
  | closing =>
      show ((s.dedent.write "\x7d").breakLineOptional).layout = _
      rw [layout_breakLineOptional, layout_write]
      rfl

/-- An opening brace never starts a line, for there is a blank before it. -/
theorem finish_opening (h : s.layout = .pretty) (rest : List Char) :
    (Piece.opening.put s).finish rest = s.finish (' ' :: '\x7b' :: '\n' :: rest) := by
  have hblank : (s.write " ").layout = .pretty := by rw [layout_write, h]
  have hbrace : ((s.write " ").write "\x7b").layout = .pretty := by rw [layout_write, hblank]
  have hstart : (s.write " ").atLineStart = false := rfl
  have hline : (s.write " ").finish ('\x7b' :: '\n' :: rest)
      = (s.write " ").buffer.toList ++ '\x7b' :: '\n' :: indentLines (s.level + 1) true rest := by
    rw [finish, Printer.level_write, hstart]
    simp [indentLines, depthBehind]
  rw [show s.finish (' ' :: '\x7b' :: '\n' :: rest) = _ from
    (finish_write h plain_blank ('\x7b' :: '\n' :: rest)).symm, hline]
  show ((((s.writeOptional " ").write "\x7b").breakLineOptional).indent).finish rest = _
  rw [writeOptional_of_pretty h, breakLineOptional_of_pretty hbrace]
  show (((s.write " ").write "\x7b").buffer.push '\n').toList
    ++ indentLines (((s.write " ").write "\x7b").level + 1) true rest = _
  rw [String.toList_push, toList_buffer_write hblank (by decide), hstart]
  simp [Printer.level_write]

/-- A closing brace that starts a line stands where its block was opened. -/
theorem finish_closing (h : s.layout = .pretty) (rest : List Char) :
    (Piece.closing.put s).finish rest = s.finish ('\x7d' :: '\n' :: rest) := by
  have hdedent : s.dedent.layout = .pretty := h
  have hbrace : (s.dedent.write "\x7d").layout = .pretty := by rw [layout_write, hdedent]
  have hline : s.finish ('\x7d' :: '\n' :: rest)
      = s.buffer.toList ++ (if s.atLineStart then List.replicate (2 * (s.level - 1)) ' ' else [])
        ++ '\x7d' :: '\n' :: indentLines (s.level - 1) true rest := by
    rw [finish]
    simp [indentLines, depthBehind]
  rw [hline]
  show ((s.dedent.write "\x7d").breakLineOptional).finish rest = _
  rw [breakLineOptional_of_pretty hbrace]
  show ((s.dedent.write "\x7d").buffer.push '\n').toList
    ++ indentLines (s.dedent.write "\x7d").level true rest = _
  rw [String.toList_push, toList_buffer_write hdedent (by decide), Printer.level_write]
  simp only [List.append_assoc]
  rfl

end Sink

/-! ## Unindented text -/

/-- The text of a piece in the pretty layout, without indentation. -/
def Piece.flat : Piece → List Char
  | .text content => content.toList
  | .blank => [' ']
  | .newline => ['\n']
  | .softBreak => ['\n']
  | .opening => [' ', '\x7b', '\n']
  | .closing => ['\x7d', '\n']

namespace Sink

variable {s : Sink}

theorem finish_put (h : s.layout = .pretty) {piece : Piece} (hplain : piece.IsPlain)
    (rest : List Char) : (piece.put s).finish rest = s.finish (piece.flat ++ rest) := by
  cases piece with
  | text content => exact finish_write h hplain rest
  | blank =>
      show (s.writeOptional " ").finish rest = _
      rw [writeOptional_of_pretty h]
      exact finish_write h plain_blank rest
  | newline => exact finish_breakLine s rest
  | softBreak =>
      show s.breakLineOptional.finish rest = _
      rw [breakLineOptional_of_pretty h]
      exact finish_breakLine s rest
  | opening => exact finish_opening h rest
  | closing => exact finish_closing h rest

/-- A pretty sink that takes plain pieces indents their lines. -/
theorem finish_take (pieces : List Piece) (h : s.layout = .pretty) (hplain : Piece.AllPlain pieces)
    (rest : List Char) : (s.take pieces).finish rest = s.finish (pieces.flatMap Piece.flat ++ rest) := by
  induction pieces generalizing s with
  | nil => rfl
  | cons piece pieces ih =>
      obtain ⟨hpiece, hpieces⟩ := List.forall_mem_cons.mp hplain
      have hlayout : (piece.put s).layout = .pretty := by rw [layout_put, h]
      calc ((piece.put s).take pieces).finish rest
          = (piece.put s).finish (pieces.flatMap Piece.flat ++ rest) := ih hlayout hpieces
        _ = s.finish (piece.flat ++ (pieces.flatMap Piece.flat ++ rest)) := finish_put h hpiece _
        _ = s.finish ((piece :: pieces).flatMap Piece.flat ++ rest) := by
            rw [List.flatMap_cons, List.append_assoc]

end Sink

/-! ## Whole stylesheets -/

namespace PrintSetup

variable {setup : PrintSetup} {sheet : Stylesheet} {conversion : Conversion}

/-- The run behind a conversion, in which every brace is closed at the end. -/
theorem exists_run (h : setup.generate sheet = .ok conversion) :
    ∃ p q, setup.header = .ok p ∧ Printer.printNodes setup sheet.nodes p = .ok q
      ∧ conversion = q.conversion ∧ q.sink.level = 0 := by
  rw [generate_eq] at h
  obtain ⟨p, hp, h⟩ := ok_of_bind h
  obtain ⟨q, hq, h⟩ := ok_of_bind h
  cases h
  have hheader := Printer.posture_header hp
  have hnodes := Printer.posture_printNodes setup sheet.nodes (by rw [hheader]) hq
  have hposture : q.posture = ⟨false, false, false, 0⟩ := by rw [hnodes, hheader]
  exact ⟨p, q, hp, hq, rfl, congrArg Printer.Posture.level hposture⟩

/-- What a stylesheet is printed as, by its pieces. -/
theorem gss_eq_take (h : setup.generate sheet = .ok conversion) :
    conversion.gss = ((Sink.empty setup.options.layout).take (setup.pieces sheet)).buffer
      ∧ Piece.depthAfter 0 (setup.pieces sheet) = some 0 := by
  obtain ⟨p, q, hp, hq, hconversion, hlevel⟩ := exists_run h
  have hpieces := emits_pieces hp hq
  refine ⟨?_, ?_⟩
  · rw [hconversion]
    exact congrArg Sink.buffer hpieces.sink_eq
  · have hdepth := hpieces.depth_eq
    rw [hlevel] at hdepth
    exact hdepth

theorem nests_gss (h : setup.generate sheet = .ok conversion)
    (hplain : ∀ s ∈ setup.strings sheet, Plain s) : Nests conversion.gss.toList 0 := by
  obtain ⟨hgss, hdepth⟩ := gss_eq_take h
  rw [hgss]
  exact Sink.nests_take (plain_pieces hplain) Nests.nil hdepth

theorem gss_pretty (h : setup.generate sheet = .ok conversion)
    (hplain : ∀ s ∈ setup.strings sheet, Plain s) (hlayout : setup.options.layout = .pretty) :
    conversion.gss.toList = indentLines 0 false ((setup.pieces sheet).flatMap Piece.flat) := by
  have hempty : (Sink.empty setup.options.layout).layout = .pretty := hlayout
  have hfinish := Sink.finish_take (setup.pieces sheet) hempty (plain_pieces hplain) []
  rw [List.append_nil] at hfinish
  calc conversion.gss.toList
      = ((Sink.empty setup.options.layout).take (setup.pieces sheet)).finish [] := by
        rw [(gss_eq_take h).1, Sink.finish, indentLines, List.append_nil]
    _ = (Sink.empty setup.options.layout).finish ((setup.pieces sheet).flatMap Piece.flat) := hfinish
    _ = indentLines 0 false ((setup.pieces sheet).flatMap Piece.flat) := rfl

/-- **Braces and indentation balance.** In a run that succeeds, every node is begun while no brace is
owed and no address is written, and ends so, at the level and with the direction flag with which it was
begun. No brace is closed at level 0, and the run ends there: the pieces that are printed close the
braces they open. If the strings that are printed have no braces and line breaks, the braces of the
output are balanced, and in the pretty layout each line is indented by two blanks for each open
brace. -/
theorem braces_balance (h : setup.generate sheet = .ok conversion) :
    (∀ n p, Printer.Reaches setup sheet (.node n) p →
      p.flags.bracePending = false ∧ p.flags.inUrl = false ∧
      ∃ q, Printer.printNode setup n p = .ok q
        ∧ q.flags.bracePending = false ∧ q.flags.inUrl = false
        ∧ q.sink.level = p.sink.level ∧ q.flags.noFlip = p.flags.noFlip)
    ∧ (∀ p, Printer.Reaches setup sheet .brace p → 0 < p.sink.level)
    ∧ (∃ p q, setup.header = .ok p ∧ Printer.printNodes setup sheet.nodes p = .ok q
      ∧ conversion = q.conversion ∧ q.sink.level = 0)
    ∧ (conversion.gss = ((Sink.empty setup.options.layout).take (setup.pieces sheet)).buffer
      ∧ Piece.depthAfter 0 (setup.pieces sheet) = some 0)
    ∧ ((∀ s ∈ setup.strings sheet, Plain s) →
      Nests conversion.gss.toList 0
      ∧ (setup.options.layout = .pretty →
        conversion.gss.toList
          = indentLines 0 false ((setup.pieces sheet).flatMap Piece.flat))) := by
  refine ⟨?_, fun p hp => hp.ready, exists_run h, gss_eq_take h, fun hplain => ?_⟩
  · intro n p hp
    have hready : p.posture.Settled := hp.ready
    obtain ⟨q, hq, hposture⟩ := hp.exists_posture_eq h
    have hsettled : q.posture.Settled := by rwa [hposture]
    exact ⟨hready.bracePending_eq, hready.inUrl_eq, q, hq, hsettled.bracePending_eq,
      hsettled.inUrl_eq, congrArg Printer.Posture.level hposture,
      congrArg Printer.Posture.noFlip hposture⟩
  · exact ⟨nests_gss h hplain, gss_pretty h hplain⟩

/-- The pretty layout in the lenient mode. -/
def nested : PrintSetup := { sample with options := ⟨true, .pretty⟩ }

end PrintSetup

/-- A stylesheet with branches inside branches, rules without selectors or properties, and a property
that is refused. -/
def Stylesheet.nested : Stylesheet :=
  let color : Property := ⟨"color", [⟨.ident "mainColor", true⟩], false⟩
  let refused : Property := ⟨"color", [], false⟩
  ⟨[.rule [⟨".a", []⟩, ⟨".b", []⟩] [refused, color],
    .media ["print"] [
      .ifBlock (.runtime "x()") [.rule [⟨".c", []⟩] [refused]]
        [.elseIf (.feature ⟨"locale", ["en"], true⟩) [.noFlip [.fontFace [color]]] [.elseBlock []],
          .elseBlock [.sprite [⟨".s", []⟩] "logo" []]]],
    .rule [] []]⟩

/-- Its pretty text. -/
def Stylesheet.nestedGss : String :=
  "@external a 'b*';\n@def MAIN_COLOR red;\n\n\n.a, \n.b \x7b\n  color: MAIN_COLOR;\n\x7d\n"
    ++ "@media print \x7b\n\n  @if (eval('x()')) \x7b\n    .c \x7b\n    \x7d\n  \x7d\n"
    ++ "  @elseif (!is(\"locale\", \"en\")) \x7b\n    @font-face \x7b\n"
    ++ "      /* @noflip */ color: MAIN_COLOR;\n    \x7d\n  \x7d\n  @else \x7b\n  \x7d\n"
    ++ "  @else \x7b\n    .s \x7b\n      gwt-sprite: \"logo\";\n    \x7d\n  \x7d\n\x7d\n"
    ++ "\n \x7b\n\x7d\n"

theorem PrintSetup.braces_balance_nested :
    ∃ conversion, nested.generate .nested = .ok conversion
      ∧ conversion.gss = Stylesheet.nestedGss
      ∧ (∃ p, Printer.Reaches nested .nested .brace p ∧ 0 < p.sink.level)
      ∧ (∀ s ∈ nested.strings .nested, Plain s)
      ∧ Nests Stylesheet.nestedGss.toList 0
      ∧ Stylesheet.nestedGss.toList
        = indentLines 0 false ((nested.pieces .nested).flatMap Piece.flat) := by
  have hgss : (nested.generate .nested).toOption.map Conversion.gss = some Stylesheet.nestedGss := by
    decide +kernel
  obtain ⟨conversion, hconversion, heq⟩ := Option.map_eq_some_iff.mp hgss
  have h : nested.generate .nested = .ok conversion := by
    cases hresult : nested.generate .nested with
    | error e =>
        rw [hresult] at hconversion
        cases hconversion
    | ok other =>
        rw [hresult] at hconversion
        cases hconversion
        rfl
  have hplain : ∀ s ∈ nested.strings .nested, Plain s := by decide +kernel
  obtain ⟨-, hbraces, ⟨p, -, hp, -⟩, -, htext⟩ := braces_balance h
  have hstart : Printer.Reaches nested .nested (.nodes Stylesheet.nested.nodes) p := .sheet hp
  have hbrace := hstart.first.ruleEnd
  obtain ⟨hnests, hpretty⟩ := htext hplain
  rw [heq] at hnests hpretty
  exact ⟨conversion, h, heq, ⟨_, hbrace, hbraces _ hbrace⟩, hplain, hnests, hpretty rfl⟩

end Restyle
