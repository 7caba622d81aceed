import Restyle.Proofs.Printing.Rendering

set_option autoImplicit false

/-! # The lines of a sink

A sink is used by six kinds of actions, in any order. In the pretty layout its lines correspond to the
stretches of actions between line breaks: a line holds the texts of its stretch, behind two blanks for
each level that was in force when the first of them was written, and nothing where no text was written.
In the compact layout the mandatory texts and line breaks stand one behind the other.
`Sink.lines_of_run` states both.

The flag of a sink says whether the next text starts a line. So the induction over a run compares the
lines still to come with the stretches still to come, and only the first of them depends on the flag.
-/

namespace Restyle

/-! ## Cutting lists and texts -/

theorem splitOnP_append_of_forall {α : Type} {p : α → Bool} {front : List α}
    (h : ∀ x ∈ front, p x = false) (rest : List α) :
    (front ++ rest).splitOnP p = (rest.splitOnP p).modifyHead (front ++ ·) := by
  induction front with
  | nil => exact (congrFun List.modifyHead_id _).symm
  | cons x front ih =>
      have hx : p x = false := h x List.mem_cons_self
      have hfront := ih fun y hy => h y (List.mem_cons_of_mem x hy)
      rw [List.cons_append, List.splitOnP_cons_eq_if_modifyHead, hx, hfront,
        if_neg Bool.false_ne_true, List.modifyHead_modifyHead]
      rfl

theorem length_splitOnP {α : Type} (p : α → Bool) (xs : List α) :
    (xs.splitOnP p).length = xs.countP p + 1 := by
  induction xs with
  | nil => simp
  | cons x xs ih =>
      rw [List.splitOnP_cons_eq_if_modifyHead, List.countP_cons]
      by_cases hx : p x = true
      · rw [if_pos hx, if_pos hx, List.length_cons, ih]
      · rw [if_neg hx, if_neg hx, List.length_modifyHead, ih]

/-- The lines of a text: what stands between its line breaks. -/
def lineTexts (text : String) : List String := (text.split '\n').toList.map String.Slice.copy

theorem lineTexts_eq (text : String) :
    lineTexts text = (text.toList.splitOn '\n').map String.ofList := String.toList_split_char

theorem lineTexts_empty : lineTexts "" = [""] := by
  rw [lineTexts_eq]
  rfl

theorem lineTexts_append {front : String} (h : '\n' ∉ front.toList) (rest : String) :
    lineTexts (front ++ rest) = (lineTexts rest).modifyHead (front ++ ·) := by
  have hfront : ∀ c ∈ front.toList, (c == '\n') = false := by
    intro c hc
    rw [beq_eq_false_iff_ne]
    rintro rfl
    exact h hc
  rw [lineTexts_eq, lineTexts_eq, String.toList_append, List.splitOn_eq_splitOnP,
    splitOnP_append_of_forall hfront, List.splitOn_eq_splitOnP]
  cases List.splitOnP (· == '\n') rest.toList with
  | nil => rfl
  | cons line lines => simp

theorem lineTexts_newline (rest : String) : lineTexts ("\n" ++ rest) = "" :: lineTexts rest := by
  rw [lineTexts_eq, lineTexts_eq, String.toList_append]
  have hnil : '\n' ∉ ([] : List Char) := List.not_mem_nil
  have hcut := List.splitOn_append_cons_self_of_not_mem hnil rest.toList
  exact congrArg (List.map String.ofList) hcut

namespace Sink

/-! ## Actions -/

/-- One use of a sink. -/
inductive Action where
  | write (text : String)
  | writeOptional (text : String)
  | breakLine
  | breakLineOptional
  | indent
  | dedent
deriving DecidableEq, Repr

namespace Action

/-- Use a sink. -/
def apply : Action → Sink → Sink
  | .write text, s => s.write text
  | .writeOptional text, s => s.writeOptional text
  | .breakLine, s => s.breakLine
  | .breakLineOptional, s => s.breakLineOptional
  | .indent, s => s.indent
  | .dedent, s => s.dedent

/-- The text of an action, optional or not. -/
def text : Action → String
  | .write text | .writeOptional text => text
  | _ => ""

/-- Whether an action breaks the line, optionally or not. -/
def breaks : Action → Bool
  | .breakLine | .breakLineOptional => true
  | _ => false

/-- What an action is bound to write in any layout. -/
def mandatory? : Action → Option String
  | .write text => some text
  | .breakLine => some "\n"
  | _ => none

/-- The level behind an action. It does not sink below zero. -/
def levelAfter (level : Nat) : Action → Nat
  | .indent => level + 1
  | .dedent => level - 1
  | _ => level

end Action

/-- An action with the level in force when it happens. -/
structure Step where
  level : Nat
  action : Action
deriving DecidableEq, Repr

/-- The steps of some actions that start at a level. -/
def steps (level : Nat) : List Action → List Step
  | [] => []
  | a :: rest => ⟨level, a⟩ :: steps (a.levelAfter level) rest

/-- The stretches of steps between line breaks. -/
def stretches (level : Nat) (actions : List Action) : List (List Step) :=
  (steps level actions).splitOnP (·.action.breaks)

/-- A sink behind some actions. -/
def run (s : Sink) (actions : List Action) : Sink := actions.foldl (fun s a => a.apply s) s

/-- The lines that a sink holds. -/
def lines (s : Sink) : List String := lineTexts s.buffer

/-- The blanks in front of a line. -/
def margin (level : Nat) : String := String.ofList (List.replicate (2 * level) ' ')

theorem map_action_steps (level : Nat) (actions : List Action) :
    (steps level actions).map Step.action = actions := by
  induction actions generalizing level with
  | nil => rfl
  | cons a rest ih => rw [steps, List.map_cons, ih]

theorem length_stretches (level : Nat) (actions : List Action) :
    (stretches level actions).length = actions.countP Action.breaks + 1 := by
  have hcount : (steps level actions).countP (·.action.breaks) = actions.countP Action.breaks := by
    conv_rhs => rw [← map_action_steps level actions, List.countP_map]
    rfl
  rw [stretches, length_splitOnP, hcount]

theorem stretches_of_breaks {a : Action} (h : a.breaks = true) (level : Nat)
    (rest : List Action) : stretches level (a :: rest) = [] :: stretches level rest := by
  have hlevel : a.levelAfter level = level := by
    cases a with
    | breakLine => rfl
    | breakLineOptional => rfl
    | write _ => cases h
    | writeOptional _ => cases h
    | indent => cases h
    | dedent => cases h
  rw [stretches, steps, List.splitOnP_cons_eq_if_modifyHead, if_pos h, hlevel]
  rfl

theorem stretches_of_not_breaks {a : Action} (h : a.breaks = false) (level : Nat)
    (rest : List Action) :
    stretches level (a :: rest)
      = (stretches (a.levelAfter level) rest).modifyHead (⟨level, a⟩ :: ·) := by
  rw [stretches, steps, List.splitOnP_cons_eq_if_modifyHead, if_neg (by simp [h])]
  rfl

/-! ## The text of a stretch -/

/-- The text of a stretch. Where its line has been `started`, nothing is indented any more. -/
def stretchText (started : Bool) : List Step → String
  | [] => ""
  | step :: rest =>
      if step.action.text = "" then stretchText started rest
      else margin (if started then 0 else step.level) ++ step.action.text ++ stretchText true rest

/-- The texts of stretches, the first of which stands on a line that may have been started. -/
def stretchTexts (started : Bool) : List (List Step) → List String
  | [] => []
  | first :: rest => stretchText started first :: rest.map (stretchText false)

theorem stretchTexts_false (ss : List (List Step)) :
    stretchTexts false ss = ss.map (stretchText false) := by
  cases ss with
  | nil => rfl
  | cons first rest => rfl

theorem margin_zero : margin 0 = "" := rfl

theorem stretchText_started (stretch : List Step) :
    stretchText true stretch = String.join (stretch.map (·.action.text)) := by
  induction stretch with
  | nil => rw [List.map_nil, String.join_nil, stretchText]
  | cons step rest ih =>
      rw [stretchText, List.map_cons, String.join_cons, ih]
      by_cases htext : step.action.text = ""
      · rw [if_pos htext, htext, String.empty_append]
      · rw [if_neg htext, if_pos rfl, margin_zero, String.empty_append]

theorem stretchText_append_of_quiet {quiet : List Step} (h : ∀ q ∈ quiet, q.action.text = "")
    (started : Bool) (rest : List Step) :
    stretchText started (quiet ++ rest) = stretchText started rest := by
  induction quiet with
  | nil => rfl
  | cons q quiet ih =>
      rw [List.cons_append, stretchText, if_pos (h q List.mem_cons_self)]
      exact ih fun r hr => h r (List.mem_cons_of_mem q hr)

/-- A stretch without texts leaves its line empty. -/
theorem stretchText_of_quiet {stretch : List Step} (h : ∀ step ∈ stretch, step.action.text = "")
    (started : Bool) : stretchText started stretch = "" := by
  have hquiet := stretchText_append_of_quiet h started []
  rwa [List.append_nil] at hquiet

/-- The level of the first text decides about the margin. -/
theorem stretchText_of_first {quiet rest : List Step} {step : Step}
    (hquiet : ∀ q ∈ quiet, q.action.text = "") (hstep : step.action.text ≠ "") (started : Bool) :
    stretchText started (quiet ++ step :: rest)
      = margin (if started then 0 else step.level)
        ++ String.join ((quiet ++ step :: rest).map (·.action.text)) := by
  have hjoin : String.join ((quiet ++ step :: rest).map (·.action.text))
      = step.action.text ++ String.join (rest.map (·.action.text)) := by
    rw [← stretchText_started, stretchText_append_of_quiet hquiet, stretchText_started,
      List.map_cons, String.join_cons]
  rw [hjoin, stretchText_append_of_quiet hquiet, stretchText, if_neg hstep, stretchText_started,
    String.append_assoc]

theorem stretchTexts_modifyHead_quiet {step : Step} (h : step.action.text = "") (started : Bool)
    (ss : List (List Step)) :
    stretchTexts started (ss.modifyHead (step :: ·)) = stretchTexts started ss := by
  cases ss with
  | nil => rfl
  | cons first rest =>
      show stretchText started (step :: first) :: _ = _
      rw [stretchText, if_pos h]
      rfl

theorem stretchTexts_modifyHead_text {step : Step} (h : step.action.text ≠ "") (started : Bool)
    (ss : List (List Step)) :
    stretchTexts started (ss.modifyHead (step :: ·))
      = (stretchTexts true ss).modifyHead
          (margin (if started then 0 else step.level) ++ step.action.text ++ ·) := by
  cases ss with
  | nil => rfl
  | cons first rest =>
      show stretchText started (step :: first) :: _ = _
      rw [stretchText, if_neg h]
      rfl

theorem length_stretchTexts (started : Bool) (ss : List (List Step)) :
    (stretchTexts started ss).length = ss.length := by
  cases ss with
  | nil => rfl
  | cons first rest => simp [stretchTexts]

theorem getElem?_stretchTexts {ss : List (List Step)} {k : Nat} {stretch : List Step}
    (h : ss[k]? = some stretch) (started : Bool) :
    (stretchTexts started ss)[k]? = some (stretchText (decide (k = 0) && started) stretch) := by
  cases ss with
  | nil => simp at h
  | cons first rest =>
      cases k with
      | zero =>
          cases h
          rfl
      | succ k =>
          have hrest : rest[k]? = some stretch := h
          rw [stretchTexts, List.getElem?_cons_succ, List.getElem?_map, hrest]
          rfl

/-! ## One action -/

theorem apply_behind (text : String) (s : Sink) (a : Action) :
    a.apply (s.behind text) = (a.apply s).behind text := by
  cases a with
  | write more => exact write_behind text s more
  | writeOptional more => exact writeOptional_behind text s more
  | breakLine => exact breakLine_behind text s
  | breakLineOptional => exact breakLineOptional_behind text s
  | indent => rfl
  | dedent => rfl

theorem newline_not_mem_indentation (s : Sink) : '\n' ∉ s.indentation.toList := by
  unfold indentation
  split
  · rw [String.toList_ofList, List.mem_replicate]
    rintro ⟨-, h⟩
    exact absurd h (by decide)
  · simp

theorem indentation_of_pretty {s : Sink} (h : s.layout = .pretty) :
    s.indentation = margin (if !s.atLineStart then 0 else s.level) := by
  unfold indentation
  cases hstart : s.atLineStart with
  | true => simp [isCompact, h, margin]
  | false => simp [margin]

/-- In the pretty layout optional parts are written like mandatory ones. -/
theorem apply_of_pretty {s : Sink} (h : s.layout = .pretty) (a : Action) :
    a.apply s
      = if a.breaks then s.breakLine
        else { s.write a.text with level := a.levelAfter s.level } := by
  have hcompact : s.isCompact = false := by simp [isCompact, h]
  have hwrite : ∀ text, s.write text = { s.write text with level := s.level } := by
    intro text
    rw [← Printer.level_write s text]
  cases a with
  | write text => exact hwrite text
  | writeOptional text =>
      show s.writeOptional text = _
      rw [writeOptional, hcompact]
      exact hwrite text
  | breakLine => rfl
  | breakLineOptional =>
      show s.breakLineOptional = _
      rw [breakLineOptional, hcompact]
      rfl
  | indent => rfl
  | dedent => rfl

section Pretty

variable {s : Sink} {a : Action}

/-- A line break ends the line, and the next text starts one. -/
theorem apply_of_breaks (hlayout : s.layout = .pretty) (hbuffer : s.buffer = "")
    (hbreak : a.breaks = true) : a.apply s = behind "\n" { s with atLineStart := true } := by
  rw [apply_of_pretty hlayout, if_pos hbreak]
  simp [breakLine, behind, hbuffer]

/-- Without a text, the line stays as far as it was. -/
theorem apply_of_quiet (hlayout : s.layout = .pretty) (hbreak : a.breaks = false)
    (htext : a.text = "") : a.apply s = { s with level := a.levelAfter s.level } := by
  rw [apply_of_pretty hlayout, if_neg (by simp [hbreak]), htext]
  rfl

/-- A text takes the indentation in front of it, and a later one on the line takes none. -/
theorem apply_of_text (hlayout : s.layout = .pretty) (hbuffer : s.buffer = "")
    (hbreak : a.breaks = false) (htext : a.text ≠ "") :
    a.apply s = behind (s.indentation ++ a.text)
      { s with level := a.levelAfter s.level, atLineStart := false } := by
  rw [apply_of_pretty hlayout, if_neg (by simp [hbreak]), write, if_neg (by simpa using htext)]
  simp [behind, hbuffer]

end Pretty

/-- An action on a compact sink writes what it is bound to write. -/
theorem apply_of_compact {s : Sink} (h : s.layout = .compact) (a : Action) :
    (a.apply s).layout = .compact
      ∧ (a.apply s).buffer = s.buffer ++ (a.mandatory?.getD "") := by
  have hflush : s.Flush := Or.inl h
  cases a with
  | write text => exact ⟨(layout_write s text).trans h, hflush.buffer_write text⟩
  | writeOptional text =>
      show (s.writeOptional text).layout = _ ∧ (s.writeOptional text).buffer = _
      rw [writeOptional_of_compact h]
      exact ⟨h, String.append_empty.symm⟩
  | breakLine => exact ⟨h, String.push_eq_append '\n'⟩
  | breakLineOptional =>
      show s.breakLineOptional.layout = _ ∧ s.breakLineOptional.buffer = _
      rw [breakLineOptional_of_compact h]
      exact ⟨h, String.append_empty.symm⟩
  | indent => exact ⟨h, String.append_empty.symm⟩
  | dedent => exact ⟨h, String.append_empty.symm⟩

/-! ## Runs -/

theorem run_behind (text : String) (s : Sink) (actions : List Action) :
    (s.behind text).run actions = (s.run actions).behind text := by
  induction actions generalizing s with
  | nil => rfl
  | cons a rest ih =>
      show (a.apply (s.behind text)).run rest = _
      rw [apply_behind, ih]
      rfl

/-- What the sink holds already stands in front of the lines of the run. -/
theorem lines_run_behind (text : String) (s : Sink) (actions : List Action) :
    ((s.behind text).run actions).lines = lineTexts (text ++ (s.run actions).buffer) := by
  rw [run_behind]
  rfl

/-- The lines that a run writes from here on are the texts of its stretches. The first of them goes on
with the line that the sink is on. -/
theorem lines_run {s : Sink} {actions : List Action} (hlayout : s.layout = .pretty)
    (hbuffer : s.buffer = "") (hplain : ∀ a ∈ actions, '\n' ∉ a.text.toList) :
    (s.run actions).lines = stretchTexts (!s.atLineStart) (stretches s.level actions) := by
  induction actions generalizing s with
  | nil =>
      show lineTexts s.buffer = _
      rw [hbuffer, lineTexts_empty]
      rfl
  | cons a rest ih =>
      have hrest : ∀ b ∈ rest, '\n' ∉ b.text.toList :=
        fun b hb => hplain b (List.mem_cons_of_mem a hb)
      show ((a.apply s).run rest).lines = _
      cases hbreak : a.breaks with
      | true =>
          -- behind the break no line has been started, so all the stretches left are indented
          have hlines : Sink.lines (run { s with atLineStart := true } rest)
              = stretchTexts false (stretches s.level rest) := ih hlayout hbuffer hrest
          rw [apply_of_breaks hlayout hbuffer hbreak, lines_run_behind, lineTexts_newline,
            stretches_of_breaks hbreak]
          exact congrArg ("" :: ·) (hlines.trans (stretchTexts_false _))
      | false =>
          rw [stretches_of_not_breaks hbreak]
          by_cases htext : a.text = ""
          · rw [apply_of_quiet hlayout hbreak htext, stretchTexts_modifyHead_quiet htext]
            exact ih hlayout hbuffer hrest
          · -- from here on the line is started, and its margin is that of this text
            have hfree : '\n' ∉ (s.indentation ++ a.text).toList := by
              rw [String.toList_append, List.mem_append]
              rintro (h | h)
              · exact newline_not_mem_indentation s h
              · exact hplain a List.mem_cons_self h
            rw [apply_of_text hlayout hbuffer hbreak htext, lines_run_behind,
              lineTexts_append hfree, indentation_of_pretty hlayout,
              stretchTexts_modifyHead_text htext]
            exact congrArg _ (ih hlayout hbuffer hrest)

/-- A run of a compact sink adds the mandatory texts and line breaks. -/
theorem buffer_run_of_compact {s : Sink} (h : s.layout = .compact) (actions : List Action) :
    (s.run actions).buffer = s.buffer ++ String.join (actions.filterMap Action.mandatory?) := by
  induction actions generalizing s with
  | nil => rw [List.filterMap_nil, String.join_nil, String.append_empty, run, List.foldl_nil]
  | cons a rest ih =>
      obtain ⟨hlayout, hbuffer⟩ := apply_of_compact h a
      show ((a.apply s).run rest).buffer = _
      rw [ih hlayout, hbuffer, String.append_assoc]
      cases hmandatory : a.mandatory? with
      | none => rw [List.filterMap_cons_none hmandatory, Option.getD_none, String.empty_append]
      | some text => rw [List.filterMap_cons_some hmandatory, Option.getD_some, String.join_cons]

/-- **The lines of a run.** From an empty pretty sink, with texts that do not break lines, there is a
line for each line break and one more. Line `k` is what the steps between two line breaks have
written. It is empty where all their texts are. Otherwise it holds these texts, behind two blanks for
each level in force at the first that is not empty, and behind none on the first line. From an empty
compact sink come the mandatory texts and line breaks and nothing else. -/
theorem lines_of_run (actions : List Action) :
    ((∀ a ∈ actions, '\n' ∉ a.text.toList) →
      ((empty .pretty).run actions).lines.length = actions.countP Action.breaks + 1
      ∧ (stretches 0 actions).length = actions.countP Action.breaks + 1
      ∧ ∀ k stretch, (stretches 0 actions)[k]? = some stretch →
          ((∀ step ∈ stretch, step.action.text = "") →
            ((empty .pretty).run actions).lines[k]? = some "")
          ∧ ∀ quiet step rest, stretch = quiet ++ step :: rest →
              (∀ q ∈ quiet, q.action.text = "") → step.action.text ≠ "" →
              ((empty .pretty).run actions).lines[k]?
                = some (margin (if k = 0 then 0 else step.level)
                    ++ String.join (stretch.map (·.action.text))))
    ∧ ((empty .compact).run actions).buffer
        = String.join (actions.filterMap Action.mandatory?) := by
  refine ⟨fun hplain => ?_, ?_⟩
  · have hlines : ((empty .pretty).run actions).lines = stretchTexts true (stretches 0 actions) :=
      lines_run rfl rfl hplain
    refine ⟨?_, length_stretches 0 actions, fun k stretch hk => ?_⟩
    · rw [hlines, length_stretchTexts, length_stretches]
    have hline := getElem?_stretchTexts hk true
    rw [← hlines, Bool.and_true] at hline
    refine ⟨fun hquiet => ?_, ?_⟩
    · rw [hline, stretchText_of_quiet hquiet]
    · rintro quiet step rest rfl hquiet hstep
      rw [hline, stretchText_of_first hquiet hstep]
      simp only [decide_eq_true_eq]
  · rw [buffer_run_of_compact rfl]
    exact String.empty_append

/-- Actions with a level that stops at zero, an empty line, and an empty text at a deeper level than
the first text of the last line. -/
def Action.sample : List Action :=
  [.write "a", .dedent, .indent, .breakLine, .write "", .breakLineOptional, .indent, .write "",
    .dedent, .writeOptional "b", .indent, .write "c"]

theorem lines_of_run_sample :
    (∀ a ∈ Action.sample, '\n' ∉ a.text.toList)
      ∧ ((empty .pretty).run Action.sample).lines.length = 3
      ∧ ((empty .pretty).run Action.sample).lines[1]? = some ""
      ∧ ((empty .pretty).run Action.sample).lines[2]? = some "  bc"
      ∧ ((empty .compact).run Action.sample).buffer = "a\nc" := by
  have hplain : ∀ a ∈ Action.sample, '\n' ∉ a.text.toList := by decide
  obtain ⟨hpretty, hcompact⟩ := lines_of_run Action.sample
  obtain ⟨hlength, -, hlines⟩ := hpretty hplain
  refine ⟨hplain, hlength, ?_, ?_, hcompact⟩
  · exact (hlines 1 [⟨1, .write ""⟩] rfl).1 (by decide)
  · exact (hlines 2 _ rfl).2 [⟨1, .indent⟩, ⟨2, .write ""⟩, ⟨2, .dedent⟩] ⟨1, .writeOptional "b"⟩
      [⟨1, .indent⟩, ⟨2, .write "c"⟩] rfl (by decide) (by decide)

end Sink

end Restyle
