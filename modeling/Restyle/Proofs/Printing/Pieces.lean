import Restyle.Proofs.Printing.Lenient

set_option autoImplicit false

/-! # The pieces of an output

A printer hands its sink texts, blanks, line breaks and braces. Which ones depends on the tree, on the
names of the constants, on the properties that are kept, and on one flag that outlives a node: whether
a line break is owed to the next rule. `Node.pieces` lists them by recursion over the tree, for either
layout and with or without the lenient mode, and `PrintSetup.emits_pieces` says that what a sink has
taken behind a stylesheet are the pieces of that stylesheet. On the way no brace is closed that is not
open (`Piece.depthAfter`).
-/

namespace Restyle

/-- A piece of output. -/
inductive Piece where
  /-- A text, which may be empty. -/
  | text (content : String)
  /-- An optional blank. -/
  | blank
  /-- A line break. -/
  | newline
  /-- An optional line break. -/
  | softBreak
  /-- An opening brace, with what surrounds it. -/
  | opening
  /-- A closing brace, with what follows it. -/
  | closing
deriving DecidableEq, Repr

/-! ## Pieces and sinks -/

/-- Put a piece into a sink. -/
def Piece.put : Piece → Sink → Sink
  | .text content, s => s.write content
  | .blank, s => s.writeOptional " "
  | .newline, s => s.breakLine
  | .softBreak, s => s.breakLineOptional
  | .opening, s => (((s.writeOptional " ").write "\x7b").breakLineOptional).indent
  | .closing, s => (s.dedent.write "\x7d").breakLineOptional

/-- A sink that has taken some pieces, one after the other. -/
def Sink.take (s : Sink) (pieces : List Piece) : Sink :=
  pieces.foldl (fun s piece => piece.put s) s

theorem Sink.take_append (s : Sink) (first second : List Piece) :
    s.take (first ++ second) = (s.take first).take second := List.foldl_append

/-- The number of braces that are open behind some pieces, when `depth` are open before them. There is
none where a brace is closed while none is open. -/
def Piece.depthAfter : Nat → List Piece → Option Nat
  | depth, [] => some depth
  | depth, .opening :: rest => depthAfter (depth + 1) rest
  | 0, .closing :: _ => none
  | depth + 1, .closing :: rest => depthAfter depth rest
  | depth, .text _ :: rest => depthAfter depth rest
  | depth, .blank :: rest => depthAfter depth rest
  | depth, .newline :: rest => depthAfter depth rest
  | depth, .softBreak :: rest => depthAfter depth rest

theorem Piece.depthAfter_append (depth : Nat) (first second : List Piece) :
    depthAfter depth (first ++ second) = (depthAfter depth first).bind (depthAfter · second) := by
  induction first generalizing depth with
  | nil => rfl
  | cons piece rest ih =>
      cases piece with
      | closing =>
          cases depth with
          | zero => rfl
          | succ depth => exact ih depth
      | opening => exact ih (depth + 1)
      | text _ => exact ih depth
      | blank => exact ih depth
      | newline => exact ih depth
      | softBreak => exact ih depth

/-! ## The pieces of a stylesheet -/

/-- A condition between parentheses, behind a blank. A faulty condition is never printed. -/
def Condition.parenthesized (condition : Condition) : String :=
  " (" ++ condition.text.toOption.getD "" ++ ")"

/-- The end of a declaration. -/
def Piece.semicolon : List Piece := [.text ";", .softBreak]

/-- A comma, with the blank that may follow it. -/
def Piece.comma : List Piece := [.text ",", .blank]

/-- Pieces between braces. -/
def Piece.block (pieces : List Piece) : List Piece := .opening :: pieces ++ [.closing]

/-- The pieces of a list of selectors. -/
def Selector.pieces : List Selector → List Piece
  | [] => []
  | first :: rest =>
      .text (unescape first.text)
        :: rest.flatMap fun selector => Piece.comma ++ [.newline, .text (unescape selector.text)]

/-- The pieces of a list of media. -/
def mediaPieces : List String → List Piece
  | [] => []
  | first :: rest =>
      [.text " ", .text first] ++ rest.flatMap fun medium => Piece.comma ++ [.text medium]

/-- The pieces of a list of properties. In the lenient mode those are left out that are not kept. -/
def Property.pieces (setup : PrintSetup) (fixed : Bool) (properties : List Property) : List Piece :=
  properties.flatMap fun property =>
    if setup.options.lenient && !setup.kept fixed property then []
    else .text (property.text setup.names fixed) :: Piece.semicolon

namespace Node

mutual

/-- Whether a line break is owed to the next rule behind a node, by whether one was owed before. -/
def owes (owed : Bool) : Node → Bool
  | .rule .. | .sprite .. | .ifBlock .. => true
  | .media _ nodes => owesAll owed nodes
  | .noFlip nodes => owesAll owed nodes
  | _ => owed

/-- Whether a line break is owed to the next rule behind some nodes. -/
def owesAll (owed : Bool) : List Node → Bool
  | [] => owed
  | node :: rest => owesAll (owes owed node) rest

end

/-- The line break that may be owed to a rule. -/
def owedBreak (owed : Bool) : List Piece := if owed then [.softBreak] else []

mutual

/-- The pieces of a node. Those of a branch start by closing the block before it and leave its own
block open. -/
def pieces (setup : PrintSetup) (fixed owed : Bool) : Node → List Piece
  | .rule selectors properties =>
      owedBreak owed ++ Selector.pieces selectors
        ++ Piece.block (Property.pieces setup fixed properties)
  | .ifBlock condition nodes branches =>
      [.newline, .text ("@if" ++ condition.parenthesized)]
        ++ Piece.block (piecesAll setup fixed false nodes ++ piecesAll setup fixed false branches)
  | .elseIf condition nodes branches =>
      [.closing, .text ("@elseif" ++ condition.parenthesized), .opening]
        ++ piecesAll setup fixed false nodes ++ piecesAll setup fixed false branches
  | .elseBlock nodes => [.closing, .text "@else", .opening] ++ piecesAll setup fixed false nodes
  | .media queries nodes =>
      .text "@media" :: mediaPieces queries ++ Piece.block (piecesAll setup fixed owed nodes)
  | .page none properties =>
      .text "@page" :: Piece.block (Property.pieces setup fixed properties)
  | .page (some pseudo) properties =>
      [.text "@page", .text (" :" ++ pseudo)]
        ++ Piece.block (Property.pieces setup fixed properties)
  | .fontFace properties =>
      .text "@font-face" :: Piece.block (Property.pieces setup fixed properties)
  | .sprite selectors resource properties =>
      owedBreak owed ++ Selector.pieces selectors
        ++ Piece.block (.text ("gwt-sprite: \"" ++ unescape resource ++ "\"") :: Piece.semicolon
          ++ Property.pieces setup fixed properties)
  | .noFlip nodes => piecesAll setup true owed nodes
  | .constant _ => []
  | .external _ => []
  | .unknownAtRule directive => [.text directive, .softBreak]

/-- The pieces of nodes that follow each other. -/
def piecesAll (setup : PrintSetup) (fixed owed : Bool) : List Node → List Piece
  | [] => []
  | node :: rest => pieces setup fixed owed node ++ piecesAll setup fixed (owes owed node) rest

end

/-- The pieces in front of the body of a node. -/
def headPieces (setup : PrintSetup) (fixed owed : Bool) : Node → List Piece
  | .ifBlock condition _ _ => [.newline, .text ("@if" ++ condition.parenthesized), .opening]
  | .elseIf condition _ _ => [.closing, .text ("@elseif" ++ condition.parenthesized), .opening]
  | .elseBlock _ => [.closing, .text "@else", .opening]
  | .media queries _ => .text "@media" :: mediaPieces queries ++ [.opening]
  | .noFlip _ => []
  | n => n.pieces setup fixed owed

/-- The pieces behind the branches of a node. -/
def tailPieces : Node → List Piece
  | .ifBlock .. | .media .. => [.closing]
  | _ => []

/-- Whether a line break is owed in front of the body of a node. -/
def owesInside (owed : Bool) : Node → Bool
  | .rule .. | .sprite .. => true
  | .ifBlock .. | .elseIf .. | .elseBlock _ => false
  | _ => owed

/-- The pieces of a node stand around those of its body and of its branches. -/
theorem pieces_eq (setup : PrintSetup) (fixed owed : Bool) (n : Node) :
    n.pieces setup fixed owed = n.headPieces setup fixed owed
      ++ (piecesAll setup (n.fixes fixed) (n.owesInside owed) n.body
        ++ piecesAll setup (n.fixes fixed) false n.branches) ++ n.tailPieces := by
  cases n with
  | ifBlock _ _ _ | elseIf _ _ _ | elseBlock _ | media _ _ | noFlip _ =>
      simp [pieces, headPieces, tailPieces, body, Node.branches, fixes, owesInside, piecesAll,
        Piece.block]
  | _ => simp only [headPieces, tailPieces, body, Node.branches, piecesAll, List.append_nil]

end Node

/-- The pieces of the line of the external classes. -/
def externalPieces (names : List String) : List Piece :=
  if names.isEmpty then []
  else
    .text "@external"
      :: (names.flatMap fun name => [.text " ", .text (Printer.printExternals.spelled name)])
      ++ Piece.semicolon

/-- The pieces of the line of a constant. -/
def Constant.pieces (names : NameTable) (decl : Constant) : List Piece :=
  .text ("@def " ++ names[decl.key]?.getD "" ++ " " ++ decl.text names (decl.kind = .url))
    :: Piece.semicolon

/-- The pieces of what is printed for a stylesheet: the header and the nodes. -/
def PrintSetup.pieces (setup : PrintSetup) (sheet : Stylesheet) : List Piece :=
  externalPieces setup.externals.toList
    ++ (setup.constants.flatMap (Constant.pieces setup.names)
      ++ if setup.constants.isEmpty then [] else [.softBreak])
    ++ Node.piecesAll setup false true sheet.nodes

namespace Printer

/-! ## What has been emitted between two states -/

/-- From `p` to `q` a printer has emitted `pieces`, and each closing brace among them has closed an
open one. -/
structure Emits (pieces : List Piece) (p q : Printer) : Prop where
  sink_eq : q.sink = p.sink.take pieces
  depth_eq : Piece.depthAfter p.sink.level pieces = some q.sink.level

namespace Emits

variable {pieces more : List Piece} {p q r : Printer}

theorem nil (p : Printer) : Emits [] p p := ⟨rfl, rfl⟩

theorem trans (h : Emits pieces p q) (h' : Emits more q r) : Emits (pieces ++ more) p r := by
  refine ⟨?_, ?_⟩
  · rw [h'.sink_eq, h.sink_eq, Sink.take_append]
  · rw [Piece.depthAfter_append, h.depth_eq]
    exact h'.depth_eq

/-- The flags and the warnings are no part of the output. -/
theorem of_sink_eq (h : Emits pieces p q) (hr : r.sink = q.sink) : Emits pieces p r := by
  refine ⟨?_, ?_⟩
  · rw [hr, h.sink_eq]
  · rw [hr, h.depth_eq]

theorem setFlags (h : Emits pieces p q) (f : Flags → Flags) : Emits pieces p (q.setFlags f) :=
  h.of_sink_eq rfl

/-! ## Punctuation -/

theorem print (h : Emits pieces p q) (text : String) :
    Emits (pieces ++ [.text text]) p (q.print text) :=
  h.trans ⟨rfl, (congrArg some (level_write q.sink text)).symm⟩

theorem blank (h : Emits pieces p q) :
    Emits (pieces ++ [.blank]) p (q.onSink (·.writeOptional " ")) :=
  h.trans ⟨rfl, (congrArg some (level_writeOptional q.sink " ")).symm⟩

theorem breakLine (h : Emits pieces p q) : Emits (pieces ++ [.newline]) p q.breakLine :=
  h.trans ⟨rfl, rfl⟩

theorem breakLineOptional (h : Emits pieces p q) :
    Emits (pieces ++ [.softBreak]) p q.breakLineOptional :=
  h.trans ⟨rfl, (congrArg some (level_breakLineOptional q.sink)).symm⟩

theorem openBrace (h : Emits pieces p q) : Emits (pieces ++ [.opening]) p q.openBrace := by
  have hlevel : q.openBrace.sink.level = q.sink.level + 1 :=
    congrArg Posture.level (posture_openBrace q)
  exact h.trans ⟨rfl, (congrArg some hlevel).symm⟩

/-- Only an open brace is closed. -/
theorem closeBrace (h : Emits pieces p q) (hopen : 0 < q.posture.level) :
    Emits (pieces ++ [.closing]) p q.closeBrace := by
  have hlevel : q.closeBrace.sink.level = q.sink.level - 1 :=
    congrArg Posture.level (posture_closeBrace q)
  refine h.trans ⟨rfl, ?_⟩
  obtain ⟨level, hq⟩ : ∃ level, q.sink.level = level + 1 :=
    Nat.exists_eq_succ_of_ne_zero (Nat.ne_of_gt hopen)
  rw [hlevel, hq]
  rfl

theorem semicolon (h : Emits pieces p q) : Emits (pieces ++ Piece.semicolon) p q.semicolon := by
  have hsemicolon := (h.print ";").breakLineOptional
  rwa [List.append_assoc] at hsemicolon

theorem comma (h : Emits pieces p q) : Emits (pieces ++ Piece.comma) p q.comma := by
  have hcomma := (h.print ",").blank
  rwa [List.append_assoc] at hcomma

/-- A step that is taken under a condition. -/
theorem ite (test : Bool) (h : Emits pieces p q) (h' : Emits (pieces ++ more) p r) :
    Emits (pieces ++ if test then more else []) p (if test then r else q) := by
  cases test with
  | true => exact h'
  | false =>
      rw [if_neg Bool.false_ne_true, if_neg Bool.false_ne_true, List.append_nil]
      exact h

/-- A step that is taken for each member of a list. -/
theorem foldl {α : Type} {step : Printer → α → Printer} {out : α → List Piece}
    (hstep : ∀ {pieces : List Piece} {q : Printer} (x : α), Emits pieces p q →
      Emits (pieces ++ out x) p (step q x))
    (xs : List α) (h : Emits pieces p q) : Emits (pieces ++ xs.flatMap out) p (xs.foldl step q) := by
  induction xs generalizing pieces q with
  | nil =>
      rw [List.flatMap_nil, List.append_nil]
      exact h
  | cons x rest ih =>
      rw [List.flatMap_cons, ← List.append_assoc]
      exact ih (hstep x h)

/-! ## The header -/

theorem printExternals (names : List String) (h : Emits pieces p q) :
    Emits (pieces ++ externalPieces names) p (q.printExternals names) := by
  have hname : ∀ {pieces : List Piece} {q : Printer} (name : String), Emits pieces p q →
      Emits (pieces ++ [.text " ", .text (printExternals.spelled name)]) p
        ((q.print " ").print (printExternals.spelled name)) := by
    intro pieces q name h
    have hprint := (h.print " ").print (printExternals.spelled name)
    rwa [List.append_assoc] at hprint
  unfold Printer.printExternals externalPieces
  by_cases hempty : names.isEmpty = true
  · rw [if_pos hempty, if_pos hempty, List.append_nil]
    exact h
  · rw [if_neg hempty, if_neg hempty]
    have hline := (foldl hname names (h.print "@external")).semicolon
    simpa only [List.append_assoc, List.cons_append, List.nil_append] using hline

theorem printConstant {setup : PrintSetup} {decl : Constant} (h : Emits pieces p q)
    (hr : Printer.printConstant setup q decl = .ok r) :
    Emits (pieces ++ decl.pieces setup.names) p r := by
  unfold Printer.printConstant at hr
  unfold Constant.pieces
  cases hname : setup.names[decl.key]? with
  | none =>
      rw [hname] at hr
      cases hr
  | some name =>
      rw [hname] at hr
      cases hr
      have hline := (((h.setFlags ({ · with inUrl := decl.kind = .url })).setFlags
        ({ · with inUrl := false })).print ("@def " ++ name ++ " "
          ++ decl.text setup.names (decl.kind = .url))).semicolon
      rwa [List.append_assoc] at hline

theorem printConstantList {setup : PrintSetup} (decls : List Constant) (h : Emits pieces p q)
    (hr : Printer.printConstantList setup q decls = .ok r) :
    Emits (pieces ++ decls.flatMap (Constant.pieces setup.names)) p r := by
  induction decls generalizing pieces q with
  | nil =>
      cases hr
      rw [List.flatMap_nil, List.append_nil]
      exact h
  | cons decl rest ih =>
      obtain ⟨q₁, h₁, hr⟩ := ok_of_bind hr
      have hrest := ih (h.printConstant h₁) hr
      rwa [List.append_assoc] at hrest

theorem printConstants {setup : PrintSetup} (h : Emits pieces p q)
    (hr : q.printConstants setup = .ok r) :
    Emits (pieces ++ (setup.constants.flatMap (Constant.pieces setup.names)
      ++ if setup.constants.isEmpty then [] else [.softBreak])) p r := by
  obtain ⟨q₁, h₁, hr⟩ := ok_of_bind hr
  cases hr
  have hlist := h.printConstantList setup.constants h₁
  rw [← List.append_assoc]
  by_cases hempty : setup.constants.isEmpty = true
  · rw [if_pos hempty, if_pos hempty, List.append_nil]
    exact hlist
  · rw [if_neg hempty, if_neg hempty]
    exact hlist.breakLineOptional

/-! ## Selectors and media -/

theorem printSelector (selector : Selector) (h : Emits pieces p q) :
    Emits
      (pieces ++ (if q.flags.commaPending then Piece.comma else [])
        ++ (if q.flags.breakPending then [.newline] else []) ++ [.text (unescape selector.text)]) p
      (q.printSelector selector) := by
  have hcomma := h.ite q.flags.commaPending h.comma
  -- A comma does not change whether a line break is owed.
  have hflags : (if q.flags.commaPending then q.comma else q).flags.breakPending
      = q.flags.breakPending := by
    split
    · rfl
    · rfl
  rw [← hflags]
  exact ((hcomma.ite _ hcomma.breakLine).setFlags _).print _

/-- Behind another selector, each selector follows a comma and a line break. -/
theorem printSelectors_behind (selectors : List Selector) (h : Emits pieces p q)
    (hcomma : q.flags.commaPending = true) (hbreak : q.flags.breakPending = true) :
    Emits (pieces ++ selectors.flatMap fun selector =>
        Piece.comma ++ [.newline, .text (unescape selector.text)]) p
      (q.printSelectors selectors) := by
  induction selectors generalizing pieces q with
  | nil =>
      rw [List.flatMap_nil, List.append_nil]
      exact h
  | cons selector rest ih =>
      have hone := h.printSelector selector
      rw [hcomma, hbreak, if_pos rfl, if_pos rfl] at hone
      have hrest := ih hone rfl rfl
      show Emits _ p ((q.printSelector selector).printSelectors rest)
      simpa only [List.flatMap_cons, List.append_assoc, List.cons_append, List.nil_append] using hrest

theorem printSelectors (selectors : List Selector) (h : Emits pieces p q)
    (hcomma : q.flags.commaPending = false) (hbreak : q.flags.breakPending = false) :
    Emits (pieces ++ Selector.pieces selectors) p (q.printSelectors selectors) := by
  cases selectors with
  | nil =>
      rw [Selector.pieces, List.append_nil]
      exact h
  | cons selector rest =>
      have hone := h.printSelector selector
      rw [hcomma, hbreak, if_neg Bool.false_ne_true, if_neg Bool.false_ne_true, List.append_nil,
        List.append_nil] at hone
      have hrest := hone.printSelectors_behind rest rfl rfl
      rwa [List.append_assoc] at hrest

theorem beginRule (h : Emits pieces p q) :
    Emits (pieces ++ Node.owedBreak q.flags.breakPending) p q.beginRule := by
  unfold Node.owedBreak Printer.beginRule
  exact (h.ite q.flags.breakPending h.breakLineOptional).setFlags _

/-- A rule up to the brace behind its selectors. -/
theorem ruleHead (selectors : List Selector) (h : Emits pieces p q) :
    Emits (pieces ++ Node.owedBreak q.flags.breakPending ++ Selector.pieces selectors ++ [.opening]) p
      (q.beginRule.printSelectors selectors).openPendingBrace := by
  have hpending : (q.beginRule.printSelectors selectors).flags.bracePending = true := by
    have hposture := posture_printSelectors selectors q.beginRule
    rw [posture_beginRule] at hposture
    exact congrArg Posture.bracePending hposture
  unfold openPendingBrace
  rw [if_pos hpending]
  exact ((h.beginRule.printSelectors selectors rfl rfl).openBrace).setFlags _

theorem printMedia (queries : List String) (h : Emits pieces p q) :
    Emits (pieces ++ mediaPieces queries) p (q.printMedia queries) := by
  have hmedium : ∀ {pieces : List Piece} {q : Printer} (medium : String), Emits pieces p q →
      Emits (pieces ++ (Piece.comma ++ [.text medium])) p (q.comma.print medium) := by
    intro pieces q medium h
    have hprint := h.comma.print medium
    rwa [List.append_assoc] at hprint
  cases queries with
  | nil =>
      rw [mediaPieces, List.append_nil]
      exact h
  | cons first rest =>
      have hmedia := foldl hmedium rest ((h.print " ").print first)
      rw [Printer.printMedia]
      simpa only [mediaPieces, List.append_assoc, List.cons_append, List.nil_append] using hmedia

/-! ## Properties

The statements assume that no brace is owed, so that the first property opens none. -/

/-- A property that the checker refuses is left out in the lenient mode. -/
theorem printProperty (setup : PrintSetup) (property : Property) (h : Emits pieces p q)
    (hq : q.posture.bracePending = false) :
    Emits (pieces ++ Property.pieces setup q.posture.noFlip [property]) p
      (Printer.printProperty setup q property) := by
  have hprint := (h.print (property.text setup.names q.flags.noFlip)).semicolon
  rw [List.append_assoc] at hprint
  have hflip : q.posture.noFlip = q.flags.noFlip := rfl
  unfold Printer.printProperty Property.pieces
  simp only [openPendingBrace_of_settled hq, hflip, List.flatMap_cons, List.flatMap_nil,
    List.append_nil]
  by_cases hlenient : setup.options.lenient = true
  · cases hchecked : setup.checker
      ("body\x7b" ++ property.text setup.names q.flags.noFlip ++ "\x7d") with
    | ok _ =>
        have hkept : setup.kept q.flags.noFlip property = true := by
          simp [PrintSetup.kept, Property.accepted, Property.refusal?, hchecked]
        simp only [hlenient, hkept, if_true, Bool.not_true, Bool.and_false, Bool.false_eq_true,
          if_false]
        exact hprint
    | error refusal =>
        have hkept : setup.kept q.flags.noFlip property = false := by
          simp [PrintSetup.kept, Property.accepted, Property.refusal?, hchecked]
        simp only [hlenient, hkept, if_true, Bool.not_false, Bool.and_true, List.append_nil]
        exact h.of_sink_eq rfl
  · have hstrict : setup.options.lenient = false := Bool.eq_false_iff.mpr hlenient
    simp only [hstrict, Bool.false_and, Bool.false_eq_true, if_false]
    exact hprint

theorem printProperties (setup : PrintSetup) (properties : List Property) (h : Emits pieces p q)
    (hq : q.posture.bracePending = false) :
    Emits (pieces ++ Property.pieces setup q.posture.noFlip properties) p
      (q.printProperties setup properties) := by
  induction properties generalizing pieces q with
  | nil =>
      rw [Property.pieces, List.flatMap_nil, List.append_nil]
      exact h
  | cons property rest ih =>
      have hposture : (Printer.printProperty setup q property).posture = q.posture := by
        rw [posture_printProperty, openPendingBrace_of_settled hq]
      have hrest := ih (h.printProperty setup property hq) (by rw [hposture, hq])
      rw [hposture, List.append_assoc] at hrest
      have happend : Property.pieces setup q.posture.noFlip (property :: rest)
          = Property.pieces setup q.posture.noFlip [property]
            ++ Property.pieces setup q.posture.noFlip rest := by
        unfold Property.pieces
        rw [← List.flatMap_append]
        rfl
      rw [happend]
      exact hrest

/-- A block of properties, with its braces. -/
theorem block (setup : PrintSetup) (properties : List Property) (h : Emits pieces p q)
    (hq : q.posture.bracePending = false) :
    Emits (pieces ++ Piece.block (Property.pieces setup q.posture.noFlip properties)) p
      (q.openBrace.printProperties setup properties).closeBrace := by
  have hopen : q.openBrace.posture = { q.posture with level := q.posture.level + 1 } :=
    posture_openBrace q
  have hsettled : q.openBrace.posture.bracePending = false := by rw [hopen, hq]
  have hproperties := h.openBrace.printProperties setup properties hsettled
  have hlevel : 0 < (q.openBrace.printProperties setup properties).posture.level := by
    rw [posture_printProperties setup properties hsettled, hopen]
    exact Nat.succ_pos _
  have hblock := hproperties.closeBrace hlevel
  rw [hopen] at hblock
  simpa only [Piece.block, List.append_assoc, List.cons_append, List.nil_append] using hblock

/-- The properties of a rule whose brace is open, up to the end of the rule. -/
theorem endRule (setup : PrintSetup) (properties : List Property) (h : Emits pieces p q)
    (hq : q.posture.bracePending = false) (hlevel : 0 < q.posture.level) :
    Emits (pieces ++ Property.pieces setup q.posture.noFlip properties ++ [.closing]) p
      (q.printProperties setup properties).endRule := by
  have hposture := posture_printProperties setup properties hq
  have hsettled : (q.printProperties setup properties).posture.bracePending = false := by
    rw [hposture, hq]
  unfold Printer.endRule
  rw [openPendingBrace_of_settled hsettled]
  have hclose := (h.printProperties setup properties hq).closeBrace (by rw [hposture]; exact hlevel)
  exact hclose.setFlags _

/-! ## Conditional blocks -/

theorem openConditional {keyword : String} {condition : Condition} (h : Emits pieces p q)
    (hr : Printer.openConditional keyword condition q = .ok r) :
    Emits (pieces ++ [.text (keyword ++ condition.parenthesized), .opening]) p r
      ∧ r.flags.breakPending = false := by
  unfold Printer.openConditional at hr
  unfold Condition.parenthesized
  cases hcondition : condition.text with
  | error fault =>
      rw [hcondition] at hr
      cases hr
  | ok inner =>
      rw [hcondition] at hr
      cases hr
      have hopen := (h.print (keyword ++ " (" ++ inner ++ ")")).openBrace.setFlags
        ({ · with breakPending := false })
      refine ⟨?_, rfl⟩
      simpa only [List.append_assoc, List.cons_append, List.nil_append, String.append_assoc,
        Except.toOption, Option.getD_some] using hopen

end Emits

/-! ## The flags that stay

What lies between two rules leaves alone whether a line break is owed. -/

theorem flags_foldl {α : Type} (step : Printer → α → Printer)
    (hstep : ∀ p x, (step p x).flags = p.flags) (xs : List α) (p : Printer) :
    (xs.foldl step p).flags = p.flags := by
  induction xs generalizing p with
  | nil => rfl
  | cons x rest ih => exact (ih (step p x)).trans (hstep p x)

theorem flags_printMedia (queries : List String) (p : Printer) :
    (p.printMedia queries).flags = p.flags := by
  cases queries with
  | nil => rfl
  | cons first rest =>
      exact flags_foldl (fun p medium => p.comma.print medium) (fun _ _ => rfl) rest
        ((p.print " ").print first)

theorem flags_printProperties (setup : PrintSetup) (properties : List Property) {p : Printer}
    (h : p.posture.bracePending = false) : (p.printProperties setup properties).flags = p.flags := by
  induction properties generalizing p with
  | nil => rfl
  | cons property rest ih =>
      have hone : (printProperty setup p property).flags = p.flags := by
        unfold printProperty
        simp only [openPendingBrace_of_settled h]
        split
        · split
          · rfl
          · rfl
        · rfl
      have hposture : (printProperty setup p property).posture.bracePending = false := by
        rw [posture_printProperty, openPendingBrace_of_settled h, h]
      exact (ih hposture).trans hone

theorem flags_block (setup : PrintSetup) (properties : List Property) {p : Printer}
    (h : p.posture.bracePending = false) :
    (p.openBrace.printProperties setup properties).closeBrace.flags = p.flags :=
  flags_printProperties setup properties (p := p.openBrace) (by rw [posture_openBrace, h])

theorem flags_printExternals (names : List String) (p : Printer) :
    (p.printExternals names).flags = p.flags := by
  unfold printExternals
  split
  · rfl
  · exact flags_foldl (fun p name => (p.print " ").print (printExternals.spelled name))
      (fun _ _ => rfl) names (p.print "@external")

theorem breakPending_printConstantList {setup : PrintSetup} (decls : List Constant) {p q : Printer}
    (hq : printConstantList setup p decls = .ok q) :
    q.flags.breakPending = p.flags.breakPending := by
  induction decls generalizing p with
  | nil =>
      cases hq
      rfl
  | cons decl rest ih =>
      obtain ⟨p₁, h₁, hq⟩ := ok_of_bind hq
      have hone : p₁.flags.breakPending = p.flags.breakPending := by
        unfold printConstant at h₁
        split at h₁
        · cases h₁
        · cases h₁
          rfl
      rw [ih hq, hone]

/-- The first rule is treated as if it came behind another one. -/
theorem breakPending_header {setup : PrintSetup} {p : Printer} (h : setup.header = .ok p) :
    p.flags.breakPending = true := by
  obtain ⟨p₁, h₁, h⟩ := ok_of_bind h
  cases h
  have hlist := breakPending_printConstantList setup.constants h₁
  rw [flags_printExternals] at hlist
  split
  · exact hlist
  · exact hlist

/-! ## Nodes -/

/-- At the end of a rule it does not matter whether its brace was opened before the properties. -/
theorem endRule_openPendingBrace (setup : PrintSetup) (properties : List Property) (p : Printer) :
    (p.printProperties setup properties).endRule
      = (p.openPendingBrace.printProperties setup properties).endRule := by
  unfold endRule
  rw [openPendingBrace_printProperties]

/-- A block of properties behind what stands in front of it. -/
theorem emits_block {head : List Piece} {p q : Printer} (setup : PrintSetup)
    (properties : List Property) (h : Emits head p q) (hposture : q.posture = p.posture)
    (hflags : q.flags = p.flags) (hsettled : p.posture.bracePending = false) :
    Emits (head ++ Piece.block (Property.pieces setup p.posture.noFlip properties)) p
        (q.openBrace.printProperties setup properties).closeBrace
      ∧ (q.openBrace.printProperties setup properties).closeBrace.flags.breakPending
        = p.flags.breakPending := by
  have hq : q.posture.bracePending = false := by rw [hposture, hsettled]
  rw [flags_block setup properties hq, hflags, ← hposture]
  exact ⟨h.block setup properties hq, rfl⟩

section Parts

variable {setup : PrintSetup} {n : Node} {p q : Printer}

theorem emits_enter (hsettled : p.posture.bracePending = false) (hq : enter setup n p = .ok q) :
    Emits (n.headPieces setup p.posture.noFlip p.flags.breakPending) p q
      ∧ q.flags.breakPending = n.owesInside p.flags.breakPending := by
  cases n with
  | rule selectors properties =>
      cases hq
      -- The brace of a rule is owed until its first property, or until the rule ends without one.
      rw [endRule_openPendingBrace]
      have hposture := posture_openPendingBrace_beginRule selectors hsettled
      have hrule := ((Emits.nil p).ruleHead selectors).endRule setup properties
        (by rw [hposture, hsettled]) (by rw [hposture]; exact Nat.succ_pos _)
      rw [hposture] at hrule
      refine ⟨?_, rfl⟩
      simpa only [Node.headPieces, Node.pieces, Piece.block, List.append_assoc, List.cons_append,
        List.nil_append] using hrule
  | ifBlock condition _ _ => exact (Emits.nil p).breakLine.openConditional hq
  | elseIf _ _ _ | elseBlock _ => cases hq
  | media queries _ =>
      cases hq
      exact ⟨(((Emits.nil p).print "@media").printMedia queries).openBrace,
        congrArg Flags.breakPending (flags_printMedia queries (p.print "@media"))⟩
  | page pseudoPage properties =>
      cases pseudoPage with
      | none =>
          cases hq
          exact emits_block setup properties ((Emits.nil p).print "@page") (posture_print p _) rfl
            hsettled
      | some pseudo =>
          cases hq
          have hpage : ((p.print "@page").print (" :" ++ pseudo)).posture = p.posture := by
            rw [posture_print, posture_print]
          exact emits_block setup properties (((Emits.nil p).print "@page").print (" :" ++ pseudo))
            hpage rfl hsettled
  | fontFace properties =>
      cases hq
      exact emits_block setup properties ((Emits.nil p).print "@font-face") (posture_print p _) rfl
        hsettled
  | sprite selectors resource properties =>
      cases hq
      have hposture := posture_openPendingBrace_beginRule selectors hsettled
      have hresource := (((Emits.nil p).ruleHead selectors).print
        ("gwt-sprite: \"" ++ unescape resource ++ "\"")).semicolon
      have hrule := hresource.endRule setup properties
        (by rw [posture_semicolon, posture_print, hposture, hsettled])
        (by rw [posture_semicolon, posture_print, hposture]; exact Nat.succ_pos _)
      rw [posture_semicolon, posture_print, hposture] at hrule
      refine ⟨?_, rfl⟩
      simpa only [Node.headPieces, Node.pieces, Piece.block, List.append_assoc, List.cons_append,
        List.nil_append] using hrule
  | noFlip _ =>
      cases hq
      exact ⟨(Emits.nil p).setFlags _, rfl⟩
  | constant _ | external _ =>
      cases hq
      exact ⟨Emits.nil p, rfl⟩
  | unknownAtRule directive =>
      cases hq
      exact ⟨((Emits.nil p).print directive).breakLineOptional, rfl⟩

theorem emits_leave {pieces : List Piece} {start : Printer} (h : Emits pieces p q)
    (hposture : q.posture = start.posture.inside n) :
    Emits (pieces ++ n.tailPieces) p (leave start n q) := by
  cases n with
  | ifBlock _ _ _ =>
      rw [Node.tailPieces, leave]
      exact (h.closeBrace (by rw [hposture]; exact Nat.succ_pos _)).setFlags _
  | media _ _ => exact h.closeBrace (by rw [hposture]; exact Nat.succ_pos _)
  | noFlip _ => exact h.trans ((Emits.nil q).setFlags ({ · with noFlip := start.flags.noFlip }))
  | _ => exact h.trans (Emits.nil q)

/-- What a node leaves owed is what its body leaves owed, except behind a conditional block. -/
theorem breakPending_leave {start : Printer} (hp : enter setup n start = .ok p)
    (h : n.branches = [] →
      q.flags.breakPending = Node.owesAll (n.owesInside start.flags.breakPending) n.body) :
    (leave start n q).flags.breakPending = n.owes start.flags.breakPending := by
  cases n with
  | ifBlock _ _ _ => rfl
  | elseIf _ _ _ | elseBlock _ => cases hp
  | _ => exact h rfl

theorem emits_enterBranch (setup : PrintSetup) (hlevel : 0 < p.posture.level) (owed : Bool)
    (hq : enterBranch n p = .ok q) :
    Emits (n.headPieces setup p.posture.noFlip owed) p q
      ∧ q.flags.breakPending = n.owesInside owed := by
  have hclose := (Emits.nil p).closeBrace hlevel
  cases n with
  | elseIf condition _ _ => exact hclose.openConditional hq
  | elseBlock _ =>
      cases hq
      exact ⟨((hclose.print "@else").openBrace).setFlags _, rfl⟩
  | _ => cases hq

theorem tailPieces_of_enterBranch (hq : enterBranch n p = .ok q) : n.tailPieces = [] := by
  cases n with
  | elseIf _ _ _ | elseBlock _ => rfl
  | _ => cases hq

end Parts

/-- Nodes emit their pieces, and so do branches. Branches take no notice of an owed line break, so their
pieces do not depend on it. -/
structure EmitsPieces (setup : PrintSetup) (ns : List Node) : Prop where
  nodes : ∀ {p q : Printer}, p.posture.bracePending = false → printNodes setup ns p = .ok q →
    Emits (Node.piecesAll setup p.posture.noFlip p.flags.breakPending ns) p q
      ∧ q.flags.breakPending = Node.owesAll p.flags.breakPending ns
  branches : ∀ (owed : Bool) {p q : Printer}, p.posture.bracePending = false →
    (ns ≠ [] → 0 < p.posture.level) → printBranches setup ns p = .ok q →
    Emits (Node.piecesAll setup p.posture.noFlip owed ns) p q

/-- Where there are branches, they have the last word on what is owed. -/
theorem EmitsPieces.printInside {setup : PrintSetup} {n : Node} {p q : Printer}
    (hbody : EmitsPieces setup n.body) (hbranches : EmitsPieces setup n.branches)
    (hsettled : p.posture.bracePending = false)
    (hlevel : n.branches ≠ [] → 0 < p.posture.level) (hq : printInside setup n p = .ok q) :
    Emits (Node.piecesAll setup p.posture.noFlip p.flags.breakPending n.body
        ++ Node.piecesAll setup p.posture.noFlip false n.branches) p q
      ∧ (n.branches = [] →
        q.flags.breakPending = Node.owesAll p.flags.breakPending n.body) := by
  obtain ⟨p₁, h₁, hq⟩ := ok_of_bind hq
  have s₁ := posture_printNodes setup n.body hsettled h₁
  obtain ⟨e₁, hbreak⟩ := hbody.nodes hsettled h₁
  have e₂ := hbranches.branches false (by rw [s₁, hsettled]) (by rwa [s₁]) hq
  rw [s₁] at e₂
  refine ⟨e₁.trans e₂, fun hnone => ?_⟩
  rw [hnone] at hq
  cases hq
  exact hbreak

theorem emitsPieces (setup : PrintSetup) (ns : List Node) : EmitsPieces setup ns := by
  induction ns using Node.parts_induction with
  | nil =>
      refine ⟨fun {p q} _ hq => ?_, fun _ {p q} _ _ hq => ?_⟩
      · cases hq
        exact ⟨Emits.nil p, rfl⟩
      · cases hq
        exact Emits.nil p
  | cons n rest hbody hbranches hrest =>
      refine ⟨fun {p q} hsettled hq => ?_, fun owed {p q} hsettled hlevel hq => ?_⟩
      · -- Of each of the four steps: the posture behind it, the pieces, and the line break still owed.
        obtain ⟨p₁, p₂, h₁, h₂, hq⟩ := exists_of_printNodes_cons hq
        have s₁ := posture_enter hsettled h₁
        have hinside : p₁.posture.bracePending = false := by
          rw [s₁, Posture.bracePending_inside, hsettled]
        have hopen := level_enter_pos hsettled h₁
        have s₂ := (posture_printInside hinside hopen h₂).trans s₁
        have s₃ := posture_leave s₂
        obtain ⟨e₁, hbreak₁⟩ := emits_enter hsettled h₁
        obtain ⟨e₂, hbreak₂⟩ := hbody.printInside hbranches hinside hopen h₂
        rw [s₁, Posture.noFlip_inside, hbreak₁] at e₂
        rw [hbreak₁] at hbreak₂
        have e₃ := emits_leave (e₁.trans e₂) s₂
        rw [← Node.pieces_eq] at e₃
        obtain ⟨e₄, hbreak₄⟩ := hrest.nodes (by rw [s₃, hsettled]) hq
        rw [s₃, breakPending_leave h₁ hbreak₂] at e₄
        rw [breakPending_leave h₁ hbreak₂] at hbreak₄
        exact ⟨e₃.trans e₄, hbreak₄⟩
      · have hopen := hlevel (List.cons_ne_nil n rest)
        obtain ⟨p₁, p₂, h₁, h₂, hq⟩ := exists_of_printBranches_cons hq
        have s₁ := posture_enterBranch hopen h₁
        have s₂ := posture_printInside (by rw [s₁, hsettled]) (fun _ => by rwa [s₁]) h₂
        obtain ⟨e₁, hbreak₁⟩ := emits_enterBranch setup hopen owed h₁
        have e₂ := (hbody.printInside hbranches (by rw [s₁, hsettled]) (fun _ => by rwa [s₁]) h₂).1
        have e₃ := hrest.branches (n.owes owed) (by rw [s₂, s₁, hsettled])
          (fun _ => by rwa [s₂, s₁]) hq
        rw [s₁, hbreak₁] at e₂
        rw [s₂, s₁] at e₃
        rw [Node.piecesAll, Node.pieces_eq, fixes_of_enterBranch h₁, tailPieces_of_enterBranch h₁,
          List.append_nil]
        exact (e₁.trans e₂).trans e₃

end Printer

/-! ## Whole stylesheets -/

/-- Behind a stylesheet, the sink has taken its pieces and every brace is closed. -/
theorem PrintSetup.emits_pieces {setup : PrintSetup} {sheet : Stylesheet} {p q : Printer}
    (hp : setup.header = .ok p) (hq : Printer.printNodes setup sheet.nodes p = .ok q) :
    Printer.Emits (setup.pieces sheet) (.new setup.options.layout) q := by
  have hposture := Printer.posture_header hp
  have hheader := ((Printer.Emits.nil (.new setup.options.layout)).printExternals
    setup.externals.toList).printConstants hp
  have hbreak : p.flags.breakPending = true := Printer.breakPending_header hp
  have hnodes := ((Printer.emitsPieces setup sheet.nodes).nodes (by rw [hposture]) hq).1
  rw [hposture, hbreak] at hnodes
  exact hheader.trans hnodes

end Restyle
