import Restyle.Proofs.Printing.Header
import Restyle.Proofs.Printing.Pieces

set_option autoImplicit false

/-! # The compact text of a stylesheet

A printer remembers which brace, comma and line break it owes. In the compact layout none of that
shows: the text of a node depends on the node, on the names of the constants and on whether it stands
in a `noFlip` block, and on nothing that was printed before. `Node.text` gives it by recursion over the
tree, and `PrintSetup.gss_compact` says that a compact conversion without the lenient mode is the
header followed by the texts of its nodes.

What a printer hands to its sink are the pieces of the tree. In a compact sink each piece leaves a text of
its own (`Sink.buffer_take`), and joined together these are the texts of the nodes
(`Node.joined_piecesAll`).
-/

namespace Restyle

/-! ## Texts -/

/-- The text of a list of selectors. -/
def Selector.listText (selectors : List Selector) : String :=
  ",\n".intercalate (selectors.map fun selector => unescape selector.text)

/-- The text of a list of properties. -/
def Property.listText (names : NameTable) (fixed : Bool) (properties : List Property) : String :=
  String.join (properties.map fun property => property.text names fixed ++ ";")

/-- The media that a block is for, behind a blank. -/
def mediaText : List String → String
  | [] => ""
  | queries => " " ++ ",".intercalate queries

/-- The name of the page that a block is for, behind a blank. -/
def pageText : Option String → String
  | none => ""
  | some pseudo => " :" ++ pseudo

/-- A text between braces. -/
def braced (text : String) : String := "\x7b" ++ text ++ "\x7d"

theorem intercalate_cons_eq_join (separator first : String) (rest : List String) :
    separator.intercalate (first :: rest) = first ++ String.join (rest.map (separator ++ ·)) := by
  induction rest generalizing first with
  | nil => rw [String.intercalate_singleton, List.map_nil, String.join_nil, String.append_empty]
  | cons second rest ih =>
      rw [String.intercalate_cons_cons, ih second, List.map_cons, String.join_cons]
      simp only [String.append_assoc]

namespace Node

mutual

/-- The compact text of a node. The text of a branch starts by closing the block before it and leaves
its own block open. -/
def text (names : NameTable) (fixed : Bool) : Node → String
  | .rule selectors properties =>
      Selector.listText selectors ++ braced (Property.listText names fixed properties)
  | .ifBlock condition nodes branches =>
      "\n@if" ++ condition.parenthesized
        ++ braced (textAll names fixed nodes ++ textAll names fixed branches)
  | .elseIf condition nodes branches =>
      "\x7d@elseif" ++ condition.parenthesized ++ "\x7b"
        ++ textAll names fixed nodes ++ textAll names fixed branches
  | .elseBlock nodes => "\x7d@else\x7b" ++ textAll names fixed nodes
  | .media queries nodes => "@media" ++ mediaText queries ++ braced (textAll names fixed nodes)
  | .page pseudoPage properties =>
      "@page" ++ pageText pseudoPage ++ braced (Property.listText names fixed properties)
  | .fontFace properties => "@font-face" ++ braced (Property.listText names fixed properties)
  | .sprite selectors resource properties =>
      Selector.listText selectors
        ++ braced ("gwt-sprite: \"" ++ unescape resource ++ "\";"
          ++ Property.listText names fixed properties)
  | .noFlip nodes => textAll names true nodes
  | .constant _ => ""
  | .external _ => ""
  | .unknownAtRule directive => directive

/-- The compact text of nodes that follow each other. -/
def textAll (names : NameTable) (fixed : Bool) : List Node → String
  | [] => ""
  | node :: rest => text names fixed node ++ textAll names fixed rest

end

/-- Nodes that follow each other do not influence each other. -/
theorem textAll_eq_join (names : NameTable) (fixed : Bool) (ns : List Node) :
    textAll names fixed ns = String.join (ns.map (text names fixed)) := by
  induction ns with
  | nil => rfl
  | cons n rest ih => rw [textAll, List.map_cons, String.join_cons, ih]

end Node

/-! ## Compact sinks -/

namespace Sink

variable {s : Sink}

theorem writeOptional_of_compact (h : s.layout = .compact) (text : String) :
    s.writeOptional text = s := if_pos (by simp [isCompact, h])

theorem breakLineOptional_of_compact (h : s.layout = .compact) : s.breakLineOptional = s :=
  if_pos (by simp [isCompact, h])

end Sink

/-- What a piece leaves in a compact sink. -/
def Piece.compactText : Piece → String
  | .text content => content
  | .blank => ""
  | .newline => "\n"
  | .softBreak => ""
  | .opening => "\x7b"
  | .closing => "\x7d"

/-- What pieces leave in a compact sink. -/
def Piece.joined (pieces : List Piece) : String := String.join (pieces.map compactText)

/-- A compact sink never indents, whatever the level. -/
theorem Piece.put_compact (piece : Piece) {s : Sink} (h : s.layout = .compact) :
    (piece.put s).layout = .compact ∧ (piece.put s).buffer = s.buffer ++ piece.compactText := by
  have hwrite : ∀ text, (s.write text).layout = .compact := by
    intro text
    rw [Sink.layout_write, h]
  cases piece with
  | text content => exact ⟨hwrite content, Sink.Flush.buffer_write (Or.inl h) content⟩
  | blank =>
      rw [put, Sink.writeOptional_of_compact h]
      exact ⟨h, String.append_empty.symm⟩
  | newline => exact ⟨h, String.push_eq_append '\n'⟩
  | softBreak =>
      rw [put, Sink.breakLineOptional_of_compact h]
      exact ⟨h, String.append_empty.symm⟩
  | opening =>
      rw [put, Sink.writeOptional_of_compact h, Sink.breakLineOptional_of_compact (hwrite _)]
      exact ⟨hwrite _, Sink.Flush.buffer_write (Or.inl h) _⟩
  | closing =>
      have hflush : s.dedent.Flush := Or.inl h
      have hdedent : (s.dedent.write "\x7d").layout = .compact := by
        rw [Sink.layout_write]
        exact h
      rw [put, Sink.breakLineOptional_of_compact hdedent]
      exact ⟨hdedent, hflush.buffer_write _⟩

theorem Sink.buffer_take {s : Sink} (h : s.layout = .compact) (pieces : List Piece) :
    (s.take pieces).buffer = s.buffer ++ Piece.joined pieces := by
  induction pieces generalizing s with
  | nil => exact String.append_empty.symm
  | cons piece rest ih =>
      obtain ⟨hlayout, hbuffer⟩ := piece.put_compact h
      have hrest : (s.take (piece :: rest)).buffer = (piece.put s).buffer ++ Piece.joined rest :=
        ih hlayout
      rw [hrest, hbuffer, Piece.joined, Piece.joined, List.map_cons, String.join_cons,
        String.append_assoc]

/-! ## The texts of pieces -/

namespace Piece

@[simp] theorem joined_nil : joined [] = "" := rfl

@[simp] theorem joined_cons (piece : Piece) (rest : List Piece) :
    joined (piece :: rest) = piece.compactText ++ joined rest := by
  rw [joined, List.map_cons, String.join_cons, joined]

@[simp] theorem joined_append (first second : List Piece) :
    joined (first ++ second) = joined first ++ joined second := by
  rw [joined, List.map_append, String.join_append, joined, joined]

/-- Pieces for each member of a list. -/
theorem joined_flatMap {α : Type} (out : α → List Piece) (xs : List α) :
    joined (xs.flatMap out) = String.join (xs.map fun x => joined (out x)) := by
  induction xs with
  | nil => rfl
  | cons x rest ih => rw [List.flatMap_cons, joined_append, ih, List.map_cons, String.join_cons]

@[simp] theorem joined_block (pieces : List Piece) : joined (block pieces) = braced (joined pieces) := by
  rw [block, joined_append, joined_cons, braced]
  rfl

@[simp] theorem joined_owedBreak (owed : Bool) : joined (Node.owedBreak owed) = "" := by
  cases owed with
  | true => rfl
  | false => rfl

end Piece

open Piece

@[simp] theorem Selector.joined_pieces (selectors : List Selector) :
    joined (Selector.pieces selectors) = Selector.listText selectors := by
  cases selectors with
  | nil => rfl
  | cons first rest =>
      rw [Selector.pieces, Selector.listText, joined_cons, joined_flatMap, List.map_cons,
        intercalate_cons_eq_join, List.map_map]
      rfl

@[simp] theorem joined_mediaPieces (queries : List String) :
    joined (mediaPieces queries) = mediaText queries := by
  cases queries with
  | nil => rfl
  | cons first rest =>
      have hmedia : mediaText (first :: rest) = " " ++ ",".intercalate (first :: rest) := rfl
      rw [mediaPieces, hmedia, joined_append, joined_flatMap, intercalate_cons_eq_join,
        ← String.append_assoc]
      rfl

theorem Property.joined_pieces {setup : PrintSetup} (hstrict : setup.options.lenient = false)
    (fixed : Bool) (properties : List Property) :
    joined (Property.pieces setup fixed properties)
      = Property.listText setup.names fixed properties := by
  rw [Property.pieces, Property.listText, joined_flatMap]
  simp [hstrict, compactText, semicolon]

namespace Node

section Parts

variable {setup : PrintSetup} (hstrict : setup.options.lenient = false)
include hstrict

theorem joined_pieces {n : Node}
    (hbody : ∀ fixed owed,
      joined (piecesAll setup fixed owed n.body) = textAll setup.names fixed n.body)
    (hbranches : ∀ fixed owed,
      joined (piecesAll setup fixed owed n.branches) = textAll setup.names fixed n.branches)
    (fixed owed : Bool) : joined (n.pieces setup fixed owed) = n.text setup.names fixed := by
  -- Words that a text has in one and the pieces apart.
  have hif : ∀ rest, "\n" ++ ("@if" ++ rest) = "\n@if" ++ rest :=
    fun _ => String.append_assoc.symm
  have helseIf : ∀ rest, "\x7d" ++ ("@elseif" ++ rest) = "\x7d@elseif" ++ rest :=
    fun _ => String.append_assoc.symm
  have helse : ∀ rest, "\x7d" ++ ("@else" ++ ("\x7b" ++ rest)) = "\x7d@else\x7b" ++ rest := by
    intro rest
    rw [← String.append_assoc, ← String.append_assoc]
    rfl
  have hquote : ∀ rest, "\"" ++ (";" ++ rest) = "\";" ++ rest := fun _ => String.append_assoc.symm
  have hproperties := Property.joined_pieces hstrict fixed
  cases n with
  | ifBlock condition nodes branches | elseIf condition nodes branches =>
      simp only [body, Node.branches] at hbody hbranches
      simp [pieces, text, compactText, hbody, hbranches, hif, helseIf, String.append_assoc]
  | elseBlock nodes | media queries nodes | noFlip nodes =>
      simp only [body] at hbody
      simp [pieces, text, compactText, hbody, helse, String.append_assoc]
  | page pseudoPage properties =>
      cases pseudoPage with
      | none => simp [pieces, text, pageText, compactText, hproperties]
      | some pseudo => simp [pieces, text, pageText, compactText, hproperties, String.append_assoc]
  | _ => simp [pieces, text, compactText, semicolon, hproperties, hquote, String.append_assoc]

/-- What the pieces of a tree leave in a compact sink are the texts of its nodes, whether a line break is
owed before them or not. -/
theorem joined_piecesAll (fixed owed : Bool) (ns : List Node) :
    joined (piecesAll setup fixed owed ns) = textAll setup.names fixed ns := by
  induction ns using parts_induction generalizing fixed owed with
  | nil => rfl
  | cons n rest hbody hbranches hrest =>
      rw [piecesAll, textAll, joined_append, joined_pieces hstrict hbody hbranches, hrest]

end Parts

end Node

/-! ## Whole stylesheets -/

/-- **Compact printing is a function of the tree.** A compact conversion that keeps all properties
delivers the line of the external classes, the lines of the constants and the texts of the nodes, each
in its order. -/
theorem PrintSetup.gss_compact {setup : PrintSetup} {sheet : Stylesheet} {conversion : Conversion}
    (hlayout : setup.options.layout = .compact) (hstrict : setup.options.lenient = false)
    (h : setup.generate sheet = .ok conversion) :
    conversion.gss
      = externalLine .compact setup.externals.toList
        ++ String.join (setup.constants.map (Constant.line .compact setup.names))
        ++ String.join (sheet.nodes.map (Node.text setup.names false)) := by
  rw [generate_eq] at h
  obtain ⟨p, hp, h⟩ := ok_of_bind h
  obtain ⟨q, hq, h⟩ := ok_of_bind h
  cases h
  have hheader := wrote_header hp
  have hposture := Printer.posture_header hp
  rw [hlayout] at hheader
  have hnodes := ((Printer.emitsPieces setup sheet.nodes).nodes (by rw [hposture]) hq).1.sink_eq
  have htext : setup.headerText = externalLine .compact setup.externals.toList
      ++ String.join (setup.constants.map (Constant.line .compact setup.names)) := by
    simp [headerText, Constant.lines, hlayout, Layout.lineEnd]
  show q.sink.buffer = _
  rw [hnodes, Sink.buffer_take hheader.layout_eq, Node.joined_piecesAll hstrict, hposture,
    Node.textAll_eq_join, hheader.buffer_eq, htext]
  exact congrArg (· ++ _) String.empty_append

/-- A setup with an external class, a pattern and a constant. -/
def PrintSetup.sample : PrintSetup where
  names := Std.ExtTreeMap.ofList [("mainColor", "MAIN_COLOR")]
  externals := Std.ExtTreeSet.ofList ["b*", "a"]
  constants := [⟨.plain, "mainColor", [⟨.literal "red", true⟩]⟩]
  options := ⟨false, .compact⟩
  checker := Declaration.check

/-- A stylesheet with a node of every kind. -/
def Stylesheet.sample : Stylesheet :=
  let color : Property := ⟨"color", [⟨.ident "mainColor", true⟩], false⟩
  let left : Property := ⟨"left", [⟨.literal "0", true⟩], true⟩
  ⟨[.rule [.ofText ".a", .ofText ".b\\:c"] [color, left],
    .ifBlock (.feature ⟨"locale", ["en", "fr"], false⟩) [.noFlip [.rule [.ofText ".d"] [left]]]
      [.elseIf (.runtime "(x())") [.fontFace [color]] [.elseBlock [.page (some "first") [color]]],
        .elseBlock [.rule [] []]],
    .media ["print", "screen"] [.sprite [.ofText ".s"] "logo" [left]],
    .external [.ident "a"],
    .constant ⟨.plain, "mainColor", [⟨.literal "red", true⟩]⟩,
    .unknownAtRule "@x y;",
    .rule [.ofText ".e"] []]⟩

/-- Its compact text. -/
def Stylesheet.sampleGss : String :=
  "@external a 'b*';@def MAIN_COLOR red;"
    ++ ".a,\n.b:c\x7bcolor: MAIN_COLOR;left: 0 !important;\x7d"
    ++ "\n@if (is(\"locale\", \"en\") || is(\"locale\", \"fr\"))\x7b"
    ++ ".d\x7b/* @noflip */ left: 0 !important;\x7d"
    ++ "\x7d@elseif (eval('x()'))\x7b@font-face\x7bcolor: MAIN_COLOR;\x7d"
    ++ "\x7d@else\x7b@page :first\x7bcolor: MAIN_COLOR;\x7d"
    ++ "\x7d@else\x7b\x7b\x7d\x7d"
    ++ "@media print,screen\x7b.s\x7bgwt-sprite: \"logo\";left: 0 !important;\x7d\x7d"
    ++ "@x y;.e\x7b\x7d"

theorem PrintSetup.gss_compact_sample :
    sample.generate .sample = .ok ⟨Stylesheet.sampleGss, []⟩
      ∧ Stylesheet.sampleGss
        = externalLine .compact sample.externals.toList
          ++ String.join (sample.constants.map (Constant.line .compact sample.names))
          ++ String.join (Stylesheet.sample.nodes.map (Node.text sample.names false)) := by
  have h : sample.generate .sample = .ok ⟨Stylesheet.sampleGss, []⟩ := by decide +kernel
  exact ⟨h, gss_compact rfl rfl h⟩

end Restyle
