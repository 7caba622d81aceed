import Restyle.Proofs.Condition.Renderable
import Restyle.Proofs.Printing.Rendering

set_option autoImplicit false

/-! # Texts without braces and line breaks

A printer adds braces and line breaks of its own, and passes on those that stand in the strings of a
tree. Where the strings have none, neither has any text that is printed (`PrintSetup.plain_pieces`):
all of them come from the braces and breaks among the pieces.
-/

namespace Restyle

/-- A text without braces and line breaks. -/
def Plain (text : String) : Prop :=
  ∀ c ∈ text.toList, c ≠ '\x7b' ∧ c ≠ '\x7d' ∧ c ≠ '\n'

instance (text : String) : Decidable (Plain text) :=
  List.decidableBAll (fun c => c ≠ '\x7b' ∧ c ≠ '\x7d' ∧ c ≠ '\n') text.toList

namespace Plain

variable {s t : String}

theorem append (hs : Plain s) (ht : Plain t) : Plain (s ++ t) := by
  intro c hc
  rw [String.toList_append, List.mem_append] at hc
  rcases hc with hc | hc
  · exact hs c hc
  · exact ht c hc

/-- Taking characters out keeps a text plain. -/
theorem of_subset (hs : Plain s) (h : t.toList ⊆ s.toList) : Plain t := fun c hc => hs c (h hc)

theorem unescape (hs : Plain s) : Plain (unescape s) := by
  refine hs.of_subset ?_
  unfold Restyle.unescape
  rw [String.toList_ofList]
  exact List.filter_sublist.subset

theorem ite (test : Prop) [Decidable test] (hs : Plain s) (ht : Plain t) :
    Plain (if test then s else t) := by
  split
  · exact hs
  · exact ht

theorem join {texts : List String} (h : ∀ text ∈ texts, Plain text) : Plain (String.join texts) := by
  induction texts with
  | nil => decide
  | cons text rest ih =>
      rw [List.forall_mem_cons] at h
      rw [String.join_cons]
      exact h.1.append (ih h.2)

theorem intercalate {texts : List String} (hs : Plain s) (h : ∀ text ∈ texts, Plain text) :
    Plain (s.intercalate texts) := by
  cases texts with
  | nil =>
      rw [String.intercalate_nil]
      decide
  | cons first rest =>
      rw [List.forall_mem_cons] at h
      rw [intercalate_cons_eq_join]
      refine h.1.append (join ?_)
      rw [List.forall_mem_map]
      exact fun text htext => hs.append (h.2 text htext)

end Plain

/-! ## The strings that are printed -/

mutual

/-- The strings of a value. -/
def Value.strings : Value → List String
  | .literal text => [text]
  | .ident name => [name]
  | .expression code => [code]
  | .resourcePath path suffix => path :: suffix.toList
  | .list terms => Term.stringsAll terms

/-- The strings of a list of terms. -/
def Term.stringsAll : List Term → List String
  | [] => []
  | ⟨value, _⟩ :: rest => value.strings ++ Term.stringsAll rest

end

/-- The strings of a property. -/
def Property.strings (property : Property) : List String :=
  property.name :: Term.stringsAll property.values

/-- The strings of a condition. -/
def Condition.strings : Condition → List String
  | .feature test => test.property :: test.values
  | .runtime expression => [expression]

namespace Node

mutual

/-- The strings of a node that are printed in its place. -/
def strings : Node → List String
  | .rule selectors properties =>
      selectors.map Selector.text ++ properties.flatMap Property.strings
  | .ifBlock condition nodes branches =>
      condition.strings ++ stringsAll nodes ++ stringsAll branches
  | .elseIf condition nodes branches =>
      condition.strings ++ stringsAll nodes ++ stringsAll branches
  | .elseBlock nodes => stringsAll nodes
  | .media queries nodes => queries ++ stringsAll nodes
  | .page pseudoPage properties => pseudoPage.toList ++ properties.flatMap Property.strings
  | .fontFace properties => properties.flatMap Property.strings
  | .sprite selectors resource properties =>
      selectors.map Selector.text ++ resource :: properties.flatMap Property.strings
  | .noFlip nodes => stringsAll nodes
  | .constant _ => []
  | .external _ => []
  | .unknownAtRule directive => [directive]

/-- The strings of some nodes that are printed in their place. -/
def stringsAll : List Node → List String
  | [] => []
  | node :: rest => strings node ++ stringsAll rest

end

end Node

/-- The strings that are printed for a stylesheet: the names of constants, the external classes, the
values of the constants, and those of the nodes. -/
def PrintSetup.strings (setup : PrintSetup) (sheet : Stylesheet) : List String :=
  setup.names.toList.map Prod.snd ++ setup.externals.toList
    ++ setup.constants.flatMap (fun decl => Term.stringsAll decl.values)
    ++ Node.stringsAll sheet.nodes

/-! ## Values -/

/-- All names of a table are plain. -/
def NameTable.Plain (names : NameTable) : Prop := ∀ entry ∈ names.toList, Restyle.Plain entry.2

theorem NameTable.Plain.getD {names : NameTable} (h : names.Plain) (key : String) {default : String}
    (hdefault : Restyle.Plain default) : Restyle.Plain (names[key]?.getD default) := by
  cases hname : names[key]? with
  | none => exact hdefault
  | some name =>
      exact h (key, name) (Std.ExtTreeMap.mem_toList_iff_getElem?_eq_some.mpr hname)

theorem plain_resourceCall {path : String} {suffix : Option String} (hpath : Plain path)
    (hsuffix : ∀ text ∈ suffix, Plain text) : Plain (resourceCall path suffix) := by
  have hshort : Plain ("value('" ++ path ++ "')") :=
    (Plain.append (by decide) hpath).append (by decide)
  cases suffix with
  | none => exact hshort
  | some text =>
      unfold resourceCall
      refine Plain.ite _ hshort ?_
      have hcall : Plain ("value('" ++ path ++ "', '") :=
        (Plain.append (by decide) hpath).append (by decide)
      exact (hcall.append (hsuffix text rfl)).append (by decide)

mutual

theorem Value.plain_text {names : NameTable} (hnames : names.Plain) (inUrl : Bool) :
    ∀ {value : Value}, (∀ s ∈ value.strings, Plain s) → Plain (value.text names inUrl)
  | .literal text, h => by
      rw [Value.text]
      exact (h text List.mem_cons_self).unescape
  | .ident name, h => by
      rw [Value.text]
      exact (hnames.getD name (h name List.mem_cons_self)).unescape
  | .expression code, h => by
      rw [Value.text]
      exact h code List.mem_cons_self
  | .resourcePath path suffix, h => by
      have hpath : Plain path := h path List.mem_cons_self
      have hsuffix : ∀ text ∈ suffix, Plain text := fun text htext =>
        h text (List.mem_cons_of_mem _ (Option.mem_toList.mpr htext))
      rw [Value.text]
      exact (Plain.ite _ hpath (plain_resourceCall hpath hsuffix)).unescape
  | .list terms, h => by
      rw [Value.text]
      exact Term.plain_textBehind hnames inUrl (by decide) h

theorem Term.plain_textBehind {names : NameTable} (hnames : names.Plain) (inUrl : Bool) :
    ∀ {terms : List Term} {written : String}, Plain written →
      (∀ s ∈ Term.stringsAll terms, Plain s) → Plain (Term.textBehind names inUrl written terms)
  | [], written, hwritten, _ => by
      rw [Term.textBehind]
      exact hwritten
  | ⟨value, spaced⟩ :: rest, written, hwritten, h => by
      rw [Term.stringsAll, List.forall_mem_append] at h
      rw [Term.textBehind]
      have hbefore := Plain.ite ((spaced && !written.isEmpty) = true)
        (hwritten.append (t := " ") (by decide)) hwritten
      exact Term.plain_textBehind hnames inUrl (hbefore.append (Value.plain_text hnames inUrl h.1)) h.2

end

section Values

variable {names : NameTable} (hnames : names.Plain)
include hnames

theorem Property.plain_text (fixed : Bool) {property : Property}
    (h : ∀ s ∈ property.strings, Plain s) : Plain (property.text names fixed) := by
  rw [Property.strings, List.forall_mem_cons] at h
  have hmark : Plain (if fixed then "/* @noflip */ " else "") := Plain.ite _ (by decide) (by decide)
  have hvalues : Plain (Term.textAll names false property.values) :=
    Term.plain_textBehind hnames false (by decide) h.2
  have hending : Plain (if property.important then " !important" else "") :=
    Plain.ite _ (by decide) (by decide)
  exact (((hmark.append h.1).append (by decide)).append hvalues).append hending

theorem Constant.plain_text (inUrl : Bool) {decl : Constant}
    (h : ∀ s ∈ Term.stringsAll decl.values, Plain s) : Plain (decl.text names inUrl) := by
  have hvalues : Plain (Term.textAll names inUrl decl.values) :=
    Term.plain_textBehind hnames inUrl (by decide) h
  unfold Constant.text
  cases decl.kind with
  | plain => exact hvalues
  | eval => exact (Plain.append (by decide) hvalues).append (by decide)
  | url => exact (Plain.append (by decide) hvalues).append (by decide)

end Values

/-! ## Conditions -/

theorem Text.trim_subset (cs : List Char) : trim cs ⊆ cs := by
  intro c hc
  unfold trim at hc
  rw [List.mem_reverse] at hc
  have hinner := (List.dropWhile_sublist _).subset hc
  rw [List.mem_reverse] at hinner
  exact (List.dropWhile_sublist _).subset hinner

theorem Condition.stripParens_subset (cs : List Char) : stripParens cs ⊆ cs := by
  unfold stripParens
  split
  · rename_i rest
    split
    · exact List.Subset.trans (List.dropLast_subset rest) (List.subset_cons_self _ _)
    · exact List.Subset.refl _
  · exact List.Subset.refl _

theorem FeatureTest.plain_clause {test : FeatureTest} {value : String} (hproperty : Plain test.property)
    (hvalue : Plain value) : Plain (FeatureTest.text.clause test value) := by
  have hnegation : Plain (if test.negated then "!" else "") := Plain.ite _ (by decide) (by decide)
  exact ((((hnegation.append (by decide)).append hproperty).append (by decide)).append hvalue).append
    (by decide)

theorem Condition.plain_parenthesized {condition : Condition}
    (h : ∀ s ∈ condition.strings, Plain s) : Plain condition.parenthesized := by
  have htext : ∀ text, condition.text = .ok text → Plain text := by
    intro text hok
    cases condition with
    | feature test =>
        rw [Condition.strings, List.forall_mem_cons] at h
        simp only [Condition.text, FeatureTest.text] at hok
        split_ifs at hok
        cases hok
        refine Plain.intercalate (by decide) ?_
        intro clause hclause
        obtain ⟨value, hvalue, rfl⟩ := List.mem_map.mp hclause
        exact FeatureTest.plain_clause h.1 (h.2 value hvalue)
    | runtime expression =>
        have hexpression : Plain expression := h expression List.mem_cons_self
        simp only [Condition.text] at hok
        split_ifs at hok
        cases hok
        have hstripped : Plain (String.ofList (stripParens (Text.trim expression.toList))) := by
          refine hexpression.of_subset ?_
          rw [String.toList_ofList]
          exact List.Subset.trans (stripParens_subset _) (Text.trim_subset _)
        exact (Plain.append (by decide) hstripped).append (by decide)
  unfold Condition.parenthesized
  cases hcondition : condition.text with
  | error fault =>
      show Plain (" (" ++ "" ++ ")")
      decide
  | ok text => exact (Plain.append (by decide) (htext text hcondition)).append (by decide)

/-! ## Pieces -/

/-- A piece whose text, if it has one, is plain. -/
def Piece.IsPlain : Piece → Prop
  | .text content => Plain content
  | _ => True

/-- Pieces whose texts are plain. -/
def Piece.AllPlain (pieces : List Piece) : Prop := ∀ piece ∈ pieces, piece.IsPlain

namespace Piece.AllPlain

variable {first second : List Piece}

theorem nil : AllPlain [] := fun _ hpiece => absurd hpiece List.not_mem_nil

theorem cons {piece : Piece} (hpiece : piece.IsPlain) (h : AllPlain first) :
    AllPlain (piece :: first) := List.forall_mem_cons.mpr ⟨hpiece, h⟩

theorem text {content : String} (hcontent : Plain content) (h : AllPlain first) :
    AllPlain (.text content :: first) := cons hcontent h

theorem append (h : AllPlain first) (h' : AllPlain second) : AllPlain (first ++ second) :=
  List.forall_mem_append.mpr ⟨h, h'⟩

theorem flatMap {α : Type} {xs : List α} {f : α → List Piece} (h : ∀ x ∈ xs, AllPlain (f x)) :
    AllPlain (xs.flatMap f) := by
  intro piece hpiece
  obtain ⟨x, hx, hmem⟩ := List.mem_flatMap.mp hpiece
  exact h x hx piece hmem

theorem semicolon : AllPlain Piece.semicolon := text (by decide) (cons trivial nil)

theorem comma : AllPlain Piece.comma := text (by decide) (cons trivial nil)

theorem block (h : AllPlain first) : AllPlain (Piece.block first) := by
  have hopen : AllPlain (.opening :: first) := cons trivial h
  exact hopen.append (cons trivial nil)

theorem owedBreak (owed : Bool) : AllPlain (Node.owedBreak owed) := by
  unfold Node.owedBreak
  split
  · exact cons trivial nil
  · exact nil

end Piece.AllPlain

open Piece (AllPlain)

theorem Selector.plain_pieces {selectors : List Selector}
    (h : ∀ s ∈ selectors.map Selector.text, Plain s) : AllPlain (Selector.pieces selectors) := by
  rw [List.forall_mem_map] at h
  cases selectors with
  | nil => exact AllPlain.nil
  | cons first rest =>
      refine AllPlain.text (h first List.mem_cons_self).unescape (AllPlain.flatMap ?_)
      intro selector hselector
      have hplain := (h selector (List.mem_cons_of_mem _ hselector)).unescape
      exact AllPlain.comma.append (.cons trivial (.text hplain .nil))

theorem plain_mediaPieces {queries : List String} (h : ∀ s ∈ queries, Plain s) :
    AllPlain (mediaPieces queries) := by
  cases queries with
  | nil => exact AllPlain.nil
  | cons first rest =>
      rw [List.forall_mem_cons] at h
      have hfirst : AllPlain [.text " ", .text first] := .text (by decide) (.text h.1 .nil)
      refine hfirst.append (AllPlain.flatMap ?_)
      intro medium hmedium
      exact AllPlain.comma.append (.text (h.2 medium hmedium) .nil)

section Pieces

variable {setup : PrintSetup} (hnames : setup.names.Plain)
include hnames

theorem Property.plain_pieces (fixed : Bool) {properties : List Property}
    (h : ∀ s ∈ properties.flatMap Property.strings, Plain s) :
    AllPlain (Property.pieces setup fixed properties) := by
  refine AllPlain.flatMap ?_
  intro property hproperty
  have hstrings : ∀ s ∈ property.strings, Plain s :=
    fun s hs => h s (List.mem_flatMap.mpr ⟨property, hproperty, hs⟩)
  split
  · exact AllPlain.nil
  · exact AllPlain.text (Property.plain_text hnames fixed hstrings) AllPlain.semicolon

theorem Constant.plain_pieces {decl : Constant} (h : ∀ s ∈ Term.stringsAll decl.values, Plain s) :
    AllPlain (decl.pieces setup.names) := by
  have hname : Plain (setup.names[decl.key]?.getD "") := hnames.getD decl.key (by decide)
  have hvalue := Constant.plain_text hnames (decl.kind = .url) h
  exact AllPlain.text
    ((((Plain.append (by decide) hname).append (by decide)).append hvalue)) AllPlain.semicolon

end Pieces

namespace Node

/-- The strings inside a node are strings of the node. -/
theorem mem_strings_of_inside {n : Node} {s : String}
    (h : s ∈ stringsAll n.body ∨ s ∈ stringsAll n.branches) : s ∈ n.strings := by
  cases n with
  | ifBlock _ nodes branches | elseIf _ nodes branches =>
      rw [strings, List.append_assoc, List.mem_append, List.mem_append]
      exact Or.inr h
  | media _ nodes =>
      rw [strings, List.mem_append]
      exact Or.inr (h.resolve_right List.not_mem_nil)
  | elseBlock nodes | noFlip nodes => exact h.resolve_right List.not_mem_nil
  | _ => exact absurd (or_self_iff.mp h) List.not_mem_nil

section Parts

variable {setup : PrintSetup} (hnames : setup.names.Plain) {n : Node} (fixed owed : Bool)
  (h : ∀ s ∈ n.strings, Plain s)
include hnames h

theorem plain_headPieces : AllPlain (n.headPieces setup fixed owed) := by
  cases n with
  | rule selectors properties =>
      rw [strings, List.forall_mem_append] at h
      exact ((AllPlain.owedBreak owed).append (Selector.plain_pieces h.1)).append
        (Property.plain_pieces hnames fixed h.2).block
  | ifBlock condition _ _ | elseIf condition _ _ =>
      rw [strings, List.forall_mem_append, List.forall_mem_append] at h
      exact .cons trivial (.text (Plain.append (by decide) (Condition.plain_parenthesized h.1.1))
        (.cons trivial .nil))
  | elseBlock _ => exact .cons trivial (.text (by decide) (.cons trivial .nil))
  | media queries _ =>
      rw [strings, List.forall_mem_append] at h
      exact AllPlain.append (.text (by decide) (plain_mediaPieces h.1)) (.cons trivial .nil)
  | page pseudoPage properties =>
      rw [strings, List.forall_mem_append] at h
      have hblock := (Property.plain_pieces hnames fixed h.2).block
      cases pseudoPage with
      | none => exact .text (by decide) hblock
      | some pseudo =>
          have hpseudo : Plain (" :" ++ pseudo) :=
            Plain.append (by decide) (h.1 pseudo List.mem_cons_self)
          exact .text (by decide) (.text hpseudo hblock)
  | fontFace properties =>
      rw [strings] at h
      exact .text (by decide) (Property.plain_pieces hnames fixed h).block
  | sprite selectors resource properties =>
      rw [strings, List.forall_mem_append, List.forall_mem_cons] at h
      have hresource : Plain ("gwt-sprite: \"" ++ unescape resource ++ "\"") :=
        (Plain.append (by decide) h.2.1.unescape).append (by decide)
      have hinside := (AllPlain.text hresource AllPlain.semicolon).append
        (Property.plain_pieces hnames fixed h.2.2)
      exact ((AllPlain.owedBreak owed).append (Selector.plain_pieces h.1)).append hinside.block
  | noFlip _ | constant _ | external _ => exact .nil
  | unknownAtRule directive =>
      exact .text (h directive (by rw [strings]; exact List.mem_cons_self)) (.cons trivial .nil)

theorem plain_pieces
    (hbody : ∀ fixed owed, (∀ s ∈ stringsAll n.body, Plain s) →
      AllPlain (piecesAll setup fixed owed n.body))
    (hbranches : ∀ fixed owed, (∀ s ∈ stringsAll n.branches, Plain s) →
      AllPlain (piecesAll setup fixed owed n.branches)) : AllPlain (n.pieces setup fixed owed) := by
  have htail : AllPlain n.tailPieces := by
    cases n with
    | ifBlock _ _ _ | media _ _ => exact .cons trivial .nil
    | _ => exact .nil
  have hinside := (hbody (n.fixes fixed) (n.owesInside owed) fun s hs =>
      h s (mem_strings_of_inside (Or.inl hs))).append
    (hbranches (n.fixes fixed) false fun s hs => h s (mem_strings_of_inside (Or.inr hs)))
  rw [pieces_eq]
  exact ((plain_headPieces hnames fixed owed h).append hinside).append htail

end Parts

theorem plain_piecesAll {setup : PrintSetup} (hnames : setup.names.Plain) (fixed owed : Bool)
    (ns : List Node) :
    (∀ s ∈ stringsAll ns, Plain s) → AllPlain (piecesAll setup fixed owed ns) := by
  induction ns using parts_induction generalizing fixed owed with
  | nil =>
      intro _
      rw [piecesAll]
      exact .nil
  | cons n rest hbody hbranches hrest =>
      intro h
      rw [stringsAll, List.forall_mem_append] at h
      rw [piecesAll]
      exact (plain_pieces hnames fixed owed h.1 hbody hbranches).append (hrest fixed _ h.2)

end Node

theorem plain_externalPieces {names : List String} (h : ∀ name ∈ names, Plain name) :
    AllPlain (externalPieces names) := by
  unfold externalPieces
  split
  · exact AllPlain.nil
  · refine AllPlain.append (.text (by decide) (AllPlain.flatMap ?_)) AllPlain.semicolon
    intro name hname
    have hspelled : Plain (Printer.printExternals.spelled name) :=
      Plain.ite _ ((Plain.append (by decide) (h name hname)).append (by decide)) (h name hname)
    exact .text (by decide) (.text hspelled .nil)

/-- The texts that are printed for a stylesheet are plain when its strings are. -/
theorem PrintSetup.plain_pieces {setup : PrintSetup} {sheet : Stylesheet}
    (h : ∀ s ∈ setup.strings sheet, Plain s) : AllPlain (setup.pieces sheet) := by
  rw [strings, List.forall_mem_append, List.forall_mem_append, List.forall_mem_append,
    List.forall_mem_map] at h
  obtain ⟨⟨⟨hnames, hexternals⟩, hconstants⟩, hnodes⟩ := h
  have hlines : AllPlain (setup.constants.flatMap (Constant.pieces setup.names)) := by
    refine AllPlain.flatMap ?_
    intro decl hdecl
    exact Constant.plain_pieces hnames
      fun s hs => hconstants s (List.mem_flatMap.mpr ⟨decl, hdecl, hs⟩)
  have hbreak : AllPlain (if setup.constants.isEmpty then [] else [.softBreak]) := by
    split
    · exact AllPlain.nil
    · exact AllPlain.cons trivial AllPlain.nil
  exact ((plain_externalPieces hexternals).append (hlines.append hbreak)).append
    (Node.plain_piecesAll hnames false true sheet.nodes hnodes)

end Restyle
