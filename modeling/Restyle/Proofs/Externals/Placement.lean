import Restyle.Proofs.Externals.Resolution
import Restyle.Proofs.Printing.Simulation
import Restyle.Proofs.Tree.Listing

set_option autoImplicit false

/-! # Where directives stand

The `@external` directives of a stylesheet are collected from the whole tree and taken out of it before
anything is printed. So a conversion depends on two things only: the tree without its directives, and
the set of patterns that they list together (`Stylesheet.externalPatterns`). Directives may be moved, to
any depth and among the branches of a conditional block as well, and they may be split, merged and
repeated (`Converter.convert_eq_of_stripped_eq`).

The collector records classes and directives in document order, and what it records depends on that
order. `ExternalClasses.records_ofStylesheet` says what the record stands for, and that does not.
-/

namespace Restyle

/-- The tokens that a node lists, if it is a directive. -/
def Node.listedTokens : Node → List String
  | .external params => params.flatMap Value.tokens
  | _ => []

/-- The tokens that the directives of a stylesheet list, at any depth. -/
def Stylesheet.listedTokens (sheet : Stylesheet) : List String :=
  (Node.subtreesAll sheet.nodes).flatMap Node.listedTokens

/-- The names and patterns that these tokens stand for. -/
def Stylesheet.externalPatterns (sheet : Stylesheet) : Set String :=
  ExternalClasses.patternsOf sheet.listedTokens

theorem ExternalClasses.mem_patternsOf_iff (pattern : String) (tokens : List String) :
    pattern ∈ patternsOf tokens ↔ pattern ≠ "" ∧ pattern ∈ tokens.map unquoted := by
  simp only [patternsOf, Set.mem_ofPred_eq, List.mem_map, eq_comm (a := pattern)]

/-! ## Marks without directives -/

/-- Whether a part of a stylesheet is a directive. -/
def Item.isDirective : Item → Bool
  | .content n => n.isExternal
  | _ => false

namespace Node

theorem filter_selectors (selectors : List Selector) :
    (selectors.map Item.selector).filter (!·.isDirective) = selectors.map Item.selector := by
  rw [List.filter_eq_self]
  intro item hitem
  obtain ⟨selector, -, rfl⟩ := List.mem_map.mp hitem
  rfl

theorem marks_without {n : Node} (h : n.isExternal = false)
    (hbody : marksAll (withoutAll isExternal n.body) = (marksAll n.body).filter (!·.isDirective))
    (hbranches : marksAll (withoutAll isExternal n.branches)
      = (marksAll n.branches).filter (!·.isDirective)) :
    marks (without isExternal n) = (marks n).filter (!·.isDirective) := by
  cases n with
  | external params => cases h
  | constant decl => rfl
  | _ => simp_all only [without, marks, body, branches, filter_selectors, List.filter_append,
      List.filter_nil]

/-- Taking the directives out of a tree takes them out of its marks, and nothing else. -/
theorem marksAll_withoutAll (ns : List Node) :
    marksAll (withoutAll isExternal ns) = (marksAll ns).filter (!·.isDirective) := by
  induction ns using parts_induction with
  | nil => rfl
  | cons n rest hbody hbranches hrest =>
      rw [withoutAll, marksAll, List.filter_append]
      by_cases h : n.isExternal = true
      · have hnone : (marks n).filter (!·.isDirective) = [] := by
          cases n with
          | external params => rfl
          | _ => cases h
        rw [if_pos h, hrest, hnone, List.nil_append]
      · rw [if_neg h, marksAll, marks_without (Bool.eq_false_iff.mpr h) hbody hbranches, hrest]

/-- The directives among the marks of a tree are those that stand somewhere in it. -/
theorem content_external_mem_marksAll_iff (params : List Value) (ns : List Node) :
    .content (.external params) ∈ marksAll ns ↔ .external params ∈ subtreesAll ns := by
  have hcontents : Node.external params ∈ (marksAll ns).filterMap Item.content? ↔
      Node.external params ∈ (subtreesAll ns).filter isMark := by rw [contents_marksAll]
  rw [List.mem_filter, List.mem_filterMap] at hcontents
  constructor
  · intro hmark
    exact (hcontents.mp ⟨_, hmark, rfl⟩).1
  · intro hnode
    obtain ⟨item, hitem, hcontent⟩ := hcontents.mpr ⟨hnode, rfl⟩
    cases item with
    | content n =>
        cases hcontent
        exact hitem
    | _ => cases hcontent

end Node

/-! ## What the collector records -/

namespace ExternalClasses

/-- What a part of a stylesheet has to record. -/
def entriesOf : Item → List Entry
  | .selector selector => selector.classNames.map .used
  | .content (.external params) => [.listed params]
  | _ => []

theorem see_eq_record (item : Item) (e : ExternalClasses) :
    see item e = (entriesOf item).foldl record e := by
  cases item with
  | selector selector =>
      show selector.classNames.foldl addUsed e = (selector.classNames.map Entry.used).foldl record e
      rw [List.foldl_map]
      rfl
  | content n => cases n <;> rfl
  | _ => rfl

/-- The collector records the entries of the marks, in document order. -/
theorem ofStylesheet_eq_recorded (sheet : Stylesheet) :
    ofStylesheet sheet = recorded ((Node.marksAll sheet.nodes).flatMap entriesOf) := by
  rw [ofStylesheet_eq, recorded, List.foldl_flatMap]
  congr 1
  funext e item
  exact see_eq_record item e

theorem used_mem_entriesOf {item : Item} {name : String} (h : .used name ∈ entriesOf item) :
    item.isDirective = false := by
  cases item with
  | content n =>
      cases n with
      | external params => simp [entriesOf] at h
      | _ => rfl
  | _ => rfl

theorem listed_mem_entriesOf_iff (item : Item) (params : List Value) :
    .listed params ∈ entriesOf item ↔ item = .content (.external params) := by
  cases item with
  | content n =>
      cases n with
      | external others => simp [entriesOf, eq_comm]
      | _ => simp [entriesOf]
  | _ => simp [entriesOf]

/-- The classes in use are those of the tree without its directives. -/
theorem usedNames_eq (sheet : Stylesheet) :
    usedNames ((Node.marksAll sheet.nodes).flatMap entriesOf)
      = usedNames ((Node.marksAll (Node.withoutAll Node.isExternal sheet.nodes)).flatMap entriesOf) := by
  rw [Node.marksAll_withoutAll]
  ext name
  simp only [usedNames, Set.mem_ofPred_eq, List.mem_flatMap, List.mem_filter]
  constructor
  · rintro ⟨item, hitem, hname⟩
    exact ⟨item, ⟨hitem, by rw [used_mem_entriesOf hname]; rfl⟩, hname⟩
  · rintro ⟨item, ⟨hitem, -⟩, hname⟩
    exact ⟨item, hitem, hname⟩

theorem listed_mem_iff (params : List Value) (ns : List Node) :
    .listed params ∈ (Node.marksAll ns).flatMap entriesOf ↔ .external params ∈ Node.subtreesAll ns := by
  rw [← Node.content_external_mem_marksAll_iff, List.mem_flatMap]
  constructor
  · rintro ⟨item, hitem, hlisted⟩
    rwa [(listed_mem_entriesOf_iff item params).mp hlisted] at hitem
  · intro hmark
    exact ⟨_, hmark, (listed_mem_entriesOf_iff _ params).mpr rfl⟩

/-- The patterns that are recorded are those that the directives of the tree list. -/
theorem patterns_eq (sheet : Stylesheet) :
    patterns ((Node.marksAll sheet.nodes).flatMap entriesOf) = sheet.externalPatterns := by
  ext pattern
  constructor
  · rintro ⟨params, hlisted, hne, token, htoken, rfl⟩
    have hnode := (listed_mem_iff params sheet.nodes).mp hlisted
    exact ⟨hne, token, List.mem_flatMap.mpr ⟨_, hnode, htoken⟩, rfl⟩
  · rintro ⟨hne, token, htoken, rfl⟩
    obtain ⟨n, hn, htoken⟩ := List.mem_flatMap.mp htoken
    cases n with
    | external params =>
        exact ⟨params, (listed_mem_iff params sheet.nodes).mpr hn, hne, token, htoken, rfl⟩
    | _ => cases htoken

/-- The record of a stylesheet holds the classes that are in use once the directives are gone, and the
patterns that the directives list. -/
theorem records_ofStylesheet (sheet : Stylesheet) :
    Records (ofStylesheet sheet)
      (usedNames ((Node.marksAll (Node.withoutAll Node.isExternal sheet.nodes)).flatMap entriesOf))
      sheet.externalPatterns := by
  rw [ofStylesheet_eq_recorded, ← usedNames_eq, ← patterns_eq]
  exact Records.recorded _

end ExternalClasses

/-! ## Conversions -/

namespace Converter

/-- **It does not matter where directives stand.** Two stylesheets that are the same without their
`@external` directives, and whose directives list the same patterns, are converted to the same result. -/
theorem convert_eq_of_stripped_eq (converter : Converter) {first second : Stylesheet}
    (hstripped : Node.withoutAll Node.isExternal first.nodes
      = Node.withoutAll Node.isExternal second.nodes)
    (hpatterns : first.externalPatterns = second.externalPatterns) :
    converter.convert first = converter.convert second := by
  have hsheet : first.stripExternals = second.stripExternals := by
    rw [Stylesheet.stripExternals_eq, Stylesheet.stripExternals_eq, hstripped]
  have hresolve : (ExternalClasses.ofStylesheet first).resolve
      = (ExternalClasses.ofStylesheet second).resolve := by
    have hfirst := ExternalClasses.records_ofStylesheet first
    rw [hstripped, hpatterns] at hfirst
    exact (ExternalClasses.records_ofStylesheet second).resolve_eq hfirst
  have hsetup : converter.setupFor first = converter.setupFor second := by
    funext names
    unfold setupFor
    rw [hsheet, hresolve]
  rw [convert_eq, convert_eq, hsheet, hsetup]

/-- Directives in the body of a block and among its branches, as a list and with quotes, have the effect
of directives at the top and behind a rule, split up and repeated. -/
theorem convert_eq_of_stripped_eq_scattered :
    let rule : Node := .rule [⟨".ab", [.className "ab"]⟩, ⟨".d", [.className "d"]⟩] []
    let comma : Term := ⟨.literal ",", false⟩
    let first : Stylesheet :=
      ⟨[.ifBlock (.runtime "x()") [.external [.list [⟨.ident "a*", true⟩, comma, ⟨.ident "c", true⟩]]]
        [.external [.literal "'d'"], .elseBlock [rule]]]⟩
    let second : Stylesheet :=
      ⟨[.external [.ident "d"], .external [.literal "\"c\"", .literal ""],
        .ifBlock (.runtime "x()") [] [.elseBlock [rule, .external [.expression "a*", .ident "d"]]]]⟩
    compact.convert first
        = .ok ⟨"@external ab c d;\n@if (eval('x()'))\x7b\x7d@else\x7b.ab,\n.d\x7b\x7d\x7d", []⟩ ∧
      Node.withoutAll Node.isExternal first.nodes = Node.withoutAll Node.isExternal second.nodes ∧
      first.externalPatterns = second.externalPatterns ∧
      compact.convert first = compact.convert second := by
  intro rule comma first second
  have hstripped : Node.withoutAll Node.isExternal first.nodes
      = Node.withoutAll Node.isExternal second.nodes := by decide +kernel
  have hpatterns : first.externalPatterns = second.externalPatterns := by
    have hfirst : first.listedTokens.map ExternalClasses.unquoted = ["a*", "c", "d"] := by
      decide +kernel
    have hsecond : second.listedTokens.map ExternalClasses.unquoted = ["d", "c", "", "a*", "d"] := by
      decide +kernel
    ext pattern
    rw [Stylesheet.externalPatterns, Stylesheet.externalPatterns,
      ExternalClasses.mem_patternsOf_iff, ExternalClasses.mem_patternsOf_iff, hfirst, hsecond]
    simp only [List.mem_cons, List.not_mem_nil, or_false]
    tauto
  have hsearch : ExternalClasses.withStem
      = fun e stem => e.used.toList.filter fun name => stem.toList.isPrefixOf name.toList := by
    funext e stem
    exact ExternalClasses.withStem_eq_filter e stem
  refine ⟨?_, hstripped, hpatterns, convert_eq_of_stripped_eq compact hstripped hpatterns⟩
  simp only [convert_eq, setupFor, Stylesheet.stripExternals_eq, ExternalClasses.resolve, hsearch]
  decide +kernel

end Converter

end Restyle
