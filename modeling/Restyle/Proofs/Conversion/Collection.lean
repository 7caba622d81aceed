import Restyle.Proofs.Externals.Stripping
import Restyle.Proofs.Printing.Header

set_option autoImplicit false

/-! # What is collected from a stylesheet

Two collectors walk through a stylesheet before it is printed, one for its constants and one for the
classes that its selectors use. Both are compared here with the list of all nodes in document order,
`Node.subtreesAll`, which knows nothing of walks: the constants are those that the nodes of the list
declare, and the classes are those of the selectors in front of its rules and sprites
(`ExternalClasses.mem_used_iff`). Directives are neither, so it makes no difference whether they have
been taken out before.

The header of a conversion is printed from what was collected. It has a line for each node that declares
a constant, in document order (`Converter.header_of_convert`).
-/

namespace Restyle

/-! ## Selectors in document order -/

/-- The selector that a part of a stylesheet is. -/
def Item.selector? : Item → Option Selector
  | .selector own => some own
  | _ => none

namespace Node

theorem filterMap_selector? (selectors : List Selector) :
    (selectors.map Item.selector).filterMap Item.selector? = selectors := by
  rw [List.filterMap_map]
  exact List.filterMap_some

/-- The selectors among the marks of a tree are those in front of its nodes, in document order. -/
theorem selectors_marksAll (ns : List Node) :
    (marksAll ns).filterMap Item.selector? = (subtreesAll ns).flatMap ownSelectors := by
  induction ns using forest_induction with
  | nil => rfl
  | cons n rest hchildren hrest =>
      have hown : (if n.isMark then [Item.content n] else []).filterMap Item.selector? = [] := by
        split
        · rfl
        · rfl
      rw [marksAll, marks_eq, subtreesAll, subtrees_eq_cons, List.filterMap_append,
        List.filterMap_append, List.filterMap_append, hown, List.nil_append, filterMap_selector?,
        hchildren, hrest, List.flatMap_append, List.flatMap_cons]

end Node

/-! ## Classes in use -/

theorem Selector.mem_classNames_iff (selector : Selector) (name : String) :
    name ∈ selector.classNames ↔ .className name ∈ selector.refiners := by
  unfold classNames
  rw [List.mem_filterMap]
  constructor
  · rintro ⟨refiner, hrefiner, hname⟩
    cases refiner with
    | className other =>
        cases hname
        exact hrefiner
    | _ => cases hname
  · intro hrefiner
    exact ⟨_, hrefiner, rfl⟩

namespace ExternalClasses

/-- Only a selector has classes to record as used. -/
theorem used_mem_entriesOf_iff (item : Item) (name : String) :
    .used name ∈ entriesOf item ↔
      ∃ selector, item.selector? = some selector ∧ .className name ∈ selector.refiners := by
  cases item with
  | selector selector => simp [entriesOf, Item.selector?, selector.mem_classNames_iff]
  | content n => cases n <;> simp [entriesOf, Item.selector?]
  | _ => simp [entriesOf, Item.selector?]

/-- The classes in use are those that some selector of the tree asks for. -/
theorem mem_used_iff (sheet : Stylesheet) (name : String) :
    name ∈ (ofStylesheet sheet).used ↔
      ∃ n ∈ Node.subtreesAll sheet.nodes, ∃ selector ∈ n.ownSelectors,
        .className name ∈ selector.refiners := by
  have hselectors := Node.selectors_marksAll sheet.nodes
  rw [(records_ofStylesheet sheet).used_iff, ← usedNames_eq]
  show .used name ∈ (Node.marksAll sheet.nodes).flatMap entriesOf ↔ _
  rw [List.mem_flatMap]
  constructor
  · rintro ⟨item, hitem, hused⟩
    obtain ⟨selector, hselector, hname⟩ := (used_mem_entriesOf_iff item name).mp hused
    have hmem : selector ∈ (Node.marksAll sheet.nodes).filterMap Item.selector? :=
      List.mem_filterMap.mpr ⟨item, hitem, hselector⟩
    rw [hselectors, List.mem_flatMap] at hmem
    obtain ⟨n, hn, hmem⟩ := hmem
    exact ⟨n, hn, selector, hmem, hname⟩
  · rintro ⟨n, hn, selector, hselector, hname⟩
    have hmem : selector ∈ (Node.subtreesAll sheet.nodes).flatMap Node.ownSelectors :=
      List.mem_flatMap.mpr ⟨n, hn, hselector⟩
    rw [← hselectors, List.mem_filterMap] at hmem
    obtain ⟨item, hitem, hsome⟩ := hmem
    exact ⟨item, hitem, (used_mem_entriesOf_iff item name).mpr ⟨selector, hsome, hname⟩⟩

end ExternalClasses

/-! ## The header of a conversion -/

/-- A conversion prints its header first, and there a line for each node that declares a constant. The
nodes are printed behind it. -/
theorem Converter.header_of_convert {converter : Converter} {sheet : Stylesheet}
    {conversion : Conversion} (h : converter.convert sheet = .ok conversion) :
    ∃ names p q, converter.namesFor sheet.declared = .ok names ∧
      (converter.setupFor sheet names).header = .ok p ∧
      p.sink.buffer
        = externalLine converter.options.layout (ExternalClasses.ofStylesheet sheet).resolve.toList
          ++ Constant.lines converter.options.layout names sheet.declared ∧
      Printer.printNodes (converter.setupFor sheet names) sheet.stripExternals.nodes p = .ok q ∧
      (∃ body, q.sink.buffer = p.sink.buffer ++ body) ∧ conversion = q.conversion := by
  rw [convert_eq, Stylesheet.constants_stripExternals] at h
  obtain ⟨names, hnames, h⟩ := ok_of_bind h
  rw [PrintSetup.generate_eq] at h
  obtain ⟨p, hp, h⟩ := ok_of_bind h
  obtain ⟨q, hq, h⟩ := ok_of_bind h
  cases h
  refine ⟨names, p, q, hnames, hp, ?_, hq, Printer.exists_buffer_eq hq, rfl⟩
  have hbuffer : p.sink.buffer = (converter.setupFor sheet names).headerText := by
    rw [(PrintSetup.wrote_header hp).buffer_eq]
    exact String.empty_append
  rw [hbuffer, ← Stylesheet.constants_stripExternals]
  rfl

/-! ## Both collectors -/

namespace Stylesheet

/-- **The collectors see everything, once and in document order.** The constants are those that the nodes
of the tree declare, the classes in use are those of its selectors, sorted and each of them once, and
directives make no difference to either. So the header of a conversion declares each constant of the
tree where its turn comes. -/
theorem collected (sheet : Stylesheet) :
    sheet.constants = (Node.subtreesAll sheet.nodes).filterMap Node.constant? ∧
    (ExternalClasses.ofStylesheet sheet).used.toList.Pairwise (· < ·) ∧
    (∀ name, name ∈ (ExternalClasses.ofStylesheet sheet).used.toList ↔
      ∃ n ∈ Node.subtreesAll sheet.nodes, ∃ selector ∈ n.ownSelectors,
        .className name ∈ selector.refiners) ∧
    sheet.stripExternals.constants = sheet.constants ∧
    (ExternalClasses.ofStylesheet sheet.stripExternals).used
      = (ExternalClasses.ofStylesheet sheet).used ∧
    ∀ converter conversion, Converter.convert converter sheet = .ok conversion →
      ∃ names p q, converter.namesFor sheet.constants = .ok names ∧
        (converter.setupFor sheet names).header = .ok p ∧
        p.sink.buffer
          = externalLine converter.options.layout (ExternalClasses.ofStylesheet sheet).resolve.toList
            ++ Constant.lines converter.options.layout names sheet.constants ∧
        Printer.printNodes (converter.setupFor sheet names) sheet.stripExternals.nodes p = .ok q ∧
        (∃ body, q.sink.buffer = p.sink.buffer ++ body) ∧ conversion = q.conversion := by
  have hconstants := sheet.constants_eq_declared
  refine ⟨hconstants, ExternalClasses.sorted_used _, ?_, ?_, ?_, ?_⟩
  · intro name
    rw [Std.ExtTreeSet.mem_toList, ExternalClasses.mem_used_iff]
  · rw [constants_stripExternals, hconstants]
  · rw [ofStylesheet_stripExternals]
  · intro converter conversion h
    rw [hconstants]
    exact Converter.header_of_convert h

/-- Constants in a body, in the branches of a branch and under two blocks, one of them declared twice;
classes of a sprite and of a rule; and directives between them. -/
def scattered : Stylesheet :=
  let red (key : String) : Node := .constant ⟨.plain, key, [⟨.literal "red", true⟩]⟩
  ⟨[.ifBlock (.runtime "x()") [red "warm"]
      [.external [.ident "a"],
        .elseIf (.runtime "y()") [red "hotSpot", .external [.literal "*"]]
          [.elseBlock [red "warm", .sprite [⟨".c.a", [.className "c", .className "a"]⟩] "logo" []]]],
    .noFlip [.media ["print"] [red "cold", .rule [⟨".b#a", [.className "b", .id "a"]⟩] []]]]⟩

theorem collected_scattered :
    let header := "@external a b c;@def WARM red;@def HOT_SPOT red;@def WARM red;@def COLD red;"
    let body := "\n@if (eval('x()'))\x7b\x7d@elseif (eval('y()'))\x7b\x7d@else\x7b"
      ++ ".c.a\x7bgwt-sprite: \"logo\";\x7d\x7d@media print\x7b.b#a\x7b\x7d\x7d"
    scattered.constants.map (·.key) = ["warm", "hotSpot", "warm", "cold"] ∧
    (ExternalClasses.ofStylesheet scattered).used.toList = ["a", "b", "c"] ∧
    Converter.compact.convert scattered = .ok ⟨header ++ body, []⟩ ∧
    ∃ names p, Converter.compact.namesFor scattered.constants = .ok names ∧
      (Converter.compact.setupFor scattered names).header = .ok p ∧ p.sink.buffer = header := by
  intro header body
  have hconvert : Converter.compact.convert scattered = .ok ⟨header ++ body, []⟩ := by
    simp only [Converter.convert_eq, Converter.setupFor, stripExternals_eq]
    decide +kernel
  obtain ⟨names, p, -, hnames, hp, hbuffer, -⟩ :=
    (collected scattered).2.2.2.2.2 .compact _ hconvert
  have hheader : (Converter.compact.namesFor scattered.constants).map
      (fun names => externalLine .compact (ExternalClasses.ofStylesheet scattered).resolve.toList
        ++ Constant.lines .compact names scattered.constants) = .ok header := by
    decide +kernel
  rw [hnames] at hheader
  refine ⟨by decide +kernel, by decide +kernel, hconvert, names, p, hnames, hp, ?_⟩
  exact hbuffer.trans (Except.ok.inj hheader)

end Stylesheet

end Restyle
