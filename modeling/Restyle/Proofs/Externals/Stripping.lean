import Restyle.Proofs.Externals.Placement
import Restyle.Proofs.Printing.WellFormed

set_option autoImplicit false

/-! # Stripping a stylesheet of its directives

Directives are leaves of the tree. Taking them out therefore leaves every other node where it was, in
the same order and cleared inside (`Node.subtreesAll_withoutAll`), and a second pass finds nothing to take
out and nothing listed.

A printer passes over a directive in a body, so it does not matter there whether the directive has been
taken out before (`Printer.print_withoutAll`). Among the branches of a conditional block it does: a
directive is no branch, and the printer refuses it. `Node.ClearBranches` excludes just this case.
-/

namespace Restyle

namespace Node

/-! ## Which nodes are left -/

theorem isExternal_without (refused : Node → Bool) (n : Node) :
    (without refused n).isExternal = n.isExternal := by
  cases n <;> rfl

/-- **Nothing but directives goes.** What is left of a tree are its other nodes, in their order, each of
them cleared inside. -/
theorem subtreesAll_withoutAll (ns : List Node) :
    subtreesAll (withoutAll isExternal ns)
      = ((subtreesAll ns).filter (!·.isExternal)).map (without isExternal) := by
  induction ns using forest_induction with
  | nil => rfl
  | cons n rest hchildren hrest =>
      rw [withoutAll, subtreesAll, List.filter_append, List.map_append]
      by_cases h : n.isExternal = true
      · -- a directive has nothing inside it that could be left
        have hnone : (subtrees n).filter (!·.isExternal) = [] := by
          cases n with
          | external params => rfl
          | _ => cases h
        rw [if_pos h, hnone, hrest]
        rfl
      · rw [if_neg h, subtreesAll, subtrees_eq_cons, children_without, hchildren, hrest,
          subtrees_eq_cons, List.filter_cons_of_pos (by simp [h]), List.map_cons]

theorem isExternal_of_mem_withoutAll {n : Node} {ns : List Node}
    (h : n ∈ subtreesAll (withoutAll isExternal ns)) : n.isExternal = false :=
  refused_of_mem_withoutAll (isExternal_without isExternal) ns n h

theorem withoutAll_withoutAll (ns : List Node) :
    withoutAll isExternal (withoutAll isExternal ns) = withoutAll isExternal ns :=
  withoutAll_eq_self _ fun _ => isExternal_of_mem_withoutAll

/-! ## Directives among branches -/

/-- No directive stands directly among the branches of a node. -/
def ClearBranches (n : Node) : Prop := ∀ m ∈ n.branches, m.isExternal = false

end Node

/-! ## What is collected from the rest -/

/-- A record of no patterns has nothing listed. -/
theorem ExternalClasses.Records.unlisted {e : ExternalClasses} {used : Set String}
    (h : Records e used ∅) : e.listed = ∅ ∧ e.stems = [] ∧ e.everything = false := by
  have heverything : e.everything = false := by
    rw [Bool.eq_false_iff]
    intro hall
    exact h.everything_iff.mp hall
  refine ⟨?_, ?_, heverything⟩
  · apply Std.ExtTreeSet.ext_mem
    intro name
    simp [h.listed_iff heverything]
  · rw [List.eq_nil_iff_forall_not_mem]
    intro stem hstem
    exact (h.stems_iff heverything stem).mp hstem

namespace Stylesheet

theorem stripExternals_stripExternals (sheet : Stylesheet) :
    sheet.stripExternals.stripExternals = sheet.stripExternals := by
  rw [stripExternals_eq, stripExternals_eq, Node.withoutAll_withoutAll]

theorem externalPatterns_stripExternals (sheet : Stylesheet) :
    sheet.stripExternals.externalPatterns = ∅ := by
  have htokens : sheet.stripExternals.listedTokens = [] := by
    rw [listedTokens, stripExternals_eq, List.flatMap_eq_nil_iff]
    intro n hn
    have hn := Node.isExternal_of_mem_withoutAll hn
    cases n with
    | external params => cases hn
    | _ => rfl
  ext pattern
  simp [externalPatterns, ExternalClasses.patternsOf, htokens]

/-- Collecting from a stripped stylesheet finds the same classes in use, and nothing listed. -/
theorem ofStylesheet_stripExternals (sheet : Stylesheet) :
    ExternalClasses.ofStylesheet sheet.stripExternals
      = { used := (ExternalClasses.ofStylesheet sheet).used, listed := ∅, stems := [],
          everything := false } := by
  have hsheet := ExternalClasses.records_ofStylesheet sheet
  have hrest := ExternalClasses.records_ofStylesheet sheet.stripExternals
  rw [externalPatterns_stripExternals] at hrest
  obtain ⟨hlisted, hstems, heverything⟩ := hrest.unlisted
  have hused : (ExternalClasses.ofStylesheet sheet.stripExternals).used
      = (ExternalClasses.ofStylesheet sheet).used := by
    apply Std.ExtTreeSet.ext_mem
    intro name
    -- both records hold the classes of the tree without its directives
    rw [hrest.used_iff, hsheet.used_iff, stripExternals_eq, Node.withoutAll_withoutAll]
  rw [← hused, ← hlisted, ← hstems, ← heverything]

end Stylesheet

/-! ## Printing what is left -/

namespace Printer

open Node

section Parts

variable {setup : PrintSetup} {n : Node}
  (hbody : printNodes setup (withoutAll isExternal n.body) = printNodes setup n.body)
  (hbranches : printBranches setup (withoutAll isExternal n.branches)
    = printBranches setup n.branches)
include hbody hbranches

theorem printNode_without : printNode setup (without isExternal n) = printNode setup n := by
  funext p
  cases n <;> simp_all only [without, printNode, body, branches, kindName]

/-- What is no branch ends the printing of branches, under the name of its kind. -/
theorem printBranches_without {rest : List Node}
    (hrest : printBranches setup (withoutAll isExternal rest) = printBranches setup rest) :
    printBranches setup (without isExternal n :: withoutAll isExternal rest)
      = printBranches setup (n :: rest) := by
  funext p
  cases n with
  | elseIf condition nodes branches | elseBlock nodes =>
      simp_all only [without, printBranches, body, Node.branches]
  | _ => rfl

end Parts

/-- **The printer passes over directives in a body.** It makes no difference to the printer whether they
have been taken out before, as long as none of them stands among branches. -/
theorem print_withoutAll (setup : PrintSetup) (ns : List Node) :
    (∀ m ∈ subtreesAll ns, m.ClearBranches) →
      printNodes setup (withoutAll isExternal ns) = printNodes setup ns ∧
      ((∀ m ∈ ns, m.isExternal = false) →
        printBranches setup (withoutAll isExternal ns) = printBranches setup ns) := by
  induction ns using parts_induction with
  | nil =>
      intro _
      exact ⟨rfl, fun _ => rfl⟩
  | cons n rest hbody hbranches hrest =>
      intro h
      rw [subtreesAll, subtrees_eq_cons, children_eq, subtreesAll_append, List.forall_mem_append,
        List.forall_mem_cons, List.forall_mem_append] at h
      obtain ⟨⟨hself, hinBody, hinBranches⟩, hinRest⟩ := h
      have hbody := (hbody hinBody).1
      have hbranches := (hbranches hinBranches).2 hself
      obtain ⟨hnodes, hlater⟩ := hrest hinRest
      rw [withoutAll]
      by_cases hn : n.isExternal = true
      · have hsilent : printNodes setup (n :: rest) = printNodes setup rest := by
          cases n with
          | external params => rfl
          | _ => cases hn
        rw [if_pos hn, hnodes, hsilent]
        refine ⟨rfl, fun hns => ?_⟩
        rw [hns n List.mem_cons_self] at hn
        cases hn
      · rw [if_neg hn]
        refine ⟨?_, fun hns => ?_⟩
        · funext p
          rw [printNodes, printNodes, printNode_without hbody hbranches, hnodes]
        · have hlater := hlater fun m hm => hns m (List.mem_cons_of_mem n hm)
          exact printBranches_without hbody hbranches hlater

end Printer

/-! ## Stripped stylesheets -/

namespace Stylesheet

/-- **Stripping takes out the directives and nothing else.** The rest keeps its order, a second pass
changes nothing, and the classes in use are still found, with nothing listed. Where no directive stands
among branches, whatever is generated from the stylesheet is generated from the rest. -/
theorem stripExternals_deletes (sheet : Stylesheet) :
    (∀ n ∈ Node.subtreesAll sheet.stripExternals.nodes, n.isExternal = false) ∧
    sheet.stripExternals = ⟨Node.withoutAll Node.isExternal sheet.nodes⟩ ∧
    Node.subtreesAll sheet.stripExternals.nodes
      = ((Node.subtreesAll sheet.nodes).filter (!·.isExternal)).map (Node.without Node.isExternal) ∧
    sheet.stripExternals.stripExternals = sheet.stripExternals ∧
    ExternalClasses.ofStylesheet sheet.stripExternals
      = { used := (ExternalClasses.ofStylesheet sheet).used, listed := ∅, stems := [],
          everything := false } ∧
    ((∀ n ∈ Node.subtreesAll sheet.nodes, ∀ m ∈ n.branches, m.isExternal = false) →
      ∀ setup : PrintSetup, setup.generate sheet.stripExternals = setup.generate sheet) := by
  have heq := sheet.stripExternals_eq
  refine ⟨?_, heq, ?_, sheet.stripExternals_stripExternals, sheet.ofStylesheet_stripExternals, ?_⟩
  · intro n hn
    rw [heq] at hn
    exact Node.isExternal_of_mem_withoutAll hn
  · rw [heq]
    exact Node.subtreesAll_withoutAll sheet.nodes
  · intro hclear setup
    -- the header is printed from the setup alone
    rw [heq, PrintSetup.generate, PrintSetup.generate,
      (Printer.print_withoutAll setup sheet.nodes hclear).1]

/-- Directives at the top, in both bodies of a conditional block, and in the blocks around them. -/
theorem stripExternals_deletes_nested :
    let rule : Node := .rule [⟨".a", [.className "a"]⟩] []
    let sheet : Stylesheet :=
      ⟨[.external [.ident "b"], .media ["print"] [.external [.literal "*"], rule],
        .noFlip [.ifBlock (.runtime "x()") [rule, .external []]
          [.elseBlock [.external [.ident "a"], rule]]]]⟩
    let stripped : Stylesheet :=
      ⟨[.media ["print"] [rule], .noFlip [.ifBlock (.runtime "x()") [rule] [.elseBlock [rule]]]]⟩
    sheet.stripExternals = stripped ∧
      (∀ n ∈ Node.subtreesAll sheet.nodes, ∀ m ∈ n.branches, m.isExternal = false) ∧
      PrintSetup.compact.generate stripped = PrintSetup.compact.generate sheet ∧
      PrintSetup.compact.generate stripped = .ok
        ⟨"@media print\x7b.a\x7b\x7d\x7d\n@if (eval('x()'))\x7b.a\x7b\x7d\x7d@else\x7b.a\x7b\x7d\x7d", []⟩ := by
  intro rule sheet stripped
  have hstripped : sheet.stripExternals = stripped := by
    rw [stripExternals_eq]
    decide +kernel
  have hclear : ∀ n ∈ Node.subtreesAll sheet.nodes, ∀ m ∈ n.branches, m.isExternal = false := by
    decide +kernel
  have hsame := (stripExternals_deletes sheet).2.2.2.2.2 hclear .compact
  rw [hstripped] at hsame
  refine ⟨hstripped, hclear, hsame, ?_⟩
  decide +kernel

end Stylesheet

end Restyle
