import Restyle.Proofs.Printing.WellFormed
import Mathlib.Logic.Relation

set_option autoImplicit false

/-! # Nested and flat branches

The branches of an `@elseif` can as well stand behind it, in the list of branches that it is in itself.
`Node.Unnests` takes the branches of one `@elseif` out in this way, at any place of a tree. A printer does
the same on both trees, from every state and up to the same error (`Printer.alike_of_unnests`), and the
collectors of a conversion see the same parts in the same order (`Node.Unnests.marksAll_eq`).

Taking branches out again and again leads to one tree in which no branch has branches of its own, in
whatever order it is done (`Stylesheet.unnested_alike`).
-/

namespace Restyle

open Relation

namespace Node

/-! ## One step -/

/-- A block with a hole in place of one of its lists of nodes. -/
inductive Frame where
  | ifBody (condition : Condition) (branches : List Node)
  | ifBranches (condition : Condition) (nodes : List Node)
  | elseIfBody (condition : Condition) (branches : List Node)
  | elseIfBranches (condition : Condition) (nodes : List Node)
  | elseBody
  | mediaBody (queries : List String)
  | noFlipBody

/-- The block with some nodes in the hole. -/
def Frame.fill (ns : List Node) : Frame → Node
  | ifBody condition branches => .ifBlock condition ns branches
  | ifBranches condition nodes => .ifBlock condition nodes ns
  | elseIfBody condition branches => .elseIf condition ns branches
  | elseIfBranches condition nodes => .elseIf condition nodes ns
  | elseBody => .elseBlock ns
  | mediaBody queries => .media queries ns
  | noFlipBody => .noFlip ns

/-- The branches of one `@elseif` are put behind it, somewhere in a list of nodes. -/
inductive Unnests : List Node → List Node → Prop where
  | here (condition : Condition) (nodes branches rest : List Node) :
      Unnests (.elseIf condition nodes branches :: rest)
        (.elseIf condition nodes [] :: (branches ++ rest))
  | behind (n : Node) {rest rest' : List Node} (h : Unnests rest rest') :
      Unnests (n :: rest) (n :: rest')
  | inside (frame : Frame) (rest : List Node) {ns ns' : List Node} (h : Unnests ns ns') :
      Unnests (frame.fill ns :: rest) (frame.fill ns' :: rest)

end Node

/-! ## Printing -/

namespace Printer

open Node

variable (setup : PrintSetup)

theorem printBranches_append : ∀ (bs cs : List Node) (p : Printer),
    printBranches setup (bs ++ cs) p = printBranches setup bs p >>= printBranches setup cs
  | [], cs, p => rfl
  | .elseIf condition nodes branches :: bs, cs, p => by
      simp only [List.cons_append, printBranches, bind_assoc, printBranches_append bs cs]
  | .elseBlock nodes :: bs, cs, p => by
      simp only [List.cons_append, printBranches, bind_assoc, printBranches_append bs cs]
  | .rule .. :: _, _, _ | .ifBlock .. :: _, _, _ | .media .. :: _, _, _ | .page .. :: _, _, _
  | .fontFace _ :: _, _, _ | .sprite .. :: _, _, _ | .noFlip _ :: _, _, _ | .constant _ :: _, _, _
  | .external _ :: _, _, _ | .unknownAtRule _ :: _, _, _ => rfl

/-- Two lists of nodes that a printer cannot tell apart, neither as a body nor as branches. -/
structure Alike (ns ns' : List Node) : Prop where
  nodes : ∀ p, printNodes setup ns p = printNodes setup ns' p
  branches : ∀ p, printBranches setup ns p = printBranches setup ns' p

variable {setup}

theorem Alike.cons {rest rest' : List Node} (n : Node) (h : Alike setup rest rest') :
    Alike setup (n :: rest) (n :: rest') where
  nodes p := by
    simp only [printNodes, h.nodes]
  branches p := by
    cases n with
    | elseIf condition nodes branches => simp only [printBranches, h.branches]
    | elseBlock nodes => simp only [printBranches, h.branches]
    | _ => rfl

theorem Alike.fill {ns ns' : List Node} (frame : Frame) (rest : List Node)
    (h : Alike setup ns ns') : Alike setup (frame.fill ns :: rest) (frame.fill ns' :: rest) where
  nodes p := by
    cases frame with
    | elseIfBody _ _ => rfl
    | elseIfBranches _ _ => rfl
    | elseBody => rfl
    | _ => simp only [Frame.fill, printNodes, printNode, h.nodes, h.branches]
  branches p := by
    cases frame with
    | elseIfBody _ _ => simp only [Frame.fill, printBranches, h.nodes]
    | elseIfBranches _ _ => simp only [Frame.fill, printBranches, h.branches]
    | elseBody => simp only [Frame.fill, printBranches, h.nodes]
    | _ => rfl

/-- A printer does the same before and behind a step. -/
theorem alike_of_unnests {ns ns' : List Node} (h : Unnests ns ns') : Alike setup ns ns' := by
  induction h with
  | here condition nodes branches rest =>
      refine ⟨fun p => rfl, fun p => ?_⟩
      simp only [printBranches, printBranches_append]
      rfl
  | behind n _ ih => exact ih.cons n
  | inside frame rest _ ih => exact ih.fill frame rest

end Printer

namespace Node

/-- What no step changes is the same in the end. -/
theorem eq_of_reaches {α : Type} (f : List Node → α)
    (hstep : ∀ ns ns', Unnests ns ns' → f ns = f ns') {ns ns' : List Node}
    (h : ReflTransGen Unnests ns ns') : f ns = f ns' := by
  induction h with
  | refl => rfl
  | tail _ hlast ih => exact ih.trans (hstep _ _ hlast)

/-! ## Collecting and stripping -/

/-- The collectors see the same parts in the same order. -/
theorem Unnests.marksAll_eq {ns ns' : List Node} (h : Unnests ns ns') : marksAll ns = marksAll ns' := by
  induction h with
  | here condition nodes branches rest =>
      simp only [marksAll, marks, marksAll_append, List.append_nil, List.append_assoc]
  | behind n _ ih => rw [marksAll, marksAll, ih]
  | inside frame rest _ ih => cases frame <;> simp only [Frame.fill, marksAll, marks, ih]

/-- The same step can be made when the directives are gone. -/
theorem Unnests.withoutAll {ns ns' : List Node} (h : Unnests ns ns') :
    Unnests (Node.withoutAll isExternal ns) (Node.withoutAll isExternal ns') := by
  induction h with
  | here condition nodes branches rest =>
      have hstep := Unnests.here condition (Node.withoutAll isExternal nodes)
        (Node.withoutAll isExternal branches) (Node.withoutAll isExternal rest)
      rw [← withoutAll_append] at hstep
      exact hstep
  | behind n _ ih =>
      rw [Node.withoutAll, Node.withoutAll]
      split
      · exact ih
      · exact .behind _ ih
  | inside frame rest _ ih =>
      cases frame with
      | ifBody condition branches =>
          exact .inside (.ifBody condition (Node.withoutAll isExternal branches)) _ ih
      | ifBranches condition nodes =>
          exact .inside (.ifBranches condition (Node.withoutAll isExternal nodes)) _ ih
      | elseIfBody condition branches =>
          exact .inside (.elseIfBody condition (Node.withoutAll isExternal branches)) _ ih
      | elseIfBranches condition nodes =>
          exact .inside (.elseIfBranches condition (Node.withoutAll isExternal nodes)) _ ih
      | elseBody => exact .inside .elseBody _ ih
      | mediaBody queries => exact .inside (.mediaBody queries) _ ih
      | noFlipBody => exact .inside .noFlipBody _ ih

/-! ## The flat tree -/

/-- No branch has branches of its own. -/
def Flat (ns : List Node) : Prop := ∀ n ∈ subtreesAll ns, n.isBranch = true → n.branches = []

mutual

/-- A node that is flat inside, with its branches behind it if it is an `@elseif`. -/
def flat : Node → List Node
  | .ifBlock condition nodes branches => [.ifBlock condition (flatAll nodes) (flatAll branches)]
  | .elseIf condition nodes branches => .elseIf condition (flatAll nodes) [] :: flatAll branches
  | .elseBlock nodes => [.elseBlock (flatAll nodes)]
  | .media queries nodes => [.media queries (flatAll nodes)]
  | .noFlip nodes => [.noFlip (flatAll nodes)]
  | node => [node]

/-- Some nodes with all branches taken out of branches. -/
def flatAll : List Node → List Node
  | [] => []
  | node :: rest => flat node ++ flatAll rest

end

/-- Steps inside of a block. -/
theorem reaches_fill (frame : Frame) (rest : List Node) {ns ns' : List Node}
    (h : ReflTransGen Unnests ns ns') :
    ReflTransGen Unnests (frame.fill ns :: rest) (frame.fill ns' :: rest) :=
  h.lift (frame.fill · :: rest) fun _ _ hstep => .inside frame rest hstep

theorem reaches_flat {n : Node} (hbody : ReflTransGen Unnests n.body (flatAll n.body))
    (hbranches : ReflTransGen Unnests n.branches (flatAll n.branches)) (rest : List Node) :
    ReflTransGen Unnests (n :: rest) (flat n ++ rest) := by
  cases n with
  | ifBlock condition nodes branches =>
      exact (reaches_fill (.ifBody condition branches) rest hbody).trans
        (reaches_fill (.ifBranches condition (flatAll nodes)) rest hbranches)
  | elseIf condition nodes branches =>
      -- its branches are made flat first, and then put behind it in one step
      exact ((reaches_fill (.elseIfBody condition branches) rest hbody).trans
        (reaches_fill (.elseIfBranches condition (flatAll nodes)) rest hbranches)).tail
          (.here condition (flatAll nodes) (flatAll branches) rest)
  | elseBlock nodes => exact reaches_fill .elseBody rest hbody
  | media queries nodes => exact reaches_fill (.mediaBody queries) rest hbody
  | noFlip nodes => exact reaches_fill .noFlipBody rest hbody
  | _ => exact .refl

/-- Step by step, every tree becomes flat. -/
theorem reaches_flatAll (ns : List Node) : ReflTransGen Unnests ns (flatAll ns) := by
  induction ns using parts_induction with
  | nil => exact .refl
  | cons n rest hbody hbranches hrest =>
      have hlater : ReflTransGen Unnests (n :: rest) (n :: flatAll rest) :=
        hrest.lift (n :: ·) fun _ _ hstep => .behind n hstep
      exact hlater.trans (reaches_flat hbody hbranches (flatAll rest))

theorem flat_append {ms ns : List Node} : Flat (ms ++ ns) ↔ Flat ms ∧ Flat ns := by
  unfold Flat
  rw [subtreesAll_append, List.forall_mem_append]

theorem flat_cons {n : Node} {rest : List Node} :
    Flat (n :: rest) ↔ (n.isBranch = true → n.branches = []) ∧ Flat n.children ∧ Flat rest := by
  unfold Flat
  rw [subtreesAll, List.forall_mem_append, subtrees_eq_cons, List.forall_mem_cons, and_assoc]

theorem flat_nil : Flat [] := by
  intro n hn
  cases hn

theorem flat_flat {n : Node} (hbody : Flat (flatAll n.body)) (hbranches : Flat (flatAll n.branches)) :
    Flat (flat n) := by
  cases n with
  | ifBlock _ nodes branches =>
      exact flat_cons.mpr ⟨nofun, flat_append.mpr ⟨hbody, hbranches⟩, flat_nil⟩
  | elseIf _ nodes branches =>
      exact flat_cons.mpr ⟨fun _ => rfl, flat_append.mpr ⟨hbody, flat_nil⟩, hbranches⟩
  | elseBlock nodes => exact flat_cons.mpr ⟨fun _ => rfl, hbody, flat_nil⟩
  | media _ nodes | noFlip nodes => exact flat_cons.mpr ⟨nofun, hbody, flat_nil⟩
  | _ => exact flat_cons.mpr ⟨nofun, flat_nil, flat_nil⟩

theorem flat_flatAll (ns : List Node) : Flat (flatAll ns) := by
  induction ns using parts_induction with
  | nil => exact flat_nil
  | cons n rest hbody hbranches hrest => exact flat_append.mpr ⟨flat_flat hbody hbranches, hrest⟩

theorem flat_eq_self {n : Node} (hflat : n.isBranch = true → n.branches = [])
    (hbody : flatAll n.body = n.body) (hbranches : flatAll n.branches = n.branches) :
    flat n = [n] := by
  cases n with
  | elseIf condition nodes branches =>
      obtain rfl : branches = [] := hflat rfl
      simp_all only [flat, flatAll, body]
  | _ => simp_all only [flat, body, branches]

/-- In a flat tree there is nothing to take out. -/
theorem flatAll_eq_self (ns : List Node) : Flat ns → flatAll ns = ns := by
  induction ns using parts_induction with
  | nil =>
      intro _
      rfl
  | cons n rest hbody hbranches hrest =>
      intro h
      obtain ⟨hflat, hchildren, hlater⟩ := flat_cons.mp h
      rw [children_eq, flat_append] at hchildren
      rw [flatAll, flat_eq_self hflat (hbody hchildren.1) (hbranches hchildren.2), hrest hlater]
      rfl

theorem flatAll_append (ms ns : List Node) : flatAll (ms ++ ns) = flatAll ms ++ flatAll ns := by
  induction ms with
  | nil => rfl
  | cons m ms ih => rw [List.cons_append, flatAll, flatAll, ih, List.append_assoc]

/-- A step does not change what the tree becomes in the end. -/
theorem Unnests.flatAll_eq {ns ns' : List Node} (h : Unnests ns ns') : flatAll ns = flatAll ns' := by
  induction h with
  | here condition nodes branches rest =>
      simp only [flatAll, flat, flatAll_append, List.cons_append, List.nil_append]
  | behind n _ ih => rw [flatAll, flatAll, ih]
  | inside frame rest _ ih => cases frame <;> simp only [Frame.fill, flatAll, flat, ih]

end Node

/-! ## Stylesheets -/

namespace Stylesheet

/-- Branches are taken out of branches of a stylesheet, step by step. -/
def Unnests (sheet other : Stylesheet) : Prop := ReflTransGen Node.Unnests sheet.nodes other.nodes

theorem Unnests.generate_eq {sheet other : Stylesheet} (h : sheet.Unnests other)
    (setup : PrintSetup) : setup.generate other = setup.generate sheet := by
  have hprint : Printer.printNodes setup sheet.nodes = Printer.printNodes setup other.nodes :=
    Node.eq_of_reaches _ (fun _ _ hstep => funext (Printer.alike_of_unnests hstep).nodes) h
  rw [PrintSetup.generate_eq, PrintSetup.generate_eq, hprint]

theorem Unnests.stripExternals {sheet other : Stylesheet} (h : sheet.Unnests other) :
    sheet.stripExternals.Unnests other.stripExternals := by
  rw [stripExternals_eq, stripExternals_eq]
  exact h.lift (Node.withoutAll Node.isExternal) fun _ _ hstep => hstep.withoutAll

theorem Unnests.marksAll_eq {sheet other : Stylesheet} (h : sheet.Unnests other) :
    Node.marksAll other.nodes = Node.marksAll sheet.nodes :=
  (Node.eq_of_reaches Node.marksAll (fun _ _ hstep => hstep.marksAll_eq) h).symm

theorem Unnests.convert_eq {sheet other : Stylesheet} (h : sheet.Unnests other)
    (converter : Converter) : converter.convert other = converter.convert sheet := by
  have hconstants : other.stripExternals.constants = sheet.stripExternals.constants := by
    rw [constants_eq, constants_eq, h.stripExternals.marksAll_eq]
  have hsetup : converter.setupFor other = converter.setupFor sheet := by
    funext names
    unfold Converter.setupFor
    rw [ExternalClasses.ofStylesheet_eq, ExternalClasses.ofStylesheet_eq, h.marksAll_eq,
      hconstants]
  rw [Converter.convert_eq, Converter.convert_eq, hconstants, hsetup]
  simp only [h.stripExternals.generate_eq]

/-- **Nested and flat branches are printed alike**, and converted alike. Taking branches out of branches
ends, in whatever order, with one stylesheet in which no branch has branches of its own. -/
theorem unnested_alike (sheet : Stylesheet) :
    (∀ other, sheet.Unnests other →
      (∀ setup : PrintSetup, setup.generate other = setup.generate sheet) ∧
      ∀ converter : Converter, converter.convert other = converter.convert sheet) ∧
    ∃! other : Stylesheet, sheet.Unnests other ∧ Node.Flat other.nodes := by
  refine ⟨fun other h => ⟨h.generate_eq, h.convert_eq⟩, ⟨Node.flatAll sheet.nodes⟩,
    ⟨Node.reaches_flatAll sheet.nodes, Node.flat_flatAll sheet.nodes⟩, ?_⟩
  rintro ⟨nodes⟩ ⟨hreach, hflat⟩
  have hsame := Node.eq_of_reaches Node.flatAll (fun _ _ hstep => hstep.flatAll_eq) hreach
  rw [Node.flatAll_eq_self nodes hflat] at hsame
  rw [hsame]

/-- A branch of a branch that is followed by another branch of the block, inside of an `@media`. -/
theorem unnested_alike_media :
    let block : List Node → Node := fun branches => .media ["print"] [.ifBlock (.runtime "a") [] branches]
    let sheet : Stylesheet :=
      ⟨[block [.elseIf (.runtime "b") [] [.elseIf (.runtime "c") [] []], .elseBlock []]]⟩
    let other : Stylesheet :=
      ⟨[block [.elseIf (.runtime "b") [] [], .elseIf (.runtime "c") [] [], .elseBlock []]]⟩
    sheet.Unnests other ∧ PrintSetup.compact.generate other = PrintSetup.compact.generate sheet ∧
      PrintSetup.compact.generate sheet = .ok ⟨"@media print\x7b\n@if (eval('a'))\x7b\x7d@elseif (eval('b'))\x7b\x7d"
        ++ "@elseif (eval('c'))\x7b\x7d@else\x7b\x7d\x7d", []⟩ := by
  intro block sheet other
  have hstep : sheet.Unnests other :=
    .single (.inside (.mediaBody ["print"]) [] (.inside (.ifBranches (.runtime "a") []) []
      (.here (.runtime "b") [] [.elseIf (.runtime "c") [] []] [.elseBlock []])))
  exact ⟨hstep, ((unnested_alike sheet).1 other hstep).1 .compact, by decide +kernel⟩

end Stylesheet

end Restyle
