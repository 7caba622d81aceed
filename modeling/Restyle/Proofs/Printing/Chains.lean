import Restyle.Proofs.Printing.Balance
import Restyle.Proofs.Printing.WellFormed

set_option autoImplicit false

/-! # Chains of branches

The branches of a conditional block are printed one after the other. A branch may have branches of its
own, which are printed behind it and before its siblings, so what follows an `@if` in the output is one
chain of branches (`Node.chain`), whichever way they are nested in the tree.

Printing follows the chain and does not look at its order (`PrintSetup.chains_printed`). An `@else` comes
last in the output where it comes last in the chain, and this can be told from the lists of branches one
by one: nothing may stand behind an `@else`, or behind a branch that has an `@else` in its own chain
(`Node.elseLast_chain_iff`).
-/

namespace Restyle

namespace Node

/-! ## The chain of a block -/

mutual

/-- A branch without its own branches, and then the chain of those. -/
def links : Node → List Node
  | .elseIf condition nodes branches => .elseIf condition nodes [] :: chain branches
  | branch => [branch]

/-- Some branches in the order in which they are printed. -/
def chain : List Node → List Node
  | [] => []
  | branch :: rest => links branch ++ chain rest

end

/-- Whether a branch is an `@else`. -/
def isElse : Node → Bool
  | .elseBlock _ => true
  | _ => false

/-- No branch stands behind an `@else`: there is at most one, and it is the last. -/
def ElseLast (branches : List Node) : Prop :=
  branches.Pairwise fun earlier _ => earlier.isElse = false

instance (branches : List Node) : Decidable (ElseLast branches) :=
  inferInstanceAs (Decidable (branches.Pairwise fun earlier _ => earlier.isElse = false))

mutual

/-- The branches of a branch are orderly. -/
def Orderly : Node → Prop
  | .elseIf _ _ branches => OrderlyAll branches
  | _ => True

/-- In a list of branches, and in the lists inside it, nothing stands behind a branch with an `@else` in
its chain. -/
def OrderlyAll : List Node → Prop
  | [] => True
  | branch :: rest =>
      Orderly branch ∧ (rest = [] ∨ ∀ link ∈ links branch, link.isElse = false) ∧ OrderlyAll rest

end

theorem links_ne_nil (branch : Node) : links branch ≠ [] := by
  cases branch <;> simp [links]

theorem chain_eq_nil_iff (branches : List Node) : chain branches = [] ↔ branches = [] := by
  cases branches with
  | nil => simp [chain]
  | cons branch rest => simp [chain, links_ne_nil]

theorem elseLast_links_iff {branch : Node}
    (h : ElseLast (chain branch.branches) ↔ OrderlyAll branch.branches) :
    ElseLast (links branch) ↔ Orderly branch := by
  cases branch with
  | elseIf condition nodes branches =>
      have hchain : ElseLast (chain branches) ↔ OrderlyAll branches := h
      rw [links, Orderly, ← hchain]
      unfold ElseLast
      rw [List.pairwise_cons]
      simp [isElse]
  | _ => simp [links, ElseLast, Orderly]

/-- An `@else` is the last of a chain exactly if the lists of branches are orderly. -/
theorem elseLast_chain_iff (bs : List Node) : ElseLast (chain bs) ↔ OrderlyAll bs := by
  induction bs using parts_induction with
  | nil => simp [chain, ElseLast, OrderlyAll]
  | cons branch rest _ hbranches hrest =>
      -- a list of branches has a chain without links only if it is empty
      have hapart : (∀ link ∈ links branch, ∀ later ∈ chain rest, link.isElse = false) ↔
          rest = [] ∨ ∀ link ∈ links branch, link.isElse = false := by
        rw [← chain_eq_nil_iff rest]
        constructor
        · intro h
          cases hrest : chain rest with
          | nil => exact Or.inl rfl
          | cons later _ => exact Or.inr fun link hlink => h link hlink later (by simp [hrest])
        · rintro (hnil | hnone) link hlink later hlater
          · rw [hnil] at hlater
            cases hlater
          · exact hnone link hlink
      rw [OrderlyAll, ← elseLast_links_iff hbranches, ← hrest, ← hapart, chain]
      unfold ElseLast
      rw [List.pairwise_append]
      tauto

/-! ## The pieces of a chain -/

/-- What opens a branch in the output. -/
def opener : Node → String
  | .elseIf condition _ _ => "@elseif" ++ condition.parenthesized
  | _ => "@else"

/-- The pieces of one branch of a chain: it closes the block before it and leaves its own block open. -/
def linkPieces (setup : PrintSetup) (fixed : Bool) (link : Node) : List Piece :=
  [.closing, .text link.opener, .opening] ++ piecesAll setup fixed false link.body

theorem pieces_eq_links {setup : PrintSetup} {fixed : Bool} {branch : Node}
    (hbranches : ∀ owed, (∀ link ∈ chain branch.branches, link.isBranch = true) →
      piecesAll setup fixed owed branch.branches
        = (chain branch.branches).flatMap (linkPieces setup fixed))
    (owed : Bool) (h : ∀ link ∈ links branch, link.isBranch = true) :
    pieces setup fixed owed branch = (links branch).flatMap (linkPieces setup fixed) := by
  cases branch with
  | elseIf condition nodes branches =>
      rw [links, List.forall_mem_cons] at h
      have hchain : piecesAll setup fixed false branches
          = (chain branches).flatMap (linkPieces setup fixed) := hbranches false h.2
      rw [links, List.flatMap_cons, pieces, hchain]
      rfl
  | elseBlock nodes => exact (List.append_nil _).symm
  | _ => cases h _ List.mem_cons_self

/-- The pieces of branches are those of their chain, link by link. -/
theorem piecesAll_eq_chain (setup : PrintSetup) (fixed owed : Bool) (bs : List Node) :
    (∀ link ∈ chain bs, link.isBranch = true) →
      piecesAll setup fixed owed bs = (chain bs).flatMap (linkPieces setup fixed) := by
  induction bs using parts_induction generalizing owed with
  | nil =>
      intro _
      rfl
  | cons branch rest _ hbranches hrest =>
      intro h
      rw [chain, List.forall_mem_append] at h
      rw [piecesAll, chain, List.flatMap_append, pieces_eq_links hbranches owed h.1,
        hrest (owes owed branch) h.2]

theorem isBranch_of_mem_links {branch : Node}
    (hchain : (∀ n ∈ branch.branches, n.isBranch = true) →
      (∀ n ∈ subtreesAll branch.branches, n.Sound) →
        ∀ link ∈ chain branch.branches, link.isBranch = true)
    (hbranch : branch.isBranch = true) (h : ∀ n ∈ subtrees branch, n.Sound) :
    ∀ link ∈ links branch, link.isBranch = true := by
  cases branch with
  | elseIf condition nodes branches =>
      rw [subtrees, List.forall_mem_cons, List.forall_mem_append] at h
      rw [links, List.forall_mem_cons]
      exact ⟨rfl, hchain h.1.branches h.2.2⟩
  | elseBlock nodes => exact List.forall_mem_singleton.mpr hbranch
  | _ => cases hbranch

/-- Where only branches stand among branches, a chain holds nothing else. -/
theorem isBranch_of_mem_chain (bs : List Node) :
    (∀ branch ∈ bs, branch.isBranch = true) → (∀ n ∈ subtreesAll bs, n.Sound) →
      ∀ link ∈ chain bs, link.isBranch = true := by
  induction bs using parts_induction with
  | nil => simp [chain]
  | cons branch rest _ hbranches hrest =>
      intro hall h
      rw [List.forall_mem_cons] at hall
      rw [subtreesAll, List.forall_mem_append] at h
      rw [chain, List.forall_mem_append]
      exact ⟨isBranch_of_mem_links hbranches hall.1 h.1, hrest hall.2 h.2⟩

/-! ## Blocks in the output -/

/-- The pieces of a body stand together among those of the block around it, and so do those of its
branches. -/
theorem inside_isInfix (setup : PrintSetup) (m : Node) (fixed owed : Bool) :
    piecesAll setup (m.fixes fixed) (m.owesInside owed) m.body
        ++ piecesAll setup (m.fixes fixed) false m.branches <:+: pieces setup fixed owed m := by
  rw [pieces_eq]
  exact List.infix_append ..

/-- The pieces of a node stand together among those of the tree around it. -/
theorem exists_piecesAll_isInfix (setup : PrintSetup) {n : Node} (ns : List Node)
    (fixed owed : Bool) : n ∈ subtreesAll ns →
      ∃ fixed' owed', pieces setup fixed' owed' n <:+: piecesAll setup fixed owed ns := by
  induction ns using parts_induction generalizing fixed owed with
  | nil =>
      intro h
      cases h
  | cons m rest hbody hbranches hrest =>
      intro h
      have hfirst : pieces setup fixed owed m <:+: piecesAll setup fixed owed (m :: rest) :=
        (List.prefix_append _ _).isInfix
      have hinside := (inside_isInfix setup m fixed owed).trans hfirst
      rw [subtreesAll, subtrees_eq_cons, children_eq, subtreesAll_append, List.mem_append,
        List.mem_cons, List.mem_append] at h
      rcases h with (rfl | h | h) | h
      · exact ⟨fixed, owed, hfirst⟩
      · obtain ⟨fixed', owed', hpart⟩ := hbody (m.fixes fixed) (m.owesInside owed) h
        exact ⟨fixed', owed', (hpart.trans (List.prefix_append _ _).isInfix).trans hinside⟩
      · obtain ⟨fixed', owed', hpart⟩ := hbranches (m.fixes fixed) false h
        exact ⟨fixed', owed', (hpart.trans (List.suffix_append _ _).isInfix).trans hinside⟩
      · obtain ⟨fixed', owed', hpart⟩ := hrest fixed (owes owed m) h
        exact ⟨fixed', owed', hpart.trans (List.suffix_append _ _).isInfix⟩

end Node

namespace PrintSetup

variable {setup : PrintSetup} {sheet : Stylesheet} {conversion : Conversion}

/-- Only a well-formed stylesheet is printed. -/
theorem wellFormed_of_generate (h : setup.generate sheet = .ok conversion) : sheet.WellFormed := by
  have hfailure := setup.failure?_generate sheet
  rw [h, failure?_ok, eq_comm, Option.or_eq_none_iff, Option.map_eq_none_iff] at hfailure
  exact sheet.faultAll?_eq_none_iff.mp hfailure.2

/-- **Chains are printed in their order.** Behind the body of a conditional block stand the branches of
its chain, each opened by its own keyword, and nothing else. An `@else` is the last of them exactly if the
lists of branches in the tree are orderly. -/
theorem chains_printed (h : setup.generate sheet = .ok conversion) {condition : Condition}
    {nodes branches : List Node}
    (hblock : .ifBlock condition nodes branches ∈ Node.subtreesAll sheet.nodes) :
    conversion.gss = ((Sink.empty setup.options.layout).take (setup.pieces sheet)).buffer ∧
    (∃ fixed, .newline :: .text ("@if" ++ condition.parenthesized) ::
        Piece.block (Node.piecesAll setup fixed false nodes
          ++ (Node.chain branches).flatMap fun link =>
              [.closing, .text link.opener, .opening]
                ++ Node.piecesAll setup fixed false link.body)
      <:+: setup.pieces sheet) ∧
    (∀ link ∈ Node.chain branches, link.isBranch = true) ∧
    (Node.ElseLast (Node.chain branches) ↔ Node.OrderlyAll branches) := by
  have hformed := wellFormed_of_generate h
  have hbranches : ∀ link ∈ Node.chain branches, link.isBranch = true := by
    apply Node.isBranch_of_mem_chain branches (hformed.sound _ hblock).branches
    intro n hn
    -- what stands among the branches stands in the sheet
    have hinner : n ∈ Node.subtrees (.ifBlock condition nodes branches) := by
      rw [Node.subtrees]
      exact List.mem_cons_of_mem _ (List.mem_append_right _ hn)
    exact hformed.sound n (Node.mem_subtreesAll_trans hinner sheet.nodes hblock)
  refine ⟨(gss_eq_take h).1, ?_, hbranches, Node.elseLast_chain_iff branches⟩
  obtain ⟨fixed, owed, hpart⟩ :=
    Node.exists_piecesAll_isInfix setup sheet.nodes false true hblock
  refine ⟨fixed, ?_⟩
  rw [Node.pieces, Node.piecesAll_eq_chain setup fixed false branches hbranches] at hpart
  exact hpart.trans (List.suffix_append ..).isInfix

/-- A branch inside a branch, and an `@else` behind both. -/
theorem chains_printed_nested :
    let branches : List Node :=
      [.elseIf (.runtime "b") [] [.elseIf (.runtime "c") [] []], .elseBlock [.rule [⟨".d", []⟩] []]]
    let sheet : Stylesheet := ⟨[.media ["print"] [.ifBlock (.runtime "a") [] branches]]⟩
    compact.generate sheet
        = .ok ⟨"@media print\x7b\n@if (eval('a'))\x7b\x7d@elseif (eval('b'))\x7b\x7d"
            ++ "@elseif (eval('c'))\x7b\x7d@else\x7b.d\x7b\x7d\x7d\x7d", []⟩ ∧
      .ifBlock (.runtime "a") [] branches ∈ Node.subtreesAll sheet.nodes ∧
      (Node.chain branches).map Node.opener
        = ["@elseif (eval('b'))", "@elseif (eval('c'))", "@else"] ∧
      Node.ElseLast (Node.chain branches) ∧ Node.OrderlyAll branches := by
  intro branches sheet
  have hgenerate : compact.generate sheet
      = .ok ⟨"@media print\x7b\n@if (eval('a'))\x7b\x7d@elseif (eval('b'))\x7b\x7d"
          ++ "@elseif (eval('c'))\x7b\x7d@else\x7b.d\x7b\x7d\x7d\x7d", []⟩ := by decide +kernel
  have hblock : .ifBlock (.runtime "a") [] branches ∈ Node.subtreesAll sheet.nodes := by
    decide +kernel
  have hlast : Node.ElseLast (Node.chain branches) := by decide +kernel
  have horderly := (chains_printed hgenerate hblock).2.2.2.mp hlast
  exact ⟨hgenerate, hblock, by decide +kernel, hlast, horderly⟩

/-- A block is printed with an `@elseif` behind its `@else`. -/
theorem elseif_printed_behind_else :
    let branches : List Node := [.elseBlock [], .elseIf (.runtime "b") [] []]
    let sheet : Stylesheet := ⟨[.ifBlock (.runtime "a") [] branches]⟩
    compact.generate sheet
        = .ok ⟨"\n@if (eval('a'))\x7b\x7d@else\x7b\x7d@elseif (eval('b'))\x7b\x7d", []⟩ ∧
      .ifBlock (.runtime "a") [] branches ∈ Node.subtreesAll sheet.nodes ∧
      ¬ Node.ElseLast (Node.chain branches) := by
  decide +kernel

end PrintSetup

end Restyle
