import Restyle.Proofs.Condition.Renderable
import Restyle.Proofs.Tree.Listing

set_option autoImplicit false

/-! # Well-formed stylesheets

Branches belong behind the body of a conditional block and nowhere else, nothing but branches belongs
there, and every condition needs a text. `Stylesheet.WellFormed` states this about all nodes of a tree
at once. `Node.faults_eq_none_iff` says that a printer has no complaint about exactly these trees.

Lists of nodes and lists of branches ask for opposite things, so the induction proves the two
descriptions side by side. What a list of either sort looks at inside a node is the same
(`Node.innerFault?`).
-/

namespace Restyle

namespace Node

/-- Whether a node is a branch of a conditional block. -/
def isBranch : Node → Bool
  | .elseIf .. => true
  | .elseBlock _ => true
  | _ => false

/-- The condition of a conditional block. -/
def condition? : Node → Option Condition
  | .ifBlock condition _ _ => some condition
  | .elseIf condition _ _ => some condition
  | _ => none

/-- What a node asks of its parts: no branch in its body, nothing else among its branches, and a
condition that can be written. -/
structure Sound (n : Node) : Prop where
  body : ∀ m ∈ n.body, m.isBranch = false
  branches : ∀ m ∈ n.branches, m.isBranch = true
  condition : ∀ condition ∈ n.condition?, condition.Renderable

end Node

/-- A stylesheet whose branches are where they belong and whose conditions can be written. -/
structure Stylesheet.WellFormed (sheet : Stylesheet) : Prop where
  top : ∀ n ∈ sheet.nodes, n.isBranch = false
  sound : ∀ n ∈ Node.subtreesAll sheet.nodes, n.Sound

namespace Node

theorem sound_iff (n : Node) :
    n.Sound ↔ (∀ condition ∈ n.condition?, condition.Renderable) ∧
      (∀ m ∈ n.body, m.isBranch = false) ∧ ∀ m ∈ n.branches, m.isBranch = true :=
  ⟨fun h => ⟨h.condition, h.body, h.branches⟩, fun h => ⟨h.2.1, h.2.2, h.1⟩⟩

/-! ## Faults -/

/-- The first fault inside a node, wherever the node stands. -/
def innerFault? (n : Node) : Option ConditionalFault :=
  (n.condition?.bind Condition.fault?).or ((faultAll? n.body).or (branchFault? n.branches))

theorem fault?_of_not_isBranch {n : Node} (h : n.isBranch = false) : fault? n = n.innerFault? := by
  cases n with
  | elseIf _ _ _ | elseBlock _ => cases h
  | _ => simp [fault?, innerFault?, condition?, body, branches, faultAll?, branchFault?]

theorem fault?_of_isBranch {n : Node} (h : n.isBranch = true) : fault? n ≠ none := by
  cases n with
  | elseIf _ _ _ | elseBlock _ => exact Option.some_ne_none _
  | _ => cases h

theorem branchFault?_of_isBranch {n : Node} (h : n.isBranch = true) (rest : List Node) :
    branchFault? (n :: rest) = n.innerFault?.or (branchFault? rest) := by
  cases n with
  | elseIf _ _ _ | elseBlock _ =>
      simp [branchFault?, innerFault?, condition?, body, branches, Option.or_assoc]
  | _ => cases h

theorem branchFault?_of_not_isBranch {n : Node} (h : n.isBranch = false) (rest : List Node) :
    branchFault? (n :: rest) ≠ none := by
  cases n with
  | elseIf _ _ _ | elseBlock _ => cases h
  | _ => exact Option.some_ne_none _

theorem innerFault?_eq_none_iff {n : Node}
    (hbody : faultAll? n.body = none ↔
      (∀ m ∈ n.body, m.isBranch = false) ∧ ∀ m ∈ subtreesAll n.body, m.Sound)
    (hbranches : branchFault? n.branches = none ↔
      (∀ m ∈ n.branches, m.isBranch = true) ∧ ∀ m ∈ subtreesAll n.branches, m.Sound) :
    n.innerFault? = none ↔ ∀ m ∈ subtrees n, m.Sound := by
  have hcondition : n.condition?.bind Condition.fault? = none ↔
      ∀ condition ∈ n.condition?, condition.Renderable := by
    cases n.condition? with
    | none => simp
    | some condition => simp [condition.fault?_eq_none_iff]
  rw [innerFault?, Option.or_eq_none_iff, Option.or_eq_none_iff, hcondition, hbody, hbranches,
    subtrees_eq_cons, children_eq, subtreesAll_append, List.forall_mem_cons, List.forall_mem_append,
    sound_iff]
  tauto

theorem faults_eq_none_iff (ns : List Node) :
    (faultAll? ns = none ↔
      (∀ n ∈ ns, n.isBranch = false) ∧ ∀ m ∈ subtreesAll ns, m.Sound) ∧
    (branchFault? ns = none ↔
      (∀ n ∈ ns, n.isBranch = true) ∧ ∀ m ∈ subtreesAll ns, m.Sound) := by
  induction ns using parts_induction with
  | nil => simp [faultAll?, branchFault?, subtreesAll]
  | cons n rest hbody hbranches hrest =>
      have hinner := innerFault?_eq_none_iff hbody.1 hbranches.2
      rw [faultAll?, Option.or_eq_none_iff, subtreesAll, List.forall_mem_cons, List.forall_mem_cons,
        List.forall_mem_append, hrest.1]
      by_cases h : n.isBranch = true
      · rw [branchFault?_of_isBranch h, Option.or_eq_none_iff, hinner, hrest.2, h]
        refine ⟨⟨?_, ?_⟩, ?_, ?_⟩
        · rintro ⟨hnone, -⟩
          exact absurd hnone (fault?_of_isBranch h)
        · rintro ⟨⟨hfalse, -⟩, -⟩
          exact absurd hfalse.symm Bool.false_ne_true
        · rintro ⟨hn, hrest, hsound⟩
          exact ⟨⟨rfl, hrest⟩, hn, hsound⟩
        · rintro ⟨⟨-, hrest⟩, hn, hsound⟩
          exact ⟨hn, hrest, hsound⟩
      · have h := Bool.eq_false_iff.mpr h
        rw [fault?_of_not_isBranch h, hinner, h]
        refine ⟨⟨?_, ?_⟩, ?_, ?_⟩
        · rintro ⟨hn, hrest, hsound⟩
          exact ⟨⟨rfl, hrest⟩, hn, hsound⟩
        · rintro ⟨⟨-, hrest⟩, hn, hsound⟩
          exact ⟨hn, hrest, hsound⟩
        · intro hnone
          exact absurd hnone (branchFault?_of_not_isBranch h rest)
        · rintro ⟨⟨htrue, -⟩, -⟩
          exact absurd htrue Bool.false_ne_true

end Node

/-- A printer has no complaint about the nodes of exactly the well-formed stylesheets. -/
theorem Stylesheet.faultAll?_eq_none_iff (sheet : Stylesheet) :
    Node.faultAll? sheet.nodes = none ↔ sheet.WellFormed := by
  rw [(Node.faults_eq_none_iff sheet.nodes).1]
  exact ⟨fun h => ⟨h.1, h.2⟩, fun h => ⟨h.top, h.sound⟩⟩

end Restyle
