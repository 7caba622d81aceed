import Restyle.Gss.Printer
import Restyle.Proofs.Tree.Parts

set_option autoImplicit false

/-! # Nodes printed part by part

A printer does the same for nodes of every kind. It does something in front (`Printer.enter`), prints
the body and the branches (`Printer.printInside`), and does something behind them (`Printer.leave`). For a
node without a body all is done in front. A branch has nothing behind it, since its block is closed by
whatever comes next.

A statement about the printing of trees is therefore proved for `enter`, `leave` and `enterBranch`, where
the kinds of nodes are told apart, and carried through the trees by `Node.parts_induction` along
`Printer.printNodes_cons` and `Printer.printBranches_cons`.
-/

namespace Restyle

/-- A step that succeeds has a first part that does, and a second part behind it. -/
theorem ok_of_bind {α β : Type} {x : Except ConversionError α} {f : α → Except ConversionError β}
    {b : β} (h : x >>= f = .ok b) : ∃ a, x = .ok a ∧ f a = .ok b := by
  cases x with
  | error e => cases h
  | ok a => exact ⟨a, rfl, h⟩

namespace Printer

/-- What a printer does in front of the body of a node. -/
def enter (setup : PrintSetup) : Node → Printer → Except ConversionError Printer
  | .ifBlock condition _ _, p => openConditional "@if" condition p.breakLine
  | .media queries _, p => .ok ((p.print "@media").printMedia queries).openBrace
  | .noFlip _, p => .ok (p.setFlags ({ · with noFlip := true }))
  | n, p => printNode setup n p

/-- Print what stands inside a node. -/
def printInside (setup : PrintSetup) (n : Node) (p : Printer) : Except ConversionError Printer := do
  let p ← printNodes setup n.body p
  printBranches setup n.branches p

/-- What a printer does behind the branches of a node that it has begun in the state `start`. -/
def leave (start : Printer) : Node → Printer → Printer
  | .ifBlock .., p => p.closeBrace.setFlags ({ · with breakPending := true })
  | .media .., p => p.closeBrace
  | .noFlip _, p => p.setFlags ({ · with noFlip := start.flags.noFlip })
  | _, p => p

/-- What a printer does in front of the body of a branch. -/
def enterBranch : Node → Printer → Except ConversionError Printer
  | .elseIf condition _ _, p => openConditional "@elseif" condition p.closeBrace
  | .elseBlock _, p =>
      .ok ((p.closeBrace.print "@else").openBrace.setFlags ({ · with breakPending := false }))
  | other, _ => .error (.invalidConditional (.foreignBranch other.kindName))

/-! ## The printer, part by part -/

theorem printNode_eq (setup : PrintSetup) (n : Node) (p : Printer) :
    printNode setup n p = (do
      let q ← enter setup n p
      let q ← printInside setup n q
      .ok (leave p n q)) := by
  simp only [printInside, bind_assoc]
  cases n with
  | page pseudoPage _ =>
      cases pseudoPage with
      | none => rfl
      | some _ => rfl
  | _ => rfl

theorem printNodes_cons (setup : PrintSetup) (n : Node) (rest : List Node) (p : Printer) :
    printNodes setup (n :: rest) p = (do
      let q ← enter setup n p
      let q ← printInside setup n q
      printNodes setup rest (leave p n q)) := by
  rw [printNodes, printNode_eq]
  simp only [bind_assoc]
  rfl

theorem printBranches_cons (setup : PrintSetup) (n : Node) (rest : List Node) (p : Printer) :
    printBranches setup (n :: rest) p = (do
      let q ← enterBranch n p
      let q ← printInside setup n q
      printBranches setup rest q) := by
  simp only [printInside, bind_assoc]
  cases n <;> rfl

/-! ## Runs that succeed -/

section Runs

variable {setup : PrintSetup} {n : Node} {rest : List Node} {p q : Printer}

/-- A run through some nodes, with the states in which the inside of the first one begins and ends. -/
theorem exists_of_printNodes_cons (hq : printNodes setup (n :: rest) p = .ok q) :
    ∃ p₁ p₂, enter setup n p = .ok p₁ ∧ printInside setup n p₁ = .ok p₂ ∧
      printNodes setup rest (leave p n p₂) = .ok q := by
  rw [printNodes_cons] at hq
  obtain ⟨p₁, h₁, hq⟩ := ok_of_bind hq
  obtain ⟨p₂, h₂, hq⟩ := ok_of_bind hq
  exact ⟨p₁, p₂, h₁, h₂, hq⟩

/-- A run through some branches, with the same states. -/
theorem exists_of_printBranches_cons (hq : printBranches setup (n :: rest) p = .ok q) :
    ∃ p₁ p₂, enterBranch n p = .ok p₁ ∧ printInside setup n p₁ = .ok p₂ ∧
      printBranches setup rest p₂ = .ok q := by
  rw [printBranches_cons] at hq
  obtain ⟨p₁, h₁, hq⟩ := ok_of_bind hq
  obtain ⟨p₂, h₂, hq⟩ := ok_of_bind hq
  exact ⟨p₁, p₂, h₁, h₂, hq⟩

end Runs

end Printer

end Restyle
