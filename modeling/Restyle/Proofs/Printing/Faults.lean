import Restyle.Proofs.Printing.Simulation

set_option autoImplicit false

/-! # Where printing fails

Behind the header, printing fails at the first conditional block that is malformed or misplaced, and
nowhere else. Which one that is can be read off the tree (`Node.faultAll?`): it depends neither on the
state of the printer nor on the layout, the checker or the names.
-/

namespace Restyle

/-! ## The error of a result -/

/-- The error of a result, if it is one. -/
def failure? {α : Type} : Except ConversionError α → Option ConversionError
  | .error e => some e
  | .ok _ => none

section Failure

variable {α β : Type}

@[simp] theorem failure?_ok (a : α) : failure? (.ok a : Except ConversionError α) = none := rfl

@[simp] theorem failure?_error (e : ConversionError) :
    failure? (.error e : Except ConversionError α) = some e := rfl

theorem failure?_eq_some_iff {x : Except ConversionError α} {e : ConversionError} :
    failure? x = some e ↔ x = .error e := by
  cases x with
  | error e' => simp
  | ok a => simp

/-- Where the second step fails in the same way behind every value, the first failure wins. -/
theorem failure?_bind {x : Except ConversionError α} {f : α → Except ConversionError β}
    {o : Option ConversionError} (h : ∀ a, failure? (f a) = o) :
    failure? (x >>= f) = (failure? x).or o := by
  cases x with
  | error e => rfl
  | ok a => exact h a

end Failure

/-! ## The first fault of a tree -/

/-- What is wrong with a condition. -/
def Condition.fault? (condition : Condition) : Option ConditionalFault :=
  match condition.text with
  | .error fault => some fault
  | .ok _ => none

namespace Node

mutual

/-- The first fault of a node. -/
def fault? : Node → Option ConditionalFault
  | .ifBlock condition nodes branches =>
      condition.fault?.or ((faultAll? nodes).or (branchFault? branches))
  | .elseIf .. => some (.strayBranch "@elseif")
  | .elseBlock _ => some (.strayBranch "@else")
  | .media _ nodes => faultAll? nodes
  | .noFlip nodes => faultAll? nodes
  | _ => none

/-- The first fault of a list of nodes. -/
def faultAll? : List Node → Option ConditionalFault
  | [] => none
  | node :: rest => (fault? node).or (faultAll? rest)

/-- The first fault of the branches of a conditional block. -/
def branchFault? : List Node → Option ConditionalFault
  | [] => none
  | .elseIf condition nodes branches :: rest =>
      condition.fault?.or ((faultAll? nodes).or ((branchFault? branches).or (branchFault? rest)))
  | .elseBlock nodes :: rest => (faultAll? nodes).or (branchFault? rest)
  | other :: _ => some (.foreignBranch other.kindName)

end

end Node

namespace Printer

open ConversionError Node

theorem failure?_openConditional (keyword : String) (condition : Condition) (p : Printer) :
    failure? (openConditional keyword condition p) = condition.fault?.map invalidConditional := by
  unfold openConditional Condition.fault?
  cases condition.text with
  | error fault => rfl
  | ok text => rfl

section Parts

variable {setup : PrintSetup} {n : Node}
  (hbody : ∀ p, failure? (printNodes setup n.body p) = (faultAll? n.body).map invalidConditional)
  (hbranches : ∀ p,
    failure? (printBranches setup n.branches p) = (branchFault? n.branches).map invalidConditional)
include hbody hbranches

/-- A block fails where its parts do, in the order in which it prints them. -/
theorem failure?_printNode (p : Printer) :
    failure? (printNode setup n p) = (fault? n).map invalidConditional := by
  cases n with
  | ifBlock condition nodes branches =>
      simp only [body, Node.branches] at hbody hbranches
      rw [printNode, fault?, Option.map_or, Option.map_or,
        ← failure?_openConditional "@if" condition p.breakLine]
      refine failure?_bind fun a => ?_
      rw [failure?_bind, hbody a]
      intro a
      rw [failure?_bind fun _ => failure?_ok _, hbranches a, Option.or_none]
  | media _ nodes | noFlip nodes =>
      simp only [body] at hbody
      rw [printNode, fault?]
      rw [failure?_bind fun _ => failure?_ok _, hbody, Option.or_none]
  | page pseudoPage _ =>
      cases pseudoPage with
      | none => rfl
      | some pseudo => rfl
  | _ => rfl

theorem failure?_printBranch {rest : List Node}
    (hrest : ∀ p,
      failure? (printBranches setup rest p) = (branchFault? rest).map invalidConditional)
    (p : Printer) :
    failure? (printBranches setup (n :: rest) p)
      = (branchFault? (n :: rest)).map invalidConditional := by
  cases n with
  | elseIf condition nodes branches =>
      simp only [body, Node.branches] at hbody hbranches
      rw [printBranches, branchFault?, Option.map_or, Option.map_or, Option.map_or,
        ← failure?_openConditional "@elseif" condition p.closeBrace]
      refine failure?_bind fun a => ?_
      rw [failure?_bind, hbody a]
      intro a
      rw [failure?_bind, hbranches a]
      exact hrest
  | elseBlock nodes =>
      simp only [body] at hbody
      rw [printBranches, branchFault?, Option.map_or]
      rw [failure?_bind, hbody]
      exact hrest
  | _ => rfl

end Parts

theorem failure?_print (setup : PrintSetup) (ns : List Node) :
    (∀ p, failure? (printNodes setup ns p) = (faultAll? ns).map invalidConditional) ∧
    ∀ p, failure? (printBranches setup ns p) = (branchFault? ns).map invalidConditional := by
  induction ns using parts_induction with
  | nil => exact ⟨fun _ => rfl, fun _ => rfl⟩
  | cons n rest hbody hbranches hrest =>
      refine ⟨fun p => ?_, failure?_printBranch hbody.1 hbranches.2 hrest.2⟩
      rw [printNodes, faultAll?, Option.map_or, failure?_bind,
        failure?_printNode hbody.1 hbranches.2]
      exact hrest.1

theorem failure?_printNodes (setup : PrintSetup) (ns : List Node) (p : Printer) :
    failure? (printNodes setup ns p) = (faultAll? ns).map invalidConditional :=
  (failure?_print setup ns).1 p

end Printer

/-- Printing a stylesheet fails in its header, or else at the first fault of its nodes. -/
theorem PrintSetup.failure?_generate (setup : PrintSetup) (sheet : Stylesheet) :
    failure? (setup.generate sheet)
      = (failure? setup.header).or ((Node.faultAll? sheet.nodes).map .invalidConditional) := by
  rw [PrintSetup.generate_eq]
  refine failure?_bind fun p => ?_
  rw [failure?_bind fun _ => failure?_ok _, Printer.failure?_printNodes, Option.or_none]

end Restyle
