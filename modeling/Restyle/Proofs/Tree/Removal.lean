import Restyle.ExternalClasses
import Restyle.Proofs.Tree.Parts
import Mathlib.Tactic.Common

set_option autoImplicit false

/-! # Removing nodes from a tree

An edit that only removes nodes, and decides so whatever its state, has a plain description by recursion
over the tree: a node that is refused goes with everything in it, and the others are cleared inside
(`Node.withoutAll`). Stripping a stylesheet of its `@external` directives is such an edit.
-/

namespace Restyle

namespace Node

mutual

/-- A node without the refused nodes inside it. -/
def without (refused : Node → Bool) : Node → Node
  | .ifBlock condition nodes branches =>
      .ifBlock condition (withoutAll refused nodes) (withoutAll refused branches)
  | .elseIf condition nodes branches =>
      .elseIf condition (withoutAll refused nodes) (withoutAll refused branches)
  | .elseBlock nodes => .elseBlock (withoutAll refused nodes)
  | .media queries nodes => .media queries (withoutAll refused nodes)
  | .noFlip nodes => .noFlip (withoutAll refused nodes)
  | node => node

/-- A list of nodes without the refused ones, at any depth. -/
def withoutAll (refused : Node → Bool) : List Node → List Node
  | [] => []
  | node :: rest =>
      if refused node then withoutAll refused rest
      else without refused node :: withoutAll refused rest

end

theorem withoutAll_append (refused : Node → Bool) (ms ns : List Node) :
    withoutAll refused (ms ++ ns) = withoutAll refused ms ++ withoutAll refused ns := by
  induction ms with
  | nil => rfl
  | cons m ms ih =>
      rw [List.cons_append, withoutAll, withoutAll, ih]
      split
      · rfl
      · rfl

end Node

namespace Editor

open Node

section Steps

variable {σ : Type} {editor : Editor σ} {n : Node} {s : σ}

theorem editNodes_cons_of_remove (h : (editor n s).1 = .remove) (rest : List Node) :
    editor.editNodes (n :: rest) s = editor.editNodes rest (editor n s).2 := by
  rw [editNodes]
  simp only [h, Edit.result, editEach, List.nil_append]

theorem editNodes_cons_of_keep (h : (editor n s).1 = .keep) (rest : List Node) :
    editor.editNodes (n :: rest) s
      = ((editor.editChildren n (editor n s).2).1
          :: (editor.editNodes rest (editor.editChildren n (editor n s).2).2).1,
        (editor.editNodes rest (editor.editChildren n (editor n s).2).2).2) := by
  rw [editNodes]
  simp only [h, Edit.result, editEach, List.cons_append, List.nil_append]

end Steps

section Stateless

variable {σ : Type} {editor : Editor σ} {refused : Node → Bool}

/-- In every state the editor removes the refused nodes and keeps the others. -/
def Refuses (editor : Editor σ) (refused : Node → Bool) : Prop :=
  ∀ (n : Node) (s : σ), (editor n s).1 = if refused n then .remove else .keep

theorem editChildren_of_refuses {n : Node}
    (hbody : ∀ s, (editor.editNodes n.body s).1 = withoutAll refused n.body)
    (hbranches : ∀ s, (editor.editNodes n.branches s).1 = withoutAll refused n.branches) (s : σ) :
    (editor.editChildren n s).1 = without refused n := by
  cases n <;> simp_all only [editChildren, without, body, branches]

/-- An edit that removes the refused nodes is the plain removal. -/
theorem editNodes_of_refuses (h : editor.Refuses refused) (ns : List Node) (s : σ) :
    (editor.editNodes ns s).1 = withoutAll refused ns := by
  induction ns using parts_induction generalizing s with
  | nil => rw [editNodes, withoutAll]
  | cons n rest hbody hbranches hrest =>
      have hn := h n s
      rw [withoutAll]
      by_cases hrefused : refused n = true
      · rw [if_pos hrefused] at hn ⊢
        rw [editNodes_cons_of_remove hn, hrest]
      · rw [if_neg hrefused] at hn ⊢
        rw [editNodes_cons_of_keep hn, editChildren_of_refuses hbody hbranches, hrest]

end Stateless

theorem editNodes_removing (refused : Node → Bool) (ns : List Node) :
    ((removing refused).editNodes ns ()).1 = withoutAll refused ns :=
  editNodes_of_refuses (fun _ _ => rfl) ns ()

end Editor

/-- Stripping is the removal of the directives. -/
theorem Stylesheet.stripExternals_eq (sheet : Stylesheet) :
    sheet.stripExternals = ⟨Node.withoutAll Node.isExternal sheet.nodes⟩ := by
  rw [Stylesheet.stripExternals, Editor.editNodes_removing]

end Restyle
