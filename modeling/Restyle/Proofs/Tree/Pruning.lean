import Restyle.Proofs.Tree.Marks
import Restyle.Proofs.Tree.Removal

set_option autoImplicit false

/-! # Deleting properties from a tree

`Node.pruneAll` deletes properties, wherever they stand. Whether one is kept may depend on whether it
stands in a `noFlip` block; that is carried along as `fixed`. `Node.declarationsAll` lists all properties of a
tree in document order with the same information.

Deleting properties changes nothing else: it can be done before or after the removal of directives,
and whoever looks at neither properties nor their blocks sees the same tree.
-/

namespace Restyle

namespace Node

mutual

/-- A node without the properties that are not kept. -/
def prune (kept : Bool → Property → Bool) (fixed : Bool) : Node → Node
  | .rule selectors properties => .rule selectors (properties.filter (kept fixed))
  | .ifBlock condition nodes branches =>
      .ifBlock condition (pruneAll kept fixed nodes) (pruneAll kept fixed branches)
  | .elseIf condition nodes branches =>
      .elseIf condition (pruneAll kept fixed nodes) (pruneAll kept fixed branches)
  | .elseBlock nodes => .elseBlock (pruneAll kept fixed nodes)
  | .media queries nodes => .media queries (pruneAll kept fixed nodes)
  | .page pseudoPage properties => .page pseudoPage (properties.filter (kept fixed))
  | .fontFace properties => .fontFace (properties.filter (kept fixed))
  | .sprite selectors resource properties =>
      .sprite selectors resource (properties.filter (kept fixed))
  | .noFlip nodes => .noFlip (pruneAll kept true nodes)
  | .constant decl => .constant decl
  | .external params => .external params
  | .unknownAtRule text => .unknownAtRule text

/-- Nodes without the properties that are not kept. -/
def pruneAll (kept : Bool → Property → Bool) (fixed : Bool) : List Node → List Node
  | [] => []
  | node :: rest => prune kept fixed node :: pruneAll kept fixed rest

end

mutual

/-- The properties of a node in document order, each with whether it stands in a `noFlip` block. -/
def declarations (fixed : Bool) : Node → List (Bool × Property)
  | .rule _ properties => properties.map (fixed, ·)
  | .ifBlock _ nodes branches => declarationsAll fixed nodes ++ declarationsAll fixed branches
  | .elseIf _ nodes branches => declarationsAll fixed nodes ++ declarationsAll fixed branches
  | .elseBlock nodes => declarationsAll fixed nodes
  | .media _ nodes => declarationsAll fixed nodes
  | .page _ properties => properties.map (fixed, ·)
  | .fontFace properties => properties.map (fixed, ·)
  | .sprite _ _ properties => properties.map (fixed, ·)
  | .noFlip nodes => declarationsAll true nodes
  | _ => []

/-- The properties of nodes in document order. -/
def declarationsAll (fixed : Bool) : List Node → List (Bool × Property)
  | [] => []
  | node :: rest => declarations fixed node ++ declarationsAll fixed rest

end

/-! ## Part by part -/

theorem body_prune (kept : Bool → Property → Bool) (fixed : Bool) (n : Node) :
    (prune kept fixed n).body = pruneAll kept (n.fixes fixed) n.body := by
  cases n <;> rfl

theorem branches_prune (kept : Bool → Property → Bool) (fixed : Bool) (n : Node) :
    (prune kept fixed n).branches = pruneAll kept (n.fixes fixed) n.branches := by
  cases n <;> rfl

theorem fixes_prune (kept : Bool → Property → Bool) (fixed fixed' : Bool) (n : Node) :
    (prune kept fixed n).fixes fixed' = n.fixes fixed' := by
  cases n <;> rfl

theorem declarations_eq (fixed : Bool) (n : Node) :
    declarations fixed n = n.ownProperties.map (fixed, ·)
      ++ (declarationsAll (n.fixes fixed) n.body ++ declarationsAll (n.fixes fixed) n.branches) := by
  cases n <;> simp [declarations, ownProperties, body, branches, fixes, declarationsAll]

/-! ## Removing directives -/

theorem isExternal_prune (kept : Bool → Property → Bool) (fixed : Bool) (n : Node) :
    (prune kept fixed n).isExternal = n.isExternal := by
  cases n <;> rfl

theorem declarations_of_isExternal {n : Node} (h : n.isExternal = true) (fixed : Bool) :
    declarations fixed n = [] := by
  cases n with
  | external params => rfl
  | _ => cases h

theorem without_prune {kept : Bool → Property → Bool} {n : Node}
    (hbody : ∀ fixed, withoutAll isExternal (pruneAll kept fixed n.body)
      = pruneAll kept fixed (withoutAll isExternal n.body))
    (hbranches : ∀ fixed, withoutAll isExternal (pruneAll kept fixed n.branches)
      = pruneAll kept fixed (withoutAll isExternal n.branches)) (fixed : Bool) :
    without isExternal (prune kept fixed n) = prune kept fixed (without isExternal n) := by
  cases n <;> simp_all only [prune, without, body, branches]

/-- Properties may be deleted before or after the directives are removed. -/
theorem withoutAll_pruneAll (kept : Bool → Property → Bool) (fixed : Bool) (ns : List Node) :
    withoutAll isExternal (pruneAll kept fixed ns) = pruneAll kept fixed (withoutAll isExternal ns) := by
  induction ns using parts_induction generalizing fixed with
  | nil => rfl
  | cons n rest hbody hbranches hrest =>
      rw [pruneAll, withoutAll, withoutAll, isExternal_prune, without_prune hbody hbranches, hrest]
      split
      · rfl
      · rw [pruneAll]

theorem declarations_without {n : Node}
    (hbody : ∀ fixed, declarationsAll fixed (withoutAll isExternal n.body)
      = declarationsAll fixed n.body)
    (hbranches : ∀ fixed, declarationsAll fixed (withoutAll isExternal n.branches)
      = declarationsAll fixed n.branches) (fixed : Bool) :
    declarations fixed (without isExternal n) = declarations fixed n := by
  cases n <;> simp_all only [without, declarations, body, branches]

/-- The directives hold no properties. -/
theorem declarationsAll_withoutAll (fixed : Bool) (ns : List Node) :
    declarationsAll fixed (withoutAll isExternal ns) = declarationsAll fixed ns := by
  induction ns using parts_induction generalizing fixed with
  | nil => rfl
  | cons n rest hbody hbranches hrest =>
      rw [withoutAll, declarationsAll]
      split
      · rename_i h
        rw [hrest, declarations_of_isExternal h, List.nil_append]
      · rw [declarationsAll, declarations_without hbody hbranches, hrest]

/-! ## Collecting -/

theorem marks_prune {kept : Bool → Property → Bool} {n : Node}
    (hbody : ∀ fixed, marksAll (pruneAll kept fixed n.body) = marksAll n.body)
    (hbranches : ∀ fixed, marksAll (pruneAll kept fixed n.branches) = marksAll n.branches)
    (fixed : Bool) : marks (prune kept fixed n) = marks n := by
  cases n <;> simp_all only [prune, marks, body, branches]

/-- Properties are no marks. -/
theorem marksAll_pruneAll (kept : Bool → Property → Bool) (fixed : Bool) (ns : List Node) :
    marksAll (pruneAll kept fixed ns) = marksAll ns := by
  induction ns using parts_induction generalizing fixed with
  | nil => rfl
  | cons n rest hbody hbranches hrest =>
      rw [pruneAll, marksAll, marksAll, marks_prune hbody hbranches, hrest]

end Node

/-! ## Whole stylesheets -/

/-- A stylesheet without the properties that are not kept. -/
def Stylesheet.prune (kept : Bool → Property → Bool) (sheet : Stylesheet) : Stylesheet :=
  ⟨Node.pruneAll kept false sheet.nodes⟩

/-- The properties of a stylesheet in document order. -/
def Stylesheet.declarations (sheet : Stylesheet) : List (Bool × Property) :=
  Node.declarationsAll false sheet.nodes

namespace Stylesheet

variable (kept : Bool → Property → Bool) (sheet : Stylesheet)

theorem stripExternals_prune :
    (sheet.prune kept).stripExternals = sheet.stripExternals.prune kept := by
  rw [stripExternals_eq, stripExternals_eq, prune, prune, Node.withoutAll_pruneAll]

theorem declarations_stripExternals : sheet.stripExternals.declarations = sheet.declarations := by
  rw [stripExternals_eq, declarations, declarations, Node.declarationsAll_withoutAll]

theorem constants_prune : (sheet.prune kept).constants = sheet.constants := by
  rw [constants_eq, constants_eq, prune, Node.marksAll_pruneAll]

theorem externals_prune :
    ExternalClasses.ofStylesheet (sheet.prune kept) = ExternalClasses.ofStylesheet sheet := by
  rw [ExternalClasses.ofStylesheet_eq, ExternalClasses.ofStylesheet_eq, prune,
    Node.marksAll_pruneAll]

end Stylesheet

end Restyle
