import Restyle.Proofs.Tree.Marks
import Restyle.Proofs.Tree.Removal

set_option autoImplicit false

/-! # The nodes of a tree in document order

`Node.subtreesAll` lists the nodes of a tree at any depth: each before what it contains, and the body of
a block before its branches. `Node.forest_induction` goes along it. The constants that a stylesheet
declares are read off that list (`Stylesheet.constants_eq_declared`), and taking directives out of the
tree does not change them (`Stylesheet.declared_stripExternals`).
-/

namespace Restyle

namespace Node

mutual

/-- A node and the nodes inside it in document order. -/
def subtrees : Node → List Node
  | .ifBlock condition nodes branches =>
      .ifBlock condition nodes branches :: (subtreesAll nodes ++ subtreesAll branches)
  | .elseIf condition nodes branches =>
      .elseIf condition nodes branches :: (subtreesAll nodes ++ subtreesAll branches)
  | .elseBlock nodes => .elseBlock nodes :: subtreesAll nodes
  | .media queries nodes => .media queries nodes :: subtreesAll nodes
  | .noFlip nodes => .noFlip nodes :: subtreesAll nodes
  | node => [node]

/-- Some nodes and the nodes inside them in document order. -/
def subtreesAll : List Node → List Node
  | [] => []
  | node :: rest => subtrees node ++ subtreesAll rest

end

theorem subtreesAll_append (ms ns : List Node) :
    subtreesAll (ms ++ ns) = subtreesAll ms ++ subtreesAll ns := by
  induction ms with
  | nil => rfl
  | cons m ms ih => rw [List.cons_append, subtreesAll, subtreesAll, ih, List.append_assoc]

theorem subtrees_eq_cons (n : Node) : subtrees n = n :: subtreesAll n.children := by
  cases n <;> simp only [subtrees, children, subtreesAll, subtreesAll_append]

/-- What stands inside a node of a tree stands in the tree. -/
theorem mem_subtreesAll_trans {n inner : Node} (hinner : inner ∈ subtrees n) (ns : List Node) :
    n ∈ subtreesAll ns → inner ∈ subtreesAll ns := by
  induction ns using forest_induction with
  | nil =>
      intro h
      cases h
  | cons m rest hchildren hrest =>
      intro h
      rw [subtreesAll, List.mem_append] at h ⊢
      rcases h with h | h
      · left
        rw [subtrees_eq_cons, List.mem_cons] at h
        rcases h with rfl | h
        · exact hinner
        · rw [subtrees_eq_cons]
          exact List.mem_cons_of_mem _ (hchildren h)
      · exact Or.inr (hrest h)

/-- The constant that a node declares. -/
def constant? : Node → Option Constant
  | .constant decl => some decl
  | _ => none

end Node

/-- The constants that a stylesheet declares, at any depth, in document order. -/
def Stylesheet.declared (sheet : Stylesheet) : List Constant :=
  (Node.subtreesAll sheet.nodes).filterMap Node.constant?

/-- The node whose content a part of a stylesheet is. -/
def Item.content? : Item → Option Node
  | .content n => some n
  | _ => none

/-! ## The collector of constants -/

/-- The constant that the collector finds in a part of a stylesheet. -/
def Item.constant? : Item → Option Constant
  | .content n => n.constant?
  | _ => none

namespace Constant

/-- The collector puts what it finds behind what it has. -/
theorem see_eq (item : Item) (seen : List Constant) :
    see item seen = seen ++ item.constant?.toList := by
  cases item with
  | content node =>
      cases node with
      | constant decl => rfl
      | _ => exact (List.append_nil seen).symm
  | _ => exact (List.append_nil seen).symm

theorem foldl_see (items : List Item) (seen : List Constant) :
    items.foldl (fun seen item => see item seen) seen = seen ++ items.filterMap Item.constant? := by
  induction items generalizing seen with
  | nil => exact (List.append_nil seen).symm
  | cons item rest ih =>
      rw [List.foldl_cons, ih, see_eq, List.append_assoc]
      cases hitem : item.constant? with
      | none => rw [List.filterMap_cons_none hitem]; rfl
      | some decl => rw [List.filterMap_cons_some hitem]; rfl

end Constant

namespace Node

theorem contents_selectors (selectors : List Selector) :
    (selectors.map Item.selector).filterMap Item.content? = [] := by
  rw [List.filterMap_map, List.filterMap_eq_nil_iff]
  intro selector _
  rfl

/-- The nodes among the marks of a tree are its constants and directives, at any depth. -/
theorem contents_marksAll (ns : List Node) :
    (marksAll ns).filterMap Item.content? = (subtreesAll ns).filter isMark := by
  induction ns using forest_induction with
  | nil => rfl
  | cons n rest hchildren hrest =>
      have hown : (if n.isMark then [Item.content n] else []).filterMap Item.content?
          = [n].filter isMark := by
        rw [List.filter_cons]
        split
        · rfl
        · rfl
      rw [marksAll, marks_eq, subtreesAll, subtrees_eq_cons, List.filterMap_append,
        List.filterMap_append, List.filterMap_append, hown, contents_selectors, List.nil_append,
        hchildren, hrest, ← List.filter_append, ← List.filter_append]
      rfl

/-- The constants among the marks of a tree are those that its nodes declare. -/
theorem filterMap_marksAll (ns : List Node) :
    (marksAll ns).filterMap Item.constant? = (subtreesAll ns).filterMap constant? := by
  have hitem : Item.constant? = fun item => item.content?.bind constant? := by
    funext item
    cases item <;> rfl
  have hmark : (fun n => if isMark n = true then constant? n else none) = constant? := by
    funext n
    cases n <;> rfl
  rw [hitem, ← List.filterMap_filterMap, contents_marksAll, List.filterMap_filter, hmark]

/-! ## Removing nodes -/

theorem children_without (refused : Node → Bool) (n : Node) :
    (without refused n).children = withoutAll refused n.children := by
  cases n <;> simp only [without, children, withoutAll_append, withoutAll]

/-- Where a node is refused or not whatever is missing inside it, no refused node is left. -/
theorem refused_of_mem_withoutAll {refused : Node → Bool}
    (h : ∀ n : Node, refused (without refused n) = refused n) (ns : List Node) :
    ∀ m ∈ subtreesAll (withoutAll refused ns), refused m = false := by
  induction ns using forest_induction with
  | nil =>
      intro m hm
      cases hm
  | cons n rest hchildren hrest =>
      rw [withoutAll]
      by_cases hn : refused n = true
      · rwa [if_pos hn]
      · rw [if_neg hn, subtreesAll, subtrees_eq_cons, children_without, List.forall_mem_append,
          List.forall_mem_cons]
        have hkept : refused (without refused n) = false := by
          rw [h n]
          exact Bool.eq_false_iff.mpr hn
        exact ⟨⟨hkept, hchildren⟩, hrest⟩

theorem without_eq_self {refused : Node → Bool} {n : Node}
    (hbody : withoutAll refused n.body = n.body)
    (hbranches : withoutAll refused n.branches = n.branches) : without refused n = n := by
  cases n <;> simp_all only [without, body, branches]

/-- Where no node is refused, nothing is taken out. -/
theorem withoutAll_eq_self {refused : Node → Bool} (ns : List Node) :
    (∀ m ∈ subtreesAll ns, refused m = false) → withoutAll refused ns = ns := by
  induction ns using parts_induction with
  | nil =>
      intro _
      rfl
  | cons n rest hbody hbranches hrest =>
      intro h
      rw [subtreesAll, subtrees_eq_cons, children_eq, subtreesAll_append, List.forall_mem_append,
        List.forall_mem_cons, List.forall_mem_append] at h
      obtain ⟨⟨hn, hinBody, hinBranches⟩, hinRest⟩ := h
      rw [withoutAll, hn, without_eq_self (hbody hinBody) (hbranches hinBranches), hrest hinRest]
      rfl

/-- A directive declares no constant. -/
theorem declared_withoutAll (ns : List Node) :
    (subtreesAll (withoutAll isExternal ns)).filterMap constant?
      = (subtreesAll ns).filterMap constant? := by
  induction ns using forest_induction with
  | nil => rfl
  | cons n rest hchildren hrest =>
      rw [withoutAll, subtreesAll, List.filterMap_append]
      by_cases h : n.isExternal = true
      · have hnone : (subtrees n).filterMap constant? = [] := by
          cases n with
          | external params => rfl
          | _ => cases h
        rw [if_pos h, hrest, hnone, List.nil_append]
      · have hself : constant? (without isExternal n) = constant? n := by
          cases n <;> rfl
        rw [if_neg h, subtreesAll, List.filterMap_append, subtrees_eq_cons, subtrees_eq_cons,
          children_without, List.filterMap_cons, List.filterMap_cons, hself, hchildren, hrest]

end Node

namespace Stylesheet

/-- The collector finds the declared constants, each once and in document order. -/
theorem constants_eq_declared (sheet : Stylesheet) : sheet.constants = sheet.declared := by
  rw [constants_eq, Constant.foldl_see, List.nil_append, Node.filterMap_marksAll]
  rfl

theorem declared_stripExternals (sheet : Stylesheet) :
    sheet.stripExternals.declared = sheet.declared := by
  rw [stripExternals_eq]
  exact Node.declared_withoutAll sheet.nodes

theorem constants_stripExternals (sheet : Stylesheet) :
    sheet.stripExternals.constants = sheet.declared := by
  rw [constants_eq_declared, declared_stripExternals]

end Stylesheet

end Restyle
