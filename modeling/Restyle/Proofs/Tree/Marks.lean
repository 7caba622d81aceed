import Restyle.Constant.Collect
import Restyle.ExternalClasses
import Restyle.Proofs.Tree.Parts
import Mathlib.Tactic.Common

set_option autoImplicit false

/-! # What the collectors see

The collectors of constants and of external classes look at selectors, constants and directives on
their way through a tree, and at nothing else. `Node.marksAll` lists these parts in document order, and
a walk of such a collector is a fold over that list (`Visitor.walkNodes_observing`).
-/

namespace Restyle

/-! ## Marks -/

/-- Whether the content of a node is a mark by itself. -/
def Node.isMark : Node → Bool
  | .constant _ => true
  | .external _ => true
  | _ => false

namespace Node

mutual

/-- The selectors, constants and directives of a node in document order. -/
def marks : Node → List Item
  | .rule selectors _ => selectors.map .selector
  | .ifBlock _ nodes branches => marksAll nodes ++ marksAll branches
  | .elseIf _ nodes branches => marksAll nodes ++ marksAll branches
  | .elseBlock nodes => marksAll nodes
  | .media _ nodes => marksAll nodes
  | .sprite selectors _ _ => selectors.map .selector
  | .noFlip nodes => marksAll nodes
  | .constant decl => [.content (.constant decl)]
  | .external params => [.content (.external params)]
  | _ => []

/-- The selectors, constants and directives of nodes in document order. -/
def marksAll : List Node → List Item
  | [] => []
  | node :: rest => marks node ++ marksAll rest

end

theorem marksAll_append (ms ns : List Node) : marksAll (ms ++ ns) = marksAll ms ++ marksAll ns := by
  induction ms with
  | nil => rfl
  | cons m ms ih => rw [List.cons_append, marksAll, marksAll, ih, List.append_assoc]

/-- The marks of a node are its content, if that is one, its selectors, and what is inside it. -/
theorem marks_eq (n : Node) :
    marks n = (if n.isMark then [.content n] else [])
      ++ (n.ownSelectors.map .selector ++ marksAll n.children) := by
  cases n <;> simp [marks, isMark, ownSelectors, children, marksAll, marksAll_append]

end Node

/-! ## Walks that run to the end -/

namespace Walk

variable {σ : Type}

/-- A walk that finishes and changes the state by `f`. -/
def finishing (f : σ → σ) : Walk σ := fun s => (.finished, f s)

theorem andThen_finishing (f g : σ → σ) :
    (finishing f).andThen (finishing g) = finishing fun s => g (f s) := rfl

/-- Walking a list whose members each finish with one look at an item. -/
theorem inOrder_finishing {α : Type} (item : α → Item) (see : Item → σ → σ) {walk : α → Walk σ}
    (h : ∀ a, walk a = finishing (see (item a))) (as : List α) :
    inOrder walk as = finishing fun s => (as.map item).foldl (fun s i => see i s) s := by
  induction as with
  | nil => rfl
  | cons a rest ih => rw [inOrder, h a, ih, andThen_finishing]; rfl

end Walk

/-- A look at the parts of a tree that passes over everything but marks. -/
structure SeesMarks {σ : Type} (see : Item → σ → σ) : Prop where
  stylesheet : ∀ sheet s, see (.stylesheet sheet) s = s
  node : ∀ node s, see (.node node) s = s
  property : ∀ property s, see (.property property) s = s
  content : ∀ node s, node.isMark = false → see (.content node) s = s

namespace Visitor

variable {σ : Type} {see : Item → σ → σ}

theorem around_observing (item : Item) (f : σ → σ) :
    (observing see).around item (.finishing f) = .finishing fun s => f (see item s) := rfl

/-- A part that is passed over adds nothing to what is inside it. -/
theorem around_observing_of_blind {item : Item} (h : ∀ s, see item s = s) (f : σ → σ) :
    (observing see).around item (.finishing f) = .finishing f := by
  rw [around_observing]
  funext s
  rw [Walk.finishing, Walk.finishing, h]

/-- Where properties are passed over, a list of them leaves no trace. -/
theorem inOrder_walkProperty (h : SeesMarks see) (properties : List Property) :
    Walk.inOrder (observing see).walkProperty properties = .done := by
  induction properties with
  | nil => rfl
  | cons property rest ih =>
      have hone : (observing see).walkProperty property = .done :=
        around_observing_of_blind (h.property property) id
      rw [Walk.inOrder, hone, ih, Walk.done_andThen]

theorem inOrder_walkSelector (selectors : List Selector) :
    Walk.inOrder (observing see).walkSelector selectors
      = .finishing fun s => (selectors.map Item.selector).foldl (fun s i => see i s) s :=
  Walk.inOrder_finishing Item.selector see (fun _ => rfl) selectors

/-- One list of marks behind the other. -/
theorem finishing_append (xs ys : List Item) :
    Walk.andThen (.finishing fun s : σ => xs.foldl (fun s i => see i s) s)
        (.finishing fun s => ys.foldl (fun s i => see i s) s)
      = .finishing fun s => (xs ++ ys).foldl (fun s i => see i s) s := by
  rw [Walk.andThen_finishing]
  funext s
  rw [Walk.finishing, Walk.finishing, List.foldl_append]

theorem walkContent_observing (h : SeesMarks see) {n : Node}
    (hchildren : (observing see).walkNodes n.children
      = .finishing fun s => (Node.marksAll n.children).foldl (fun s i => see i s) s) :
    (observing see).walkContent n = .finishing fun s => n.marks.foldl (fun s i => see i s) s := by
  rw [walkContent_eq, inOrder_walkSelector, inOrder_walkProperty h, Walk.done_andThen, hchildren,
    finishing_append, Node.marks_eq]
  by_cases hmark : n.isMark = true
  · rw [if_pos hmark]
    exact around_observing _ _
  · rw [if_neg hmark]
    exact around_observing_of_blind (fun s => h.content n s (Bool.eq_false_iff.mpr hmark)) _

/-- A collector walks through nodes to their end, and folds over their marks. -/
theorem walkNodes_observing (h : SeesMarks see) (ns : List Node) :
    (observing see).walkNodes ns
      = .finishing fun s => (Node.marksAll ns).foldl (fun s i => see i s) s := by
  induction ns using Node.forest_induction with
  | nil => rfl
  | cons n rest hchildren hrest =>
      rw [walkNodes, walkContent_observing h hchildren, hrest, around_observing_of_blind (h.node n),
        finishing_append]
      rfl

theorem after_observing (h : SeesMarks see) (sheet : Stylesheet) (s : σ) :
    (observing see).after sheet s = (Node.marksAll sheet.nodes).foldl (fun s i => see i s) s := by
  rw [after, walk, walkNodes_observing h, around_observing_of_blind (h.stylesheet sheet)]
  rfl

end Visitor

/-! ## The two collectors -/

theorem Constant.seesMarks : SeesMarks Constant.see where
  stylesheet _ _ := rfl
  node _ _ := rfl
  property _ _ := rfl
  content n _ h := by
    cases n with
    | constant _ => cases h
    | external _ => cases h
    | _ => rfl

theorem ExternalClasses.seesMarks : SeesMarks ExternalClasses.see where
  stylesheet _ _ := rfl
  node _ _ := rfl
  property _ _ := rfl
  content n _ h := by
    cases n with
    | constant _ => cases h
    | external _ => cases h
    | _ => rfl

/-- The constants of a stylesheet depend on its marks only. -/
theorem Stylesheet.constants_eq (sheet : Stylesheet) :
    sheet.constants
      = (Node.marksAll sheet.nodes).foldl (fun seen item => Constant.see item seen) [] :=
  Visitor.after_observing Constant.seesMarks sheet []

/-- So do the external classes. -/
theorem ExternalClasses.ofStylesheet_eq (sheet : Stylesheet) :
    ExternalClasses.ofStylesheet sheet
      = (Node.marksAll sheet.nodes).foldl (fun e item => ExternalClasses.see item e) .empty :=
  Visitor.after_observing ExternalClasses.seesMarks sheet .empty

end Restyle
