import Restyle.Stylesheet.Walk

set_option autoImplicit false

/-! # The parts of a node

There are twelve kinds of nodes, but few things inside them: selectors, properties, the nodes of a body
and the nodes in the place of branches. What looks at nodes through these parts need not tell the kinds
apart. `Node.parts_induction` goes into the body and the branches of the first node of a list and on to
the rest; `Node.forest_induction` takes the two lists inside a node as one. A walk goes through the
parts of a node in their order (`Visitor.walkContent_eq`).
-/

namespace Restyle

namespace Node

/-- The selectors in front of a node. -/
def ownSelectors : Node → List Selector
  | .rule selectors _ => selectors
  | .sprite selectors _ _ => selectors
  | _ => []

/-- The properties of a node. -/
def ownProperties : Node → List Property
  | .rule _ properties => properties
  | .page _ properties => properties
  | .fontFace properties => properties
  | .sprite _ _ properties => properties
  | _ => []

/-- The nodes in the body of a block. -/
def body : Node → List Node
  | .ifBlock _ nodes _ => nodes
  | .elseIf _ nodes _ => nodes
  | .elseBlock nodes => nodes
  | .media _ nodes => nodes
  | .noFlip nodes => nodes
  | _ => []

/-- The nodes in the place of the branches of a conditional block. -/
def branches : Node → List Node
  | .ifBlock _ _ branches => branches
  | .elseIf _ _ branches => branches
  | _ => []

/-- Whether what stands inside a node stands in a `noFlip` block, by whether the node does. -/
def fixes (fixed : Bool) : Node → Bool
  | .noFlip _ => true
  | _ => fixed

theorem children_eq (n : Node) : n.children = n.body ++ n.branches := by
  cases n <;> simp [children, body, branches]

/-! ## Induction -/

mutual

theorem of_parts {P : List Node → Prop} (nil : P [])
    (cons : ∀ (n : Node) (rest : List Node), P n.body → P n.branches → P rest → P (n :: rest)) :
    ∀ n : Node, P n.body ∧ P n.branches
  | .ifBlock _ nodes branches | .elseIf _ nodes branches =>
      ⟨parts_induction nil cons nodes, parts_induction nil cons branches⟩
  | .elseBlock nodes | .media _ nodes | .noFlip nodes => ⟨parts_induction nil cons nodes, nil⟩
  | .rule .. | .page .. | .fontFace _ | .sprite .. | .constant _ | .external _ | .unknownAtRule _ =>
      ⟨nil, nil⟩

/-- Induction over a list of nodes: into the body and the branches of the first one, and on to the
rest. -/
theorem parts_induction {P : List Node → Prop} (nil : P [])
    (cons : ∀ (n : Node) (rest : List Node), P n.body → P n.branches → P rest → P (n :: rest)) :
    ∀ ns : List Node, P ns
  | [] => nil
  | n :: rest =>
      cons n rest (of_parts nil cons n).1 (of_parts nil cons n).2 (parts_induction nil cons rest)

end

/-- Induction over a list of nodes: into the first node, and on to the rest. -/
theorem forest_induction {P : List Node → Prop} (nil : P [])
    (cons : ∀ (n : Node) (rest : List Node), P n.children → P rest → P (n :: rest))
    (ns : List Node) : P ns := by
  -- The body of a node is led through in front of its branches, so there has to be room for more.
  have hbefore : ∀ more : List Node, P more → P (ns ++ more) := by
    induction ns using parts_induction with
    | nil =>
        intro more hmore
        exact hmore
    | cons n rest hbody hbranches hrest =>
        intro more hmore
        refine cons n (rest ++ more) ?_ (hrest more hmore)
        have hinside := hbody n.branches (List.append_nil n.branches ▸ hbranches [] nil)
        rwa [← children_eq] at hinside
  have h := hbefore [] nil
  rwa [List.append_nil] at h

end Node

/-! ## Walks -/

namespace Walk

variable {σ : Type}

theorem done_andThen (walk : Walk σ) : done.andThen walk = walk := rfl

theorem andThen_done (walk : Walk σ) : walk.andThen done = walk := by
  funext s
  rw [andThen]
  rcases walk s with ⟨_ | _, t⟩
  · rfl
  · rfl

theorem andThen_assoc (first second third : Walk σ) :
    (first.andThen second).andThen third = first.andThen (second.andThen third) := by
  funext s
  rw [andThen, andThen, andThen]
  rcases first s with ⟨_ | _, t⟩
  · rfl
  · rfl

end Walk

namespace Visitor

variable {σ : Type} (v : Visitor σ)

theorem walkNodes_append (ms ns : List Node) :
    v.walkNodes (ms ++ ns) = (v.walkNodes ms).andThen (v.walkNodes ns) := by
  induction ms with
  | nil => rw [walkNodes, Walk.done_andThen, List.nil_append]
  | cons m ms ih => rw [List.cons_append, walkNodes, ih, walkNodes, Walk.andThen_assoc]

/-- A walk goes through the selectors of a node, through its properties and through the nodes inside
it. -/
theorem walkContent_eq (n : Node) :
    v.walkContent n = v.around (.content n) ((Walk.inOrder v.walkSelector n.ownSelectors).andThen
      ((Walk.inOrder v.walkProperty n.ownProperties).andThen (v.walkNodes n.children))) := by
  cases n <;>
    simp only [walkContent, Node.ownSelectors, Node.ownProperties, Node.children, Walk.inOrder,
      walkNodes, walkNodes_append, Walk.done_andThen, Walk.andThen_done]

end Visitor

end Restyle
