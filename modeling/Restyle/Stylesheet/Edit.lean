import Restyle.Stylesheet

set_option autoImplicit false

/-! # Edits

An editor looks at the nodes of a tree from the top down and keeps each of them, removes it, or puts
other nodes in its place. What stays is then edited inside; nodes that were put in place of another
are not looked at again themselves, only their children are. Replacements may not be higher than the
node they replace, so that an edit always comes to an end. -/

namespace Restyle

namespace Node

/-! ## Height -/

mutual

/-- How deep nodes are nested in a node. -/
def height : Node → Nat
  | .ifBlock _ nodes branches => max (heightAll nodes) (heightAll branches) + 1
  | .elseIf _ nodes branches => max (heightAll nodes) (heightAll branches) + 1
  | .elseBlock nodes => heightAll nodes + 1
  | .media _ nodes => heightAll nodes + 1
  | .noFlip nodes => heightAll nodes + 1
  | _ => 0

/-- The greatest height in a list of nodes. -/
def heightAll : List Node → Nat
  | [] => 0
  | node :: rest => max (height node) (heightAll rest)

end

theorem heightAll_append (ns ms : List Node) :
    heightAll (ns ++ ms) = max (heightAll ns) (heightAll ms) := by
  induction ns with
  | nil => simp [heightAll]
  | cons n ns ih => simp [heightAll, ih, Nat.max_assoc]

/-- The children of a node are not higher than the node. -/
theorem heightAll_children_le (n : Node) : heightAll n.children ≤ n.height := by
  cases n <;> simp [children, height, heightAll, heightAll_append]

end Node

/-- What an editor does with a node. -/
inductive Edit (node : Node) where
  | keep
  | remove
  | replace (nodes : List Node) (fits : Node.heightAll nodes ≤ node.height)

namespace Edit

/-- The nodes that stand in the place of an edited node. -/
def result {node : Node} : Edit node → List Node
  | .keep => [node]
  | .remove => []
  | .replace nodes _ => nodes

theorem heightAll_result_le {node : Node} (edit : Edit node) :
    Node.heightAll edit.result ≤ node.height := by
  cases edit with
  | keep => simp [result, Node.heightAll]
  | remove => simp [result, Node.heightAll]
  | replace nodes fits => exact fits

/-- The measure by which an edit ends: heights first, then the kind of step, then lengths. -/
theorem lex_of_le {a b i j m n : Nat} (h : a ≤ b) (h' : i < j ∨ i = j ∧ m < n) :
    Prod.Lex (· < ·) (Prod.Lex (· < ·) (· < ·)) (a, i, m) (b, j, n) := by
  rcases Nat.lt_or_eq_of_le h with h | rfl
  · exact .left _ _ h
  · rcases h' with h' | ⟨rfl, h'⟩
    · exact .right _ (.left _ _ h')
    · exact .right _ (.right _ h')

end Edit

/-- An editor with a state of its own. -/
abbrev Editor (σ : Type) := (node : Node) → σ → Edit node × σ

namespace Editor

variable {σ : Type} (editor : Editor σ)

mutual

/-- Edit the nodes inside a node. -/
def editChildren (node : Node) (s : σ) : Node × σ :=
  match node with
  | .ifBlock condition nodes branches =>
    let (nodes, s) := editNodes nodes s
    let (branches, s) := editNodes branches s
    (.ifBlock condition nodes branches, s)
  | .elseIf condition nodes branches =>
    let (nodes, s) := editNodes nodes s
    let (branches, s) := editNodes branches s
    (.elseIf condition nodes branches, s)
  | .elseBlock nodes =>
    let (nodes, s) := editNodes nodes s
    (.elseBlock nodes, s)
  | .media queries nodes =>
    let (nodes, s) := editNodes nodes s
    (.media queries nodes, s)
  | .noFlip nodes =>
    let (nodes, s) := editNodes nodes s
    (.noFlip nodes, s)
  | node => (node, s)
termination_by (node.height, 0, 0)
decreasing_by
  all_goals
    apply Prod.Lex.left
    simp only [Node.height]
    omega

/-- Edit the nodes inside each node of a list. -/
def editEach (nodes : List Node) (s : σ) : List Node × σ :=
  match nodes with
  | [] => ([], s)
  | node :: rest =>
    let (node, s) := editChildren node s
    let (rest, s) := editEach rest s
    (node :: rest, s)
termination_by (Node.heightAll nodes, 1, nodes.length)
decreasing_by
  · exact Edit.lex_of_le (by simp only [Node.heightAll]; omega) (by omega)
  · exact Edit.lex_of_le (by simp only [Node.heightAll]; omega) (.inr ⟨rfl, Nat.lt_succ_self _⟩)

/-- Edit a list of nodes. -/
def editNodes (nodes : List Node) (s : σ) : List Node × σ :=
  match nodes with
  | [] => ([], s)
  | node :: rest =>
    let (edit, s) := editor node s
    let (others, s) := editEach edit.result s
    let (rest, s) := editNodes rest s
    (others ++ rest, s)
termination_by (Node.heightAll nodes, 2, nodes.length)
decreasing_by
  · have := edit.heightAll_result_le
    exact Edit.lex_of_le (by simp only [Node.heightAll]; omega) (by omega)
  · exact Edit.lex_of_le (by simp only [Node.heightAll]; omega) (.inr ⟨rfl, Nat.lt_succ_self _⟩)

end

end Editor

/-- The editor that removes the nodes with a property and keeps the others. -/
def Editor.removing (refused : Node → Bool) : Editor Unit := fun node s =>
  (if refused node then .remove else .keep, s)

end Restyle
