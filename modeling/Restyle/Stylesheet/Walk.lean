import Restyle.Stylesheet

set_option autoImplicit false

/-! # Walks

A walk shows the parts of a stylesheet to a visitor in document order. The visitor is told when a
part begins and when it ends, and its answer at the beginning decides how the walk goes on. Between
the two calls for a part lie the calls for what it contains: selectors before properties, the body
of a block before its branches. -/

namespace Restyle

/-- A part of a stylesheet that is shown to a visitor. A node is shown twice, as a node among others
and then by its content; a visitor of the former need not look at the kind of the node. -/
inductive Item where
  | stylesheet (sheet : Stylesheet)
  | node (node : Node)
  | content (node : Node)
  | selector (selector : Selector)
  | property (property : Property)
deriving DecidableEq

/-- How a walk goes on from the beginning of a part. -/
inductive Control where
  | proceed
  /-- Leave out what the part contains. -/
  | skip
  /-- End the whole walk at once. -/
  | stop
deriving DecidableEq, Repr

/-- How a walk ended. -/
inductive Outcome where
  | finished
  | stopped
deriving DecidableEq, Repr

/-- A visitor with a state of its own. -/
structure Visitor (σ : Type) where
  visit : Item → σ → Control × σ
  leave : Item → σ → σ

/-- A stretch of a walk: how it ended, and the state of the visitor then. -/
abbrev Walk (σ : Type) := σ → Outcome × σ

namespace Walk

variable {σ : Type}

/-- Nothing to walk. -/
def done : Walk σ := fun s => (.finished, s)

/-- One walk behind the other, unless the first is stopped. -/
def andThen (first second : Walk σ) : Walk σ := fun s =>
  match first s with
  | (.finished, s) => second s
  | (.stopped, s) => (.stopped, s)

/-- Walk the members of a list. -/
def inOrder {α : Type} (walk : α → Walk σ) : List α → Walk σ
  | [] => done
  | a :: rest => (walk a).andThen (inOrder walk rest)

end Walk

namespace Visitor

variable {σ : Type} (v : Visitor σ)

/-- Walk a part with what it contains. -/
def around (item : Item) (inside : Walk σ) : Walk σ := fun s =>
  match v.visit item s with
  | (.stop, s) => (.stopped, s)
  | (.skip, s) => (.finished, v.leave item s)
  | (.proceed, s) =>
    match inside s with
    | (.finished, s) => (.finished, v.leave item s)
    | (.stopped, s) => (.stopped, s)

/-- Walk a selector. -/
def walkSelector (selector : Selector) : Walk σ := v.around (.selector selector) .done

/-- Walk a property. -/
def walkProperty (property : Property) : Walk σ := v.around (.property property) .done

mutual

/-- Walk the content of a node. -/
def walkContent : Node → Walk σ
  | .rule selectors properties =>
    v.around (.content (.rule selectors properties))
      ((Walk.inOrder v.walkSelector selectors).andThen (Walk.inOrder v.walkProperty properties))
  | .ifBlock condition nodes branches =>
    v.around (.content (.ifBlock condition nodes branches))
      ((walkNodes nodes).andThen (walkNodes branches))
  | .elseIf condition nodes branches =>
    v.around (.content (.elseIf condition nodes branches))
      ((walkNodes nodes).andThen (walkNodes branches))
  | .elseBlock nodes => v.around (.content (.elseBlock nodes)) (walkNodes nodes)
  | .media queries nodes => v.around (.content (.media queries nodes)) (walkNodes nodes)
  | .page pseudoPage properties =>
    v.around (.content (.page pseudoPage properties)) (Walk.inOrder v.walkProperty properties)
  | .fontFace properties =>
    v.around (.content (.fontFace properties)) (Walk.inOrder v.walkProperty properties)
  | .sprite selectors resource properties =>
    v.around (.content (.sprite selectors resource properties))
      ((Walk.inOrder v.walkSelector selectors).andThen (Walk.inOrder v.walkProperty properties))
  | .noFlip nodes => v.around (.content (.noFlip nodes)) (walkNodes nodes)
  | .constant decl => v.around (.content (.constant decl)) .done
  | .external params => v.around (.content (.external params)) .done
  | .unknownAtRule rule => v.around (.content (.unknownAtRule rule)) .done

/-- Walk a list of nodes. -/
def walkNodes : List Node → Walk σ
  | [] => .done
  | node :: rest => (v.around (.node node) (walkContent node)).andThen (walkNodes rest)

end

/-- Walk a node. -/
def walkNode (node : Node) : Walk σ := v.around (.node node) (v.walkContent node)

/-- Walk a stylesheet. -/
def walk (sheet : Stylesheet) : Walk σ := v.around (.stylesheet sheet) (v.walkNodes sheet.nodes)

/-- The state of a visitor after a walk through a stylesheet. -/
def after (sheet : Stylesheet) (s : σ) : σ := (v.walk sheet s).2

end Visitor

/-- The visitor that looks at some parts on its way through the whole tree. -/
def Visitor.observing {σ : Type} (see : Item → σ → σ) : Visitor σ where
  visit item s := (.proceed, see item s)
  leave _ s := s

end Restyle
