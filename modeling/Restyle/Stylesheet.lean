import Restyle.Selector
import Restyle.Value

set_option autoImplicit false

/-! # Stylesheets

The tree of a legacy stylesheet, as a parser of that language delivers it. A conversion reads the
tree and never changes what it means. -/

namespace Restyle

/-! ## Properties, constants and conditions -/

/-- A declaration in the block of a rule. -/
structure Property where
  name : String
  values : List Term
  important : Bool
deriving DecidableEq

/-- The directive that declares a constant. -/
inductive ConstantKind where
  /-- `@def`: a list of values. -/
  | plain
  /-- `@eval`: an expression that is evaluated at run time. -/
  | eval
  /-- `@url`: the address of a resource. -/
  | url
deriving DecidableEq, Repr

/-- The name of the directive, without the `@`. -/
def ConstantKind.name : ConstantKind → String
  | .plain => "def"
  | .eval => "eval"
  | .url => "url"

/-- The declaration of a constant, with its key as written. -/
structure Constant where
  kind : ConstantKind
  key : String
  values : List Term
deriving DecidableEq

/-- A test whether a property has one of some values. -/
structure FeatureTest where
  property : String
  values : List String
  negated : Bool
deriving DecidableEq, Repr

/-- The condition of a conditional block. -/
inductive Condition where
  | feature (test : FeatureTest)
  /-- An expression that is evaluated at run time. -/
  | runtime (expression : String)
deriving DecidableEq, Repr

/-! ## Nodes -/

/-- A node of a stylesheet. The branches of a conditional block that follow its body are the nodes
`branches`; only `elseIf` and `elseBlock` nodes make sense there, and nowhere else. -/
inductive Node where
  | rule (selectors : List Selector) (properties : List Property)
  | ifBlock (condition : Condition) (nodes branches : List Node)
  | elseIf (condition : Condition) (nodes branches : List Node)
  | elseBlock (nodes : List Node)
  | media (queries : List String) (nodes : List Node)
  | page (pseudoPage : Option String) (properties : List Property)
  | fontFace (properties : List Property)
  /-- A rule that shows an image resource. -/
  | sprite (selectors : List Selector) (resource : String) (properties : List Property)
  /-- Nodes whose properties keep their direction. -/
  | noFlip (nodes : List Node)
  | constant (decl : Constant)
  /-- The names and patterns of classes that keep their name. -/
  | external (params : List Value)
  /-- A directive that is passed on as it stands. -/
  | unknownAtRule (rule : String)

/-- A stylesheet: its top-level nodes in document order. -/
structure Stylesheet where
  nodes : List Node

namespace Node

/-- The name of a node's kind in messages. -/
def kindName : Node → String
  | .rule .. => "rule"
  | .ifBlock .. => "@if"
  | .elseIf .. => "@elseif"
  | .elseBlock .. => "@else"
  | .media .. => "@media"
  | .page .. => "@page"
  | .fontFace .. => "@font-face"
  | .sprite .. => "@sprite"
  | .noFlip .. => "@noflip"
  | .constant decl => "@" ++ decl.kind.name
  | .external .. => "@external"
  | .unknownAtRule .. => "unknown at-rule"

/-- The nodes directly inside a node, a block's body before its branches. -/
def children : Node → List Node
  | .ifBlock _ nodes branches => nodes ++ branches
  | .elseIf _ nodes branches => nodes ++ branches
  | .elseBlock nodes => nodes
  | .media _ nodes => nodes
  | .noFlip nodes => nodes
  | _ => []

/-! ## Equality -/

mutual

/-- Whether two nodes are the same. -/
def same : Node → Node → Bool
  | .rule s p, .rule t q => s == t && p == q
  | .ifBlock c ns bs, .ifBlock d ms cs => c == d && sameAll ns ms && sameAll bs cs
  | .elseIf c ns bs, .elseIf d ms cs => c == d && sameAll ns ms && sameAll bs cs
  | .elseBlock ns, .elseBlock ms => sameAll ns ms
  | .media a ns, .media b ms => a == b && sameAll ns ms
  | .page a p, .page b q => a == b && p == q
  | .fontFace p, .fontFace q => p == q
  | .sprite s a p, .sprite t b q => s == t && a == b && p == q
  | .noFlip ns, .noFlip ms => sameAll ns ms
  | .constant a, .constant b => a == b
  | .external a, .external b => a == b
  | .unknownAtRule a, .unknownAtRule b => a == b
  | _, _ => false

/-- Whether two lists of nodes are the same. -/
def sameAll : List Node → List Node → Bool
  | [], [] => true
  | a :: as, b :: bs => same a b && sameAll as bs
  | _, _ => false

end

mutual

theorem same_iff : ∀ a b : Node, same a b = true ↔ a = b
  | .ifBlock _ ns bs, b => by
    cases b <;> simp [same, sameAll_iff ns, sameAll_iff bs, and_assoc]
  | .elseIf _ ns bs, b => by
    cases b <;> simp [same, sameAll_iff ns, sameAll_iff bs, and_assoc]
  | .elseBlock ns, b => by cases b <;> simp [same, sameAll_iff ns]
  | .media _ ns, b => by cases b <;> simp [same, sameAll_iff ns]
  | .noFlip ns, b => by cases b <;> simp [same, sameAll_iff ns]
  | .rule .., b => by cases b <;> simp [same]
  | .page .., b => by cases b <;> simp [same]
  | .fontFace _, b => by cases b <;> simp [same]
  | .sprite .., b => by cases b <;> simp [same, and_assoc]
  | .constant _, b => by cases b <;> simp [same]
  | .external _, b => by cases b <;> simp [same]
  | .unknownAtRule _, b => by cases b <;> simp [same]

theorem sameAll_iff : ∀ a b : List Node, sameAll a b = true ↔ a = b
  | [], [] => by simp [sameAll]
  | [], _ :: _ => by simp [sameAll]
  | _ :: _, [] => by simp [sameAll]
  | a :: as, b :: bs => by simp [sameAll, same_iff a b, sameAll_iff as bs]

end

instance : DecidableEq Node := fun a b => decidable_of_iff _ (same_iff a b)

end Node

deriving instance DecidableEq for Stylesheet

end Restyle
