import Restyle.Stylesheet

set_option autoImplicit false

/-! # Changing the selectors of a stylesheet -/

namespace Restyle

namespace Node

mutual

/-- Change every selector of a node. -/
def mapSelectors (f : Selector → Selector) : Node → Node
  | .rule selectors properties => .rule (selectors.map f) properties
  | .ifBlock condition nodes branches =>
    .ifBlock condition (mapSelectorsAll f nodes) (mapSelectorsAll f branches)
  | .elseIf condition nodes branches =>
    .elseIf condition (mapSelectorsAll f nodes) (mapSelectorsAll f branches)
  | .elseBlock nodes => .elseBlock (mapSelectorsAll f nodes)
  | .media queries nodes => .media queries (mapSelectorsAll f nodes)
  | .page pseudoPage properties => .page pseudoPage properties
  | .fontFace properties => .fontFace properties
  | .sprite selectors resource properties => .sprite (selectors.map f) resource properties
  | .noFlip nodes => .noFlip (mapSelectorsAll f nodes)
  | .constant decl => .constant decl
  | .external params => .external params
  | .unknownAtRule text => .unknownAtRule text

/-- Change every selector of some nodes. -/
def mapSelectorsAll (f : Selector → Selector) : List Node → List Node
  | [] => []
  | node :: rest => mapSelectors f node :: mapSelectorsAll f rest

end

end Node

/-- Change every selector of a stylesheet. -/
def Stylesheet.mapSelectors (f : Selector → Selector) (sheet : Stylesheet) : Stylesheet :=
  ⟨Node.mapSelectorsAll f sheet.nodes⟩

/-- A stylesheet whose refiners are all found anew in the texts of its selectors. -/
def Stylesheet.rescanned (sheet : Stylesheet) : Stylesheet :=
  sheet.mapSelectors fun selector => .ofText selector.text

end Restyle
