import Restyle.Stylesheet.Walk

set_option autoImplicit false

/-! # The constants of a stylesheet -/

namespace Restyle

/-- Record a declaration, behind those that have been seen. -/
def Constant.see : Item → List Constant → List Constant
  | .content (.constant decl), seen => seen ++ [decl]
  | _, seen => seen

/-- The constants that a stylesheet declares, at any depth, in document order. -/
def Stylesheet.constants (sheet : Stylesheet) : List Constant :=
  (Visitor.observing Constant.see).after sheet []

end Restyle
