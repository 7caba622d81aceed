set_option autoImplicit false

/-! # Values

The right-hand sides of properties and constants: lists of terms. A term is a value together with
whether a blank stands before it, and a value may be a list of terms again. -/

namespace Restyle

mutual

/-- A value. -/
inductive Value where
  /-- Text that is printed without its backslashes. -/
  | literal (text : String)
  /-- A name, which may be the key of a constant. -/
  | ident (name : String)
  /-- An expression that is printed as it stands. -/
  | expression (code : String)
  /-- The path of a resource, with the unit that is to follow its value. -/
  | resourcePath (path : String) (suffix : Option String)
  /-- A nested list. -/
  | list (terms : List Term)

/-- A value in a list; `spaced` tells whether a blank separates it from the one before. -/
structure Term where
  value : Value
  spaced : Bool

end

/-! ## Equality -/

mutual

/-- Whether two values are the same. -/
def Value.same : Value → Value → Bool
  | .literal a, .literal b => a == b
  | .ident a, .ident b => a == b
  | .expression a, .expression b => a == b
  | .resourcePath a s, .resourcePath b t => a == b && s == t
  | .list a, .list b => Term.sameAll a b
  | _, _ => false

/-- Whether two terms are the same. -/
def Term.same : Term → Term → Bool
  | ⟨v, s⟩, ⟨w, t⟩ => Value.same v w && s == t

/-- Whether two lists of terms are the same. -/
def Term.sameAll : List Term → List Term → Bool
  | [], [] => true
  | a :: as, b :: bs => Term.same a b && Term.sameAll as bs
  | _, _ => false

end

mutual

theorem Value.same_iff : ∀ a b : Value, Value.same a b = true ↔ a = b
  | .list a, .list b => by simp [Value.same, Term.sameAll_iff a b]
  | .literal _, b | .ident _, b | .expression _, b | .resourcePath _ _, b => by
    cases b <;> simp [Value.same]
  | .list _, .literal _ | .list _, .ident _ | .list _, .expression _
  | .list _, .resourcePath _ _ => by simp [Value.same]

theorem Term.same_iff : ∀ a b : Term, Term.same a b = true ↔ a = b
  | ⟨v, s⟩, ⟨w, t⟩ => by simp [Term.same, Value.same_iff v w]

theorem Term.sameAll_iff : ∀ a b : List Term, Term.sameAll a b = true ↔ a = b
  | [], [] => by simp [Term.sameAll]
  | [], _ :: _ => by simp [Term.sameAll]
  | _ :: _, [] => by simp [Term.sameAll]
  | a :: as, b :: bs => by simp [Term.sameAll, Term.same_iff a b, Term.sameAll_iff as bs]

end

instance : DecidableEq Value := fun a b => decidable_of_iff _ (Value.same_iff a b)

instance : DecidableEq Term := fun a b => decidable_of_iff _ (Term.same_iff a b)

end Restyle
