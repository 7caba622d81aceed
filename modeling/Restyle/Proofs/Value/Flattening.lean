import Restyle.Gss.ValueText
import Mathlib.Tactic.Common

set_option autoImplicit false

/-! # Flat lists of values

A list in a list of values is written without any mark of its own, so its terms may as well stand in the
place of the list (`Term.flatten`). A blank in front of the list is then a blank in front of its first
term, whose own flag has no say: nothing is written before it inside of the list.

Whether a blank is written depends on whether something stands before it, in the whole text or only in
that of an inner list. The two are the same where every value shows. The proof carries a text `written`
along that stands before the list, and `Term.textBehind_append_left` is what allows to move it in front.
-/

namespace Restyle

/-! ## Leaves and nested lists -/

mutual

/-- The values in a value that are no lists, in their order. -/
def Value.leaves : Value → List Value
  | .list terms => Term.leaves terms
  | value => [value]

/-- The values at any depth of a list of terms that are no lists, in their order. -/
def Term.leaves : List Term → List Value
  | [] => []
  | ⟨value, _⟩ :: rest => value.leaves ++ Term.leaves rest

end

mutual

/-- The lists in a value, which may be one itself. -/
def Value.nested : Value → List (List Term)
  | .list terms => terms :: Term.nested terms
  | _ => []

/-- The lists at any depth of a list of terms. -/
def Term.nested : List Term → List (List Term)
  | [] => []
  | ⟨value, _⟩ :: rest => value.nested ++ Term.nested rest

end

/-- A value that is not a list. -/
def Value.isLeaf : Value → Bool
  | .list _ => false
  | _ => true

/-! ## Flattening -/

/-- Terms with a flag of its own for the first of them. -/
def Term.respace (spaced : Bool) : List Term → List Term
  | [] => []
  | first :: rest => { first with spaced := spaced } :: rest

mutual

/-- What stands in the place of a term: the terms of a list that is flat itself, the first of them
spaced like the list, or the term as it is. -/
def Value.splice (spaced : Bool) : Value → List Term
  | .list terms => Term.respace spaced (Term.flatten terms)
  | value => [⟨value, spaced⟩]

/-- Terms with the terms of each list in the place of the list, at any depth. -/
def Term.flatten : List Term → List Term
  | [] => []
  | ⟨value, spaced⟩ :: rest => value.splice spaced ++ Term.flatten rest

end

theorem Term.map_value_respace (spaced : Bool) (terms : List Term) :
    (Term.respace spaced terms).map Term.value = terms.map Term.value := by
  cases terms with
  | nil => rfl
  | cons first rest => rfl

mutual

theorem Value.map_value_splice (spaced : Bool) : ∀ value : Value,
    (value.splice spaced).map Term.value = value.leaves
  | .list terms => by
      rw [Value.splice, Term.map_value_respace, Term.map_value_flatten terms, Value.leaves]
  | .literal _ | .ident _ | .expression _ | .resourcePath _ _ => rfl

/-- Flattening keeps the leaves and their order. -/
theorem Term.map_value_flatten : ∀ terms : List Term,
    (Term.flatten terms).map Term.value = Term.leaves terms
  | [] => rfl
  | ⟨value, spaced⟩ :: rest => by
      rw [Term.flatten, Term.leaves, List.map_append, Value.map_value_splice spaced value,
        Term.map_value_flatten rest]

end

mutual

theorem Value.isLeaf_of_mem_leaves : ∀ value : Value, ∀ leaf ∈ value.leaves, leaf.isLeaf = true
  | .list terms => Term.isLeaf_of_mem_leaves terms
  | .literal _ | .ident _ | .expression _ | .resourcePath _ _ => List.forall_mem_singleton.mpr rfl

theorem Term.isLeaf_of_mem_leaves : ∀ terms : List Term, ∀ leaf ∈ Term.leaves terms,
    leaf.isLeaf = true
  | [] => fun _ h => nomatch h
  | ⟨value, _⟩ :: rest => List.forall_mem_append.mpr
      ⟨Value.isLeaf_of_mem_leaves value, Term.isLeaf_of_mem_leaves rest⟩

end

/-- A value in which no list is empty has a leaf. -/
theorem Value.leaves_ne_nil : ∀ {value : Value}, (∀ terms ∈ value.nested, terms ≠ []) →
    value.leaves ≠ []
  | .list [], h => absurd rfl (h [] List.mem_cons_self)
  | .list (⟨first, _⟩ :: rest), h => by
      have hfirst : first.leaves ≠ [] := by
        apply Value.leaves_ne_nil
        intro terms hterms
        exact h terms (List.mem_cons_of_mem _ (List.mem_append_left _ hterms))
      rw [Value.leaves, Term.leaves]
      exact List.append_ne_nil_of_left_ne_nil hfirst _
  | .literal _, _ | .ident _, _ | .expression _, _ | .resourcePath _ _, _ => List.cons_ne_nil _ _

/-! ## The text behind a text -/

section Text

variable {names : NameTable} {inUrl : Bool}

/-- A text with the blank that may have to follow it. -/
def Term.lead (written : String) (spaced : Bool) : String :=
  if spaced && !written.isEmpty then written ++ " " else written

theorem Term.textBehind_cons (written : String) (value : Value) (spaced : Bool) (rest : List Term) :
    Term.textBehind names inUrl written (⟨value, spaced⟩ :: rest)
      = Term.textBehind names inUrl (Term.lead written spaced ++ value.text names inUrl) rest := by
  rw [Term.textBehind]
  rfl

theorem Term.textBehind_append (written : String) (xs ys : List Term) :
    Term.textBehind names inUrl written (xs ++ ys)
      = Term.textBehind names inUrl (Term.textBehind names inUrl written xs) ys := by
  induction xs generalizing written with
  | nil => rfl
  | cons term xs ih =>
      obtain ⟨value, spaced⟩ := term
      rw [List.cons_append, Term.textBehind_cons, Term.textBehind_cons, ih]

/-- Behind a text that is not empty, what stands further in front does not matter. -/
theorem Term.lead_append {written : String} (h : written ≠ "") (front : String) (spaced : Bool) :
    Term.lead (front ++ written) spaced = front ++ Term.lead written spaced := by
  have hwritten : written.isEmpty = false := by simpa using h
  have hboth : (front ++ written).isEmpty = false := by simp [h]
  unfold Term.lead
  rw [hwritten, hboth]
  cases spaced with
  | false => rfl
  | true => exact String.append_assoc

theorem Term.textBehind_append_left {written : String} (h : written ≠ "") (front : String)
    (terms : List Term) :
    Term.textBehind names inUrl (front ++ written) terms
      = front ++ Term.textBehind names inUrl written terms := by
  induction terms generalizing written with
  | nil => rfl
  | cons term rest ih =>
      obtain ⟨value, spaced⟩ := term
      have hnext : Term.lead written spaced ++ value.text names inUrl ≠ "" := by
        unfold Term.lead
        split <;> simp [h]
      rw [Term.textBehind_cons, Term.textBehind_cons, Term.lead_append h, String.append_assoc, ih hnext]

/-- A list whose first term shows is written behind another text as it is written on its own, with a
blank in between if its first term is given one. -/
theorem Term.textBehind_respace {first : Term} (hfirst : first.value.text names inUrl ≠ "")
    (written : String) (spaced : Bool) (rest : List Term) :
    Term.textBehind names inUrl written (Term.respace spaced (first :: rest))
      = Term.lead written spaced ++ Term.textBehind names inUrl "" (first :: rest) := by
  obtain ⟨value, own⟩ := first
  -- nothing stands before the first term of a list, so its own flag is not looked at
  have hown : Term.lead "" own = "" := by cases own <;> rfl
  rw [Term.respace, Term.textBehind_cons, Term.textBehind_cons, hown, String.empty_append,
    Term.textBehind_append_left hfirst]

/-! ## Flat lists -/

-- The hypotheses on a list are those on its parts, since both lists go through the terms in order.
mutual

theorem Value.textBehind_splice (written : String) (spaced : Bool) : ∀ value : Value,
    (∀ leaf ∈ value.leaves, leaf.text names inUrl ≠ "") → (∀ terms ∈ value.nested, terms ≠ []) →
      Term.textBehind names inUrl written (value.splice spaced)
        = Term.lead written spaced ++ value.text names inUrl
  | .list terms, hleaves, hnested => by
      have hflat : Term.textBehind names inUrl "" (Term.flatten terms)
          = Term.textBehind names inUrl "" terms :=
        Term.textBehind_flatten "" terms hleaves fun inner hinner =>
          hnested inner (List.mem_cons_of_mem _ hinner)
      have hvalues : (Term.flatten terms).map Term.value = (Value.list terms).leaves :=
        Term.map_value_flatten terms
      rw [Value.splice, Value.text, ← hflat]
      cases hterms : Term.flatten terms with
      | nil =>
          rw [hterms] at hvalues
          exact absurd hvalues.symm (Value.leaves_ne_nil hnested)
      | cons first rest =>
          have hmem : first.value ∈ (Value.list terms).leaves := by
            rw [← hvalues, hterms]
            exact List.mem_cons_self
          exact Term.textBehind_respace (hleaves first.value hmem) written spaced rest
  | .literal _, _, _ | .ident _, _, _ | .expression _, _, _ | .resourcePath _ _, _, _ => rfl

theorem Term.textBehind_flatten (written : String) : ∀ terms : List Term,
    (∀ leaf ∈ Term.leaves terms, leaf.text names inUrl ≠ "") →
    (∀ inner ∈ Term.nested terms, inner ≠ []) →
      Term.textBehind names inUrl written (Term.flatten terms)
        = Term.textBehind names inUrl written terms
  | [], _, _ => by rw [Term.flatten]
  | ⟨value, spaced⟩ :: rest, hleaves, hnested => by
      rw [Term.leaves, List.forall_mem_append] at hleaves
      rw [Term.nested, List.forall_mem_append] at hnested
      rw [Term.flatten, Term.textBehind_append,
        Value.textBehind_splice written spaced value hleaves.1 hnested.1,
        Term.textBehind_flatten _ rest hleaves.2 hnested.2, Term.textBehind_cons]

end

end Text

/-- **A nested list of values is written like its flattening**, where every leaf shows and no list is
empty. The flattening has the same leaves in the same order and nothing else. -/
theorem Term.flatten_written_alike (names : NameTable) (inUrl : Bool) (terms : List Term) :
    (Term.flatten terms).map Term.value = Term.leaves terms ∧
    (∀ term ∈ Term.flatten terms, term.value.isLeaf = true) ∧
    ((∀ leaf ∈ Term.leaves terms, leaf.text names inUrl ≠ "") →
      (∀ inner ∈ Term.nested terms, inner ≠ []) →
        Term.textAll names inUrl terms = Term.textAll names inUrl (Term.flatten terms)) := by
  have hvalues := Term.map_value_flatten terms
  refine ⟨hvalues, ?_, ?_⟩
  · intro term hterm
    apply Term.isLeaf_of_mem_leaves terms
    rw [← hvalues]
    exact List.mem_map_of_mem hterm
  · intro hleaves hnested
    exact (Term.textBehind_flatten "" terms hleaves hnested).symm

/-- A list in a list, with flags that differ from those of the lists around them. -/
theorem Term.flatten_written_alike_shadow :
    let names : NameTable := (∅ : NameTable).insert "dark" "DARK"
    let terms : List Term :=
      [⟨.literal "1px", false⟩,
        ⟨.list [⟨.list [⟨.ident "dark", true⟩, ⟨.literal ",", false⟩], true⟩, ⟨.expression "x", true⟩],
          false⟩,
        ⟨.list [⟨.resourcePath "a.b" (some "px"), false⟩], true⟩]
    (∀ leaf ∈ Term.leaves terms, leaf.text names false ≠ "") ∧
      (∀ inner ∈ Term.nested terms, inner ≠ []) ∧
      Term.flatten terms
        = [⟨.literal "1px", false⟩, ⟨.ident "dark", false⟩, ⟨.literal ",", false⟩,
            ⟨.expression "x", true⟩, ⟨.resourcePath "a.b" (some "px"), true⟩] ∧
      Term.textAll names false terms = Term.textAll names false (Term.flatten terms) ∧
      Term.textAll names false terms = "1pxDARK, x value('a.b', 'px')" := by
  intro names terms
  have hleaves : ∀ leaf ∈ Term.leaves terms, leaf.text names false ≠ "" := by decide +kernel
  have hnested : ∀ inner ∈ Term.nested terms, inner ≠ [] := by decide +kernel
  have halike := (Term.flatten_written_alike names false terms).2.2 hleaves hnested
  exact ⟨hleaves, hnested, by decide +kernel, halike, by decide +kernel⟩

/-- A blank is written in front of an empty list, and of a leaf that does not show. -/
example :
    let hollow : List Term := [⟨.literal "a", true⟩, ⟨.list [], true⟩]
    let hidden : List Term :=
      [⟨.literal "a", true⟩, ⟨.list [⟨.literal "", true⟩, ⟨.literal "b", true⟩], true⟩]
    Term.textAll ∅ false hollow = "a " ∧ Term.textAll ∅ false (Term.flatten hollow) = "a" ∧
      Term.textAll ∅ false hidden = "a b" ∧ Term.textAll ∅ false (Term.flatten hidden) = "a  b" := by
  decide +kernel

end Restyle
