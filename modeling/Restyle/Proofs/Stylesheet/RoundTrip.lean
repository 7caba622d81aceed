import Restyle.Proofs.Json.ReadBack
import Restyle.Proofs.Stylesheet.Spelling
import Restyle.Proofs.Tree.Parts

set_option autoImplicit false

/-! # From a stylesheet to its text and back

The text of a stylesheet that does not nest too deep is decoded to the stylesheet with its selectors
completed, and one that nests deeper is refused. Completing the selectors twice is completing them once, so
that a second round trip changes nothing.
-/

namespace Restyle

open Json

/-! ## Completing selectors -/

theorem Selector.completed_completed (s : Selector) : s.completed.completed = s.completed := by
  obtain ⟨text, refiners⟩ := s
  cases refiners with
  | nil =>
      show (ofText text).completed = ofText text
      -- If the text has no refiners either, it is scanned once more with the same result.
      rw [completed]
      split
      · rfl
      · rfl
  | cons refiner refiners => rfl

/-- A selector is complete unless it lacks refiners that its text has. -/
theorem Selector.completed_eq_self_iff (s : Selector) :
    s.completed = s ↔ (s.refiners = [] → (ofText s.text).refiners = []) := by
  obtain ⟨text, refiners⟩ := s
  cases refiners with
  | nil =>
      show ofText text = ⟨text, []⟩ ↔ _
      simp [ofText]
  | cons refiner refiners => simp [completed]

/-! ## The selectors of a stylesheet -/

namespace Node

mutual

/-- The selectors of a node in document order. -/
def selectors : Node → List Selector
  | .rule selectors _ => selectors
  | .ifBlock _ nodes branches => selectorsAll nodes ++ selectorsAll branches
  | .elseIf _ nodes branches => selectorsAll nodes ++ selectorsAll branches
  | .elseBlock nodes => selectorsAll nodes
  | .media _ nodes => selectorsAll nodes
  | .sprite selectors _ _ => selectors
  | .noFlip nodes => selectorsAll nodes
  | _ => []

/-- The selectors of some nodes in document order. -/
def selectorsAll : List Node → List Selector
  | [] => []
  | node :: rest => selectors node ++ selectorsAll rest

end

theorem map_eq_self_iff {α : Type} (f : α → α) (xs : List α) :
    xs.map f = xs ↔ ∀ x ∈ xs, f x = x := by
  have h : xs.map f = xs.map id ↔ ∀ x ∈ xs, f x = id x := List.map_inj_left
  rwa [List.map_id] at h

theorem selectors_eq (n : Node) :
    n.selectors = n.ownSelectors ++ (selectorsAll n.body ++ selectorsAll n.branches) := by
  cases n <;> simp [selectors, ownSelectors, body, branches, selectorsAll]

theorem mapSelectors_eq_self_iff (f : Selector → Selector) (n : Node) :
    n.mapSelectors f = n ↔ n.ownSelectors.map f = n.ownSelectors ∧
      mapSelectorsAll f n.body = n.body ∧ mapSelectorsAll f n.branches = n.branches := by
  cases n <;> simp [mapSelectors, ownSelectors, body, branches, mapSelectorsAll]

theorem mapSelectorsAll_eq_self_iff (f : Selector → Selector) (ns : List Node) :
    mapSelectorsAll f ns = ns ↔ ∀ s ∈ selectorsAll ns, f s = s := by
  induction ns using parts_induction with
  | nil => simp [mapSelectorsAll, selectorsAll]
  | cons n rest hbody hbranches hrest =>
      rw [mapSelectorsAll, selectorsAll, selectors_eq, List.cons.injEq, mapSelectors_eq_self_iff,
        map_eq_self_iff, hbody, hbranches, hrest]
      simp only [List.forall_mem_append]

theorem mapSelectors_mapSelectors {f g : Selector → Selector} {n : Node}
    (hbody : mapSelectorsAll g (mapSelectorsAll f n.body) = mapSelectorsAll (g ∘ f) n.body)
    (hbranches : mapSelectorsAll g (mapSelectorsAll f n.branches)
      = mapSelectorsAll (g ∘ f) n.branches) :
    (n.mapSelectors f).mapSelectors g = n.mapSelectors (g ∘ f) := by
  cases n <;> simp_all only [mapSelectors, body, branches, List.map_map]

theorem mapSelectorsAll_mapSelectorsAll (f g : Selector → Selector) (ns : List Node) :
    mapSelectorsAll g (mapSelectorsAll f ns) = mapSelectorsAll (g ∘ f) ns := by
  induction ns using parts_induction with
  | nil => rfl
  | cons n rest hbody hbranches hrest =>
      rw [mapSelectorsAll, mapSelectorsAll, mapSelectorsAll, mapSelectors_mapSelectors hbody hbranches,
        hrest]

end Node

namespace Stylesheet

/-- The selectors of a stylesheet in document order. -/
def selectors (sheet : Stylesheet) : List Selector := Node.selectorsAll sheet.nodes

/-- The stylesheet with the refiners that are found in the text for every selector that has none. -/
def completed (sheet : Stylesheet) : Stylesheet := sheet.mapSelectors Selector.completed

theorem completed_completed (sheet : Stylesheet) : sheet.completed.completed = sheet.completed := by
  have hselectors : Selector.completed ∘ Selector.completed = Selector.completed :=
    funext Selector.completed_completed
  have hnodes := Node.mapSelectorsAll_mapSelectorsAll Selector.completed Selector.completed sheet.nodes
  rw [hselectors] at hnodes
  exact congrArg Stylesheet.mk hnodes

theorem completed_eq_self_iff (sheet : Stylesheet) :
    sheet.completed = sheet ↔
      ∀ s ∈ sheet.selectors, s.refiners = [] → (Selector.ofText s.text).refiners = [] := by
  obtain ⟨nodes⟩ := sheet
  have hnodes := Node.mapSelectorsAll_eq_self_iff Selector.completed nodes
  simp only [Selector.completed_eq_self_iff] at hnodes
  rw [selectors, ← hnodes, completed, Stylesheet.mapSelectors, Stylesheet.mk.injEq]

/-! ## The round trip -/

theorem ofText?_toText (sheet : Stylesheet) :
    ofText? sheet.toText = if nesting sheet.toText ≤ 127 then some sheet.completed else none := by
  have hlegible := sheet.legible_toJson
  calc ofText? sheet.toText
    _ = (parse? sheet.toJson.pretty).bind (ofJson? maxNesting) := rfl
    _ = ofJson? maxNesting sheet.toJson := by rw [parse?_pretty hlegible, Option.bind_some]
    _ = if depth sheet.toJson ≤ 127 then some sheet.completed else none := sheet.spells maxNesting
    _ = if nesting sheet.toText ≤ 127 then some sheet.completed else none := by
        rw [toText, nesting_pretty hlegible]

/-- **Decoding undoes printing up to completing selectors.** A text that nests at most 127 arrays and
objects is decoded to the stylesheet with its selectors completed, and a deeper one is refused. So the
stylesheet itself comes back if and only if its text does not nest deeper and no selector lacks refiners
that its text has; and what has come back once comes back unchanged. -/
theorem roundTrip (sheet : Stylesheet) :
    (ofText? sheet.toText = if nesting sheet.toText ≤ 127 then some sheet.completed else none) ∧
    (ofText? sheet.toText = some sheet ↔ nesting sheet.toText ≤ 127 ∧
      ∀ s ∈ sheet.selectors, s.refiners = [] → (Selector.ofText s.text).refiners = []) ∧
    (ofText? sheet.completed.toText =
      if nesting sheet.completed.toText ≤ 127 then some sheet.completed else none) := by
  refine ⟨ofText?_toText sheet, ?_, ?_⟩
  · rw [ofText?_toText, ← completed_eq_self_iff]
    by_cases hnesting : nesting sheet.toText ≤ 127
    · simp [hnesting]
    · simp [hnesting]
  · rw [ofText?_toText, completed_completed]

end Stylesheet

end Restyle
