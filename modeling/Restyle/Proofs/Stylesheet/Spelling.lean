import Restyle.Proofs.Json.Spelling
import Restyle.Stylesheet.Decode
import Restyle.Stylesheet.Encode
import Restyle.Stylesheet.MapSelectors

set_option autoImplicit false

/-! # The full spelling of a stylesheet

For every part of a stylesheet, its full spelling spells it, with one exception: the spelling of a
selector without refiners leaves them out, and such a selector is decoded with the refiners that are found
in its text (`Selector.completed`).
-/

namespace Restyle

open Json

@[simp] theorem Json.legible_tagged (tag : String) (content : Json) :
    Legible (.tagged tag content) ↔ Legible content := by
  simp [Json.tagged]

@[simp] theorem Json.depth_tagged (tag : String) (content : Json) :
    depth (.tagged tag content) = depth content + 1 := by
  simp [Json.tagged]

/-! ## Selectors -/

/-- The selector with the refiners found in its text, if it has none. -/
def Selector.completed (s : Selector) : Selector :=
  if s.refiners.isEmpty then .ofText s.text else s

theorem Refiner.legible_toJson (r : Refiner) : Legible r.toJson := by
  cases r <;> simp [Refiner.toJson]

theorem Refiner.ofJson?_toJson (r : Refiner) : ofJson? r.toJson = some r := by
  cases r <;> rfl

theorem Refiner.mapM_toJson (refiners : List Refiner) :
    (refiners.map Refiner.toJson).mapM Refiner.ofJson? = some refiners := by
  induction refiners with
  | nil => rfl
  | cons refiner refiners ih => simp [List.mapM_cons, Refiner.ofJson?_toJson, ih]

theorem Selector.legible_toJson (s : Selector) : Legible s.toJson := by
  obtain ⟨text, refiners⟩ := s
  cases refiners with
  | nil => simp [Selector.toJson]
  | cons refiner refiners => simp [Selector.toJson, Refiner.legible_toJson]

theorem Selector.spells (s : Selector) : Spells Selector.ofJson? s.toJson s.completed := by
  obtain ⟨text, refiners⟩ := s
  intro levels
  refine ite_usableWithin (Selector.legible_toJson ⟨text, refiners⟩) fun hdepth => ?_
  -- The levels suffice for the object, so that there is at least one.
  obtain ⟨levels, rfl⟩ : ∃ n, levels = n + 1 := by
    cases levels with
    | zero => simp [Selector.toJson] at hdepth
    | succ n => exact ⟨n, rfl⟩
  cases refiners with
  | nil => rfl
  | cons refiner refiners =>
      have hrefiners : list? (fun _ => Refiner.ofJson?) (levels + 1)
          (.array ((refiner :: refiners).map Refiner.toJson)) = some (refiner :: refiners) :=
        Refiner.mapM_toJson (refiner :: refiners)
      show ((list? (fun _ => Refiner.ofJson?) (levels + 1)
        (.array ((refiner :: refiners).map Refiner.toJson))).map some).bind _ = _
      rw [hrefiners]
      rfl

/-! ## Alternatives -/

/-- An alternative is spelled by its tag and the spelling of its content. -/
theorem Json.spells_tagged {α β : Type} {decode : Nat → Json → Option β} {inner : Nat → Json → Option α}
    (make : α → β) {tag : String} {content : Json} {x : α}
    (hzero : decode 0 (.tagged tag content) = none)
    (hsucc : ∀ levels, decode (levels + 1) (.tagged tag content) = (inner levels content).map make)
    (h : Spells inner content x) : Spells decode (.tagged tag content) (make x) := by
  intro levels
  cases levels with
  | zero => simp [hzero]
  | succ levels =>
      rw [hsucc, h levels]
      by_cases hdepth : depth content ≤ levels
      · simp [hdepth]
      · simp [hdepth]

/-! ## Values -/

theorem Term.toJsonAll_eq (terms : List Term) : Term.toJsonAll terms = terms.map Term.toJson := by
  induction terms with
  | nil => rfl
  | cons term terms ih => rw [Term.toJsonAll, ih, List.map_cons]

theorem Value.resource?_toJson (path : String) (suffix : Option String) :
    Spells Value.resource? (.object (("path", .string path) :: Json.optionalMember "suffix" suffix))
      (.resourcePath path suffix) := by
  cases suffix with
  | none => exact spells_record (by simp [Json.optionalMember]) fun levels => rfl
  | some suffix => exact spells_record (by simp [Json.optionalMember]) fun levels => rfl

theorem Value.ofJson?_list (levels : Nat) (items : List Json) :
    Value.ofJson? (levels + 1) (.tagged "list" (.array items)) =
      (list? Term.ofJson? levels (.array items)).map .list := by
  rcases levels with _ | _ | levels
  · rfl
  · rfl
  · rfl

mutual

theorem Value.legible_toJson : ∀ value : Value, Legible value.toJson
  | .literal _ => by simp [Value.toJson]
  | .ident _ => by simp [Value.toJson]
  | .expression _ => by simp [Value.toJson]
  | .resourcePath _ none => by simp [Value.toJson, Json.optionalMember]
  | .resourcePath _ (some _) => by simp [Value.toJson, Json.optionalMember]
  | .list terms => by
      have hterms := Term.legible_toJsonAll terms
      simpa [Value.toJson] using hterms

theorem Term.legible_toJson : ∀ term : Term, Legible term.toJson
  | ⟨value, spaced⟩ => by
      have hvalue := Value.legible_toJson value
      simpa [Term.toJson] using hvalue

theorem Term.legible_toJsonAll : ∀ terms : List Term, ∀ item ∈ Term.toJsonAll terms, Legible item
  | [] => by simp [Term.toJsonAll]
  | term :: terms => by
      have hterm := Term.legible_toJson term
      have hterms := Term.legible_toJsonAll terms
      simpa [Term.toJsonAll, hterm] using hterms

end

mutual

theorem Value.spells : ∀ value : Value, Spells Value.ofJson? value.toJson value
  | .literal text => spells_tagged Value.literal rfl (fun _ => rfl) (spells_string text)
  | .ident name => spells_tagged Value.ident rfl (fun _ => rfl) (spells_string name)
  | .expression code => spells_tagged Value.expression rfl (fun _ => rfl) (spells_string code)
  | .resourcePath path suffix => by
      have hcontent (levels : Nat) (content : Json) :
          Value.ofJson? (levels + 1) (.tagged "resource_path" content) =
            (Value.resource? levels content).map id := by
        rw [Option.map_id]
        rfl
      exact spells_tagged id rfl (fun levels => hcontent levels _) (Value.resource?_toJson path suffix)
  | .list terms => by
      rw [Value.toJson, Term.toJsonAll_eq]
      exact spells_tagged Value.list rfl (fun levels => Value.ofJson?_list levels _)
        (spells_list_self (Term.spellsAll terms))

theorem Term.spells : ∀ term : Term, Spells Term.ofJson? term.toJson term
  | ⟨value, spaced⟩ => by
      intro levels
      cases levels with
      | zero => rfl
      | succ levels =>
          refine ite_usableWithin (Term.legible_toJson ⟨value, spaced⟩) fun hdepth => ?_
          have hvalue := Value.spells value levels
          have hdepth : depth value.toJson ≤ levels := by
            simpa [Term.toJson] using hdepth
          rw [if_pos hdepth] at hvalue
          -- A term is tried in full first, and this succeeds.
          show (Option.bind (Value.ofJson? levels value.toJson) _).or _ = _
          rw [hvalue]
          rfl

theorem Term.spellsAll : ∀ terms : List Term, ∀ term ∈ terms, Spells Term.ofJson? term.toJson term
  | [] => nofun
  | first :: terms => by
      have hfirst := Term.spells first
      have hterms := Term.spellsAll terms
      exact List.forall_mem_cons.mpr ⟨hfirst, hterms⟩

end

/-! ## Properties, constants and conditions -/

theorem Term.spells_array (terms : List Term) :
    Spells (list? Term.ofJson?) (.array (Term.toJsonAll terms)) terms := by
  rw [Term.toJsonAll_eq]
  exact spells_list_self (Term.spellsAll terms)

theorem spells_ofStrings (texts : List String) : Spells strings? (.ofStrings texts) texts :=
  spells_list_self fun text _ => spells_string text

theorem Property.spells (p : Property) : Spells Property.ofJson? p.toJson p :=
  spells_record (by simp) fun levels =>
    bind_within (spells_string p.name levels) <|
    bind_within (Term.spells_array p.values levels) <|
    bind_within (spells_bool p.important levels) <|
    some_within levels _

theorem ConstantKind.spells (kind : ConstantKind) :
    Spells ConstantKind.ofJson? (.string kind.name) kind := by
  intro levels
  cases kind <;> rfl

theorem Constant.spells (c : Constant) : Spells Constant.ofJson? c.toJson c :=
  spells_record (by simp) fun levels =>
    bind_within (ConstantKind.spells c.kind levels) <|
    bind_within (spells_string c.key levels) <|
    bind_within (Term.spells_array c.values levels) <|
    some_within levels _

theorem FeatureTest.spells (t : FeatureTest) : Spells FeatureTest.ofJson? t.toJson t :=
  spells_record (by simp) fun levels =>
    bind_within (spells_string t.property levels) <|
    bind_within (spells_ofStrings t.values levels) <|
    bind_within (spells_bool t.negated levels) <|
    some_within levels _

theorem Condition.spells : ∀ condition : Condition,
    Spells Condition.ofJson? condition.toJson condition
  | .feature test => spells_tagged Condition.feature rfl (fun _ => rfl) test.spells
  | .runtime expression =>
      spells_tagged Condition.runtime rfl (fun _ => rfl) (spells_string expression)

/-! ## Nodes -/

theorem Node.ofJson?_tagged (levels : Nat) (tag : String) (content : Json) :
    Node.ofJson? (levels + 2) (.tagged tag content) =
      Node.content? levels (list? Node.ofJson? levels) tag content := by
  cases levels with
  | zero => rfl
  | succ levels =>
      refine congrArg (fun nodes => Node.content? (levels + 1) nodes tag content) ?_
      funext value
      cases value <;> rfl

/-- A node is spelled by its tag and the object of its fields. -/
theorem Node.spells_content {tag : String} {members : List (String × Json)} {node : Node}
    (h : ∀ levels, Node.content? levels (list? Node.ofJson? levels) tag (.object members) =
      if depthMembers members ≤ levels then some node else none) :
    Spells Node.ofJson? (.tagged tag (.object members)) node := by
  intro levels
  rcases levels with _ | _ | levels
  · rfl
  · rfl
  · rw [Node.ofJson?_tagged, h]
    simp

theorem Node.toJsonAll_eq (nodes : List Node) : Node.toJsonAll nodes = nodes.map Node.toJson := by
  induction nodes with
  | nil => rfl
  | cons node nodes ih => rw [Node.toJsonAll, ih, List.map_cons]

theorem Node.mapSelectorsAll_eq (f : Selector → Selector) (nodes : List Node) :
    Node.mapSelectorsAll f nodes = nodes.map (Node.mapSelectors f) := by
  induction nodes with
  | nil => rfl
  | cons node nodes ih => rw [Node.mapSelectorsAll, ih, List.map_cons]

theorem Node.spells_array {nodes : List Node}
    (h : ∀ node ∈ nodes, Spells Node.ofJson? node.toJson (node.mapSelectors Selector.completed)) :
    Spells (list? Node.ofJson?) (.array (Node.toJsonAll nodes))
      (Node.mapSelectorsAll Selector.completed nodes) := by
  rw [Node.toJsonAll_eq, Node.mapSelectorsAll_eq]
  exact spells_list h

theorem Selector.spells_array (selectors : List Selector) :
    Spells (list? Selector.ofJson?) (.array (selectors.map Selector.toJson))
      (selectors.map Selector.completed) :=
  spells_list fun s _ => s.spells

theorem Property.spells_array (properties : List Property) :
    Spells (list? Property.ofJson?) (.array (properties.map Property.toJson)) properties :=
  spells_list_self fun p _ => p.spells

mutual

/-- The full spelling of a node spells it with its selectors completed. -/
theorem Node.spells : ∀ node : Node,
    Spells Node.ofJson? node.toJson (node.mapSelectors Selector.completed)
  | .rule selectors properties =>
      Node.spells_content fun levels =>
        bind_within (Selector.spells_array selectors levels) <|
        bind_within (Property.spells_array properties levels) <|
        some_within levels _
  | .ifBlock condition nodes branches =>
      Node.spells_content fun levels =>
        bind_within (condition.spells levels) <|
        bind_within (Node.spells_array (Node.spellsAll nodes) levels) <|
        bind_within (Node.spells_array (Node.spellsAll branches) levels) <|
        some_within levels _
  | .elseIf condition nodes branches =>
      Node.spells_content fun levels =>
        bind_within (condition.spells levels) <|
        bind_within (Node.spells_array (Node.spellsAll nodes) levels) <|
        bind_within (Node.spells_array (Node.spellsAll branches) levels) <|
        some_within levels _
  | .elseBlock nodes =>
      Node.spells_content fun levels =>
        bind_within (Node.spells_array (Node.spellsAll nodes) levels) <|
        some_within levels _
  | .media queries nodes =>
      Node.spells_content fun levels =>
        bind_within (spells_ofStrings queries levels) <|
        bind_within (Node.spells_array (Node.spellsAll nodes) levels) <|
        some_within levels _
  | .page none properties => by
      refine Node.spells_content fun levels => ?_
      -- The member that is left out is no field to decode.
      show (list? Property.ofJson? levels (.array (properties.map Property.toJson)) >>=
        fun properties => some (Node.page none properties)) = _
      exact bind_within (Property.spells_array properties levels) (some_within levels _)
  | .page (some pseudoPage) properties =>
      Node.spells_content fun levels =>
        bind_within (some_within levels (some pseudoPage)) <|
        bind_within (Property.spells_array properties levels) <|
        some_within levels _
  | .fontFace properties =>
      Node.spells_content fun levels =>
        bind_within (Property.spells_array properties levels) <|
        some_within levels _
  | .sprite selectors resource properties =>
      Node.spells_content fun levels =>
        bind_within (Selector.spells_array selectors levels) <|
        bind_within (spells_string resource levels) <|
        bind_within (Property.spells_array properties levels) <|
        some_within levels _
  | .noFlip nodes =>
      Node.spells_content fun levels =>
        bind_within (Node.spells_array (Node.spellsAll nodes) levels) <|
        some_within levels _
  | .constant decl => by
      -- A declaration is decoded with the levels that are left for the content of the node.
      refine spells_tagged Node.constant rfl (fun levels => ?_) decl.spells
      cases levels with
      | zero => rfl
      | succ levels => exact Node.ofJson?_tagged levels "def" decl.toJson
  | .external params =>
      Node.spells_content fun levels =>
        bind_within (spells_list_self (fun value _ => value.spells) levels) <|
        some_within levels _
  | .unknownAtRule text =>
      Node.spells_content fun levels =>
        bind_within (spells_string text levels) <|
        some_within levels _

theorem Node.spellsAll : ∀ nodes : List Node, ∀ node ∈ nodes,
    Spells Node.ofJson? node.toJson (node.mapSelectors Selector.completed)
  | [] => nofun
  | first :: nodes => by
      have hfirst := Node.spells first
      have hnodes := Node.spellsAll nodes
      exact List.forall_mem_cons.mpr ⟨hfirst, hnodes⟩

end

theorem Stylesheet.spells (sheet : Stylesheet) :
    Spells Stylesheet.ofJson? sheet.toJson (sheet.mapSelectors Selector.completed) := by
  refine spells_record (by simp) fun levels => ?_
  have hnodes := Node.spells_array (Node.spellsAll sheet.nodes) levels
  show (list? Node.ofJson? levels (.array (Node.toJsonAll sheet.nodes))).map Stylesheet.mk = _
  rw [Option.map_eq_bind]
  exact bind_within hnodes (some_within levels _)

/-! ## Spellings are legible -/

theorem Property.legible_toJson (p : Property) : Legible p.toJson := by
  have hvalues := Term.legible_toJsonAll p.values
  simpa [Property.toJson] using hvalues

theorem Constant.legible_toJson (c : Constant) : Legible c.toJson := by
  have hvalues := Term.legible_toJsonAll c.values
  simpa [Constant.toJson] using hvalues

theorem Json.legible_ofStrings (texts : List String) : Legible (.ofStrings texts) := by
  simp [Json.ofStrings]

theorem Condition.legible_toJson (condition : Condition) : Legible condition.toJson := by
  cases condition with
  | feature test => simp [Condition.toJson, FeatureTest.toJson, Json.legible_ofStrings]
  | runtime expression => simp [Condition.toJson]

theorem Json.legible_selectorsMember (selectors : List Selector) :
    Legible (Json.selectorsMember selectors).2 := by
  simp [Json.selectorsMember, Selector.legible_toJson]

theorem Json.legible_propertiesMember (properties : List Property) :
    Legible (Json.propertiesMember properties).2 := by
  simp [Json.propertiesMember, Property.legible_toJson]

mutual

theorem Node.legible_toJson : ∀ node : Node, Legible node.toJson
  | .rule selectors properties => by
      simp [Node.toJson, Json.legible_selectorsMember, Json.legible_propertiesMember]
  | .ifBlock condition nodes branches => by
      have hnodes := Node.legible_toJsonAll nodes
      have hbranches := Node.legible_toJsonAll branches
      simpa [Node.toJson, condition.legible_toJson] using ⟨hnodes, hbranches⟩
  | .elseIf condition nodes branches => by
      have hnodes := Node.legible_toJsonAll nodes
      have hbranches := Node.legible_toJsonAll branches
      simpa [Node.toJson, condition.legible_toJson] using ⟨hnodes, hbranches⟩
  | .elseBlock nodes => by
      have hnodes := Node.legible_toJsonAll nodes
      simpa [Node.toJson] using hnodes
  | .media queries nodes => by
      have hnodes := Node.legible_toJsonAll nodes
      simpa [Node.toJson, Json.legible_ofStrings] using hnodes
  | .page none properties => by
      simp [Node.toJson, Json.optionalMember, Json.legible_propertiesMember]
  | .page (some _) properties => by
      simp [Node.toJson, Json.optionalMember, Json.legible_propertiesMember]
  | .fontFace properties => by simp [Node.toJson, Json.legible_propertiesMember]
  | .sprite selectors resource properties => by
      simp [Node.toJson, Json.legible_selectorsMember, Json.legible_propertiesMember]
  | .noFlip nodes => by
      have hnodes := Node.legible_toJsonAll nodes
      simpa [Node.toJson] using hnodes
  | .constant decl => by simp [Node.toJson, decl.legible_toJson]
  | .external params => by simp [Node.toJson, Value.legible_toJson]
  | .unknownAtRule _ => by simp [Node.toJson]

theorem Node.legible_toJsonAll : ∀ nodes : List Node, ∀ item ∈ Node.toJsonAll nodes, Legible item
  | [] => by simp [Node.toJsonAll]
  | node :: nodes => by
      have hnode := Node.legible_toJson node
      have hnodes := Node.legible_toJsonAll nodes
      simpa [Node.toJsonAll, hnode] using hnodes

end

theorem Stylesheet.legible_toJson (sheet : Stylesheet) : Legible sheet.toJson := by
  have hnodes := Node.legible_toJsonAll sheet.nodes
  simpa [Stylesheet.toJson] using hnodes

end Restyle
