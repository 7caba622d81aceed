import Restyle.Proofs.Json.ReadBack
import Restyle.Proofs.Json.Records
import Restyle.Proofs.Stylesheet.Spelling

set_option autoImplicit false

/-! # All spellings of a stylesheet

A stylesheet has many spellings. At every place, independently of all others, a record may be an object
with its members in any order and with further members, or the array of its fields; a field may be left
out where it holds its default; a selector may be its text, if its refiners are those found in there;
and a term may be its value, if it is spaced. `SpelledBy` tells for each part of a stylesheet which
values spell it. Every spelling is decoded to the same stylesheet, however it is written
(`Stylesheet.ofText?_of_spelledBy`).
-/

namespace Restyle

open Json

/-! ## Spellings -/

/-- Whether a selector has just the refiners that are found in its text. -/
def Selector.Scanned (s : Selector) : Prop := s = .ofText s.text

/-- What may be given for the refiners of a selector. -/
def Selector.RefinersGiven (s : Selector) : Option Json → Prop
  | none => s.Scanned
  | some .null => s.Scanned
  | some value => value = .array (s.refiners.map Refiner.toJson)

/-- The spellings of a selector. -/
def Selector.SpelledBy (s : Selector) (value : Json) : Prop :=
  (s.Scanned ∧ value = .string s.text)
    ∨ ∃ members refiners, value = .object members
      ∧ GivesMembers ["text", "refiners"] [some (.string s.text), refiners] members
      ∧ s.RefinersGiven refiners

mutual

/-- The spellings of a value. -/
def Value.SpelledBy : Value → Json → Prop
  | .literal text, value => value = .tagged "literal" (.string text)
  | .ident name, value => value = .tagged "ident" (.string name)
  | .expression code, value => value = .tagged "expression" (.string code)
  | .resourcePath path suffix, value =>
      ∃ content given, value = .tagged "resource_path" content
        ∧ Gives ["path", "suffix"] [some (.string path), given] content ∧ OptionalText suffix given
  | .list terms, value => ∃ items, value = .tagged "list" (.array items) ∧ Term.AllSpelledBy terms items

/-- The spellings of a term. -/
def Term.SpelledBy : Term → Json → Prop
  | ⟨inner, spaced⟩, value =>
      (spaced = true ∧ inner.SpelledBy value)
        ∨ ∃ members content mark, value = .object members
          ∧ GivesMembers ["value", "spaced"] [some content, mark] members
          ∧ inner.SpelledBy content ∧ Defaulted (· = .bool spaced) (spaced = true) mark

/-- The spellings of terms, one for each. -/
def Term.AllSpelledBy : List Term → List Json → Prop
  | [], [] => True
  | term :: terms, item :: items => term.SpelledBy item ∧ Term.AllSpelledBy terms items
  | _, _ => False

end

/-- What may be given for a list of terms, which is empty by default. -/
def Term.ListGiven (terms : List Term) : Option Json → Prop :=
  Defaulted (InArray (Term.AllSpelledBy terms)) (terms = [])

/-- The spellings of a property. -/
def Property.SpelledBy (p : Property) (value : Json) : Prop :=
  ∃ values important,
    Gives ["name", "values", "important"] [some (.string p.name), values, important] value
      ∧ Term.ListGiven p.values values
      ∧ Defaulted (· = .bool p.important) (p.important = false) important

/-- The spellings of a kind of constant. -/
def ConstantKind.SpelledBy (kind : ConstantKind) (value : Json) : Prop :=
  value = .string kind.name ∨ value = .tagged kind.name .null

/-- The spellings of a declaration. -/
def Constant.SpelledBy (c : Constant) (value : Json) : Prop :=
  ∃ kind values, Gives ["kind", "key", "values"] [some kind, some (.string c.key), values] value
    ∧ c.kind.SpelledBy kind ∧ Term.ListGiven c.values values

/-- The spellings of a feature test. -/
def FeatureTest.SpelledBy (t : FeatureTest) (value : Json) : Prop :=
  ∃ negated,
    Gives ["property", "values", "negated"]
        [some (.string t.property), some (.ofStrings t.values), negated] value
      ∧ Defaulted (· = .bool t.negated) (t.negated = false) negated

/-- The spellings of a condition. -/
def Condition.SpelledBy : Condition → Json → Prop
  | .feature test, value => ∃ content, value = .tagged "feature_test" content ∧ test.SpelledBy content
  | .runtime expression, value => value = .tagged "runtime" (.string expression)

/-- What may be given for a list of properties, which is empty by default. -/
def Property.ListGiven (properties : List Property) : Option Json → Prop :=
  Defaulted (InArray (List.Forall₂ Property.SpelledBy properties)) (properties = [])

namespace Node

mutual

/-- The spellings of a node. -/
def SpelledBy : Node → Json → Prop
  | .rule selectors properties, value =>
      ∃ content s p, value = .tagged "rule" content
        ∧ Gives ["selectors", "properties"] [some s, p] content
        ∧ InArray (List.Forall₂ Selector.SpelledBy selectors) s ∧ Property.ListGiven properties p
  | .ifBlock condition nodes branches, value =>
      ∃ content c n b, value = .tagged "if" content
        ∧ Gives ["condition", "nodes", "else_nodes"] [some c, n, b] content ∧ condition.SpelledBy c
        ∧ Defaulted (InArray (AllSpelledBy nodes)) (nodes = []) n
        ∧ Defaulted (InArray (AllSpelledBy branches)) (branches = []) b
  | .elseIf condition nodes branches, value =>
      ∃ content c n b, value = .tagged "else_if" content
        ∧ Gives ["condition", "nodes", "else_nodes"] [some c, n, b] content ∧ condition.SpelledBy c
        ∧ Defaulted (InArray (AllSpelledBy nodes)) (nodes = []) n
        ∧ Defaulted (InArray (AllSpelledBy branches)) (branches = []) b
  | .elseBlock nodes, value =>
      ∃ content n, value = .tagged "else" content ∧ Gives ["nodes"] [n] content
        ∧ Defaulted (InArray (AllSpelledBy nodes)) (nodes = []) n
  | .media queries nodes, value =>
      ∃ content n, value = .tagged "media" content
        ∧ Gives ["media", "nodes"] [some (.ofStrings queries), n] content
        ∧ Defaulted (InArray (AllSpelledBy nodes)) (nodes = []) n
  | .page pseudoPage properties, value =>
      ∃ content q p, value = .tagged "page" content ∧ Gives ["pseudo_page", "properties"] [q, p] content
        ∧ OptionalText pseudoPage q ∧ Property.ListGiven properties p
  | .fontFace properties, value =>
      ∃ content p, value = .tagged "font_face" content ∧ Gives ["properties"] [p] content
        ∧ Property.ListGiven properties p
  | .sprite selectors resource properties, value =>
      ∃ content s p, value = .tagged "sprite" content
        ∧ Gives ["selectors", "resource", "properties"] [some s, some (.string resource), p] content
        ∧ InArray (List.Forall₂ Selector.SpelledBy selectors) s ∧ Property.ListGiven properties p
  | .noFlip nodes, value =>
      ∃ content n, value = .tagged "no_flip" content ∧ Gives ["nodes"] [n] content
        ∧ Defaulted (InArray (AllSpelledBy nodes)) (nodes = []) n
  | .constant decl, value => ∃ content, value = .tagged "def" content ∧ decl.SpelledBy content
  | .external params, value =>
      ∃ content p, value = .tagged "external" content ∧ Gives ["params"] [p] content
        ∧ Defaulted (InArray (List.Forall₂ Value.SpelledBy params)) (params = []) p
  | .unknownAtRule directive, value =>
      ∃ content, value = .tagged "unknown_at_rule" content
        ∧ Gives ["rule"] [some (.string directive)] content

/-- The spellings of nodes, one for each. -/
def AllSpelledBy : List Node → List Json → Prop
  | [], [] => True
  | node :: nodes, item :: items => node.SpelledBy item ∧ AllSpelledBy nodes items
  | _, _ => False

end

end Node

/-- The spellings of a stylesheet. -/
def Stylesheet.SpelledBy (sheet : Stylesheet) (value : Json) : Prop :=
  ∃ nodes, Gives ["nodes"] [nodes] value
    ∧ Defaulted (InArray (Node.AllSpelledBy sheet.nodes)) (sheet.nodes = []) nodes

/-! ## Selectors -/

theorem Refiner.usable_toJson (r : Refiner) : Usable r.toJson := r.legible_toJson.usable

theorem Selector.usable_refiners {s : Selector} {refiners : Option Json}
    (h : s.RefinersGiven refiners) : ∀ value, refiners = some value → Usable value := by
  rintro value rfl
  cases value with
  | null => trivial
  | array items =>
      have hitems : (.array items : Json) = .array (s.refiners.map Refiner.toJson) := h
      rw [hitems]
      refine (allUsable_iff _).mpr (List.forall_mem_map.mpr ?_)
      exact fun r _ => r.usable_toJson
  | _ => cases h

/-- The refiners that are given, or those found in the text, are those of the selector. -/
theorem Selector.exists_nullable_eq {s : Selector} {refiners : Option Json}
    (h : s.RefinersGiven refiners) (levels : Nat) :
    ∃ found, nullable (list? (fun _ => Refiner.ofJson?) (levels + 1)) refiners = some found
      ∧ Selector.ofParts s.text found = s := by
  cases refiners with
  | none => exact ⟨none, rfl, Eq.symm h⟩
  | some value =>
      cases value with
      | null => exact ⟨none, rfl, Eq.symm h⟩
      | array items =>
          have hitems : (.array items : Json) = .array (s.refiners.map Refiner.toJson) := h
          rw [hitems]
          refine ⟨some s.refiners, ?_, rfl⟩
          show ((s.refiners.map Refiner.toJson).mapM Refiner.ofJson?).map some = _
          rw [Refiner.mapM_toJson]
          rfl
      | _ => cases h

theorem Selector.decodes {s : Selector} {value : Json} (h : s.SpelledBy value) :
    Decodes Selector.ofJson? value s := by
  intro levels hlevels
  rcases h with ⟨hscanned, rfl⟩ | ⟨members, refiners, rfl, hgives, hrefiners⟩
  · exact congrArg some hscanned.symm
  · have hobject : Gives ["text", "refiners"] [some (.string s.text), refiners] (.object members) :=
      hgives
    have husable : Usable (.object members) := hobject.usable_pair trivial (usable_refiners hrefiners)
    have hwhole := (husable.usableWithin_iff levels).mpr hlevels
    obtain ⟨levels, rfl⟩ : ∃ n, levels = n + 1 :=
      Nat.exists_eq_succ_of_ne_zero (by rw [depth_object] at hlevels; omega)
    obtain ⟨found, hfound, hparts⟩ := exists_nullable_eq hrefiners levels
    rw [Selector.ofJson?, if_pos hwhole, GivesMembers.memberFields_eq (by decide) rfl hgives]
    show (nullable _ refiners).bind (fun found => some (Selector.ofParts s.text found)) = _
    rw [hfound, Option.bind_some, hparts]

theorem Selector.decodes_list {selectors : List Selector} {items : List Json}
    (h : List.Forall₂ Selector.SpelledBy selectors items) :
    Decodes (list? Selector.ofJson?) (.array items) selectors :=
  Decodes.list (h.imp fun _ _ => Selector.decodes)

/-! ## Values -/

/-- What spells a value is no full spelling of a term. -/
theorem Value.full?_eq_none {inner : Value} {value : Json} (h : inner.SpelledBy value)
    (decode : Json → Option Value) : Term.full? decode value = none := by
  cases inner with
  | literal | ident | expression =>
      rw [Value.SpelledBy] at h
      rw [h]
      rfl
  | resourcePath path suffix =>
      rw [Value.SpelledBy] at h
      obtain ⟨content, given, rfl, -⟩ := h
      rfl
  | list terms =>
      rw [Value.SpelledBy] at h
      obtain ⟨items, rfl, -⟩ := h
      rfl

theorem Value.decodes_resource {path : String} {suffix : Option String} {content : Json}
    {entry : Option Json} (h : Gives ["path", "suffix"] [some (.string path), entry] content)
    (hsuffix : OptionalText suffix entry) :
    Decodes Value.resource? content (.resourcePath path suffix) := by
  refine Decodes.record h (by decide) rfl ?_
  intro levels _
  show (nullable string? entry).bind (fun suffix => some (Value.resourcePath path suffix)) = _
  rw [hsuffix.nullable_eq]
  rfl

theorem Term.decodes_full {inner : Value} {spaced : Bool} {members : List (String × Json)}
    {content : Json} {mark : Option Json} {levels : Nat}
    (hgives : GivesMembers ["value", "spaced"] [some content, mark] members)
    (hmark : Defaulted (· = .bool spaced) (spaced = true) mark)
    (hinner : Value.ofJson? levels content = some inner) :
    Term.full? (Value.ofJson? levels) (.object members) = some ⟨inner, spaced⟩ := by
  have hspaced : defaulting true bool? mark = some spaced := hmark.bool_eq
  rw [Term.full?, GivesMembers.memberFields_eq (by decide) rfl hgives]
  show (Value.ofJson? levels content).bind (fun value => (defaulting true bool? mark).bind
    fun spaced => some (Term.mk value spaced)) = _
  rw [hinner, hspaced]
  rfl

-- A term is read whole before it is decoded, so the induction carries that it is usable.
mutual

theorem Value.decodes : ∀ {inner : Value} {value : Json}, inner.SpelledBy value →
    Usable value ∧ Decodes Value.ofJson? value inner
  | .literal text, value, h => by
      rw [Value.SpelledBy] at h
      rw [h]
      exact ⟨⟨trivial, trivial⟩, (Value.spells (.literal text)).decodes⟩
  | .ident name, value, h => by
      rw [Value.SpelledBy] at h
      rw [h]
      exact ⟨⟨trivial, trivial⟩, (Value.spells (.ident name)).decodes⟩
  | .expression code, value, h => by
      rw [Value.SpelledBy] at h
      rw [h]
      exact ⟨⟨trivial, trivial⟩, (Value.spells (.expression code)).decodes⟩
  | .resourcePath path suffix, value, h => by
      rw [Value.SpelledBy] at h
      obtain ⟨content, entry, rfl, hgives, hsuffix⟩ := h
      have husable : Usable content := hgives.usable_pair trivial (OptionalText.usable hsuffix)
      refine ⟨⟨husable, trivial⟩, ?_⟩
      refine Decodes.tagged id (by simp) (fun levels => ?_) (Value.decodes_resource hgives hsuffix)
      rw [Option.map_id]
      rfl
  | .list terms, value, h => by
      rw [Value.SpelledBy] at h
      obtain ⟨items, rfl, hterms⟩ := h
      obtain ⟨husable, hdecodes⟩ := Term.decodesAll hterms
      refine ⟨⟨husable, trivial⟩, ?_⟩
      exact Decodes.tagged Value.list (by simp) (fun levels => Value.ofJson?_list levels items)
        (Decodes.list hdecodes)

theorem Term.decodes : ∀ {term : Term} {value : Json}, term.SpelledBy value →
    Usable value ∧ Decodes Term.ofJson? value term
  | ⟨inner, spaced⟩, value, h => by
      rw [Term.SpelledBy] at h
      rcases h with ⟨rfl, hinner⟩ | ⟨members, content, mark, rfl, hgives, hinner, hmark⟩
      · -- The full spelling is tried first, and a bare value is none.
        obtain ⟨husable, hdecodes⟩ := Value.decodes hinner
        refine ⟨husable, ?_⟩
        intro levels hlevels
        have hwhole := (husable.usableWithin_iff levels).mpr hlevels
        have hvalue := hdecodes levels hlevels
        cases levels with
        | zero => cases hvalue
        | succ levels =>
            rw [Term.ofJson?, Term.decode?, if_pos hwhole, Value.full?_eq_none hinner, Option.none_or,
              hvalue]
            rfl
      · obtain ⟨hcontent, hdecodes⟩ := Value.decodes hinner
        have hobject : Gives ["value", "spaced"] [some content, mark] (.object members) := hgives
        have husable : Usable (.object members) := by
          refine hobject.usable_pair hcontent ?_
          rintro value rfl
          rw [show value = .bool spaced from hmark]
          trivial
        refine ⟨husable, ?_⟩
        intro levels hlevels
        have hwhole := (husable.usableWithin_iff levels).mpr hlevels
        have hdepth := hobject.depth_lt rfl List.mem_cons_self
        cases levels with
        | zero => omega
        | succ levels =>
            have hfull := Term.decodes_full hgives hmark (hdecodes levels (by omega))
            rw [Term.ofJson?, Term.decode?, if_pos hwhole, hfull, Option.some_or]

theorem Term.decodesAll : ∀ {terms : List Term} {items : List Json}, Term.AllSpelledBy terms items →
    AllUsable items ∧ List.Forall₂ (fun term value => Decodes Term.ofJson? value term) terms items
  | [], [], _ => ⟨trivial, .nil⟩
  | term :: terms, item :: items, h => by
      rw [Term.AllSpelledBy] at h
      obtain ⟨husable, hdecodes⟩ := Term.decodes h.1
      obtain ⟨husables, hrest⟩ := Term.decodesAll h.2
      exact ⟨⟨husable, husables⟩, .cons hdecodes hrest⟩
  | [], _ :: _, h => by simp [Term.AllSpelledBy] at h
  | _ :: _, [], h => by simp [Term.AllSpelledBy] at h

end

/-! ## Properties, constants and conditions -/

section

-- An entry among those of a record, with levels that suffice for all of them.
variable {entry : Option Json} {entries : List (Option Json)} {levels : Nat}

theorem Term.defaulting_eq {terms : List Term} (h : Term.ListGiven terms entry)
    (hentry : entry ∈ entries) (hlevels : ∀ value, some value ∈ entries → depth value ≤ levels) :
    defaulting [] (list? Term.ofJson? levels) entry = some terms :=
  Defaulted.list_eq h (fun _ hitems => Decodes.list (Term.decodesAll hitems).2) hentry hlevels

theorem Property.decodes {p : Property} {value : Json} (h : p.SpelledBy value) :
    Decodes Property.ofJson? value p := by
  obtain ⟨values, important, hgives, hvalues, himportant⟩ := h
  refine Decodes.record hgives (by decide) rfl ?_
  intro levels hlevels
  have hterms := Term.defaulting_eq hvalues (by simp) hlevels
  show (defaulting [] (list? Term.ofJson? levels) values).bind (fun values =>
    (defaulting false bool? important).bind fun important =>
      some (Property.mk p.name values important)) = _
  rw [hterms, himportant.bool_eq]
  rfl

theorem ConstantKind.decodes {kind : ConstantKind} {value : Json} (h : kind.SpelledBy value) :
    Decodes ConstantKind.ofJson? value kind := by
  rcases h with rfl | rfl
  · exact (ConstantKind.spells kind).decodes
  · intro levels hlevels
    cases levels with
    | zero => simp at hlevels
    | succ levels => cases kind <;> rfl

theorem Constant.decodes {c : Constant} {value : Json} (h : c.SpelledBy value) :
    Decodes Constant.ofJson? value c := by
  obtain ⟨kind, values, hgives, hkind, hvalues⟩ := h
  refine Decodes.record hgives (by decide) rfl ?_
  intro levels hlevels
  have hname := ConstantKind.decodes hkind levels (hlevels kind List.mem_cons_self)
  have hterms := Term.defaulting_eq hvalues (by simp) hlevels
  show (ConstantKind.ofJson? levels kind).bind (fun kind =>
    (defaulting [] (list? Term.ofJson? levels) values).bind fun values =>
      some (Constant.mk kind c.key values)) = _
  rw [hname, hterms]
  rfl

theorem FeatureTest.decodes {t : FeatureTest} {value : Json} (h : t.SpelledBy value) :
    Decodes FeatureTest.ofJson? value t := by
  obtain ⟨negated, hgives, hnegated⟩ := h
  refine Decodes.record hgives (by decide) rfl ?_
  intro levels hlevels
  have hvalues := (spells_ofStrings t.values).decodes levels (hlevels _ (by simp))
  show (strings? levels (.ofStrings t.values)).bind (fun values =>
    (defaulting false bool? negated).bind fun negated =>
      some (FeatureTest.mk t.property values negated)) = _
  rw [hvalues, hnegated.bool_eq]
  rfl

theorem Condition.decodes {condition : Condition} {value : Json} (h : condition.SpelledBy value) :
    Decodes Condition.ofJson? value condition := by
  cases condition with
  | feature test =>
      obtain ⟨content, rfl, htest⟩ := h
      exact Decodes.tagged Condition.feature (by simp) (fun _ => rfl) (FeatureTest.decodes htest)
  | runtime expression =>
      rw [show value = .tagged "runtime" (.string expression) from h]
      exact (Condition.spells (.runtime expression)).decodes

theorem Property.defaulting_eq {properties : List Property} (h : Property.ListGiven properties entry)
    (hentry : entry ∈ entries) (hlevels : ∀ value, some value ∈ entries → depth value ≤ levels) :
    defaulting [] (list? Property.ofJson? levels) entry = some properties :=
  Defaulted.list_eq h
    (fun _ hitems => Decodes.list (hitems.imp fun _ _ => Property.decodes)) hentry hlevels

/-! ## Nodes -/

/-- A node is decoded from what is given for its fields. -/
theorem Node.decodes_content {tag : String} {names : List String} {entries : List (Option Json)}
    {content : Json} {node : Node} (hgives : Gives names entries content) (hnames : names.Nodup)
    (hlength : entries.length = names.length)
    (hcontent : ∀ levels, fieldsOf names content = some entries →
      (∀ entry, some entry ∈ entries → depth entry ≤ levels) →
      Node.content? levels (list? Node.ofJson? levels) tag content = some node) :
    Decodes Node.ofJson? (.tagged tag content) node := by
  intro levels hlevels
  -- Under the tag is an array or an object, so two levels are taken before the fields.
  have hpos := hgives.depth_pos
  rw [depth_tagged] at hlevels
  obtain ⟨levels, rfl⟩ : ∃ n, levels = n + 2 := ⟨levels - 2, by omega⟩
  rw [Node.ofJson?_tagged]
  refine hcontent levels (hgives.fieldsOf_eq hnames hlength) ?_
  intro entry hentry
  have hlt := hgives.depth_lt hlength hentry
  omega

theorem Selector.required_eq {selectors : List Selector} {value : Json}
    (h : InArray (List.Forall₂ Selector.SpelledBy selectors) value) {levels : Nat}
    (hlevels : depth value ≤ levels) :
    required (list? Selector.ofJson? levels) (some value) = some selectors := by
  obtain ⟨items, rfl, hitems⟩ := h
  exact Selector.decodes_list hitems levels hlevels

theorem Node.defaulting_eq {nodes : List Node}
    (h : Defaulted (InArray (Node.AllSpelledBy nodes)) (nodes = []) entry)
    (hnodes : ∀ {items}, Node.AllSpelledBy nodes items →
      List.Forall₂ (fun node value => Decodes Node.ofJson? value node) nodes items)
    (hentry : entry ∈ entries) (hlevels : ∀ value, some value ∈ entries → depth value ≤ levels) :
    defaulting [] (list? Node.ofJson? levels) entry = some nodes :=
  Defaulted.list_eq h (fun _ hitems => Decodes.list (hnodes hitems)) hentry hlevels

end

mutual

theorem Node.decodes : ∀ {node : Node} {value : Json}, node.SpelledBy value →
    Decodes Node.ofJson? value node
  | .rule selectors properties, value, h => by
      rw [Node.SpelledBy] at h
      obtain ⟨content, s, p, rfl, hgives, hs, hp⟩ := h
      refine Node.decodes_content hgives (by decide) rfl ?_
      intro levels hfields hlevels
      have hselectors := Selector.required_eq hs (hlevels s List.mem_cons_self)
      have hproperties := Property.defaulting_eq hp (by simp) hlevels
      simp only [Node.content?, hfields, hselectors, hproperties]
      rfl
  | .ifBlock condition nodes branches, value, h => by
      rw [Node.SpelledBy] at h
      obtain ⟨content, c, n, b, rfl, hgives, hc, hn, hb⟩ := h
      refine Node.decodes_content hgives (by decide) rfl ?_
      intro levels hfields hlevels
      have hcondition : required (Condition.ofJson? levels) (some c) = some condition :=
        Condition.decodes hc levels (hlevels c List.mem_cons_self)
      have hnodes := Node.defaulting_eq hn Node.decodesAll (by simp) hlevels
      have hbranches := Node.defaulting_eq hb Node.decodesAll (by simp) hlevels
      simp only [Node.content?, hfields, hcondition, hnodes, hbranches]
      rfl
  | .elseIf condition nodes branches, value, h => by
      rw [Node.SpelledBy] at h
      obtain ⟨content, c, n, b, rfl, hgives, hc, hn, hb⟩ := h
      refine Node.decodes_content hgives (by decide) rfl ?_
      intro levels hfields hlevels
      have hcondition : required (Condition.ofJson? levels) (some c) = some condition :=
        Condition.decodes hc levels (hlevels c List.mem_cons_self)
      have hnodes := Node.defaulting_eq hn Node.decodesAll (by simp) hlevels
      have hbranches := Node.defaulting_eq hb Node.decodesAll (by simp) hlevels
      simp only [Node.content?, hfields, hcondition, hnodes, hbranches]
      rfl
  | .elseBlock nodes, value, h => by
      rw [Node.SpelledBy] at h
      obtain ⟨content, n, rfl, hgives, hn⟩ := h
      refine Node.decodes_content hgives (by decide) rfl ?_
      intro levels hfields hlevels
      have hnodes := Node.defaulting_eq hn Node.decodesAll (by simp) hlevels
      simp only [Node.content?, hfields, hnodes]
      rfl
  | .media queries nodes, value, h => by
      rw [Node.SpelledBy] at h
      obtain ⟨content, n, rfl, hgives, hn⟩ := h
      refine Node.decodes_content hgives (by decide) rfl ?_
      intro levels hfields hlevels
      have hqueries : required (strings? levels) (some (.ofStrings queries)) = some queries :=
        (spells_ofStrings queries).decodes levels (hlevels _ List.mem_cons_self)
      have hnodes := Node.defaulting_eq hn Node.decodesAll (by simp) hlevels
      simp only [Node.content?, hfields, hqueries, hnodes]
      rfl
  | .page pseudoPage properties, value, h => by
      rw [Node.SpelledBy] at h
      obtain ⟨content, q, p, rfl, hgives, hq, hp⟩ := h
      refine Node.decodes_content hgives (by decide) rfl ?_
      intro levels hfields hlevels
      have hpseudo := OptionalText.nullable_eq hq
      have hproperties := Property.defaulting_eq hp (by simp) hlevels
      simp only [Node.content?, hfields, hpseudo, hproperties]
      rfl
  | .fontFace properties, value, h => by
      rw [Node.SpelledBy] at h
      obtain ⟨content, p, rfl, hgives, hp⟩ := h
      refine Node.decodes_content hgives (by decide) rfl ?_
      intro levels hfields hlevels
      have hproperties := Property.defaulting_eq hp (by simp) hlevels
      simp only [Node.content?, hfields, hproperties]
      rfl
  | .sprite selectors resource properties, value, h => by
      rw [Node.SpelledBy] at h
      obtain ⟨content, s, p, rfl, hgives, hs, hp⟩ := h
      refine Node.decodes_content hgives (by decide) rfl ?_
      intro levels hfields hlevels
      have hselectors := Selector.required_eq hs (hlevels s List.mem_cons_self)
      have hproperties := Property.defaulting_eq hp (by simp) hlevels
      simp only [Node.content?, hfields, hselectors, hproperties]
      rfl
  | .noFlip nodes, value, h => by
      rw [Node.SpelledBy] at h
      obtain ⟨content, n, rfl, hgives, hn⟩ := h
      refine Node.decodes_content hgives (by decide) rfl ?_
      intro levels hfields hlevels
      have hnodes := Node.defaulting_eq hn Node.decodesAll (by simp) hlevels
      simp only [Node.content?, hfields, hnodes]
      rfl
  | .constant decl, value, h => by
      rw [Node.SpelledBy] at h
      obtain ⟨content, rfl, hdecl⟩ := h
      refine Decodes.tagged Node.constant (by simp) ?_ (Constant.decodes hdecl)
      intro levels
      cases levels with
      | zero => rfl
      | succ levels => exact Node.ofJson?_tagged levels "def" content
  | .external params, value, h => by
      rw [Node.SpelledBy] at h
      obtain ⟨content, p, rfl, hgives, hp⟩ := h
      refine Node.decodes_content hgives (by decide) rfl ?_
      intro levels hfields hlevels
      have hparams := Defaulted.list_eq hp
        (fun _ hitems => Decodes.list (hitems.imp fun _ _ hvalue => (Value.decodes hvalue).2))
        (by simp) hlevels
      simp only [Node.content?, hfields, hparams]
      rfl
  | .unknownAtRule directive, value, h => by
      rw [Node.SpelledBy] at h
      obtain ⟨content, rfl, hgives⟩ := h
      refine Node.decodes_content hgives (by decide) rfl ?_
      intro levels hfields _
      simp only [Node.content?, hfields]
      rfl

theorem Node.decodesAll : ∀ {nodes : List Node} {items : List Json}, Node.AllSpelledBy nodes items →
    List.Forall₂ (fun node value => Decodes Node.ofJson? value node) nodes items
  | [], [], _ => .nil
  | node :: nodes, item :: items, h => by
      rw [Node.AllSpelledBy] at h
      exact .cons (Node.decodes h.1) (Node.decodesAll h.2)
  | [], _ :: _, h => by simp [Node.AllSpelledBy] at h
  | _ :: _, [], h => by simp [Node.AllSpelledBy] at h

end

/-! ## Stylesheets -/

theorem Stylesheet.decodes {sheet : Stylesheet} {value : Json} (h : sheet.SpelledBy value) :
    Decodes Stylesheet.ofJson? value sheet := by
  obtain ⟨n, hgives, hn⟩ := h
  refine Decodes.record hgives (by decide) rfl ?_
  intro levels hlevels
  have hnodes := Node.defaulting_eq hn Node.decodesAll (by simp) hlevels
  show (defaulting [] (list? Node.ofJson? levels) n).map Stylesheet.mk = _
  rw [hnodes]
  rfl

/-- **All spellings of a stylesheet are read alike.** A text with the tokens of any spelling of a
stylesheet, with blanks between them and with any way to write its strings and numbers, is read as that
stylesheet, if no more than 127 arrays and objects are open at once in the text. -/
theorem Stylesheet.ofText?_of_spelledBy {sheet : Stylesheet} {value : Json} {text : String}
    (hvalue : sheet.SpelledBy value) (htext : Written text.toList (tokens value))
    (hnesting : nesting text ≤ 127) : Stylesheet.ofText? text = some sheet := by
  have hdepth : depth value ≤ maxNesting := by
    rw [← nesting_of_written htext]
    exact hnesting
  rw [Stylesheet.ofText?, parse?_of_written htext]
  exact Stylesheet.decodes hvalue maxNesting hdepth

/-- A rule that is spelled freely below. -/
def Stylesheet.redRule : Stylesheet :=
  ⟨[.rule [.ofText ".a"] [⟨"color", [⟨.literal "red", true⟩], false⟩]]⟩

/-- The rule with an unknown member and its own members reversed, its selector and its term by
themselves, and its property as an array. -/
def Stylesheet.redRuleValue : Json :=
  .object [("nodes", .array [.tagged "rule" (.object [("x", .number ⟨1, some 2⟩),
    ("properties", .array [.array [.string "color", .array [.tagged "literal" (.string "red")]]]),
    ("selectors", .array [.string ".a"])])])]

/-- A text of that value. -/
def Stylesheet.redRuleText : String :=
  "\x7b\"nodes\" : [\x7b\"rule\":\x7b\"x\":1e2,
  \"properties\":[[\"color\",[\x7b\"literal\":\"red\"\x7d]]],\"selectors\":[\".a\"]\x7d\x7d]\x7d"

theorem Stylesheet.spelledBy_redRuleValue : redRule.SpelledBy redRuleValue := by
  have hselector : (Selector.ofText ".a").SpelledBy (.string ".a") := .inl ⟨rfl, rfl⟩
  have hterm : Term.SpelledBy ⟨.literal "red", true⟩ (.tagged "literal" (.string "red")) := by
    rw [Term.SpelledBy, Value.SpelledBy]
    exact .inl ⟨rfl, rfl⟩
  have hproperty : Property.SpelledBy ⟨"color", [⟨.literal "red", true⟩], false⟩
      (.array [.string "color", .array [.tagged "literal" (.string "red")]]) := by
    refine ⟨some (.array [.tagged "literal" (.string "red")]), none, ⟨1, rfl⟩, ⟨_, rfl, ?_⟩, rfl⟩
    rw [Term.AllSpelledBy, Term.AllSpelledBy]
    exact ⟨hterm, trivial⟩
  refine ⟨some _, ⟨[], nofun, .refl _⟩, _, rfl, ?_⟩
  show Node.AllSpelledBy [_] _
  rw [Node.AllSpelledBy, Node.AllSpelledBy, Node.SpelledBy]
  refine ⟨⟨_, .array [.string ".a"], some (.array [_]), rfl, ⟨[("x", .number ⟨1, some 2⟩)], ?_, ?_⟩,
    ⟨_, rfl, .cons hselector .nil⟩, ⟨_, rfl, .cons hproperty .nil⟩⟩, trivial⟩
  · simp [Usable]
  · exact (List.reverse_perm [_, _, _]).symm

theorem Stylesheet.written_redRuleText : Written redRuleText.toList (tokens redRuleValue) := by
  rw [redRuleText, String.toList_ofList]
  refine .token .openBrace nofun ?_
  refine .quoted "nodes" rfl (.blank (by decide) (.token .colon nofun (.blank (by decide) ?_)))
  refine .token .openBracket nofun (.token .openBrace nofun ?_)
  refine .quoted "rule" rfl (.token .colon nofun (.token .openBrace nofun ?_))
  -- The unknown member, whose number has an exponent.
  have hwhole : Whole ['1'] [1] := .digits (by decide) ⟨by simp, by simp⟩
  have hexponent : Exponent ['e', '2'] (some 2) := .unsigned (.inl rfl) ⟨by simp, by simp⟩
  refine .quoted "x" rfl (.token .colon nofun ?_)
  refine .token (.number (.positive hwhole .none hexponent) (by decide +kernel)) ?_ ?_
  · rintro value - c hc
    cases hc
    rfl
  refine .token .comma nofun (.blank (by decide) (.blank (by decide) (.blank (by decide) ?_)))
  refine .quoted "properties" rfl (.token .colon nofun (.token .openBracket nofun ?_))
  refine .token .openBracket nofun (.quoted "color" rfl (.token .comma nofun ?_))
  refine .token .openBracket nofun (.token .openBrace nofun (.quoted "literal" rfl ?_))
  refine .token .colon nofun (.quoted "red" rfl (.token .closeBrace nofun ?_))
  refine .token .closeBracket nofun (.token .closeBracket nofun (.token .closeBracket nofun ?_))
  refine .token .comma nofun (.quoted "selectors" rfl (.token .colon nofun ?_))
  refine .token .openBracket nofun (.quoted ".a" rfl (.token .closeBracket nofun ?_))
  refine .token .closeBrace nofun (.token .closeBrace nofun (.token .closeBracket nofun ?_))
  exact .token .closeBrace nofun .nil

theorem Stylesheet.ofText?_of_spelledBy_redRule :
    redRule.SpelledBy redRuleValue ∧ Written redRuleText.toList (tokens redRuleValue)
      ∧ nesting redRuleText ≤ 127 ∧ Stylesheet.ofText? redRuleText = some redRule := by
  have hnesting : nesting redRuleText ≤ 127 := by decide +kernel
  exact ⟨spelledBy_redRuleValue, written_redRuleText, hnesting,
    ofText?_of_spelledBy spelledBy_redRuleValue written_redRuleText hnesting⟩

end Restyle
