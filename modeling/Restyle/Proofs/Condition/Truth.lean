import Restyle.Proofs.Printing.Rendering

set_option autoImplicit false

/-! # What a feature test says

A feature test asks whether a property has one of some values, or whether it has none of them. Its text is
read as a disjunction of clauses, each about one value. It can be read in one way only if there are no
quotes in the strings of its clauses (`Clause.disjunction_injective`).

The clauses of a negated test are negated one by one and still joined by `||`. So the text of a negated
test is true as soon as the actual value differs from one of the values, and the test and its text agree
on all actual values exactly if the test is not negated or all its values are the same
(`FeatureTest.text_truth`).
-/

namespace Restyle

/-! ## Clauses -/

/-- A clause of a written condition: a property has a value, or has another one. -/
structure Clause where
  property : String
  value : String
  negated : Bool
deriving DecidableEq

namespace Clause

/-- A clause as it is written. -/
def text (c : Clause) : String :=
  (if c.negated then "!" else "") ++ "is(\"" ++ c.property ++ "\", \"" ++ c.value ++ "\")"

/-- The truth value of a clause, given the actual values of the properties. -/
def eval (actual : String → String) (c : Clause) : Bool := (actual c.property == c.value) != c.negated

/-- Clauses joined by `||`. -/
def disjunction (clauses : List Clause) : String := " || ".intercalate (clauses.map text)

/-- The truth value of a disjunction. -/
def evalAny (actual : String → String) (clauses : List Clause) : Bool := clauses.any (eval actual)

/-- No quote stands in the strings of a clause. -/
def Unquoted (c : Clause) : Prop := '"' ∉ c.property.toList ∧ '"' ∉ c.value.toList

/-! ### Reading a disjunction -/

/-- What stands behind the mark of negation. -/
def bodyChars (c : Clause) : List Char :=
  "is(\"".toList ++ (c.property.toList ++ '"' :: (", \"".toList ++ (c.value.toList ++ '"' :: [')'])))

/-- A text ends at its first quote. -/
theorem eq_of_append_quote {x y r s : List Char} (hx : '"' ∉ x) (hy : '"' ∉ y)
    (h : x ++ '"' :: r = y ++ '"' :: s) : x = y ∧ r = s := by
  have hfront : ∀ (text rest : List Char), '"' ∉ text →
      (text ++ '"' :: rest).takeWhile (· != '"') = text := by
    intro text rest htext
    rw [List.takeWhile_append_of_pos, List.takeWhile_cons_of_neg (by decide), List.append_nil]
    intro c hc
    rw [bne_iff_ne]
    rintro rfl
    exact htext hc
  have hxy : x = y := by
    rw [← hfront x r hx, h, hfront y s hy]
  subst hxy
  exact ⟨rfl, (List.cons.inj (List.append_cancel_left h)).2⟩

theorem toList_text (c : Clause) :
    c.text.toList = (if c.negated then ['!'] else []) ++ c.bodyChars := by
  cases hnegated : c.negated <;> simp [text, bodyChars, hnegated]

/-- The strings of a clause end at their quotes, so a clause and what follows it are read in one way. -/
theorem eq_of_bodyChars_append {c d : Clause} (hc : c.Unquoted) (hd : d.Unquoted) {r s : List Char}
    (h : c.bodyChars ++ r = d.bodyChars ++ s) :
    c.property = d.property ∧ c.value = d.value ∧ r = s := by
  simp only [bodyChars, List.append_assoc, List.cons_append, List.append_cancel_left_eq] at h
  obtain ⟨hproperty, hbehind⟩ := eq_of_append_quote hc.1 hd.1 h
  obtain ⟨hvalue, hrest⟩ := eq_of_append_quote hc.2 hd.2 (List.append_cancel_left hbehind)
  exact ⟨String.toList_inj.mp hproperty, String.toList_inj.mp hvalue, (List.cons.inj hrest).2⟩

theorem eq_of_text_append {c d : Clause} (hc : c.Unquoted) (hd : d.Unquoted) {r s : List Char}
    (h : c.text.toList ++ r = d.text.toList ++ s) : c = d ∧ r = s := by
  rw [toList_text, toList_text, List.append_assoc, List.append_assoc] at h
  -- only a negated clause starts with the mark
  have hnegated : c.negated = d.negated := by
    cases hcn : c.negated <;> cases hdn : d.negated <;> simp [hcn, hdn, bodyChars] at h ⊢
  rw [hnegated, List.append_cancel_left_eq] at h
  obtain ⟨hproperty, hvalue, hrest⟩ := eq_of_bodyChars_append hc hd h
  refine ⟨?_, hrest⟩
  cases c
  cases d
  simp_all

/-- The clauses behind the first one. -/
def furtherChars (clauses : List Clause) : List Char :=
  clauses.flatMap fun c => " || ".toList ++ c.text.toList

theorem toList_disjunction_cons (c : Clause) (clauses : List Clause) :
    (disjunction (c :: clauses)).toList = c.text.toList ++ furtherChars clauses := by
  rw [disjunction, List.map_cons, intercalate_cons_eq_join, String.toList_append]
  congr 1
  simp [furtherChars, List.flatMap_map]

theorem furtherChars_injective {cs ds : List Clause} (hcs : ∀ c ∈ cs, c.Unquoted)
    (hds : ∀ d ∈ ds, d.Unquoted) (h : furtherChars cs = furtherChars ds) : cs = ds := by
  induction cs generalizing ds with
  | nil =>
      cases ds with
      | nil => rfl
      | cons d ds => simp [furtherChars] at h
  | cons c cs ih =>
      cases ds with
      | nil => simp [furtherChars] at h
      | cons d ds =>
          rw [List.forall_mem_cons] at hcs hds
          simp only [furtherChars, List.flatMap_cons, List.append_assoc,
            List.append_cancel_left_eq] at h
          obtain ⟨rfl, hrest⟩ := eq_of_text_append hcs.1 hds.1 h
          rw [ih hcs.2 hds.2 hrest]

/-- Without quotes in its strings, a disjunction is read in one way only. -/
theorem disjunction_injective {cs ds : List Clause} (hcs : ∀ c ∈ cs, c.Unquoted)
    (hds : ∀ d ∈ ds, d.Unquoted) (h : disjunction cs = disjunction ds) : cs = ds := by
  have hne : ∀ (c : Clause) (clauses : List Clause), disjunction (c :: clauses) ≠ disjunction [] := by
    intro c clauses hnil
    have hchars := congrArg String.toList hnil
    rw [toList_disjunction_cons, toList_text] at hchars
    simp [disjunction, bodyChars] at hchars
  cases cs with
  | nil =>
      cases ds with
      | nil => rfl
      | cons d ds => exact absurd h.symm (hne d ds)
  | cons c cs =>
      cases ds with
      | nil => exact absurd h (hne c cs)
      | cons d ds =>
          have hchars := congrArg String.toList h
          rw [toList_disjunction_cons, toList_disjunction_cons] at hchars
          rw [List.forall_mem_cons] at hcs hds
          obtain ⟨rfl, hrest⟩ := eq_of_text_append hcs.1 hds.1 hchars
          rw [furtherChars_injective hcs.2 hds.2 hrest]

end Clause

/-! ## Feature tests -/

namespace FeatureTest

/-- The truth value of a test: whether the actual value is one of the values, unless negated. -/
def eval (actual : String → String) (test : FeatureTest) : Bool :=
  test.values.contains (actual test.property) != test.negated

/-- One clause for each value. -/
def clauses (test : FeatureTest) : List Clause :=
  test.values.map fun value => ⟨test.property, value, test.negated⟩

/-- No quote stands in the strings of a test. -/
def Unquoted (test : FeatureTest) : Prop := ∀ c ∈ test.clauses, c.Unquoted

/-- All values to compare with are the same. -/
def OneValue (test : FeatureTest) : Prop := ∀ v ∈ test.values, ∀ w ∈ test.values, v = w

instance (test : FeatureTest) : Decidable test.OneValue :=
  inferInstanceAs (Decidable (∀ v ∈ test.values, ∀ w ∈ test.values, v = w))

variable {test : FeatureTest}

/-- A test that has a text has values, and its text is the disjunction of its clauses. -/
theorem of_text_eq_ok {text : String} (h : test.text = .ok text) :
    test.values ≠ [] ∧ text = Clause.disjunction test.clauses := by
  unfold FeatureTest.text at h
  split at h
  · cases h
  · split at h
    · cases h
    · rename_i hvalues
      refine ⟨by simpa using hvalues, ?_⟩
      cases h
      rw [Clause.disjunction, clauses, List.map_map]
      rfl

/-- The text of a negated test only asks for one value that is not the actual one. -/
theorem evalAny_clauses (actual : String → String) (test : FeatureTest) :
    Clause.evalAny actual test.clauses = true ↔
      if test.negated then ∃ v ∈ test.values, actual test.property ≠ v
      else actual test.property ∈ test.values := by
  cases hnegated : test.negated <;> simp [Clause.evalAny, clauses, Clause.eval, hnegated]

theorem eval_eq_true_iff (actual : String → String) (test : FeatureTest) :
    test.eval actual = true ↔
      if test.negated then actual test.property ∉ test.values
      else actual test.property ∈ test.values := by
  cases hnegated : test.negated <;> simp [eval, hnegated]

/-- A test and its text differ where a negated test names the actual value and another one. -/
theorem evalAny_clauses_eq_iff (hvalues : test.values ≠ []) (actual : String → String) :
    Clause.evalAny actual test.clauses = test.eval actual ↔
      ¬ (test.negated = true ∧ actual test.property ∈ test.values ∧
        ∃ v ∈ test.values, actual test.property ≠ v) := by
  rw [Bool.eq_iff_iff, evalAny_clauses, eval_eq_true_iff]
  by_cases hnegated : test.negated = true
  · simp only [hnegated, if_true, true_and]
    constructor
    · rintro h ⟨hmem, hother⟩
      exact h.mp hother hmem
    · intro h
      constructor
      · intro hother hmem
        exact h ⟨hmem, hother⟩
      · intro hnot
        -- a value that is there is not the actual one
        obtain ⟨v, hv⟩ := List.exists_mem_of_ne_nil _ hvalues
        exact ⟨v, hv, fun heq => hnot (heq ▸ hv)⟩
  · simp [hnegated]

theorem evalAny_clauses_eq_eval_iff (hvalues : test.values ≠ []) :
    (∀ actual, Clause.evalAny actual test.clauses = test.eval actual) ↔
      (test.negated = true → test.OneValue) := by
  simp only [evalAny_clauses_eq_iff hvalues]
  constructor
  · intro h hnegated v hv w hw
    by_contra hne
    exact h (fun _ => v) ⟨hnegated, hv, w, hw, hne⟩
  · rintro h actual ⟨hnegated, hmem, v, hv, hne⟩
    exact hne (h hnegated _ hmem v hv)

/-- **The text of a feature test has the truth value of the test** for all actual values, if and only if
the test is not negated or all its values are the same. The text is read as a disjunction with one clause
for each value. Without quotes in the strings of the test there is no other way to read it. -/
theorem text_truth {text : String} (h : (Condition.feature test).text = .ok text) :
    text = Clause.disjunction test.clauses ∧
      (test.Unquoted → ∀ others : List Clause, (∀ c ∈ others, c.Unquoted) →
        text = Clause.disjunction others → others = test.clauses) ∧
      ((∀ actual, Clause.evalAny actual test.clauses = test.eval actual) ↔
        (test.negated = true → test.OneValue)) := by
  obtain ⟨hvalues, hread⟩ := of_text_eq_ok h
  refine ⟨hread, ?_, evalAny_clauses_eq_eval_iff hvalues⟩
  intro htest others hothers hother
  exact Clause.disjunction_injective hothers htest (hother.symm.trans hread)

/-- A test for two values, and a negated one for one value. -/
theorem text_truth_agents :
    let either : FeatureTest := ⟨"user.agent", ["ie6", "ie7"], false⟩
    let other : FeatureTest := ⟨"user.agent", ["gecko1_8"], true⟩
    ("is(\"user.agent\", \"ie6\") || is(\"user.agent\", \"ie7\")" = Clause.disjunction either.clauses ∧
        ∀ actual, Clause.evalAny actual either.clauses = either.eval actual) ∧
      "!is(\"user.agent\", \"gecko1_8\")" = Clause.disjunction other.clauses ∧
        ∀ actual, Clause.evalAny actual other.clauses = other.eval actual := by
  intro either other
  have heither : (Condition.feature either).text
      = .ok "is(\"user.agent\", \"ie6\") || is(\"user.agent\", \"ie7\")" := by decide +kernel
  have hother : (Condition.feature other).text = .ok "!is(\"user.agent\", \"gecko1_8\")" := by
    decide +kernel
  constructor
  · obtain ⟨hread, -, htruth⟩ := text_truth heither
    exact ⟨hread, htruth.mpr fun hnegated => by cases hnegated⟩
  · obtain ⟨hread, -, htruth⟩ := text_truth hother
    exact ⟨hread, htruth.mpr fun _ => by decide⟩

/-- The text of a negated test for two values is true where the test is false. -/
theorem negated_pair_text_true :
    let test : FeatureTest := ⟨"user.agent", ["ie6", "ie8"], true⟩
    (Condition.feature test).text = .ok "!is(\"user.agent\", \"ie6\") || !is(\"user.agent\", \"ie8\")" ∧
      Clause.disjunction test.clauses = "!is(\"user.agent\", \"ie6\") || !is(\"user.agent\", \"ie8\")" ∧
      Clause.evalAny (fun _ => "ie6") test.clauses = true ∧ test.eval (fun _ => "ie6") = false := by
  decide +kernel

end FeatureTest

end Restyle
