import Restyle.Proofs.Condition.Renderable

set_option autoImplicit false

/-! # Which parentheses are taken away

A run-time expression loses a pair of parentheses that encloses all of it. The pair is found in one pass
over what stands between the two ends, which keeps the number of parentheses that are open and gives up
when it would have to close one more. Here this is compared with the usual way to say the same: no front
part of the text closes more than it opens, and the first parenthesis is matched by the last one.
-/

namespace Restyle.Condition

open Text

/-! ## Balanced texts -/

/-- No front part of a text closes more parentheses than it opens. -/
def NeverOverclosed (cs : List Char) : Prop :=
  ∀ front, front <+: cs → front.count ')' ≤ front.count '('

/-- Every parenthesis of a text has its partner in the text. -/
structure Balanced (cs : List Char) : Prop where
  fronts : NeverOverclosed cs
  total : cs.count ')' = cs.count '('

/-- A text between two parentheses, and no parenthesis in it that closes the first. -/
def Encloses (cs inner : List Char) : Prop :=
  cs = '(' :: (inner ++ [')']) ∧ NeverOverclosed inner

/-- A text starts with a parenthesis, and the one that matches it stands in front of `rest`. -/
def Matched (cs inner rest : List Char) : Prop :=
  cs = '(' :: (inner ++ ')' :: rest) ∧ Balanced inner

/-- What is asked of all front parts of a text, asked of those behind its first character. -/
theorem forall_prefix_cons {P Q : List Char → Prop} {c : Char} {cs : List Char} (hnil : P [])
    (hstep : ∀ front, P (c :: front) ↔ Q front) :
    (∀ front, front <+: c :: cs → P front) ↔ ∀ front, front <+: cs → Q front := by
  constructor
  · intro h front hfront
    exact (hstep front).mp (h (c :: front) (List.cons_prefix_cons.mpr ⟨rfl, hfront⟩))
  · intro h front hfront
    rcases List.prefix_cons_iff.mp hfront with rfl | ⟨tail, rfl, htail⟩
    · exact hnil
    · exact (hstep tail).mpr (h tail htail)

/-! ## The pass -/

/-- The pass gives up if and only if some front part closes what it did not open, beyond the `depth`
parentheses that were open before. -/
theorem closesOuter_eq_false_iff (depth : Nat) (cs : List Char) :
    closesOuter depth cs = false ↔
      ∀ front, front <+: cs → front.count ')' ≤ depth + front.count '(' := by
  fun_induction closesOuter depth cs with
  | case1 depth => simp
  | case2 depth rest ih =>
      have hstep : ∀ front : List Char, ('(' :: front).count ')' ≤ depth + ('(' :: front).count '(' ↔
          front.count ')' ≤ depth + 1 + front.count '(' := by
        intro front
        simp
        omega
      rw [ih, forall_prefix_cons (Nat.zero_le _) hstep]
  | case3 rest =>
      -- no parenthesis is open, and one is closed here
      simp only [Bool.true_eq_false, false_iff]
      intro h
      have hfront := h [')'] ⟨rest, rfl⟩
      simp at hfront
  | case4 depth rest ih =>
      have hstep : ∀ front : List Char,
          (')' :: front).count ')' ≤ depth + 1 + (')' :: front).count '(' ↔
            front.count ')' ≤ depth + front.count '(' := by
        intro front
        simp
        omega
      rw [ih, forall_prefix_cons (Nat.zero_le _) hstep]
  | case5 depth c rest hopen hzero hsucc ih =>
      have hclose : c ≠ ')' := by
        cases depth with
        | zero => exact hzero rfl
        | succ depth => exact hsucc depth rfl
      have hstep : ∀ front : List Char, (c :: front).count ')' ≤ depth + (c :: front).count '(' ↔
          front.count ')' ≤ depth + front.count '(' := by
        intro front
        rw [List.count_cons_of_ne hclose, List.count_cons_of_ne hopen]
      rw [ih, forall_prefix_cons (Nat.zero_le _) hstep]

theorem closesOuter_zero_iff (cs : List Char) : closesOuter 0 cs = false ↔ NeverOverclosed cs := by
  rw [closesOuter_eq_false_iff]
  simp only [Nat.zero_add]
  rfl

instance (cs : List Char) : Decidable (NeverOverclosed cs) :=
  decidable_of_iff _ (closesOuter_zero_iff cs)

instance (cs : List Char) : Decidable (Balanced cs) :=
  decidable_of_iff (NeverOverclosed cs ∧ cs.count ')' = cs.count '(')
    ⟨fun h => ⟨h.1, h.2⟩, fun h => ⟨h.fronts, h.total⟩⟩

/-! ## The enclosing pair -/

theorem stripParens_of_encloses {cs inner : List Char} (h : Encloses cs inner) :
    stripParens cs = inner := by
  obtain ⟨rfl, hfronts⟩ := h
  simp [stripParens, (closesOuter_zero_iff inner).mpr hfronts]

/-- What is taken away is an enclosing pair. -/
theorem stripParens_eq_or_encloses (cs : List Char) :
    stripParens cs = cs ∨ Encloses cs (stripParens cs) := by
  rcases stripParens_cases cs with hsame | hpair
  · exact Or.inl hsame
  · obtain ⟨inner, hinner⟩ : ∃ inner, cs = '(' :: (inner ++ [')']) := ⟨_, hpair⟩
    by_cases hfronts : NeverOverclosed inner
    · have henclosed : Encloses cs inner := ⟨hinner, hfronts⟩
      rw [stripParens_of_encloses henclosed]
      exact Or.inr henclosed
    · rw [← closesOuter_zero_iff, Bool.not_eq_false] at hfronts
      left
      subst hinner
      simp [stripParens, hfronts]

/-! ## Balanced expressions -/

theorem count_pair (c : Char) (inner : List Char) :
    ('(' :: (inner ++ [')'])).count c = inner.count c + ['(', ')'].count c := by
  simp only [List.count_cons, List.count_append]
  omega

/-- What stands between an enclosing pair of a balanced text is balanced. -/
theorem Balanced.of_encloses {cs inner : List Char} (h : Balanced cs) (hpair : Encloses cs inner) :
    Balanced inner := by
  obtain ⟨rfl, hfronts⟩ := hpair
  refine ⟨hfronts, ?_⟩
  have htotal := h.total
  rw [count_pair, count_pair] at htotal
  simpa using htotal

theorem balanced_stripParens {cs : List Char} (h : Balanced cs) : Balanced (stripParens cs) := by
  rcases stripParens_eq_or_encloses cs with hsame | hpair
  · rw [hsame]
    exact h
  · exact h.of_encloses hpair

theorem stripParens_ne_iff {cs : List Char} (h : Balanced cs) :
    stripParens cs ≠ cs ↔ ∃ inner, Matched cs inner [] := by
  constructor
  · intro hne
    have hpair := (stripParens_eq_or_encloses cs).resolve_left hne
    exact ⟨stripParens cs, hpair.1, h.of_encloses hpair⟩
  · rintro ⟨inner, hcs, hinner⟩ hsame
    rw [stripParens_of_encloses ⟨hcs, hinner.fronts⟩] at hsame
    -- the pair that is gone makes the text shorter
    have hlength := congrArg List.length hcs
    rw [← hsame] at hlength
    simp at hlength
    omega

/-! ## Expressions in a condition -/

/-- An expression with nothing to evaluate. -/
def Vacuous (expression : String) : Prop :=
  trim expression.toList = [] ∨
    ∃ blanks, AllBlank blanks ∧ trim expression.toList = '(' :: (blanks ++ [')'])

theorem text_runtime_of_vacuous {expression : String} (h : Vacuous expression) :
    (runtime expression).text = .error .emptyExpression := by
  have hempty := (trim_eq_nil_iff _).mpr ((allBlank_stripParens_trim_iff expression.toList).mpr h)
  simp [text, hempty]

theorem text_runtime_of_not_vacuous {expression : String} (h : ¬ Vacuous expression) :
    (runtime expression).text
      = .ok ("eval('" ++ String.ofList (stripParens (trim expression.toList)) ++ "')") := by
  have hrest : trim (stripParens (trim expression.toList)) ≠ [] := by
    intro hempty
    exact h ((allBlank_stripParens_trim_iff expression.toList).mp ((trim_eq_nil_iff _).mp hempty))
  simp [text, hrest]

/-- **Only an enclosing pair of parentheses is taken away.** A balanced expression stays balanced, and
loses a pair if and only if its first parenthesis is matched by its last character. A run-time condition
fails if its expression has nothing to evaluate, and is otherwise the expression without the pair. -/
theorem stripParens_enclosing_only :
    (∀ cs : List Char, (∀ inner, Encloses cs inner → stripParens cs = inner) ∧
      ((¬ ∃ inner, Encloses cs inner) → stripParens cs = cs)) ∧
    (∀ cs : List Char, Balanced cs →
      Balanced (stripParens cs) ∧ (stripParens cs ≠ cs ↔ ∃ inner, Matched cs inner [])) ∧
    ∀ expression : String,
      ((∃ fault, (runtime expression).text = .error fault) ↔ Vacuous expression) ∧
      (¬ Vacuous expression → (runtime expression).text
        = .ok ("eval('" ++ String.ofList (stripParens (trim expression.toList)) ++ "')")) := by
  refine ⟨fun cs => ⟨fun inner h => stripParens_of_encloses h, ?_⟩,
    fun cs h => ⟨balanced_stripParens h, stripParens_ne_iff h⟩,
    fun expression => ⟨⟨?_, ?_⟩, text_runtime_of_not_vacuous⟩⟩
  · intro hnone
    refine (stripParens_eq_or_encloses cs).resolve_right ?_
    intro hpair
    exact hnone ⟨_, hpair⟩
  · rintro ⟨fault, hfault⟩
    by_contra hrest
    rw [text_runtime_of_not_vacuous hrest] at hfault
    cases hfault
  · intro h
    exact ⟨_, text_runtime_of_vacuous h⟩

/-- Two groups in a row inside of a pair, which is the only one to go. -/
theorem stripParens_enclosing_only_groups :
    let cs := "((a) && (b))".toList
    Balanced cs ∧ stripParens cs = "(a) && (b)".toList ∧ Balanced (stripParens cs) ∧
      (∃ inner, Matched cs inner []) ∧ ¬ ∃ inner, Matched (stripParens cs) inner [] := by
  intro cs
  have hbalanced : Balanced cs := by decide
  have hlost : stripParens cs ≠ cs := by decide
  have hkept : stripParens (stripParens cs) = stripParens cs := by decide
  obtain ⟨hinner, hmatched⟩ := stripParens_enclosing_only.2.1 cs hbalanced
  refine ⟨hbalanced, by decide, hinner, hmatched.mp hlost, fun hagain => ?_⟩
  exact (stripParens_enclosing_only.2.1 _ hinner).2.mpr hagain hkept

end Restyle.Condition
