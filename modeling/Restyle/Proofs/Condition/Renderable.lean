import Restyle.Proofs.Printing.Faults
import Mathlib.Data.List.TakeWhile

set_option autoImplicit false

/-! # Which conditions can be written

A feature test needs a name and something to compare with. An expression needs more than blanks, and
more than blanks between a pair of parentheses, since the pair is taken away. `Condition.Renderable` says
so without mention of the text of a condition, and `Condition.fault?_eq_none_iff` ties it to the text.
-/

namespace Restyle

/-! ## Blank texts -/

namespace Text

/-- A text of blanks only. -/
def AllBlank (cs : List Char) : Prop := ∀ c ∈ cs, isBlank c = true

/-- What is left when the blanks at the front are gone does not consist of blanks, unless it is
nothing. -/
theorem dropWhile_eq_nil_of_allBlank {cs : List Char} (h : AllBlank (cs.dropWhile isBlank)) :
    cs.dropWhile isBlank = [] := by
  by_contra hne
  have hhead := List.head_dropWhile_not isBlank hne
  rw [h _ (List.head_mem hne)] at hhead
  cases hhead

theorem trim_eq_nil_of_allBlank {cs : List Char} (h : AllBlank (trim cs)) : trim cs = [] := by
  unfold trim at h ⊢
  rw [List.reverse_eq_nil_iff]
  apply dropWhile_eq_nil_of_allBlank
  intro c hc
  exact h c (List.mem_reverse.mpr hc)

theorem trim_eq_nil_iff (cs : List Char) : trim cs = [] ↔ AllBlank cs := by
  unfold trim
  rw [List.reverse_eq_nil_iff, List.dropWhile_eq_nil_iff]
  constructor
  · intro h
    have hnil : cs.dropWhile isBlank = [] :=
      dropWhile_eq_nil_of_allBlank fun c hc => h c (List.mem_reverse.mpr hc)
    exact List.dropWhile_eq_nil_iff.mp hnil
  · intro h c hc
    exact h c ((List.dropWhile_sublist _).mem (List.mem_reverse.mp hc))

end Text

/-! ## Conditions -/

namespace Condition

open Text

/-- Whether a condition has something to say. -/
def Renderable : Condition → Prop
  | .feature test => ¬ AllBlank test.property.toList ∧ test.values ≠ []
  | .runtime expression =>
      trim expression.toList ≠ [] ∧
        ¬ ∃ blanks, AllBlank blanks ∧ trim expression.toList = '(' :: (blanks ++ [')'])

/-- Between blanks no parenthesis is closed. -/
theorem closesOuter_of_allBlank {cs : List Char} (depth : Nat) (h : AllBlank cs) :
    closesOuter depth cs = false := by
  fun_induction closesOuter depth cs with
  | case1 => rfl
  | case2 => exact absurd (h '(' List.mem_cons_self) (by decide)
  | case3 => exact absurd (h ')' List.mem_cons_self) (by decide)
  | case4 => exact absurd (h ')' List.mem_cons_self) (by decide)
  | case5 _ c rest _ _ _ ih => exact ih fun d hd => h d (List.mem_cons_of_mem c hd)

theorem stripParens_pair {blanks : List Char} (h : AllBlank blanks) :
    stripParens ('(' :: (blanks ++ [')'])) = blanks := by
  simp [stripParens, closesOuter_of_allBlank 0 h]

/-- Nothing is taken away but a pair of parentheses. -/
theorem stripParens_cases (cs : List Char) :
    stripParens cs = cs ∨ cs = '(' :: (stripParens cs ++ [')']) := by
  unfold stripParens
  split
  · rename_i rest
    by_cases hpair : (rest.getLast? == some ')' && !closesOuter 0 rest.dropLast) = true
    · rw [if_pos hpair]
      rw [Bool.and_eq_true, beq_iff_eq] at hpair
      obtain ⟨inner, rfl⟩ := List.getLast?_eq_some_iff.mp hpair.1
      right
      rw [List.dropLast_concat]
    · rw [if_neg hpair]
      exact Or.inl rfl
  · exact Or.inl rfl

/-- What remains of a trimmed expression is blank if there was nothing but blanks, or blanks between
parentheses. -/
theorem allBlank_stripParens_trim_iff (cs : List Char) :
    AllBlank (stripParens (trim cs)) ↔
      trim cs = [] ∨ ∃ blanks, AllBlank blanks ∧ trim cs = '(' :: (blanks ++ [')']) := by
  constructor
  · intro hblank
    rcases stripParens_cases (trim cs) with hsame | hpair
    · rw [hsame] at hblank
      exact Or.inl (trim_eq_nil_of_allBlank hblank)
    · exact Or.inr ⟨stripParens (trim cs), hblank, hpair⟩
  · rintro (hnil | ⟨blanks, hblanks, hpair⟩)
    · rw [hnil]
      intro c hc
      cases hc
    · rw [hpair, stripParens_pair hblanks]
      exact hblanks

/-- A condition can be written if it has something to say. -/
theorem fault?_eq_none_iff (condition : Condition) :
    condition.fault? = none ↔ condition.Renderable := by
  cases condition with
  | feature test =>
      show _ ↔ ¬ AllBlank test.property.toList ∧ test.values ≠ []
      rw [← trim_eq_nil_iff]
      by_cases hproperty : trim test.property.toList = []
      · simp [fault?, text, FeatureTest.text, hproperty]
      · by_cases hvalues : test.values = []
        · simp [fault?, text, FeatureTest.text, hproperty, hvalues]
        · simp [fault?, text, FeatureTest.text, hproperty, hvalues]
  | runtime expression =>
      show _ ↔ ¬ trim expression.toList = [] ∧ ¬ _
      rw [← not_or, ← allBlank_stripParens_trim_iff, ← trim_eq_nil_iff]
      by_cases hempty : trim (stripParens (trim expression.toList)) = []
      · simp [fault?, text, hempty]
      · simp [fault?, text, hempty]

end Condition

end Restyle
