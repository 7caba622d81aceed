import Restyle.ExternalClasses
import Mathlib.Tactic.Common

set_option autoImplicit false

/-! # The classes that start with a stem

The classes in use are sorted by code points. Two facts about that order make the search for a stem
exact: the names before the stem are an initial stretch of the list, so that halving finds its end
(`partitionPoint_eq`), and from there on the names with the stem come first
(`lt_of_isPrefix_of_not_isPrefix`). Together they say that the search finds what a test of every name
would find (`withStem_eq_filter`).
-/

namespace Restyle.ExternalClasses

/-! ## Tests that fail from some position on -/

section Stretch

variable {α : Type} {test : α → Bool}

/-- In a list in which no success stands behind a failure, the successes are an initial stretch. -/
theorem takeWhile_eq_filter {xs : List α}
    (h : xs.Pairwise fun a b => test b = true → test a = true) : xs.takeWhile test = xs.filter test := by
  induction h with
  | nil => rfl
  | @cons a rest hhead htail ih =>
      by_cases ha : test a = true
      · rw [List.takeWhile_cons_of_pos ha, List.filter_cons_of_pos ha, ih]
      · have hnone : rest.filter test = [] := by
          rw [List.filter_eq_nil_iff]
          intro b hb hbtest
          exact ha (hhead b hb hbtest)
        rw [List.takeWhile_cons_of_neg ha, List.filter_cons_of_neg ha, hnone]

/-- ... and the failures are what is left. -/
theorem dropWhile_eq_filter_not {xs : List α}
    (h : xs.Pairwise fun a b => test b = true → test a = true) :
    xs.dropWhile test = xs.filter fun a => !test a := by
  induction h with
  | nil => rfl
  | @cons a rest hhead htail ih =>
      by_cases ha : test a = true
      · rw [List.dropWhile_cons_of_pos ha, ih, List.filter_cons_of_neg (by simp [ha])]
      · have hall : rest.filter (fun b => !test b) = rest := by
          rw [List.filter_eq_self]
          intro b hb
          have hbtest : ¬ test b = true := fun hbtest => ha (hhead b hb hbtest)
          simp [hbtest]
        rw [List.dropWhile_cons_of_neg ha, List.filter_cons_of_pos (by simp [ha]), hall]

/-- Halving finds the position from which on a test fails. The answer stays between `lo` and `hi`. -/
theorem partitionPoint_eq {xs : Array α} {k : Nat}
    (htest : ∀ i a, xs[i]? = some a → (test a = true ↔ i < k)) (lo hi : Nat)
    (hlo : lo ≤ k) (hhi : k ≤ hi) (hsize : hi ≤ xs.size) : partitionPoint test xs lo hi = k := by
  fun_induction partitionPoint test xs lo hi with
  | case1 lo hi hlt mid hmid ih =>
      -- the test succeeds in the middle, so it fails later
      have hin : mid < xs.size := by omega
      rw [Array.getElem?_eq_getElem hin, Option.any_some] at hmid
      have hbefore : mid < k := (htest mid _ (Array.getElem?_eq_getElem hin)).mp hmid
      exact ih (by omega) hhi hsize
  | case2 lo hi hlt mid hmid ih =>
      have hin : mid < xs.size := by omega
      rw [Array.getElem?_eq_getElem hin, Option.any_some] at hmid
      have hbehind : ¬ mid < k := fun h => hmid ((htest mid _ (Array.getElem?_eq_getElem hin)).mpr h)
      exact ih hlo (by omega) (by omega)
  | case3 lo hi hlt => omega

/-- In such a list halving finds the end of the initial stretch. -/
theorem drop_partitionPoint {xs : List α}
    (h : xs.Pairwise fun a b => test b = true → test a = true) :
    xs.drop (partitionPoint test xs.toArray 0 xs.toArray.size) = xs.dropWhile test := by
  have hlength : (xs.takeWhile test).length ≤ xs.length := (List.takeWhile_prefix test).length_le
  have htest : ∀ i a, xs.toArray[i]? = some a →
      (test a = true ↔ i < (xs.takeWhile test).length) := by
    intro i a ha
    rw [List.getElem?_toArray] at ha
    constructor
    · intro hatest
      by_contra hi
      -- behind the stretch stand only failures
      have hmem : a ∈ xs.dropWhile test := by
        rw [← List.takeWhile_append_dropWhile (p := test) (l := xs),
          List.getElem?_append_right (by omega)] at ha
        exact List.mem_of_getElem? ha
      rw [dropWhile_eq_filter_not h, List.mem_filter] at hmem
      simp [hatest] at hmem
    · intro hi
      rw [← List.takeWhile_append_dropWhile (p := test) (l := xs),
        List.getElem?_append_left hi] at ha
      have hmem := List.mem_of_getElem? ha
      rw [takeWhile_eq_filter h, List.mem_filter] at hmem
      exact hmem.2
  rw [partitionPoint_eq htest 0 xs.toArray.size (Nat.zero_le _) hlength (Nat.le_refl _)]
  calc xs.drop (xs.takeWhile test).length
      = (xs.takeWhile test ++ xs.dropWhile test).drop (xs.takeWhile test).length := by
        rw [List.takeWhile_append_dropWhile]
    _ = xs.dropWhile test := List.drop_left

end Stretch

/-! ## Names with a stem in the order of code points -/

/-- A name that is not before the stem and does not start with it comes behind all that do. -/
theorem lt_of_isPrefix_of_not_isPrefix {stem name other : List Char} (hname : stem <+: name)
    (hother : ¬ other < stem) (hnot : ¬ stem <+: other) : name < other := by
  induction stem generalizing name other with
  | nil => exact absurd List.nil_prefix hnot
  | cons c stem ih =>
      obtain ⟨rest, rfl⟩ := hname
      cases other with
      | nil => exact absurd (List.nil_lt_cons c stem) hother
      | cons d other =>
          rw [List.cons_append, List.cons_lt_cons_iff]
          rw [List.cons_lt_cons_iff, not_or, not_and] at hother
          by_cases hlt : c < d
          · exact Or.inl hlt
          · obtain rfl : c = d := Std.Trichotomous.trichotomous c d hlt hother.1
            have hrest : ¬ stem <+: other := fun h => hnot (List.cons_prefix_cons.mpr ⟨rfl, h⟩)
            exact Or.inr ⟨rfl, ih (List.prefix_append stem rest) (hother.2 rfl) hrest⟩

/-- The classes in use are sorted. -/
theorem sorted_used (e : ExternalClasses) : e.used.toList.Pairwise (· < ·) := by
  refine Std.ExtTreeSet.ordered_toList.imp ?_
  intro a b h
  exact compareOfLessAndEq_eq_lt.mp h

/-- The search by stem finds the classes that a test of every class finds. -/
theorem withStem_eq_filter (e : ExternalClasses) (stem : String) :
    e.withStem stem = e.used.toList.filter fun name => stem.toList.isPrefixOf name.toList := by
  have hsorted := sorted_used e
  have hbefore : e.used.toList.Pairwise fun a b =>
      decide (b < stem) = true → decide (a < stem) = true := by
    refine hsorted.imp ?_
    intro a b hab hb
    exact decide_eq_true (String.lt_trans hab (of_decide_eq_true hb))
  -- among the names that are not before the stem, those that start with it come first
  have hstem : (e.used.toList.dropWhile fun name => decide (name < stem)).Pairwise fun a b =>
      stem.toList.isPrefixOf b.toList = true → stem.toList.isPrefixOf a.toList = true := by
    refine (hsorted.sublist (List.dropWhile_sublist _)).imp_of_mem ?_
    intro a b ha hb hab hbstem
    rw [dropWhile_eq_filter_not hbefore, List.mem_filter] at ha
    have hge : ¬ a.toList < stem.toList := by
      have h := ha.2
      simp only [Bool.not_eq_true', decide_eq_false_iff_not] at h
      exact fun hlt => h (String.lt_iff.mpr hlt)
    rw [List.isPrefixOf_iff_prefix] at hbstem ⊢
    by_contra hnot
    have hba := lt_of_isPrefix_of_not_isPrefix hbstem hge hnot
    exact String.lt_asymm hab (String.lt_iff.mpr hba)
  -- and none of the names before the stem starts with it
  have hnone : ∀ name ∈ e.used.toList,
      (stem.toList.isPrefixOf name.toList && !decide (name < stem))
        = stem.toList.isPrefixOf name.toList := by
    intro name _
    by_cases hstarts : stem.toList.isPrefixOf name.toList = true
    · have hge : ¬ name < stem := by
        intro hlt
        have hle := (List.isPrefixOf_iff_prefix.mp hstarts).le
        exact List.not_lt.mpr hle (String.lt_iff.mp hlt)
      simp [hstarts, hge]
    · simp [hstarts]
  calc e.withStem stem
      = (e.used.toList.dropWhile fun name => decide (name < stem)).takeWhile
          fun name => stem.toList.isPrefixOf name.toList :=
        congrArg (List.takeWhile _) (drop_partitionPoint hbefore)
    _ = (e.used.toList.dropWhile fun name => decide (name < stem)).filter
          fun name => stem.toList.isPrefixOf name.toList := takeWhile_eq_filter hstem
    _ = e.used.toList.filter fun name => stem.toList.isPrefixOf name.toList := by
        rw [dropWhile_eq_filter_not hbefore, List.filter_filter]
        exact List.filter_congr hnone

end Restyle.ExternalClasses
