import Restyle.Proofs.Externals.Search
import Mathlib.Data.List.Induction
import Mathlib.Data.Set.Insert
import Mathlib.Tactic.Common

set_option autoImplicit false

/-! # Which classes are external

Classes in use and directives are recorded in any order. From `*` on nothing more is listed, so the
record itself depends on the order; the classes that are meant do not. `resolution` says which classes
these are in terms of two sets, the names in use and the patterns that are listed, and
`ExternalClasses.resolve_recorded` says that they are what a record resolves to.

The invariant `ExternalClasses.Records` compares a record with the two sets. It is silent about the
listed names and stems once `*` is there.
-/

namespace Restyle

/-! ## The tokens of a directive -/

mutual

/-- The tokens that a parameter of a directive stands for, as written. -/
def Value.tokens : Value → List String
  | .literal token => [token]
  | .ident token => [token]
  | .expression token => [token]
  | .resourcePath path _ => [path]
  | .list terms => Term.tokensAll terms

/-- The tokens of a list; the commas between its entries are none. -/
def Term.tokensAll : List Term → List String
  | [] => []
  | ⟨value, _⟩ :: rest =>
      (if value = .literal "," then [] else Value.tokens value) ++ Term.tokensAll rest

end

namespace ExternalClasses

theorem isSeparator_iff (value : Value) : isSeparator value = true ↔ value = .literal "," := by
  cases value with
  | literal text => simp [isSeparator]
  | _ => simp [isSeparator]

/-- From `*` on nothing more is listed, whether or not the rest of a directive is looked at. -/
theorem addTokens_of_everything {e : ExternalClasses} (h : e.everything = true)
    (tokens : List String) : tokens.foldl addToken e = e := by
  induction tokens with
  | nil => rfl
  | cons token rest ih =>
      have htoken : e.addToken token = e := if_pos (by rw [h, Bool.or_true])
      rw [List.foldl_cons, htoken, ih]

mutual

/-- A parameter is recorded token by token. -/
theorem addParam_eq : ∀ (value : Value) (e : ExternalClasses),
    e.addParam value = value.tokens.foldl addToken e
  | .literal _, _ => rfl
  | .ident _, _ => rfl
  | .expression _, _ => rfl
  | .resourcePath _ _, _ => rfl
  | .list terms, e => addTerms_eq terms e

theorem addTerms_eq : ∀ (terms : List Term) (e : ExternalClasses),
    e.addTerms terms = (Term.tokensAll terms).foldl addToken e
  | [], _ => rfl
  | ⟨value, _⟩ :: rest, e => by
      rw [addTerms]
      split
      · rename_i heverything
        exact (addTokens_of_everything heverything _).symm
      rw [Term.tokensAll, List.foldl_append]
      by_cases hsep : value = .literal ","
      · rw [if_pos hsep, if_pos ((isSeparator_iff value).mpr hsep), addTerms_eq rest]
        rfl
      · have hnot : ¬ isSeparator value = true := fun h => hsep ((isSeparator_iff value).mp h)
        rw [if_neg hsep, if_neg hnot, addTerms_eq rest, addParam_eq value]

end

theorem addDirective_eq (params : List Value) (e : ExternalClasses) :
    e.addDirective params = (params.flatMap Value.tokens).foldl addToken e := by
  induction params generalizing e with
  | nil => rfl
  | cons param rest ih =>
      rw [addDirective]
      split
      · rename_i heverything
        exact (addTokens_of_everything heverything _).symm
      · rw [List.flatMap_cons, List.foldl_append, ih, addParam_eq]

/-! ## What is recorded -/

/-- Something to record. -/
inductive Entry where
  /-- A class that a selector uses. -/
  | used (name : String)
  /-- The parameters of a directive. -/
  | listed (params : List Value)
deriving DecidableEq

/-- Record an entry. -/
def record (e : ExternalClasses) : Entry → ExternalClasses
  | .used name => e.addUsed name
  | .listed params => e.addDirective params

/-- The record of some entries, one after the other. -/
def recorded (entries : List Entry) : ExternalClasses := entries.foldl record empty

/-- The names in use. -/
def usedNames (entries : List Entry) : Set String := {name | .used name ∈ entries}

/-- A token without its quotes. -/
def unquoted (token : String) : String := String.ofList (unquote token.toList)

/-- The names and patterns that a list of tokens stands for; an empty token stands for none. -/
def patternsOf (tokens : List String) : Set String :=
  {pattern | pattern ≠ "" ∧ ∃ token ∈ tokens, pattern = unquoted token}

/-- The names and patterns that the directives list. -/
def patterns (entries : List Entry) : Set String :=
  {pattern | ∃ params, .listed params ∈ entries ∧
    pattern ∈ patternsOf (params.flatMap Value.tokens)}

/-- The classes that are meant: with `*` all that are in use; otherwise those that are listed by name,
and those in use that start with the stem of a pattern. -/
def resolution (used patterns : Set String) : Set String :=
  {name |
    ("*" ∈ patterns ∧ name ∈ used) ∨
    ("*" ∉ patterns ∧
      ((name ∈ patterns ∧ ¬ ∃ stem, name = stem ++ "*") ∨
        (name ∈ used ∧ ∃ stem, stem ++ "*" ∈ patterns ∧ stem.toList <+: name.toList)))}

/-! ## The invariant -/

/-- A record holds the names in use and, unless everything is listed, the patterns. -/
structure Records (e : ExternalClasses) (used patterns : Set String) : Prop where
  used_iff : ∀ name, name ∈ e.used ↔ name ∈ used
  everything_iff : e.everything = true ↔ "*" ∈ patterns
  listed_iff : e.everything = false →
    ∀ name, name ∈ e.listed ↔ name ∈ patterns ∧ ¬ ∃ stem, name = stem ++ "*"
  stems_iff : e.everything = false → ∀ stem, stem ∈ e.stems ↔ stem ++ "*" ∈ patterns

namespace Records

variable {e : ExternalClasses} {used patterns : Set String}

theorem empty : Records .empty ∅ ∅ where
  used_iff name := by simp [ExternalClasses.empty]
  everything_iff := by simp [ExternalClasses.empty]
  listed_iff _ name := by simp [ExternalClasses.empty]
  stems_iff _ stem := by simp [ExternalClasses.empty]

theorem addUsed (h : Records e used patterns) (name : String) :
    Records (e.addUsed name) (insert name used) patterns where
  used_iff other := by
    show other ∈ e.used.insert name ↔ _
    rw [Std.ExtTreeSet.mem_insert, Std.LawfulEqCmp.compare_eq_iff_eq, h.used_iff, Set.mem_insert_iff,
      eq_comm]
  everything_iff := h.everything_iff
  listed_iff := h.listed_iff
  stems_iff := h.stems_iff

/-- Where everything is listed, one more pattern makes no difference. -/
theorem insert_of_everything (h : Records e used patterns) (heverything : e.everything = true)
    (pattern : String) : Records e used (insert pattern patterns) where
  used_iff := h.used_iff
  everything_iff := by simp [heverything, h.everything_iff.mp heverything]
  listed_iff hnot := by rw [heverything] at hnot; cases hnot
  stems_iff hnot := by rw [heverything] at hnot; cases hnot

theorem addStar (h : Records e used patterns) :
    Records { e with everything := true } used (insert "*" patterns) where
  used_iff := h.used_iff
  everything_iff := by simp
  listed_iff hnot := by cases hnot
  stems_iff hnot := by cases hnot

theorem addStem (h : Records e used patterns) {stem : String} (hstem : stem ≠ "") :
    Records { e with stems := e.stems ++ [stem] } used (insert (stem ++ "*") patterns) where
  used_iff := h.used_iff
  everything_iff := by
    have hne : "*" ≠ stem ++ "*" := fun heq => hstem (String.append_eq_right_iff.mp heq.symm)
    rw [Set.mem_insert_iff, h.everything_iff]
    simp [hne]
  listed_iff hnot name := by
    -- a pattern with a stem is no name
    rw [h.listed_iff hnot, Set.mem_insert_iff]
    constructor
    · rintro ⟨hold, hname⟩
      exact ⟨Or.inr hold, hname⟩
    · rintro ⟨rfl | hold, hname⟩
      · exact absurd ⟨stem, rfl⟩ hname
      · exact ⟨hold, hname⟩
  stems_iff hnot other := by
    rw [List.mem_append, List.mem_singleton, h.stems_iff hnot, Set.mem_insert_iff,
      String.append_left_inj, or_comm]

theorem addName (h : Records e used patterns) {name : String} (hname : ¬ ∃ stem, name = stem ++ "*") :
    Records { e with listed := e.listed.insert name } used (insert name patterns) where
  used_iff := h.used_iff
  everything_iff := by
    have hne : "*" ≠ name := fun heq => hname ⟨"", heq.symm⟩
    rw [Set.mem_insert_iff, h.everything_iff]
    simp [hne]
  listed_iff hnot other := by
    rw [Std.ExtTreeSet.mem_insert, Std.LawfulEqCmp.compare_eq_iff_eq, h.listed_iff hnot,
      Set.mem_insert_iff]
    constructor
    · rintro (rfl | ⟨hold, hother⟩)
      · exact ⟨Or.inl rfl, hname⟩
      · exact ⟨Or.inr hold, hother⟩
    · rintro ⟨rfl | hold, hother⟩
      · exact Or.inl rfl
      · exact Or.inr ⟨hold, hother⟩
  stems_iff hnot stem := by
    have hne : stem ++ "*" ≠ name := fun heq => hname ⟨stem, heq.symm⟩
    rw [h.stems_iff hnot, Set.mem_insert_iff]
    simp [hne]

/-- A token adds the name or pattern it stands for. -/
theorem addToken (h : Records e used patterns) {token : String} (hne : unquoted token ≠ "") :
    Records (e.addToken token) used (insert (unquoted token) patterns) := by
  unfold ExternalClasses.addToken
  unfold unquoted at hne ⊢
  generalize unquote token.toList = cs at hne ⊢
  have hcs : cs.isEmpty = false := by
    rw [List.isEmpty_eq_false_iff]
    rintro rfl
    exact hne rfl
  by_cases heverything : e.everything = true
  · -- Behind a star nothing is kept, and the pattern is matched all the same.
    rw [if_pos (by rw [heverything, Bool.or_true])]
    exact h.insert_of_everything heverything _
  rw [if_neg (by rw [hcs, Bool.false_or]; exact heverything)]
  by_cases hstar : cs = ['*']
  · rw [if_pos hstar, hstar]
    exact h.addStar
  rw [if_neg hstar]
  by_cases hlast : cs.getLast? = some '*'
  · obtain ⟨stem, rfl⟩ := List.getLast?_eq_some_iff.mp hlast
    have hstem : String.ofList stem ≠ "" := by
      intro hempty
      rw [String.ofList_eq_empty_iff] at hempty
      rw [hempty] at hstar
      exact hstar rfl
    rw [if_pos hlast, List.dropLast_concat, String.ofList_append]
    exact h.addStem hstem
  · have hname : ¬ ∃ stem, String.ofList cs = stem ++ "*" := by
      rintro ⟨stem, hstem⟩
      have hend : cs = stem.toList ++ ['*'] := by
        have hlist := congrArg String.toList hstem
        rwa [String.toList_ofList, String.toList_append] at hlist
      exact hlast (List.getLast?_eq_some_iff.mpr ⟨stem.toList, hend⟩)
    rw [if_neg hlast]
    exact h.addName hname

theorem addToken_of_unquoted_eq_empty {token : String} (hempty : unquoted token = "") (e : ExternalClasses) :
    e.addToken token = e := by
  unfold unquoted at hempty
  rw [String.ofList_eq_empty_iff] at hempty
  unfold ExternalClasses.addToken
  rw [hempty]
  rfl

/-- A list of tokens adds the patterns it stands for. -/
theorem addTokens (tokens : List String) (h : Records e used patterns) :
    Records (tokens.foldl ExternalClasses.addToken e) used (patterns ∪ patternsOf tokens) := by
  induction tokens generalizing e patterns with
  | nil =>
      have hnone : patterns ∪ patternsOf [] = patterns := by
        ext pattern
        simp [patternsOf]
      rw [hnone]
      exact h
  | cons token rest ih =>
      rw [List.foldl_cons]
      -- A token of nothing but quotes stands for no pattern.
      by_cases hempty : unquoted token = ""
      · have hskip : patternsOf (token :: rest) = patternsOf rest := by
          ext pattern
          simp only [patternsOf, Set.mem_ofPred_eq, List.mem_cons, exists_eq_or_imp, hempty]
          tauto
        rw [addToken_of_unquoted_eq_empty hempty, hskip]
        exact ih h
      · have hinsert : patterns ∪ patternsOf (token :: rest)
            = insert (unquoted token) patterns ∪ patternsOf rest := by
          ext pattern
          simp only [patternsOf, Set.mem_union, Set.mem_ofPred_eq, List.mem_cons, exists_eq_or_imp,
            Set.mem_insert_iff]
          constructor
          · rintro (hold | ⟨hne, rfl | hrest⟩)
            · exact Or.inl (Or.inr hold)
            · exact Or.inl (Or.inl rfl)
            · exact Or.inr ⟨hne, hrest⟩
          · rintro ((rfl | hold) | ⟨hne, hrest⟩)
            · exact Or.inr ⟨hempty, Or.inl rfl⟩
            · exact Or.inl hold
            · exact Or.inr ⟨hne, Or.inr hrest⟩
        rw [hinsert]
        exact ih (h.addToken hempty)

/-- What is recorded is what the entries hold. -/
theorem recorded (entries : List Entry) :
    Records (ExternalClasses.recorded entries) (usedNames entries)
      (ExternalClasses.patterns entries) := by
  -- Entries are recorded from the left, so the last one is recorded into what the others leave.
  induction entries using List.reverseRecOn with
  | nil =>
      have hused : usedNames [] = ∅ := by ext name; simp [usedNames]
      have hpatterns : ExternalClasses.patterns [] = ∅ := by
        ext pattern
        simp [ExternalClasses.patterns]
      rw [hused, hpatterns]
      exact empty
  | append_singleton entries entry ih =>
      have hlast : ExternalClasses.recorded (entries ++ [entry])
          = (ExternalClasses.recorded entries).record entry := List.foldl_append
      rw [hlast]
      cases entry with
      | used name =>
          have hused : usedNames (entries ++ [.used name]) = insert name (usedNames entries) := by
            ext other
            simp [usedNames, or_comm]
          have hpatterns : ExternalClasses.patterns (entries ++ [.used name])
              = ExternalClasses.patterns entries := by
            ext pattern
            simp [ExternalClasses.patterns]
          rw [hused, hpatterns]
          exact ih.addUsed name
      | listed params =>
          have hused : usedNames (entries ++ [.listed params]) = usedNames entries := by
            ext other
            simp [usedNames]
          have hpatterns : ExternalClasses.patterns (entries ++ [.listed params])
              = ExternalClasses.patterns entries ∪ patternsOf (params.flatMap Value.tokens) := by
            ext pattern
            simp only [ExternalClasses.patterns, Set.mem_union, Set.mem_ofPred_eq, List.mem_append,
              List.mem_singleton, Entry.listed.injEq, or_and_right, exists_or, exists_eq_left]
          rw [hused, hpatterns, record, addDirective_eq]
          exact ih.addTokens _

/-- A record resolves to the classes that are meant. -/
theorem mem_resolve_iff (h : Records e used patterns) (name : String) :
    name ∈ e.resolve ↔ name ∈ resolution used patterns := by
  unfold resolve resolution
  by_cases heverything : e.everything = true
  · have hstar := h.everything_iff.mp heverything
    rw [if_pos heverything, h.used_iff]
    simp [hstar]
  · have hnot : e.everything = false := Bool.eq_false_iff.mpr heverything
    have hstar : "*" ∉ patterns := fun hmem => heverything (h.everything_iff.mpr hmem)
    have hstems : (e.stems.flatMap e.withStem).contains name = true ↔
        name ∈ used ∧ ∃ stem, stem ++ "*" ∈ patterns ∧ stem.toList <+: name.toList := by
      rw [List.contains_iff_mem, List.mem_flatMap]
      constructor
      · rintro ⟨stem, hstem, hname⟩
        rw [withStem_eq_filter, List.mem_filter, Std.ExtTreeSet.mem_toList, h.used_iff,
          List.isPrefixOf_iff_prefix] at hname
        exact ⟨hname.1, stem, (h.stems_iff hnot stem).mp hstem, hname.2⟩
      · rintro ⟨hused, stem, hstem, hstarts⟩
        refine ⟨stem, (h.stems_iff hnot stem).mpr hstem, ?_⟩
        rw [withStem_eq_filter, List.mem_filter, Std.ExtTreeSet.mem_toList, h.used_iff,
          List.isPrefixOf_iff_prefix]
        exact ⟨hused, hstarts⟩
    rw [if_neg heverything, Std.ExtTreeSet.mem_insertMany_list, h.listed_iff hnot, hstems]
    simp [hstar]

/-- Records of the same names and patterns resolve to the same classes. -/
theorem resolve_eq {other : ExternalClasses} (h : Records e used patterns)
    (hother : Records other used patterns) : other.resolve = e.resolve := by
  apply Std.ExtTreeSet.ext_mem
  intro name
  rw [h.mem_resolve_iff, hother.mem_resolve_iff]

end Records

/-! ## Resolution -/

/-- **Resolution does not depend on the order.** A record resolves to the classes that are meant by the
names in use and the patterns listed. So entries may be reordered and repeated, and the search by stem
finds what a test of every class in use finds. -/
theorem resolve_recorded (entries : List Entry) :
    (∀ name, name ∈ (recorded entries).resolve ↔
      name ∈ resolution (usedNames entries) (patterns entries)) ∧
    (∀ others : List Entry, (∀ entry, entry ∈ others ↔ entry ∈ entries) →
      (recorded others).resolve = (recorded entries).resolve) ∧
    (∀ stem, (recorded entries).withStem stem
      = (recorded entries).used.toList.filter fun name => stem.toList.isPrefixOf name.toList) := by
  have hrecords := Records.recorded entries
  refine ⟨hrecords.mem_resolve_iff, ?_, withStem_eq_filter _⟩
  intro others hsame
  -- the two sets are made of members of the list only
  have hused : usedNames others = usedNames entries := by
    ext name
    exact hsame (.used name)
  have hpatterns : patterns others = patterns entries := by
    ext pattern
    exact exists_congr fun params => and_congr_left' (hsame (.listed params))
  have hothers := Records.recorded others
  rw [hused, hpatterns] at hothers
  exact hrecords.resolve_eq hothers

/-- What is listed behind `*` is not recorded, and still the classes are the same. -/
theorem resolve_recorded_reordered :
    let first : List Entry := [.used "ab", .listed [.ident "a*"], .listed [.literal "'*'"]]
    let second : List Entry :=
      [.listed [.literal "'*'"], .used "ab", .listed [.ident "a*"], .used "ab"]
    (recorded first).stems = ["a"] ∧ (recorded second).stems = [] ∧
      (∀ entry, entry ∈ second ↔ entry ∈ first) ∧
      (recorded second).resolve = (recorded first).resolve := by
  intro first second
  have hsame : ∀ entry, entry ∈ second ↔ entry ∈ first := by
    intro entry
    simp only [first, second, List.mem_cons, List.not_mem_nil, or_false]
    tauto
  exact ⟨by decide +kernel, by decide +kernel, hsame, (resolve_recorded first).2.1 second hsame⟩

end ExternalClasses

end Restyle
