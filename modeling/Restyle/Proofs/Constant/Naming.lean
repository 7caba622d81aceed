import Restyle.Constant.NameTable
import Mathlib.Tactic.Common

set_option autoImplicit false

/-! # Derived names

A table is derived key by key, with the owner of each name beside it. `Naming.Names` says what such a
table and its owners hold after some keys: every key its own name, and every name one owner. One more
key either keeps that or meets the owner of its name (`Names.add`), and so does a list of declarations
(`Names.addAll`): it leads to a table, or to a declaration whose name has another owner before it.
-/

namespace Restyle

namespace Naming

/-- The keys that have been named. Each has its own name, and each name has its key as owner. -/
structure Names (naming : Naming) (keys : List String) : Prop where
  table_eq : ∀ key, naming.table[key]? = if key ∈ keys then some (upperSnake key) else none
  owners_iff : ∀ name key, naming.owners[name]? = some key ↔ key ∈ keys ∧ upperSnake key = name

namespace Names

variable {naming : Naming} {keys : List String}

theorem empty : Names .empty [] where
  table_eq key := by simp [Naming.empty]
  owners_iff name key := by simp [Naming.empty]

/-- No two keys share a name. -/
theorem eq_of_upperSnake_eq (h : Names naming keys) {first second : String} (hfirst : first ∈ keys)
    (hsecond : second ∈ keys) (heq : upperSnake first = upperSnake second) : first = second := by
  have hone := (h.owners_iff (upperSnake second) first).mpr ⟨hfirst, heq⟩
  have htwo := (h.owners_iff (upperSnake second) second).mpr ⟨hsecond, rfl⟩
  rw [hone] at htwo
  exact Option.some.inj htwo

theorem contains_iff (h : Names naming keys) (key : String) :
    naming.table.contains key = true ↔ key ∈ keys := by
  rw [Std.ExtTreeMap.contains_eq_isSome_getElem?, h.table_eq]
  by_cases hkey : key ∈ keys
  · simp [hkey]
  · simp [hkey]

/-- Only the members of the list matter. -/
theorem congr {others : List String} (h : Names naming keys)
    (hsame : ∀ key, key ∈ others ↔ key ∈ keys) : Names naming others where
  table_eq key := by simp only [h.table_eq, hsame]
  owners_iff name key := by rw [h.owners_iff, hsame]

/-- A key whose name has no owner is named. -/
theorem insert (h : Names naming keys) {key : String} (hkey : key ∉ keys)
    (hfree : naming.owners[upperSnake key]? = none) :
    Names ⟨naming.table.insert key (upperSnake key), naming.owners.insert (upperSnake key) key⟩
      (keys ++ [key]) where
  table_eq other := by
    simp only [Std.ExtTreeMap.getElem?_insert, Std.LawfulEqCmp.compare_eq_iff_eq, h.table_eq]
    by_cases heq : key = other
    · subst heq
      simp
    · simp [heq, Ne.symm heq]
  owners_iff name other := by
    simp only [Std.ExtTreeMap.getElem?_insert, Std.LawfulEqCmp.compare_eq_iff_eq, List.mem_append,
      List.mem_singleton]
    by_cases hname : upperSnake key = name
    · -- nobody owned the name before
      subst hname
      have hnone : ∀ other ∈ keys, upperSnake other ≠ upperSnake key := by
        intro other hother heq
        have howner := (h.owners_iff (upperSnake key) other).mpr ⟨hother, heq⟩
        rw [hfree] at howner
        cases howner
      rw [if_pos rfl, Option.some.injEq]
      constructor
      · rintro rfl
        exact ⟨Or.inr rfl, rfl⟩
      · rintro ⟨hother | rfl, heq⟩
        · exact absurd heq (hnone other hother)
        · rfl
    · rw [if_neg hname, h.owners_iff]
      constructor
      · rintro ⟨hother, heq⟩
        exact ⟨Or.inl hother, heq⟩
      · rintro ⟨hother | rfl, heq⟩
        · exact ⟨hother, heq⟩
        · exact absurd heq hname

/-- One more key is named, or its name belongs to another key. -/
theorem add (h : Names naming keys) (key : String) :
    (∃ next, naming.add key = .ok next ∧ Names next (keys ++ [key])) ∨
    (∃ first ∈ keys, first ≠ key ∧ upperSnake first = upperSnake key ∧
      naming.add key = .error (.nameCollision first key (upperSnake key))) := by
  unfold Naming.add
  by_cases hkey : key ∈ keys
  · left
    rw [if_pos ((h.contains_iff key).mpr hkey)]
    refine ⟨naming, rfl, h.congr ?_⟩
    intro other
    rw [List.mem_append, List.mem_singleton]
    exact ⟨fun hother => hother.elim id fun heq => heq ▸ hkey, Or.inl⟩
  · rw [if_neg fun hcontains => hkey ((h.contains_iff key).mp hcontains)]
    cases howner : naming.owners[upperSnake key]? with
    | none => exact Or.inl ⟨_, rfl, h.insert hkey howner⟩
    | some first =>
        obtain ⟨hfirst, hname⟩ := (h.owners_iff _ first).mp howner
        have hne : first ≠ key := fun heq => hkey (heq ▸ hfirst)
        exact Or.inr ⟨first, hfirst, hne, hname, rfl⟩

/-- Declarations are named one after the other, up to one whose name belongs to an earlier key. -/
theorem addAll (h : Names naming keys) (decls : List Constant) :
    (∃ next, naming.addAll decls = .ok next ∧ Names next (keys ++ decls.map (·.key))) ∨
    (∃ before decl after first, decls = before ++ decl :: after ∧
      (∃ reached, Names reached (keys ++ before.map (·.key))) ∧
      first ∈ keys ++ before.map (·.key) ∧ first ≠ decl.key ∧
      upperSnake first = upperSnake decl.key ∧
      naming.addAll decls
        = .error (.nameCollision first decl.key (upperSnake decl.key))) := by
  induction decls generalizing naming keys with
  | nil =>
      left
      refine ⟨naming, rfl, ?_⟩
      rw [List.map_nil, List.append_nil]
      exact h
  | cons decl rest ih =>
      rcases h.add decl.key with ⟨next, hnext, hnames⟩ | ⟨first, hfirst, hne, hname, herror⟩
      · have hstep : naming.addAll (decl :: rest) = next.addAll rest := by
          rw [Naming.addAll, hnext]
        rw [hstep]
        rcases ih hnames with ⟨last, hlast, hall⟩ |
          ⟨before, clash, after, first, rfl, ⟨reached, hreached⟩, hfirst, hne, hname, herror⟩
        · left
          refine ⟨last, hlast, ?_⟩
          rw [List.map_cons, List.append_cons]
          exact hall
        · -- The first clash of the rest is the first of all, since `decl` has been named.
          right
          rw [← List.append_cons] at hreached hfirst
          exact ⟨decl :: before, clash, after, first, rfl, ⟨reached, hreached⟩, hfirst, hne, hname,
            herror⟩
      · right
        have hstep : naming.addAll (decl :: rest)
            = .error (.nameCollision first decl.key (upperSnake decl.key)) := by
          rw [Naming.addAll, herror]
        have hreached : Names naming (keys ++ [].map Constant.key) := by
          rw [List.map_nil, List.append_nil]
          exact h
        exact ⟨[], decl, rest, first, rfl, ⟨naming, hreached⟩, List.mem_append_left _ hfirst, hne,
          hname, hstep⟩

end Names

end Naming

/-! ## Tables -/

/-- Two declarations of different keys that lead to the same name. -/
def Constant.Clash (decls : List Constant) : Prop :=
  ∃ first ∈ decls, ∃ second ∈ decls,
    first.key ≠ second.key ∧ upperSnake first.key = upperSnake second.key

/-- Declarations that have been named do not clash. -/
theorem Naming.Names.not_clash {naming : Naming} {decls : List Constant}
    (h : naming.Names (decls.map (·.key))) : ¬ Constant.Clash decls := by
  rintro ⟨first, hfirst, second, hsecond, hne, hname⟩
  exact hne (h.eq_of_upperSnake_eq (List.mem_map_of_mem hfirst) (List.mem_map_of_mem hsecond) hname)

namespace NameTable

/-- A derived table gives every declared key its upper snake case name, and other keys none. -/
theorem getElem?_of_ofConstants {decls : List Constant} {table : NameTable}
    (h : ofConstants decls = .ok table) (key : String) :
    table[key]? = if key ∈ decls.map (·.key) then some (upperSnake key) else none := by
  unfold ofConstants at h
  rcases Naming.Names.empty.addAll decls with ⟨next, hnext, hnames⟩ |
    ⟨before, decl, after, first, -, -, -, -, -, herror⟩
  · rw [hnext] at h
    cases h
    exact hnames.table_eq key
  · rw [herror] at h
    cases h

/-- A table can be derived unless two keys clash; then the clash is reported. -/
theorem ofConstants_cases (decls : List Constant) :
    (¬ Constant.Clash decls ∧ ∃ table, ofConstants decls = .ok table) ∨
    (Constant.Clash decls ∧
      ∃ first second name, ofConstants decls = .error (.nameCollision first second name)) := by
  unfold ofConstants
  rcases Naming.Names.empty.addAll decls with ⟨next, hnext, hnames⟩ |
    ⟨before, decl, after, first, rfl, -, hfirst, hne, hname, herror⟩
  · left
    rw [hnext]
    exact ⟨hnames.not_clash, next.table, rfl⟩
  · right
    rw [herror]
    obtain ⟨other, hother, rfl⟩ := List.mem_map.mp hfirst
    refine ⟨⟨other, ?_, decl, ?_, hne, hname⟩, _, _, _, rfl⟩
    · exact List.mem_append_left _ hother
    · exact List.mem_append_right _ List.mem_cons_self

end NameTable

end Restyle
