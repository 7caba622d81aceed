import Restyle.Proofs.Constant.Naming

set_option autoImplicit false

/-! # Collisions of derived names

Where a table can be derived, it is determined by the keys that are declared
(`NameTable.ofConstants_eq_ok_iff`), so the order of the declarations and their repetitions leave no
trace in it. Where it cannot, the collision that is reported depends on the order: it is the earliest
declaration whose name belongs to another key before it (`Constant.FirstCollision`). The keys before that
declaration have all been named, and therefore only one of them has the name.
-/

namespace Restyle

/-! ## The collision that is reported -/

namespace Constant

/-- The name of `decl` belongs to another key that is declared before it. -/
def Meets (before : List Constant) (decl : Constant) : Prop :=
  ∃ other ∈ before, other.key ≠ decl.key ∧ upperSnake other.key = upperSnake decl.key

/-- `second` is declared by the earliest declaration whose name belongs to another key before it, and
`first` is the only key before that declaration with the name. -/
def FirstCollision (decls : List Constant) (first second name : String) : Prop :=
  ∃ before decl after, decls = before ++ decl :: after ∧ decl.key = second ∧
    upperSnake decl.key = name ∧ Meets before decl ∧
    (∀ earlier other later, before = earlier ++ other :: later → ¬ Meets earlier other) ∧
    first ∈ before.map (·.key) ∧ first ≠ second ∧ upperSnake first = name ∧
    ∀ key ∈ before.map (·.key), upperSnake key = name → key = first

theorem Meets.clash {earlier : List Constant} {other : Constant} (h : Meets earlier other)
    (later : List Constant) : Clash (earlier ++ other :: later) := by
  obtain ⟨owner, howner, hne, hname⟩ := h
  refine ⟨owner, ?_, other, ?_, hne, hname⟩
  · exact List.mem_append_left _ howner
  · exact List.mem_append_right _ List.mem_cons_self

/-- Whether declarations clash is a matter of their keys. -/
theorem Clash.of_keys {decls others : List Constant}
    (hkeys : ∀ key, key ∈ decls.map (·.key) → key ∈ others.map (·.key)) (h : Clash decls) :
    Clash others := by
  obtain ⟨first, hfirst, second, hsecond, hne, hname⟩ := h
  obtain ⟨first', hfirst', hkey⟩ := List.mem_map.mp (hkeys _ (List.mem_map_of_mem hfirst))
  obtain ⟨second', hsecond', hkey'⟩ := List.mem_map.mp (hkeys _ (List.mem_map_of_mem hsecond))
  rw [← hkey, ← hkey'] at hne hname
  exact ⟨first', hfirst', second', hsecond', hne, hname⟩

end Constant

namespace NameTable

/-- A derivation that fails reports the first collision. -/
theorem firstCollision_of_error {decls : List Constant} {e : ConversionError}
    (h : ofConstants decls = .error e) :
    ∃ first second name, e = .nameCollision first second name ∧
      Constant.FirstCollision decls first second name := by
  unfold ofConstants at h
  rcases Naming.Names.empty.addAll decls with ⟨next, hnext, -⟩ |
    ⟨before, decl, after, first, rfl, ⟨reached, hreached⟩, hfirst, hne, hname, herror⟩
  · rw [hnext] at h
    cases h
  · rw [herror] at h
    cases h
    rw [List.nil_append] at hreached hfirst
    refine ⟨first, decl.key, upperSnake decl.key, rfl, before, decl, after, rfl, rfl, rfl, ?_, ?_,
      hfirst, hne, hname, ?_⟩
    · obtain ⟨owner, howner, rfl⟩ := List.mem_map.mp hfirst
      exact ⟨owner, howner, hne, hname⟩
    · -- the declarations before it have all been named
      rintro earlier other later rfl hmeets
      exact hreached.not_clash (hmeets.clash later)
    · intro key hkey hsame
      exact hreached.eq_of_upperSnake_eq hkey hfirst (hsame.trans hname.symm)

/-! ## The table that is derived -/

/-- A table can be derived exactly from declarations that do not clash, and then it is the one that gives
each declared key its upper snake case name. -/
theorem ofConstants_eq_ok_iff (decls : List Constant) (table : NameTable) :
    ofConstants decls = .ok table ↔
      ¬ Constant.Clash decls ∧
        ∀ key, table[key]? = if key ∈ decls.map (·.key) then some (upperSnake key) else none := by
  rcases ofConstants_cases decls with ⟨hdistinct, derived, hderived⟩ | ⟨hclash, _, _, _, herror⟩
  · have hentries := getElem?_of_ofConstants hderived
    rw [hderived, Except.ok.injEq]
    constructor
    · rintro rfl
      exact ⟨hdistinct, hentries⟩
    · rintro ⟨-, htable⟩
      apply Std.ExtTreeMap.ext_getElem?
      intro key
      rw [hentries, htable]
  · simp [herror, hclash]

/-- Declarations of the same keys lead to the same table. -/
theorem ofConstants_eq_ok_congr {decls others : List Constant}
    (hkeys : ∀ key, key ∈ others.map (·.key) ↔ key ∈ decls.map (·.key)) (table : NameTable) :
    ofConstants others = .ok table ↔ ofConstants decls = .ok table := by
  have hclash : Constant.Clash others ↔ Constant.Clash decls :=
    ⟨.of_keys fun key => (hkeys key).mp, .of_keys fun key => (hkeys key).mpr⟩
  simp only [ofConstants_eq_ok_iff, hclash, hkeys]

/-- In a derived table no two keys have the same name. -/
theorem eq_of_getElem?_eq_some {decls : List Constant} {table : NameTable}
    (h : ofConstants decls = .ok table) {key other name : String} (hkey : table[key]? = some name)
    (hother : table[other]? = some name) : key = other := by
  obtain ⟨hdistinct, hentries⟩ := (ofConstants_eq_ok_iff decls table).mp h
  rw [hentries] at hkey hother
  obtain ⟨hkey, hname⟩ := Option.ite_none_right_eq_some.mp hkey
  obtain ⟨hother, hsame⟩ := Option.ite_none_right_eq_some.mp hother
  obtain ⟨first, hfirst, rfl⟩ := List.mem_map.mp hkey
  obtain ⟨second, hsecond, rfl⟩ := List.mem_map.mp hother
  by_contra hne
  exact hdistinct ⟨first, hfirst, second, hsecond, hne, Option.some.inj (hname.trans hsame.symm)⟩

/-- **Derived names are distinct, or the first collision is reported.** A table is derived exactly if no
two keys lead to the same name. It holds the declared keys, each with its own name, whatever the order of
the declarations and however often they are repeated. -/
theorem ofConstants_distinguishes (decls : List Constant) :
    ((∃ table, ofConstants decls = .ok table) ↔
      ¬ ∃ first ∈ decls, ∃ second ∈ decls,
        first.key ≠ second.key ∧ upperSnake first.key = upperSnake second.key) ∧
    (∀ table, ofConstants decls = .ok table →
      (∀ key, key ∈ table ↔ key ∈ decls.map (·.key)) ∧
      (∀ key ∈ decls.map (·.key), table[key]? = some (upperSnake key)) ∧
      ∀ key other name : String, table[key]? = some name → table[other]? = some name →
        key = other) ∧
    (∀ e, ofConstants decls = .error e →
      ∃ first second name, e = .nameCollision first second name ∧
        Constant.FirstCollision decls first second name) ∧
    ∀ others, (∀ key, key ∈ List.map Constant.key others ↔ key ∈ decls.map (·.key)) →
      ∀ table, ofConstants others = .ok table ↔ ofConstants decls = .ok table := by
  refine ⟨?_, ?_, fun e => firstCollision_of_error, fun others => ofConstants_eq_ok_congr⟩
  · rcases ofConstants_cases decls with ⟨hdistinct, table, htable⟩ | ⟨hclash, _, _, _, herror⟩
    · exact ⟨fun _ => hdistinct, fun _ => ⟨table, htable⟩⟩
    · refine ⟨?_, fun hdistinct => absurd hclash hdistinct⟩
      rintro ⟨table, htable⟩
      rw [herror] at htable
      cases htable
  · intro table htable
    have hentries := getElem?_of_ofConstants htable
    refine ⟨?_, ?_, fun key other name => eq_of_getElem?_eq_some htable⟩
    · intro key
      rw [Std.ExtTreeMap.mem_iff_isSome_getElem?, hentries]
      by_cases hkey : key ∈ decls.map (·.key)
      · simp [hkey]
      · simp [hkey]
    · intro key hkey
      rw [hentries, if_pos hkey]

/-- Two keys with one name among four, and a table that does not depend on order and repetition. -/
theorem ofConstants_distinguishes_colors :
    let declare : List String → List Constant := List.map fun key => ⟨.plain, key, []⟩
    ofConstants (declare ["width", "myColor", "width", "my-color", "MY_COLOR"])
        = .error (.nameCollision "myColor" "my-color" "MY_COLOR") ∧
      Constant.FirstCollision (declare ["width", "myColor", "width", "my-color", "MY_COLOR"])
        "myColor" "my-color" "MY_COLOR" ∧
      ∃ table, ofConstants (declare ["width", "myColor"]) = .ok table ∧
        table["myColor"]? = some "MY_COLOR" ∧
        ofConstants (declare ["myColor", "width", "myColor"]) = .ok table := by
  intro declare
  have herror : ofConstants (declare ["width", "myColor", "width", "my-color", "MY_COLOR"])
      = .error (.nameCollision "myColor" "my-color" "MY_COLOR") := by rfl
  obtain ⟨-, -, hcollision, -⟩ :=
    ofConstants_distinguishes (declare ["width", "myColor", "width", "my-color", "MY_COLOR"])
  obtain ⟨first, second, name, heq, hfirst⟩ := hcollision _ herror
  cases heq
  obtain ⟨hsuccess, htables, -, hreordered⟩ :=
    ofConstants_distinguishes (declare ["width", "myColor"])
  obtain ⟨table, htable⟩ := hsuccess.mpr (by decide +kernel)
  have hname := (htables table htable).2.1 "myColor" (by decide)
  refine ⟨herror, hfirst, table, htable, ?_, (hreordered _ ?_ table).mpr htable⟩
  · rw [hname]
    decide +kernel
  · intro key
    show key ∈ ["myColor", "width", "myColor"] ↔ key ∈ ["width", "myColor"]
    simp only [List.mem_cons, List.not_mem_nil, or_false]
    tauto

end NameTable

end Restyle
