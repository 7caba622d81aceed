import Restyle.Proofs.Json.Spelling
import Mathlib.Data.List.Forall2

set_option autoImplicit false

/-! # All values that give the fields of a record

A record may be given by an object, with its members in any order and with other members among them, or
by the array of its fields, and fields may be left out. `Gives names entries value` says what a value
gives for each field of a record, and `Gives.fieldsOf_eq` that the decoder finds just that.

`Decodes decode value x` is the half of `Spells` that such values have in common: if the levels suffice
for `value`, it is decoded to `x`. What is given for an unknown field is passed over, so a record may be
decoded with fewer levels too.
-/

namespace Restyle.Json

/-! ## What a record is given by -/

/-- The members for the fields of a record that are given. -/
def given (names : List String) (entries : List (Option Json)) : List (String × Json) :=
  (names.zip entries).filterMap fun field => field.2.map fun value => (field.1, value)

/-- An object has a member for each field that is given, and else only members under other keys. -/
def GivesMembers (names : List String) (entries : List (Option Json))
    (members : List (String × Json)) : Prop :=
  ∃ extra : List (String × Json), (∀ member ∈ extra, member.1 ∉ names ∧ Usable member.2)
    ∧ members.Perm (given names entries ++ extra)

/-- A value gives `entries` for the fields of a record. In an array, fields can be left out at the end
only. -/
def Gives (names : List String) (entries : List (Option Json)) : Json → Prop
  | .object members => GivesMembers names entries members
  | .array items => ∃ left : Nat, entries = items.map some ++ List.replicate left none
  | _ => False

/-- A field that holds its default where it is left out, and else what `IsValue` tells. -/
def Defaulted (IsValue : Json → Prop) (isDefault : Prop) : Option Json → Prop
  | some value => IsValue value
  | none => isDefault

/-- A field for an optional text. -/
def OptionalText (text : Option String) : Option Json → Prop
  | none => text = none
  | some .null => text = none
  | some (.string s) => text = some s
  | some _ => False

/-- The array of values of which `Items` tells. -/
def InArray (Items : List Json → Prop) (value : Json) : Prop :=
  ∃ items, value = .array items ∧ Items items

/-! ## The members of an object -/

/-- The members under a key. -/
def under (key : String) (members : List (String × Json)) : List (String × Json) :=
  members.filter fun member => member.1 == key

theorem under_cons_self (key : String) (value : Json) (members : List (String × Json)) :
    under key ((key, value) :: members) = (key, value) :: under key members := by
  simp [under]

theorem under_cons_of_ne {key name : String} (h : name ≠ key) (value : Json)
    (members : List (String × Json)) : under key ((name, value) :: members) = under key members := by
  simp [under, h]

theorem under_append (key : String) (first second : List (String × Json)) :
    under key (first ++ second) = under key first ++ under key second := List.filter_append ..

theorem lookup_eq_under (key : String) (members : List (String × Json)) :
    members.lookup key = (under key members).head?.map Prod.snd := by
  induction members with
  | nil => rfl
  | cons member members ih =>
      obtain ⟨name, value⟩ := member
      by_cases h : name = key
      · subst h
        rw [under_cons_self, List.lookup_cons_self]
        rfl
      · have hkey : (key == name) = false := by simpa using fun h' : key = name => h h'.symm
        rw [under_cons_of_ne h, List.lookup_cons, hkey]
        exact ih

/-- Lists with at most one member are determined by their members. -/
theorem eq_of_perm_of_length_le_one {α : Type} {xs ys : List α} (h : xs.Perm ys)
    (hlength : ys.length ≤ 1) : xs = ys := by
  cases ys with
  | nil => exact h.eq_nil
  | cons y ys =>
      have hys : ys = [] := List.length_eq_zero_iff.mp (by simpa using hlength)
      subst hys
      exact List.perm_singleton.mp h

section Given

variable {names : List String} {entries : List (Option Json)} {members : List (String × Json)}

theorem mem_names_of_mem_given {name : String} {value : Json}
    (h : (name, value) ∈ given names entries) : name ∈ names ∧ some value ∈ entries := by
  obtain ⟨⟨other, entry⟩, hzip, hentry⟩ := List.mem_filterMap.mp h
  obtain ⟨found, rfl, heq⟩ := Option.map_eq_some_iff.mp hentry
  cases heq
  exact List.of_mem_zip hzip

theorem given_cons (name : String) (names : List String) (entry : Option Json)
    (entries : List (Option Json)) :
    given (name :: names) (entry :: entries)
      = (entry.map fun value => (name, value)).toList ++ given names entries := by
  cases entry with
  | none => rfl
  | some value => rfl

theorem under_given_of_notMem {name : String} (h : name ∉ names) :
    under name (given names entries) = [] := by
  rw [under, List.filter_eq_nil_iff]
  rintro ⟨other, value⟩ hmember hother
  have hname : other = name := by simpa using hother
  subst hname
  exact h (mem_names_of_mem_given hmember).1

/-- Under the name of a field stands what is given for it. -/
theorem map_under_given (hnames : names.Nodup) (hlength : entries.length = names.length) :
    names.map (fun name => (under name (given names entries)).map Prod.snd)
      = entries.map Option.toList := by
  induction names generalizing entries with
  | nil =>
      rw [List.length_eq_zero_iff.mp hlength]
      rfl
  | cons name names ih =>
      cases entries with
      | nil => cases hlength
      | cons entry entries =>
          obtain ⟨hname, hnames⟩ := List.nodup_cons.mp hnames
          have hrest := ih hnames (Nat.succ.inj hlength)
          have hfirst : (under name (given (name :: names) (entry :: entries))).map Prod.snd
              = entry.toList := by
            rw [given_cons, under_append, under_given_of_notMem hname, List.append_nil]
            cases entry with
            | none => rfl
            | some value => simp [under]
          -- The names are distinct, so the first entry is under none of the others.
          have hothers : ∀ other ∈ names,
              under other (given (name :: names) (entry :: entries))
                = under other (given names entries) := by
            intro other hother
            have hne : name ≠ other := by
              rintro rfl
              exact hname hother
            rw [given_cons]
            cases entry with
            | none => rfl
            | some value => exact under_cons_of_ne hne value _
          rw [List.map_cons, List.map_cons, hfirst, ← hrest]
          congr 1
          apply List.map_congr_left
          intro other hother
          rw [hothers other hother]

theorem length_under_given_le_one (hnames : names.Nodup) (hlength : entries.length = names.length)
    {name : String} (hname : name ∈ names) : (under name (given names entries)).length ≤ 1 := by
  have hmem : (under name (given names entries)).map Prod.snd ∈ entries.map Option.toList := by
    rw [← map_under_given hnames hlength]
    exact List.mem_map.mpr ⟨name, hname, rfl⟩
  obtain ⟨entry, -, hentry⟩ := List.mem_map.mp hmem
  have hone : entry.toList.length ≤ 1 := by cases entry <;> simp
  rwa [hentry, List.length_map] at hone

/-- Whatever the order of its members, an object has the same ones under the name of a field. -/
theorem GivesMembers.under_eq (hnames : names.Nodup) (hlength : entries.length = names.length)
    (h : GivesMembers names entries members) {name : String} (hname : name ∈ names) :
    under name members = under name (given names entries) := by
  obtain ⟨extra, hextra, hperm⟩ := h
  have hnone : under name extra = [] := by
    rw [under, List.filter_eq_nil_iff]
    rintro ⟨other, value⟩ hmember hother
    have heq : other = name := by simpa using hother
    subst heq
    exact (hextra _ hmember).1 hname
  have hunder : (under name members).Perm (under name (given names entries ++ extra)) :=
    hperm.filter _
  rw [under_append, hnone, List.append_nil] at hunder
  exact eq_of_perm_of_length_le_one hunder (length_under_given_le_one hnames hlength hname)

theorem GivesMembers.memberFields_eq (hnames : names.Nodup)
    (hlength : entries.length = names.length) (h : GivesMembers names entries members) :
    memberFields names members = some entries := by
  have hunder : ∀ name ∈ names, under name members = under name (given names entries) :=
    fun name hname => h.under_eq hnames hlength hname
  have hcounts : (names.all fun name => keyCount name members ≤ 1) = true := by
    rw [List.all_eq_true]
    intro name hname
    have hone := length_under_given_le_one hnames hlength hname
    rw [← hunder name hname] at hone
    exact decide_eq_true hone
  -- With one member under a name at most, the first one found is the only one.
  have hentries : names.map (fun name => members.lookup name) = entries := by
    have hheads := congrArg (List.map List.head?) (map_under_given hnames hlength)
    have hentry : ∀ entry : Option Json, entry.toList.head? = entry := by
      intro entry
      cases entry with
      | none => rfl
      | some value => rfl
    rw [List.map_map, List.map_map] at hheads
    calc names.map (fun name => members.lookup name)
        = names.map (fun name => ((under name (given names entries)).map Prod.snd).head?) := by
          apply List.map_congr_left
          intro name hname
          rw [lookup_eq_under, hunder name hname, List.head?_map]
      _ = entries.map fun entry => entry.toList.head? := hheads
      _ = entries := by simp only [hentry, List.map_id']
  rw [memberFields, if_pos hcounts, hentries]

theorem GivesMembers.mem (h : GivesMembers names entries members) {name : String} {value : Json}
    (hmember : (name, value) ∈ given names entries) : (name, value) ∈ members := by
  obtain ⟨extra, -, hperm⟩ := h
  exact hperm.mem_iff.mpr (List.mem_append_left _ hmember)

theorem exists_mem_given (hlength : entries.length = names.length) {value : Json}
    (h : some value ∈ entries) : ∃ name, (name, value) ∈ given names entries := by
  obtain ⟨i, hi, hvalue⟩ := List.getElem_of_mem h
  have hname : i < names.length := by omega
  refine ⟨names[i], List.mem_filterMap.mpr ⟨(names[i], some value), ?_, rfl⟩⟩
  have hzip : (names.zip entries)[i]? = some (names[i], some value) := by
    rw [List.getElem?_zip_eq_some]
    exact ⟨List.getElem?_eq_getElem hname, by rw [List.getElem?_eq_getElem hi, hvalue]⟩
  exact List.mem_of_getElem? hzip

end Given

/-! ## Depth and use -/

theorem depth_le_depthAll {item : Json} {items : List Json} (h : item ∈ items) :
    depth item ≤ depthAll items := by
  induction items with
  | nil => exact absurd h List.not_mem_nil
  | cons first items ih =>
      rw [depthAll]
      rcases List.mem_cons.mp h with rfl | hmem
      · exact Nat.le_max_left _ _
      · exact Nat.le_trans (ih hmem) (Nat.le_max_right _ _)

theorem depth_le_depthMembers {name : String} {value : Json} {members : List (String × Json)}
    (h : (name, value) ∈ members) : depth value ≤ depthMembers members := by
  induction members with
  | nil => exact absurd h List.not_mem_nil
  | cons first members ih =>
      obtain ⟨other, content⟩ := first
      rw [depthMembers]
      rcases List.mem_cons.mp h with heq | hmem
      · cases heq
        exact Nat.le_max_left _ _
      · exact Nat.le_trans (ih hmem) (Nat.le_max_right _ _)

theorem allUsable_iff (items : List Json) : AllUsable items ↔ ∀ item ∈ items, Usable item := by
  induction items with
  | nil => simp [AllUsable]
  | cons item items ih => simp [AllUsable, ih]

theorem membersUsable_iff (members : List (String × Json)) :
    MembersUsable members ↔ ∀ member ∈ members, Usable member.2 := by
  induction members with
  | nil => simp [MembersUsable]
  | cons member members ih => simp [MembersUsable, ih]

namespace Gives

variable {names : List String} {entries : List (Option Json)} {value : Json}

/-- The decoder finds what is given for each field. -/
theorem fieldsOf_eq (h : Gives names entries value) (hnames : names.Nodup)
    (hlength : entries.length = names.length) : fieldsOf names value = some entries := by
  cases value with
  | object members => exact GivesMembers.memberFields_eq hnames hlength h
  | array items =>
      obtain ⟨left, rfl⟩ := h
      rw [List.length_append, List.length_map, List.length_replicate] at hlength
      have hleft : names.length - items.length = left := by omega
      show itemFields names items = _
      rw [itemFields, if_pos (by omega), hleft]
  | _ => exact h.elim

/-- What is given for a field is nested less deep than the whole. -/
theorem depth_lt (h : Gives names entries value) (hlength : entries.length = names.length)
    {entry : Json} (hentry : some entry ∈ entries) : depth entry < depth value := by
  cases value with
  | object members =>
      obtain ⟨name, hgiven⟩ := exists_mem_given hlength hentry
      exact Nat.lt_succ_of_le (depth_le_depthMembers (GivesMembers.mem h hgiven))
  | array items =>
      obtain ⟨left, rfl⟩ := h
      have hitem : entry ∈ items := by
        rcases List.mem_append.mp hentry with hmem | hmem
        · obtain ⟨item, hitem, heq⟩ := List.mem_map.mp hmem
          cases heq
          exact hitem
        · cases (List.mem_replicate.mp hmem).2
      exact Nat.lt_succ_of_le (depth_le_depthAll hitem)
  | _ => exact h.elim

/-- A record is at least one level deep. -/
theorem depth_pos (h : Gives names entries value) : 0 < depth value := by
  cases value with
  | object members => exact Nat.succ_pos _
  | array items => exact Nat.succ_pos _
  | _ => exact h.elim

theorem usable (h : Gives names entries value) (hentries : ∀ entry, some entry ∈ entries → Usable entry) :
    Usable value := by
  cases value with
  | object members =>
      obtain ⟨extra, hextra, hperm⟩ := h
      refine (membersUsable_iff members).mpr ?_
      rintro ⟨name, content⟩ hmember
      rcases List.mem_append.mp (hperm.mem_iff.mp hmember) with hgiven | hmore
      · exact hentries content (mem_names_of_mem_given hgiven).2
      · exact (hextra _ hmore).2
  | array items =>
      obtain ⟨left, rfl⟩ := h
      refine (allUsable_iff items).mpr ?_
      intro item hitem
      exact hentries item (List.mem_append_left _ (List.mem_map.mpr ⟨item, hitem, rfl⟩))
  | _ => exact h.elim

/-- A record with a required field and an optional one. -/
theorem usable_pair {first : Json} {second : Option Json} (h : Gives names [some first, second] value)
    (hfirst : Usable first) (hsecond : ∀ entry, second = some entry → Usable entry) :
    Usable value := by
  apply h.usable
  intro entry hentry
  rcases List.mem_cons.mp hentry with heq | hmem
  · rwa [Option.some.inj heq]
  · exact hsecond entry (List.mem_singleton.mp hmem).symm

end Gives

/-! ## Decoding -/

/-- If the levels suffice for a value, decoding it gives `x`. -/
def Decodes {α : Type} (decode : Nat → Json → Option α) (value : Json) (x : α) : Prop :=
  ∀ levels, depth value ≤ levels → decode levels value = some x

theorem Spells.decodes {α : Type} {decode : Nat → Json → Option α} {value : Json} {x : α}
    (h : Spells decode value x) : Decodes decode value x := by
  intro levels hdepth
  rw [h levels, if_pos hdepth]

/-- An alternative is decoded by its tag and its content. -/
theorem Decodes.tagged {α β : Type} {decode : Nat → Json → Option β} {inner : Nat → Json → Option α}
    (make : α → β) {value content : Json} {x : α} (hvalue : depth content < depth value)
    (hsucc : ∀ levels, decode (levels + 1) value = (inner levels content).map make)
    (h : Decodes inner content x) : Decodes decode value (make x) := by
  intro levels hlevels
  cases levels with
  | zero => omega
  | succ levels =>
      rw [hsucc, h levels (by omega)]
      rfl

/-- A record is decoded from what is given for its fields. -/
theorem Decodes.record {α : Type} {names : List String} {entries : List (Option Json)} {value : Json}
    {fields : Nat → List (Option Json) → Option α} {x : α} (h : Gives names entries value)
    (hnames : names.Nodup) (hlength : entries.length = names.length)
    (hfields : ∀ levels, (∀ entry, some entry ∈ entries → depth entry ≤ levels) →
      fields levels entries = some x) : Decodes (record? names fields) value x := by
  intro levels hlevels
  have hpos := h.depth_pos
  cases levels with
  | zero => omega
  | succ levels =>
      rw [record?, h.fieldsOf_eq hnames hlength]
      refine hfields levels ?_
      intro entry hentry
      have hlt := h.depth_lt hlength hentry
      omega

theorem mapM_of_forall₂ {α : Type} {item : Nat → Json → Option α} {xs : List α} {items : List Json}
    (h : List.Forall₂ (fun x value => Decodes item value x) xs items) {levels : Nat}
    (hlevels : depthAll items ≤ levels) : items.mapM (item levels) = some xs := by
  induction h with
  | nil => rfl
  | @cons x value xs items hfirst _ ih =>
      rw [depthAll] at hlevels
      have hx := hfirst levels (by omega)
      have hxs := ih (by omega)
      simp [List.mapM_cons, hx, hxs]

theorem Decodes.list {α : Type} {item : Nat → Json → Option α} {xs : List α} {items : List Json}
    (h : List.Forall₂ (fun x value => Decodes item value x) xs items) :
    Decodes (list? item) (.array items) xs := by
  intro levels hlevels
  cases levels with
  | zero => simp at hlevels
  | succ levels =>
      rw [depth_array] at hlevels
      exact mapM_of_forall₂ h (by omega)

/-! ### Fields -/

variable {α : Type} {entry : Option Json}

theorem Defaulted.defaulting_eq {IsValue : Json → Prop} {isDefault : Prop}
    {decode : Json → Option α} {default x : α} (h : Defaulted IsValue isDefault entry)
    (hdefault : isDefault → x = default)
    (hvalue : ∀ value, entry = some value → IsValue value → decode value = some x) :
    defaulting default decode entry = some x := by
  cases entry with
  | none =>
      rw [hdefault h]
      rfl
  | some value => exact hvalue value rfl h

/-- A list that is empty by default. -/
theorem Defaulted.list_eq {Items : List Json → Prop} {item : Nat → Json → Option α} {xs : List α}
    (h : Defaulted (InArray Items) (xs = []) entry)
    (hitems : ∀ items, Items items → Decodes (list? item) (.array items) xs)
    {entries : List (Option Json)} (hentry : entry ∈ entries) {levels : Nat}
    (hlevels : ∀ value, some value ∈ entries → depth value ≤ levels) :
    defaulting [] (list? item levels) entry = some xs := by
  refine h.defaulting_eq id ?_
  rintro value rfl ⟨items, rfl, hall⟩
  exact hitems items hall levels (hlevels _ hentry)

/-- A truth value that has a default. -/
theorem Defaulted.bool_eq {b default : Bool} (h : Defaulted (· = .bool b) (b = default) entry) :
    defaulting default bool? entry = some b := by
  refine h.defaulting_eq id ?_
  rintro value - rfl
  rfl

theorem OptionalText.usable {text : Option String} {entry : Option Json} (h : OptionalText text entry) :
    ∀ value, entry = some value → Usable value := by
  rintro value rfl
  cases value with
  | null => trivial
  | string _ => trivial
  | _ => exact h.elim

theorem OptionalText.nullable_eq {text : Option String} (h : OptionalText text entry) :
    nullable string? entry = some text := by
  cases entry with
  | none =>
      rw [show text = none from h]
      rfl
  | some value =>
      cases value with
      | null =>
          rw [show text = none from h]
          rfl
      | string s =>
          rw [show text = some s from h]
          rfl
      | _ => exact h.elim

end Restyle.Json
