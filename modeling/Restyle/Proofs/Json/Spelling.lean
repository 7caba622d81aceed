import Restyle.Json.Fields
import Restyle.Proofs.Json.Nesting

set_option autoImplicit false

/-! # Values that spell something

A decoder that is given levels of nesting recognises a value if the levels suffice for the value, and
refuses it otherwise: `Spells decode value x` says that `value` spells `x` in this sense. The rules below
lead from the parts of lists and records to the whole.
-/

namespace Restyle.Json

/-! ## Legible values and depth -/

@[simp] theorem legible_string (s : String) : Legible (.string s) := trivial

@[simp] theorem legible_bool (b : Bool) : Legible (.bool b) := trivial

theorem allLegible_iff (items : List Json) : AllLegible items ↔ ∀ item ∈ items, Legible item := by
  induction items with
  | nil => simp [AllLegible]
  | cons item items ih => simp [AllLegible, ih]

theorem membersLegible_iff (members : List (String × Json)) :
    MembersLegible members ↔ ∀ member ∈ members, Legible member.2 := by
  induction members with
  | nil => simp [MembersLegible]
  | cons member members ih => simp [MembersLegible, ih]

@[simp] theorem legible_array (items : List Json) :
    Legible (.array items) ↔ ∀ item ∈ items, Legible item :=
  allLegible_iff items

@[simp] theorem legible_object (members : List (String × Json)) :
    Legible (.object members) ↔ ∀ member ∈ members, Legible member.2 :=
  membersLegible_iff members

@[simp] theorem depth_string (s : String) : depth (.string s) = 0 := rfl

@[simp] theorem depth_bool (b : Bool) : depth (.bool b) = 0 := rfl

@[simp] theorem depth_array (items : List Json) : depth (.array items) = depthAll items + 1 := rfl

@[simp] theorem depth_object (members : List (String × Json)) :
    depth (.object members) = depthMembers members + 1 :=
  rfl

@[simp] theorem depthMembers_cons (key : String) (value : Json) (members : List (String × Json)) :
    depthMembers ((key, value) :: members) = max (depth value) (depthMembers members) :=
  rfl

@[simp] theorem depthMembers_nil : depthMembers [] = 0 := rfl

mutual

/-- Whether nothing in a value is unusable. -/
def Usable : Json → Prop
  | .unusable => False
  | .array items => AllUsable items
  | .object members => MembersUsable members
  | _ => True

/-- Whether all values of a list are usable. -/
def AllUsable : List Json → Prop
  | [] => True
  | item :: rest => Usable item ∧ AllUsable rest

/-- Whether the values of all members are usable. -/
def MembersUsable : List (String × Json) → Prop
  | [] => True
  | (_, value) :: rest => Usable value ∧ MembersUsable rest

end

mutual

theorem Legible.usable : ∀ {value : Json}, Legible value → Usable value
  | .null, _ => trivial
  | .bool _, _ => trivial
  | .number _, _ => trivial
  | .string _, _ => trivial
  | .array _, h => AllLegible.usable h
  | .object _, h => MembersLegible.usable h
  | .unusable, h => h

theorem AllLegible.usable : ∀ {items : List Json}, AllLegible items → AllUsable items
  | [], _ => trivial
  | _ :: _, h => ⟨Legible.usable h.1, AllLegible.usable h.2⟩

theorem MembersLegible.usable : ∀ {members : List (String × Json)}, MembersLegible members →
    MembersUsable members
  | [], _ => trivial
  | (_, _) :: _, h => ⟨Legible.usable h.1, MembersLegible.usable h.2⟩

end

mutual

/-- A usable value can be read whole if the levels suffice for it. -/
theorem Usable.usableWithin_iff : ∀ {value : Json} (levels : Nat), Usable value →
    (usableWithin levels value = true ↔ depth value ≤ levels)
  | .null, levels, _ => by simp [usableWithin, depth]
  | .bool _, levels, _ => by simp [usableWithin]
  | .number _, levels, _ => by simp [usableWithin, depth]
  | .string _, levels, _ => by simp [usableWithin]
  | .array items, 0, _ => by simp [usableWithin]
  | .array items, levels + 1, h => by
      rw [usableWithin, AllUsable.usableWithin_iff levels h, depth]
      omega
  | .object members, 0, _ => by simp [usableWithin]
  | .object members, levels + 1, h => by
      rw [usableWithin, MembersUsable.usableWithin_iff levels h, depth]
      omega
  | .unusable, _, h => h.elim

theorem AllUsable.usableWithin_iff : ∀ {items : List Json} (levels : Nat), AllUsable items →
    (allUsableWithin levels items = true ↔ depthAll items ≤ levels)
  | [], levels, _ => by simp [allUsableWithin, depthAll]
  | item :: items, levels, h => by
      rw [allUsableWithin, Bool.and_eq_true, Usable.usableWithin_iff levels h.1,
        AllUsable.usableWithin_iff levels h.2, depthAll]
      omega

theorem MembersUsable.usableWithin_iff : ∀ {members : List (String × Json)} (levels : Nat),
    MembersUsable members → (membersUsableWithin levels members = true ↔ depthMembers members ≤ levels)
  | [], levels, _ => by simp [membersUsableWithin]
  | (key, value) :: members, levels, h => by
      rw [membersUsableWithin, Bool.and_eq_true, Usable.usableWithin_iff levels h.1,
        MembersUsable.usableWithin_iff levels h.2, depthMembers]
      omega

end

/-- A legible value can be read whole if the levels suffice for it. -/
theorem usableWithin_iff (value : Json) (levels : Nat) (h : Legible value) :
    usableWithin levels value = true ↔ depth value ≤ levels := h.usable.usableWithin_iff levels

/-! ## Spelling -/

/-- A value spells `x`: decoding it gives `x` if the levels suffice for it, and nothing otherwise. -/
def Spells {α : Type} (decode : Nat → Json → Option α) (value : Json) (x : α) : Prop :=
  ∀ levels, decode levels value = if depth value ≤ levels then some x else none

theorem spells_string (s : String) : Spells (fun _ => string?) (.string s) s := fun _ => rfl

theorem spells_bool (b : Bool) : Spells (fun _ => bool?) (.bool b) b := fun _ => rfl

/-- Nothing more has to be decoded. -/
theorem some_within {α : Type} (levels : Nat) (x : α) :
    some x = if 0 ≤ levels then some x else none :=
  rfl

/-- One part after the other: the levels have to suffice for each of them. -/
theorem bind_within {α β : Type} {levels n m : Nat} {first : Option α} {rest : α → Option β} {x : α}
    {y : β} (hfirst : first = if n ≤ levels then some x else none)
    (hrest : rest x = if m ≤ levels then some y else none) :
    first >>= rest = if max n m ≤ levels then some y else none := by
  rw [hfirst]
  by_cases hn : n ≤ levels
  · rw [if_pos hn]
    show rest x = _
    rw [hrest]
    by_cases hm : m ≤ levels
    · rw [if_pos hm, if_pos (Nat.max_le.mpr ⟨hn, hm⟩)]
    · rw [if_neg hm, if_neg fun h => hm (Nat.max_le.mp h).2]
  · rw [if_neg hn, if_neg fun h => hn (Nat.max_le.mp h).1]
    rfl

/-! ### Lists -/

theorem mapM_spells {α β : Type} {item : Nat → Json → Option α} {f : β → Json} {g : β → α}
    {xs : List β} (h : ∀ x ∈ xs, Spells item (f x) (g x)) (levels : Nat) :
    (xs.map f).mapM (item levels) =
      if depthAll (xs.map f) ≤ levels then some (xs.map g) else none := by
  induction xs with
  | nil => exact some_within levels []
  | cons x xs ih =>
      have hx := h x List.mem_cons_self levels
      have hxs := ih fun y hy => h y (List.mem_cons_of_mem _ hy)
      have hrest : ((xs.map f).mapM (item levels) >>= fun ys => pure (g x :: ys)) =
          if max (depthAll (xs.map f)) 0 ≤ levels then some (g x :: xs.map g) else none :=
        bind_within hxs (some_within levels _)
      rw [Nat.max_zero] at hrest
      rw [List.map_cons, List.mapM_cons, List.map_cons]
      exact bind_within hx hrest

/-- A list is spelled by the array of the spellings of its items. -/
theorem spells_list {α β : Type} {item : Nat → Json → Option α} {f : β → Json} {g : β → α}
    {xs : List β} (h : ∀ x ∈ xs, Spells item (f x) (g x)) :
    Spells (list? item) (.array (xs.map f)) (xs.map g) := by
  intro levels
  cases levels with
  | zero => simp [list?]
  | succ levels => simp [list?, mapM_spells h]

theorem spells_list_self {α : Type} {item : Nat → Json → Option α} {f : α → Json} {xs : List α}
    (h : ∀ x ∈ xs, Spells item (f x) x) : Spells (list? item) (.array (xs.map f)) xs := by
  have hlist : Spells (list? item) (.array (xs.map f)) (xs.map id) := spells_list h
  rwa [List.map_id] at hlist

/-! ### Records -/

/-- A value that is read whole before it is decoded. -/
theorem ite_usableWithin {α : Type} {value : Json} (hlegible : Legible value) {levels : Nat}
    {result : Option α} {x : α} (h : depth value ≤ levels → result = some x) :
    (if usableWithin levels value then result else none) =
      if depth value ≤ levels then some x else none := by
  by_cases hdepth : depth value ≤ levels
  · rw [if_pos hdepth, if_pos ((usableWithin_iff value levels hlegible).mpr hdepth), h hdepth]
  · rw [if_neg hdepth, if_neg fun h => hdepth ((usableWithin_iff value levels hlegible).mp h)]

/-- An object that gives no key twice gives each field what it has under its name. -/
theorem memberFields_of_nodup (names : List String) {members : List (String × Json)}
    (h : (members.map Prod.fst).Nodup) :
    memberFields names members = some (names.map fun name => members.lookup name) := by
  have hcount : ∀ name, keyCount name members ≤ 1 := by
    intro name
    have : keyCount name members = (members.map Prod.fst).count name := by
      rw [keyCount, List.count_eq_length_filter, List.filter_map, List.length_map]
      rfl
    rw [this]
    exact List.nodup_iff_count.mp h name
  rw [memberFields, if_pos]
  simp [hcount]

/-- A record is spelled by the object of its fields. -/
theorem spells_record {α : Type} {names : List String} {fields : Nat → List (Option Json) → Option α}
    {members : List (String × Json)} {x : α} (hkeys : (members.map Prod.fst).Nodup)
    (h : ∀ levels, fields levels (names.map fun name => members.lookup name) =
      if depthMembers members ≤ levels then some x else none) :
    Spells (record? names fields) (.object members) x := by
  intro levels
  cases levels with
  | zero => simp [record?]
  | succ levels => simp [record?, fieldsOf, memberFields_of_nodup names hkeys, h]

end Restyle.Json
