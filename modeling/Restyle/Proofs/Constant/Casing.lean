import Restyle.Constant.UpperSnake
import Mathlib.Data.Bool.AllAny
import Mathlib.Tactic.Common

set_option autoImplicit false

/-! # Names in upper snake case from keys of letters and digits

A key of ASCII letters, digits, `-` and `_` leads to a name in upper snake case. The name is derived
character by character: each leads to its upper case or to `_`, and a `_` may stand before it
(`snakeChar_eq`). What was before the character decides on that `_` only, so that it does not matter for
what the name is made of, nor for what is left of it without its `_`.

A key that is in upper snake case already is taken over as it is, without a look at its characters. A
derived name is of this kind (`isUpperSnake_upperSnake`), which is why deriving a name from it again
changes nothing, although `snakeChars` alone would put further `_` into `A1B`.
-/

namespace Restyle

/-! ## ASCII letters and digits -/

namespace Text

/-- A property of the ASCII characters, checked for one after the other. -/
theorem forall_ascii {P : Char → Prop} (h : ∀ n < 128, P (Char.ofNat n)) {c : Char}
    (hc : isAscii c = true) : P c := by
  have hcode := h c.toNat (of_decide_eq_true hc)
  rwa [Char.ofNat_toNat] at hcode

theorem isAscii_of_isAlphanum {c : Char} (h : c.isAlphanum = true) : isAscii c = true := by
  have hclass : ((c.isUpper || c.isLower) || c.isDigit) = true := h
  have hcode : c.toNat = c.val.toNat := rfl
  have hlast : c.val.toNat ≤ 122 := by
    rw [Bool.or_eq_true, Bool.or_eq_true] at hclass
    rcases hclass with (hupper | hlower) | hdigit
    · have hle : c.val.toNat ≤ 90 := UInt32.le_iff_toNat_le.mp (of_decide_eq_true hupper).2
      omega
    · have hrange : (decide ('a'.val ≤ c.val) && decide (c.val ≤ 'z'.val)) = true := hlower
      exact UInt32.le_iff_toNat_le.mp (of_decide_eq_true (Bool.and_eq_true_iff.mp hrange).2)
    · have hle : c.toNat ≤ 57 := (Char.isDigit_iff_toNat.mp hdigit).2
      omega
  apply decide_eq_true
  omega

end Text

/-- A character that keys of this kind are made of. -/
def IsKeyChar (c : Char) : Prop := c.isAlphanum = true ∨ c = '-' ∨ c = '_'

instance (c : Char) : Decidable (IsKeyChar c) :=
  inferInstanceAs (Decidable (c.isAlphanum = true ∨ c = '-' ∨ c = '_'))

theorem IsKeyChar.isAscii {c : Char} (h : IsKeyChar c) : Text.isAscii c = true := by
  rcases h with h | rfl | rfl
  · exact Text.isAscii_of_isAlphanum h
  · decide
  · decide

theorem isUpperSnakeChar_iff {c : Char} :
    isUpperSnakeChar c = true ↔ c.isUpper = true ∨ c.isDigit = true ∨ c = '_' := by
  rw [isUpperSnakeChar, Bool.or_eq_true, Bool.or_eq_true, beq_iff_eq, or_assoc]

/-! ## One character -/

theorem IsKeyChar.isUpperSnakeChar_toUpper {c : Char} (h : IsKeyChar c) (hdash : c ≠ '-') :
    isUpperSnakeChar c.toUpper = true := by
  have hall : ∀ n < 128, IsKeyChar (Char.ofNat n) → Char.ofNat n ≠ '-' →
      isUpperSnakeChar (Char.ofNat n).toUpper = true := by decide +kernel
  exact Text.forall_ascii (P := fun c => IsKeyChar c → c ≠ '-' → isUpperSnakeChar c.toUpper = true)
    hall h.isAscii h hdash

/-- Upper case letters, digits and `_` are their own upper case. -/
theorem IsKeyChar.toUpper_eq_self {c : Char} (h : IsKeyChar c) (hupper : isUpperSnakeChar c = true) :
    c.toUpper = c := by
  have hall : ∀ n < 128, isUpperSnakeChar (Char.ofNat n) = true →
      (Char.ofNat n).toUpper = Char.ofNat n := by decide +kernel
  exact Text.forall_ascii (P := fun c => isUpperSnakeChar c = true → c.toUpper = c) hall h.isAscii hupper

theorem ne_dash_of_isUpperSnakeChar {c : Char} (h : isUpperSnakeChar c = true) : c ≠ '-' := by
  rintro rfl
  exact absurd h (by decide)

/-- A character leads to its upper case, possibly behind a `_`, and a dash leads to `_`. -/
theorem snakeChar_eq {c : Char} (h : IsKeyChar c) (before : Option Char) :
    snakeChar before c
      = if c = '-' then ['_'] else if startsWord before c then ['_', c.toUpper] else [c.toUpper] := by
  have hupcase : Text.upcase c = [c.toUpper] := if_pos h.isAscii
  unfold snakeChar
  simp only [hupcase, beq_iff_eq]

theorem isUpperSnakeChar_of_mem_snakeChar {c d : Char} (h : IsKeyChar c) {before : Option Char}
    (hd : d ∈ snakeChar before c) : isUpperSnakeChar d = true := by
  rw [snakeChar_eq h] at hd
  by_cases hdash : c = '-'
  · rw [if_pos hdash, List.mem_singleton] at hd
    subst hd
    decide
  · have hupper := h.isUpperSnakeChar_toUpper hdash
    rw [if_neg hdash] at hd
    have hcases : d = '_' ∨ d = c.toUpper := by
      split at hd
      · simpa using hd
      · exact Or.inr (List.mem_singleton.mp hd)
    rcases hcases with rfl | rfl
    · decide
    · exact hupper

/-- Without dashes and underscores. -/
def unseparated (cs : List Char) : List Char := cs.filter fun c => c != '-' && c != '_'

/-- Where there is no dash, it is enough to leave out the underscores. -/
theorem unseparated_eq_filter {cs : List Char} (h : '-' ∉ cs) :
    unseparated cs = cs.filter (· != '_') := by
  apply List.filter_congr
  intro c hc
  have hne : c ≠ '-' := by
    rintro rfl
    exact h hc
  simp [hne]

/-- What a character leads to is its upper case, up to dashes and underscores. -/
theorem unseparated_snakeChar {c : Char} (h : IsKeyChar c) (before : Option Char) :
    unseparated (snakeChar before c) = unseparated [c.toUpper] := by
  rw [snakeChar_eq h]
  by_cases hdash : c = '-'
  · subst hdash
    rfl
  · rw [if_neg hdash]
    split
    · rfl
    · rfl

/-! ## Whole names -/

section Keys

variable {cs : List Char}

theorem isUpperSnakeChar_of_mem_snakeChars (h : ∀ c ∈ cs, IsKeyChar c) (before : Option Char) :
    ∀ d ∈ snakeChars before cs, isUpperSnakeChar d = true := by
  induction cs generalizing before with
  | nil => exact fun d hd => nomatch hd
  | cons c rest ih =>
      rw [List.forall_mem_cons] at h
      rw [snakeChars, List.forall_mem_append]
      exact ⟨fun d hd => isUpperSnakeChar_of_mem_snakeChar h.1 hd, ih h.2 (some c)⟩

theorem unseparated_snakeChars (h : ∀ c ∈ cs, IsKeyChar c) (before : Option Char) :
    unseparated (snakeChars before cs) = unseparated (cs.map Char.toUpper) := by
  induction cs generalizing before with
  | nil => rfl
  | cons c rest ih =>
      rw [List.forall_mem_cons] at h
      have hfirst := unseparated_snakeChar h.1 before
      have hrest := ih h.2 (some c)
      unfold unseparated at hfirst hrest ⊢
      rw [snakeChars, List.filter_append, hfirst, hrest, ← List.filter_append]
      rfl

theorem snakeChars_ne_nil (h : ∀ c ∈ cs, IsKeyChar c) (hne : cs ≠ []) (before : Option Char) :
    snakeChars before cs ≠ [] := by
  cases cs with
  | nil => exact absurd rfl hne
  | cons c rest =>
      have hfirst : snakeChar before c ≠ [] := by
        rw [snakeChar_eq (h c List.mem_cons_self)]
        split
        · exact List.cons_ne_nil _ _
        · split <;> exact List.cons_ne_nil _ _
      rw [snakeChars]
      exact List.append_ne_nil_of_left_ne_nil hfirst _

theorem isUpperSnake_iff : isUpperSnake cs = true ↔ cs ≠ [] ∧ ∀ c ∈ cs, isUpperSnakeChar c = true := by
  unfold isUpperSnake
  simp

end Keys

section Names

variable {key : String}

/-- **A derived name is in upper snake case.** -/
theorem isUpperSnake_upperSnake (hne : key.toList ≠ []) (hkey : ∀ c ∈ key.toList, IsKeyChar c) :
    isUpperSnake (upperSnake key).toList = true := by
  unfold upperSnake
  split
  · assumption
  · rw [String.toList_ofList, isUpperSnake_iff]
    exact ⟨snakeChars_ne_nil hkey hne none, isUpperSnakeChar_of_mem_snakeChars hkey none⟩

theorem upperSnake_of_isUpperSnake (h : isUpperSnake key.toList = true) : upperSnake key = key :=
  if_pos h

/-- No letter or digit is lost, added or moved. -/
theorem unseparated_upperSnake (hkey : ∀ c ∈ key.toList, IsKeyChar c) :
    unseparated (upperSnake key).toList = unseparated (key.toList.map Char.toUpper) := by
  unfold upperSnake
  split
  next hupper =>
    have hself : key.toList.map Char.toUpper = key.toList.map id := by
      apply List.map_congr_left
      intro c hc
      exact (hkey c hc).toUpper_eq_self ((isUpperSnake_iff.mp hupper).2 c hc)
    rw [hself, List.map_id]
  next => rw [String.toList_ofList, unseparated_snakeChars hkey none]

/-- **Names are stable.** The name of a key of ASCII letters, digits, `-` and `_` is in upper snake case
and its own name; a key is its own name if and only if it is in upper snake case; and up to dashes and
underscores the name is the key in upper case. -/
theorem upperSnake_stable (hne : key ≠ "")
    (hkey : ∀ c ∈ key.toList, c.isAlphanum = true ∨ c = '-' ∨ c = '_') :
    upperSnake key ≠ "" ∧
    (∀ c ∈ (upperSnake key).toList, c.isUpper = true ∨ c.isDigit = true ∨ c = '_') ∧
    upperSnake (upperSnake key) = upperSnake key ∧
    (upperSnake key = key ↔ ∀ c ∈ key.toList, c.isUpper = true ∨ c.isDigit = true ∨ c = '_') ∧
    (upperSnake key).toList.filter (· != '_')
      = key.toUpper.toList.filter fun c => c != '-' && c != '_' := by
  have hlist : key.toList ≠ [] := by simpa using hne
  have hname := isUpperSnake_upperSnake hlist hkey
  obtain ⟨hfull, hchars⟩ := isUpperSnake_iff.mp hname
  simp only [← isUpperSnakeChar_iff]
  refine ⟨by simpa using hfull, hchars, upperSnake_of_isUpperSnake hname, ?_, ?_⟩
  · constructor
    · intro hself
      rwa [hself] at hchars
    · intro hupper
      exact upperSnake_of_isUpperSnake (isUpperSnake_iff.mpr ⟨hlist, hupper⟩)
  · have hdash : '-' ∉ (upperSnake key).toList := fun hmem =>
      ne_dash_of_isUpperSnakeChar (hchars '-' hmem) rfl
    rw [← unseparated_eq_filter hdash, unseparated_upperSnake hkey, String.toUpper, String.toList_map]
    rfl

/-- A key in mixed case, with a digit in front of a capital and two dashes in a row. -/
theorem upperSnake_stable_mixed :
    "my--Color_a1B" ≠ "" ∧
      (∀ c ∈ "my--Color_a1B".toList, c.isAlphanum = true ∨ c = '-' ∨ c = '_') ∧
      upperSnake "my--Color_a1B" = "MY__COLOR_A1_B" ∧
      upperSnake "MY__COLOR_A1_B" = "MY__COLOR_A1_B" ∧
      (upperSnake "my--Color_a1B").toList.filter (· != '_') = "MYCOLORA1B".toList := by
  have hne : "my--Color_a1B" ≠ "" := by decide
  have hkey : ∀ c ∈ "my--Color_a1B".toList, c.isAlphanum = true ∨ c = '-' ∨ c = '_' :=
    List.all_iff_forall_prop.mp (by decide)
  obtain ⟨-, -, hself, -, hletters⟩ := upperSnake_stable hne hkey
  have hname : upperSnake "my--Color_a1B" = "MY__COLOR_A1_B" := by decide +kernel
  rw [hname] at hself
  exact ⟨hne, hkey, hname, hself, hletters.trans (by decide +kernel)⟩

end Names

end Restyle
