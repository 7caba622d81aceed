import Restyle.Proofs.Declaration.Grammar
import Restyle.Proofs.Declaration.Scanner
import Mathlib.Data.List.TakeWhile

set_option autoImplicit false

/-! # Scanners and languages

A scanner takes as much as it can and never goes back, while the grammar leaves open where a part ends.
For each scanner there is a statement of the same form: a text is derivable as a part followed by a text
of `k` if and only if the scanner takes some of it and leaves a text of `k`. It needs to know of `k` with
which characters its texts start, so that nothing that the scanner takes too much could have been meant
as the beginning of what follows. Here are the statements about blanks and single characters.
-/

namespace Restyle.Declaration

open Grammar
open Text.Reader (char)

/-! ## Character classes -/

theorem isSpace_iff {c : Char} : isSpace c = true ↔ IsWs c := by
  simp [isSpace, IsWs, or_assoc]

theorem isAlpha_iff {c : Char} : c.isAlpha = true ↔ IsLetter c := by
  have hbetween : c.isAlpha
      = (decide ('A' ≤ c ∧ c ≤ 'Z') || decide ('a' ≤ c) && decide (c ≤ 'z')) := rfl
  simp only [hbetween, IsLetter, Bool.or_eq_true, Bool.and_eq_true, decide_eq_true_eq]
  exact Or.comm

theorem isNameChar_iff {c : Char} : isNameChar c = true ↔ IsNameChar c := by
  have hbetween : c.isAlphanum = (c.isAlpha || decide ('0' ≤ c) && decide (c ≤ '9')) := rfl
  simp only [isNameChar, hbetween, IsNameChar, Bool.or_eq_true, isAlpha_iff, Bool.and_eq_true,
    decide_eq_true_eq, beq_iff_eq, or_assoc]

theorem isWordChar_iff {c : Char} : isWordChar c = true ↔ IsWordChar c := by
  simp [isWordChar, IsWordChar, wordBreaks]

theorem Grammar.IsWs.not_isWordChar {c : Char} (h : IsWs c) : ¬ IsWordChar c := by
  rintro ⟨hblank, -⟩
  have : Text.isBlank c = true := by
    rcases h with rfl | rfl | rfl | rfl <;> decide
  rw [this] at hblank
  cases hblank

theorem Grammar.IsWs.not_isNameChar {c : Char} (h : IsWs c) : ¬ IsNameChar c := by
  rw [← isNameChar_iff]
  rcases h with rfl | rfl | rfl | rfl <;> decide

theorem Grammar.IsWs.ne_open {c : Char} (h : IsWs c) : c ≠ '(' := by
  rcases h with rfl | rfl | rfl | rfl <;> decide

theorem not_isWs_of_mem {c : Char} (h : c ∈ wordBreaks) : ¬ IsWs c := by
  rintro (rfl | rfl | rfl | rfl) <;> revert h <;> decide

theorem not_isWs_of_isAlpha {c : Char} (h : c.isAlpha = true) : ¬ IsWs c := by
  rintro (rfl | rfl | rfl | rfl) <;> exact absurd h (by decide)

theorem not_isWordChar_of_mem {c : Char} (h : c ∈ wordBreaks) : ¬ IsWordChar c :=
  fun hc => hc.2 h

/-! ## Where a text can start -/

/-- Every text of a language starts with a character of a class. -/
def Starts (k : Language Char) (p : Char → Prop) : Prop :=
  ∀ w ∈ k, ∃ c rest, w = c :: rest ∧ p c

theorem Starts.mono {k : Language Char} {p q : Char → Prop} (h : Starts k p)
    (hpq : ∀ c, p c → q c) : Starts k q := by
  intro w hw
  obtain ⟨c, rest, rfl, hc⟩ := h w hw
  exact ⟨c, rest, rfl, hpq c hc⟩

theorem starts_lit_mul (c : Char) (k : Language Char) : Starts (lit c * k) (· = c) := by
  intro w hw
  obtain ⟨rest, _, rfl⟩ := mem_lit_mul.mp hw
  exact ⟨c, rest, rfl, rfl⟩

theorem starts_ws_mul {k : Language Char} {p : Char → Prop} (h : Starts k p) :
    Starts (ws * k) fun c => IsWs c ∨ p c := by
  intro w hw
  obtain ⟨s, rest, hs, hrest, rfl⟩ := mem_run_mul.mp hw
  cases s with
  | nil =>
      obtain ⟨c, rest, rfl, hc⟩ := h rest hrest
      exact ⟨c, rest, rfl, .inr hc⟩
  | cons c s => exact ⟨c, s ++ rest, rfl, .inl (hs c List.mem_cons_self)⟩

theorem starts_opt_mul {l k : Language Char} {p : Char → Prop} (hl : Starts (l * k) p)
    (hk : Starts k p) : Starts (opt l * k) p := by
  intro w hw
  rcases mem_opt_mul.mp hw with hw | hw
  · exact hk w hw
  · exact hl w hw

/-! ## Blanks and single characters -/

/-- A run of characters in front of a language that does not need them. -/
theorem mem_run_mul_iff {p : Char → Bool} {P : Char → Prop} (hp : ∀ {c}, p c = true ↔ P c)
    {k : Language Char} (hk : ∀ w ∈ k, w.dropWhile p ∈ k) {cs : List Char} :
    cs ∈ run P * k ↔ cs.dropWhile p ∈ k := by
  rw [mem_run_mul]
  constructor
  · rintro ⟨w, rest, hw, hrest, rfl⟩
    rw [List.dropWhile_append_of_pos fun c hc => hp.mpr (hw c hc)]
    exact hk rest hrest
  · intro h
    refine ⟨cs.takeWhile p, cs.dropWhile p, ?_, h, List.takeWhile_append_dropWhile.symm⟩
    intro c hc
    exact hp.mp (List.mem_takeWhile_imp hc)

theorem skipSpace_append {s : List Char} (hs : ∀ c ∈ s, IsWs c) (cs : List Char) :
    skipSpace (s ++ cs) = skipSpace cs :=
  List.dropWhile_append_of_pos fun c hc => isSpace_iff.mpr (hs c hc)

theorem skipSpace_cons {c : Char} (hc : ¬ IsWs c) (cs : List Char) : skipSpace (c :: cs) = c :: cs :=
  List.dropWhile_cons_of_neg fun h => hc (isSpace_iff.mp h)

/-- A text is some blanks and what is left behind them. -/
theorem exists_skipSpace (cs : List Char) : ∃ s, (∀ c ∈ s, IsWs c) ∧ cs = s ++ skipSpace cs := by
  refine ⟨cs.takeWhile isSpace, ?_, (List.takeWhile_append_dropWhile).symm⟩
  intro c hc
  exact isSpace_iff.mp (List.mem_takeWhile_imp hc)

theorem not_isWs_of_skipSpace {cs rest : List Char} {c : Char} (h : skipSpace cs = c :: rest) :
    ¬ IsWs c := by
  intro hc
  have hnot := List.head?_dropWhile_not isSpace cs
  rw [show cs.dropWhile isSpace = c :: rest from h] at hnot
  exact Bool.false_ne_true (hnot.symm.trans (isSpace_iff.mpr hc))

theorem dropWhile_of_starts {k : Language Char} {p : Char → Bool} {P : Char → Prop}
    (hp : ∀ {c}, p c = true ↔ P c) (h : Starts k fun c => ¬ P c) {w : List Char} (hw : w ∈ k) :
    w.dropWhile p = w := by
  obtain ⟨c, rest, rfl, hc⟩ := h w hw
  exact List.dropWhile_cons_of_neg fun hpc => hc (hp.mp hpc)

/-- A language that does not need blanks in front. -/
def Spaced (k : Language Char) : Prop := ∀ w ∈ k, skipSpace w ∈ k

theorem Starts.spaced {k : Language Char} (h : Starts k fun c => ¬ IsWs c) : Spaced k := by
  intro w hw
  rwa [skipSpace, dropWhile_of_starts isSpace_iff h hw]

/-- Blanks in front of a language that does not need them. -/
theorem mem_ws_mul_iff {k : Language Char} (hk : Spaced k) {cs : List Char} :
    cs ∈ ws * k ↔ skipSpace cs ∈ k :=
  mem_run_mul_iff isSpace_iff hk

theorem Spaced.ws_mul {k : Language Char} (hk : Spaced k) : Spaced (ws * k) := by
  intro w hw
  exact mem_ws_mul_of_mem ((mem_ws_mul_iff hk).mp hw)

theorem Spaced.opt_mul {l k : Language Char} (hl : Spaced (l * k)) (hk : Spaced k) :
    Spaced (opt l * k) := by
  intro w hw
  rcases mem_opt_mul.mp hw with hw | hw
  · exact mem_opt_mul.mpr (.inl (hk w hw))
  · exact mem_opt_mul.mpr (.inr (hl w hw))

theorem spaced_lit_mul {c : Char} (hc : ¬ IsWs c) (k : Language Char) : Spaced (lit c * k) :=
  ((starts_lit_mul c k).mono fun d (hd : d = c) => hd ▸ hc).spaced

theorem mem_lit_mul_iff {c : Char} {k : Language Char} {cs : List Char} :
    cs ∈ lit c * k ↔ ∃ rest, char c cs = .ok rest ∧ rest ∈ k := by
  rw [mem_lit_mul]
  cases cs with
  | nil => simp [char_nil]
  | cons d cs =>
      by_cases hd : d = c
      · subst hd
        simp [char_cons]
      · simp [char_cons, hd]

/-- A character behind blanks. -/
theorem mem_ws_mul_lit_mul_iff {c : Char} (hc : ¬ IsWs c) {k : Language Char} {cs : List Char} :
    cs ∈ ws * (lit c * k) ↔ ∃ rest, char c (skipSpace cs) = .ok rest ∧ rest ∈ k := by
  rw [mem_ws_mul_iff (spaced_lit_mul hc k), mem_lit_mul_iff]

theorem mem_opt_lit_mul_iff {c : Char} {k : Language Char} (hk : Starts k (· ≠ c))
    {cs : List Char} : cs ∈ opt (lit c) * k ↔ skipChar c cs ∈ k := by
  rw [mem_opt_mul, mem_lit_mul]
  constructor
  · rintro (h | ⟨rest, hrest, rfl⟩)
    · obtain ⟨d, rest, rfl, hd⟩ := hk cs h
      rwa [skipChar, if_neg hd]
    · rwa [skipChar, if_pos rfl]
  · intro h
    cases cs with
    | nil => exact .inl h
    | cons d rest =>
        rw [skipChar] at h
        split at h
        · rename_i hd
          exact .inr ⟨rest, h, by rw [hd]⟩
        · exact .inl h

/-- A part that a reader may leave where it is: it leaves all of the text, or what stands behind the
part. -/
theorem mem_opt_mul_of_left {l k : Language Char} {cs rest : List Char}
    (h : rest = cs ∨ ∃ w ∈ l, cs = w ++ rest) (hrest : rest ∈ k) : cs ∈ opt l * k := by
  rw [mem_opt_mul]
  rcases h with rfl | ⟨w, hw, rfl⟩
  · exact .inl hrest
  · exact .inr (Language.append_mem_mul hw hrest)

/-! ## Where a text can start behind blanks -/

/-- Behind blanks, every text of a language starts with a character of a class. -/
def StartsSpaced (k : Language Char) (p : Char → Prop) : Prop :=
  ∀ w ∈ k, ∃ c rest, skipSpace w = c :: rest ∧ p c

theorem StartsSpaced.mono {k : Language Char} {p q : Char → Prop} (h : StartsSpaced k p)
    (hpq : ∀ c, p c → q c) : StartsSpaced k q := by
  intro w hw
  obtain ⟨c, rest, hrest, hc⟩ := h w hw
  exact ⟨c, rest, hrest, hpq c hc⟩

theorem StartsSpaced.starts {k : Language Char} {p : Char → Prop} (h : StartsSpaced k p) :
    Starts k fun c => IsWs c ∨ p c := by
  intro w hw
  obtain ⟨c, rest, hrest, hc⟩ := h w hw
  obtain ⟨s, hs, hsplit⟩ := exists_skipSpace w
  rw [hsplit, hrest]
  cases s with
  | nil => exact ⟨c, rest, rfl, .inr hc⟩
  | cons d s => exact ⟨d, s ++ c :: rest, rfl, .inl (hs d List.mem_cons_self)⟩

theorem startsSpaced_lit_mul {c : Char} {p : Char → Prop} (hp : p c) (hc : ¬ IsWs c)
    (k : Language Char) : StartsSpaced (lit c * k) p := by
  intro w hw
  obtain ⟨rest, -, rfl⟩ := mem_lit_mul.mp hw
  exact ⟨c, rest, skipSpace_cons hc rest, hp⟩

theorem startsSpaced_ws_mul {k : Language Char} {p : Char → Prop} (h : StartsSpaced k p) :
    StartsSpaced (ws * k) p := by
  intro w hw
  obtain ⟨s, rest, hs, hrest, rfl⟩ := mem_run_mul.mp hw
  rw [skipSpace_append hs]
  exact h rest hrest

theorem startsSpaced_opt_mul {l k : Language Char} {p : Char → Prop} (hl : StartsSpaced (l * k) p)
    (hk : StartsSpaced k p) : StartsSpaced (opt l * k) p := by
  intro w hw
  rcases mem_opt_mul.mp hw with hw | hw
  · exact hk w hw
  · exact hl w hw

end Restyle.Declaration
