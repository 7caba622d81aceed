import Restyle.Declaration
import Mathlib.Computability.Language
import Mathlib.Tactic.Common

set_option autoImplicit false

/-! # The grammar of declarations

The blocks that are accepted, as a language: the rules of the grammar are written with concatenation
(`*`), choice (`+`) and repetition (`∗`) of languages, and nothing is said about how a block is to be
read. A block may have several derivations; a word, for instance, may be derived as two words without a
blank in between.
-/

namespace Restyle.Declaration.Grammar

open Computability

/-! ## Building blocks -/

/-- One given character. -/
def lit (c : Char) : Language Char := {[c]}

/-- Something that may be left out. -/
def opt (l : Language Char) : Language Char := 1 + l

/-- Any run of characters of a class. -/
def run (p : Char → Prop) : Language Char := fun w => ∀ c ∈ w, p c

/-- One character of a class. -/
def one (p : Char → Prop) : Language Char := fun w => ∃ c, p c ∧ w = [c]

/-- The blanks between the parts of a block. -/
def IsWs (c : Char) : Prop := c = ' ' ∨ c = '\t' ∨ c = '\r' ∨ c = '\n'

def ws : Language Char := run IsWs

/-! ## The rules -/

/-- A selector is not empty, holds no brace and does not start with a blank. -/
def selector : Language Char := fun w =>
  '\x7b' ∉ w ∧ ∃ c rest, w = c :: rest ∧ ¬ IsWs c

/-- A comment ends at the first `*/`. -/
def comment : Language Char := fun w =>
  ∃ text, ¬ ['*', '/'] <:+: text ∧ w = '/' :: '*' :: (text ++ ['*', '/'])

/-- ASCII letters. -/
def IsLetter (c : Char) : Prop := 'a' ≤ c ∧ c ≤ 'z' ∨ 'A' ≤ c ∧ c ≤ 'Z'

/-- Letters, digits, `-` and `_`. -/
def IsNameChar (c : Char) : Prop := IsLetter c ∨ '0' ≤ c ∧ c ≤ '9' ∨ c = '-' ∨ c = '_'

def name : Language Char := opt (lit '-') * one IsLetter * run IsNameChar

/-- A text in quotes that does not hold its own quote. -/
def quoted (q : Char) : Language Char := fun w => ∃ text, q ∉ text ∧ w = q :: (text ++ [q])

def string : Language Char := quoted '"' + quoted '\''

/-- A word holds neither blanks of any kind nor punctuation. -/
def IsWordChar (c : Char) : Prop :=
  Text.isBlank c = false ∧ c ∉ ['\'', '"', '(', ')', '\x7b', '\x7d', ';', ':', '!', '=', ',']

def word : Language Char := fun w => w ≠ [] ∧ ∀ c ∈ w, IsWordChar c

/-- Arguments of a function: strings, arguments in parentheses, and any other characters. -/
inductive Args : List Char → Prop where
  | nil : Args []
  | string {s rest : List Char} (hs : s ∈ Grammar.string) (h : Args rest) : Args (s ++ rest)
  | parens {inner rest : List Char} (hi : Args inner) (h : Args rest) :
      Args ('(' :: (inner ++ ')' :: rest))
  | char {c : Char} {rest : List Char} (hc : c ∉ ['(', ')', '"', '\'']) (h : Args rest) :
      Args (c :: rest)

def args : Language Char := fun w => Args w

def token : Language Char := string + word * lit '(' * args * lit ')' + lit ',' + word

/-- A word that is `important` up to the case of its letters. -/
def important : Language Char := fun w => w.map Char.toLower = "important".toList

def declaration : Language Char :=
  opt (comment * ws) * name * ws * lit ':' * ((ws * token) * (ws * token)∗) *
    opt (ws * lit '!' * ws * important)

def block : Language Char :=
  ws * selector * lit '\x7b' * ws * declaration * ws * opt (lit ';') * ws * lit '\x7d' * ws

/-! ## Membership -/

section Membership

variable {l k : Language Char} {cs : List Char}

theorem mem_lit_mul {c : Char} : cs ∈ lit c * k ↔ ∃ rest ∈ k, cs = c :: rest := by
  rw [Language.mem_mul]
  constructor
  · rintro ⟨_, rfl, rest, hrest, rfl⟩
    exact ⟨rest, hrest, rfl⟩
  · rintro ⟨rest, hrest, rfl⟩
    exact ⟨[c], rfl, rest, hrest, rfl⟩

theorem mem_one_mul {p : Char → Prop} :
    cs ∈ one p * k ↔ ∃ c rest, p c ∧ rest ∈ k ∧ cs = c :: rest := by
  rw [Language.mem_mul]
  constructor
  · rintro ⟨_, ⟨c, hc, rfl⟩, rest, hrest, rfl⟩
    exact ⟨c, rest, hc, hrest, rfl⟩
  · rintro ⟨c, rest, hc, hrest, rfl⟩
    exact ⟨[c], ⟨c, hc, rfl⟩, rest, hrest, rfl⟩

theorem mem_opt_mul : cs ∈ opt l * k ↔ cs ∈ k ∨ cs ∈ l * k := by
  rw [opt, add_mul, one_mul, Language.mem_add]

theorem mem_run_mul {p : Char → Prop} :
    cs ∈ run p * k ↔ ∃ w rest, (∀ c ∈ w, p c) ∧ rest ∈ k ∧ cs = w ++ rest := by
  rw [Language.mem_mul]
  constructor
  · rintro ⟨w, hw, rest, hrest, rfl⟩
    exact ⟨w, rest, hw, hrest, rfl⟩
  · rintro ⟨w, rest, hw, hrest, rfl⟩
    exact ⟨w, hw, rest, hrest, rfl⟩

theorem mem_string_iff :
    cs ∈ string ↔ ∃ q text, (q = '"' ∨ q = '\'') ∧ q ∉ text ∧ cs = q :: (text ++ [q]) := by
  constructor
  · rintro (⟨text, hq, rfl⟩ | ⟨text, hq, rfl⟩)
    · exact ⟨_, text, .inl rfl, hq, rfl⟩
    · exact ⟨_, text, .inr rfl, hq, rfl⟩
  · rintro ⟨q, text, rfl | rfl, hq, rfl⟩
    · exact .inl ⟨text, hq, rfl⟩
    · exact .inr ⟨text, hq, rfl⟩

theorem mem_token_cases {t : List Char} (ht : t ∈ token) :
    t ∈ string ∨ (∃ w ∈ word, ∃ a, Args a ∧ t = w ++ '(' :: (a ++ [')'])) ∨ t = [','] ∨
      t ∈ word := by
  rcases ht with ((hs | hf) | hc) | hw
  · exact .inl hs
  · obtain ⟨_, ⟨_, ⟨w, hw, _, rfl, rfl⟩, a, ha, rfl⟩, _, rfl, rfl⟩ := hf
    exact .inr (.inl ⟨w, hw, a, ha, by simp⟩)
  · exact .inr (.inr (.inl hc))
  · exact .inr (.inr (.inr hw))

/-- Blanks may be left out. -/
theorem mem_ws_mul_of_mem (h : cs ∈ k) : cs ∈ ws * k :=
  mem_run_mul.mpr ⟨[], cs, by simp, h, rfl⟩

end Membership

/-! ## Tokens in a row -/

section Tokens

variable {k : Language Char}

theorem mem_tokens_of_mem {r : List Char} (h : r ∈ k) : r ∈ (ws * token)∗ * k :=
  Language.append_mem_mul (Language.nil_mem_kstar _) h

theorem mem_tokens_iff {r : List Char} :
    r ∈ (ws * token)∗ * k ↔ r ∈ k ∨ r ∈ ws * (token * ((ws * token)∗ * k)) := by
  conv_lhs => rw [← Language.one_add_self_mul_kstar_eq_kstar, add_mul, one_mul, Language.mem_add]
  rw [mul_assoc, mul_assoc]

/-- Induction over a row of tokens. -/
theorem tokens_induction {P : List Char → Prop} (hk : ∀ r ∈ k, P r)
    (hstep : ∀ s ∈ ws, ∀ t ∈ token, ∀ r ∈ (ws * token)∗ * k, P r → P (s ++ (t ++ r))) :
    ∀ r ∈ (ws * token)∗ * k, P r := by
  intro r hr
  obtain ⟨w, hw, v, hv, rfl⟩ := Language.mem_mul.mp hr
  obtain ⟨parts, rfl, hparts⟩ := Language.mem_kstar.mp hw
  clear hr hw
  induction parts with
  | nil => exact hk v hv
  | cons part rest ih =>
      have hrest : ∀ y ∈ rest, y ∈ ws * token := fun y hy => hparts y (List.mem_cons_of_mem _ hy)
      obtain ⟨s, hs, t, ht, rfl⟩ := Language.mem_mul.mp (hparts part List.mem_cons_self)
      have hmem : rest.flatten ++ v ∈ (ws * token)∗ * k :=
        Language.append_mem_mul (Language.join_mem_kstar hrest) hv
      rw [List.flatten_cons, List.append_assoc, List.append_assoc]
      exact hstep s hs t ht _ hmem (ih hrest)

end Tokens

end Restyle.Declaration.Grammar
