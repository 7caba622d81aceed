import Restyle.Proofs.Json.Tokens

set_option autoImplicit false

/-! # How deep a text nests

The nesting of a text is counted on its characters: the largest number of brackets and braces that are
open at once, where those inside string literals do not count. However a value is written, the nesting of
its text is the depth of the value (`nesting_of_written`).

The count goes over the characters, while the depth follows the value; the tokens are in between. A
literal has the same effect on the count as its token, so that for a text that is written from tokens it is
enough to count these.
-/

namespace Restyle.Json

/-! ## The depth of a value -/

mutual

/-- How many arrays and objects enclose each other in a value. -/
def depth : Json → Nat
  | .array items => depthAll items + 1
  | .object members => depthMembers members + 1
  | _ => 0

/-- The largest depth in a list. -/
def depthAll : List Json → Nat
  | [] => 0
  | item :: rest => max (depth item) (depthAll rest)

/-- The largest depth of a member. -/
def depthMembers : List (String × Json) → Nat
  | [] => 0
  | (_, value) :: rest => max (depth value) (depthMembers rest)

end

/-! ## Counting on characters -/

/-- Where a character stands. -/
inductive Place where
  | outside
  | literal
  /-- Behind the backslash of an escape. -/
  | escape

/-- How far brackets have been counted: those that are open, and the most that have been open. -/
structure Count where
  place : Place
  opened : Nat
  deepest : Nat

namespace Count

/-- Count one character. -/
def step (n : Count) (c : Char) : Count :=
  match n.place with
  | .escape => { n with place := .literal }
  | .literal =>
    if c = '\\' then { n with place := .escape }
    else if c = '"' then { n with place := .outside }
    else n
  | .outside =>
    if c = '"' then { n with place := .literal }
    else if c = '[' ∨ c = '\x7b' then ⟨.outside, n.opened + 1, max n.deepest (n.opened + 1)⟩
    else if c = ']' ∨ c = '\x7d' then ⟨.outside, n.opened - 1, n.deepest⟩
    else n

/-- Count the characters of a text. -/
def across (cs : List Char) (n : Count) : Count := cs.foldl step n

end Count

/-- How deep brackets and braces nest in a text. -/
def nesting (text : String) : Nat := (Count.across text.toList ⟨.outside, 0, 0⟩).deepest

namespace Count

theorem across_append (as bs : List Char) (n : Count) : across (as ++ bs) n = across bs (across as n) :=
  List.foldl_append

/-! ### Literals -/

theorem across_cons (c : Char) (cs : List Char) (n : Count) :
    across (c :: cs) n = across cs (step n c) := rfl

/-- Inside a string literal nothing counts. -/
theorem step_literal {c : Char} (hquote : c ≠ '"') (hbackslash : c ≠ '\\') (o d : Nat) :
    step ⟨.literal, o, d⟩ c = ⟨.literal, o, d⟩ := by
  simp [step, hquote, hbackslash]

theorem across_hexCode {digits : List Char} {code : Nat} (h : HexCode digits code) (o d : Nat) :
    across ('\\' :: 'u' :: digits) ⟨.literal, o, d⟩ = ⟨.literal, o, d⟩ := by
  cases h with
  | digits ha hb hc hd =>
      show across [_, _, _, _] ⟨.literal, o, d⟩ = _
      rw [across_cons, step_literal ha.read.2.1 ha.read.2.2, across_cons,
        step_literal hb.read.2.1 hb.read.2.2, across_cons, step_literal hc.read.2.1 hc.read.2.2,
        across_cons, step_literal hd.read.2.1 hd.read.2.2]
      rfl

theorem across_characters {cs s : List Char} (h : Characters cs s) (o d : Nat) :
    across cs ⟨.literal, o, d⟩ = ⟨.literal, o, d⟩ := by
  induction h with
  | nil => rfl
  | plain _ hquote hbackslash _ ih => rw [across_cons, step_literal hquote hbackslash, ih]
  | short _ _ ih => exact ih
  | @code digits cs s code hcode _ _ ih =>
      rw [← List.cons_append, ← List.cons_append, across_append, across_hexCode hcode, ih]
  | @pair digits more cs s high low hhigh hlow _ _ _ ih =>
      rw [← List.cons_append, ← List.cons_append, across_append, across_hexCode hhigh,
        ← List.cons_append, ← List.cons_append, across_append, across_hexCode hlow, ih]

theorem across_string {cs s : List Char} (h : Characters cs s) (o d : Nat) :
    across ('"' :: (cs ++ ['"'])) ⟨.outside, o, d⟩ = ⟨.outside, o, d⟩ := by
  show across (cs ++ ['"']) ⟨.literal, o, d⟩ = _
  rw [across_append, across_characters h]
  rfl

/-- The characters that count outside of string literals. -/
def counted : List Char := ['"', '[', ']', '\x7b', '\x7d']

theorem across_plain {cs : List Char} (h : ∀ c ∈ cs, c ∉ counted) (o d : Nat) :
    across cs ⟨.outside, o, d⟩ = ⟨.outside, o, d⟩ := by
  induction cs with
  | nil => rfl
  | cons c cs ih =>
      have hc := h c List.mem_cons_self
      simp only [counted, List.mem_cons, List.not_mem_nil, or_false, not_or] at hc
      have hstep : step ⟨.outside, o, d⟩ c = ⟨.outside, o, d⟩ := by simp [step, hc]
      show across cs (step ⟨.outside, o, d⟩ c) = _
      rw [hstep]
      exact ih fun d hd => h d (List.mem_cons_of_mem _ hd)

theorem plain_of_isDigit {c : Char} (h : c.isDigit = true) :
    c ∉ counted := by
  intro hc
  simp only [counted, List.mem_cons, List.not_mem_nil, or_false] at hc
  rcases hc with rfl | rfl | rfl | rfl | rfl <;> exact absurd h (by decide)

theorem plain_of_digits {cs : List Char} (h : Digits cs) : ∀ c ∈ cs, c ∉ counted :=
  fun c hc => plain_of_isDigit (h.2 c hc)

theorem plain_whole {cs : List Char} {whole : List Nat} (h : Whole cs whole) :
    ∀ c ∈ cs, c ∉ counted := by
  cases h with
  | zero =>
      intro c hc
      rw [List.mem_singleton.mp hc]
      decide
  | digits _ hdigits => exact plain_of_digits hdigits

theorem plain_fraction {cs : List Char} {fraction : List Nat} (h : Fraction cs fraction) :
    ∀ c ∈ cs, c ∉ counted := by
  cases h with
  | none => exact fun c hc => absurd hc List.not_mem_nil
  | digits hdigits => exact List.forall_mem_cons.mpr ⟨by decide, plain_of_digits hdigits⟩

theorem plain_exponent {cs : List Char} {exponent : Option Int} (h : Exponent cs exponent) :
    ∀ c ∈ cs, c ∉ counted := by
  have hmark : ∀ e : Char, e = 'e' ∨ e = 'E' → e ∉ counted := by
    rintro e (rfl | rfl) <;> decide
  cases h with
  | none => exact fun c hc => absurd hc List.not_mem_nil
  | unsigned he hdigits => exact List.forall_mem_cons.mpr ⟨hmark _ he, plain_of_digits hdigits⟩
  | plus he hdigits =>
      rw [List.forall_mem_cons, List.forall_mem_cons]
      exact ⟨hmark _ he, by decide, plain_of_digits hdigits⟩
  | minus he hdigits =>
      rw [List.forall_mem_cons, List.forall_mem_cons]
      exact ⟨hmark _ he, by decide, plain_of_digits hdigits⟩

theorem plain_number {cs : List Char} {n : Numeral} (h : NumberLiteral cs n) :
    ∀ c ∈ cs, c ∉ counted := by
  cases h with
  | positive hw hf he =>
      exact List.forall_mem_append.mpr
        ⟨plain_whole hw, List.forall_mem_append.mpr ⟨plain_fraction hf, plain_exponent he⟩⟩
  | negative hw hf he =>
      have hrest := List.forall_mem_append.mpr
        ⟨plain_whole hw, List.forall_mem_append.mpr ⟨plain_fraction hf, plain_exponent he⟩⟩
      exact List.forall_mem_cons.mpr ⟨by decide, hrest⟩

/-! ## Counting on tokens -/

/-- Count one token. -/
def afterToken (n : Count) : Token → Count
  | .openBrace | .openBracket => ⟨n.place, n.opened + 1, max n.deepest (n.opened + 1)⟩
  | .closeBrace | .closeBracket => ⟨n.place, n.opened - 1, n.deepest⟩
  | _ => n

/-- Count all tokens of a list. -/
def afterTokens (ts : List Token) (n : Count) : Count := ts.foldl afterToken n

theorem afterTokens_cons (t : Token) (ts : List Token) (n : Count) :
    afterTokens (t :: ts) n = afterTokens ts (n.afterToken t) :=
  rfl

theorem afterTokens_append (ts us : List Token) (n : Count) :
    afterTokens (ts ++ us) n = afterTokens us (afterTokens ts n) :=
  List.foldl_append

/-- Every literal counts as its token. -/
theorem across_of_literal {literal : List Char} {t : Token} (h : Literal literal t) (o d : Nat) :
    across literal ⟨.outside, o, d⟩ = afterToken ⟨.outside, o, d⟩ t := by
  cases h with
  | number hnumber _ => exact across_plain (plain_number hnumber) o d
  | string hstring => exact across_string hstring o d
  | _ => rfl

theorem across_of_written {cs : List Char} {ts : List Token} (h : Written cs ts) (o d : Nat) :
    across cs ⟨.outside, o, d⟩ = afterTokens ts ⟨.outside, o, d⟩ := by
  induction h generalizing o d with
  | nil => rfl
  | @blank c cs ts hc _ ih =>
      have hplain : step ⟨.outside, o, d⟩ c = ⟨.outside, o, d⟩ := by
        simp only [List.mem_cons, List.not_mem_nil, or_false] at hc
        rcases hc with rfl | rfl | rfl | rfl <;> rfl
      rw [across_cons, hplain, ih]
  | @token literal cs t ts hliteral _ _ ih =>
      rw [across_append, across_of_literal hliteral, afterTokens_cons]
      cases t <;> exact ih _ _

/-- A part that goes no deeper than what is around it. -/
theorem eq_of_flat {o d r : Nat} (h : o ≤ d) :
    (⟨.outside, r, d⟩ : Count) = ⟨.outside, r, max d (o + 0)⟩ := by
  rw [Nat.add_zero, Nat.max_eq_left h]

mutual

/-- The tokens of a value close what they open, and go as deep as the value. -/
theorem afterTokens_tokens : ∀ (value : Json) (o d : Nat), o ≤ d →
    afterTokens (tokens value) ⟨.outside, o, d⟩ = ⟨.outside, o, max d (o + depth value)⟩
  | .null, _, _, h => eq_of_flat h
  | .bool _, _, _, h => eq_of_flat h
  | .number _, _, _, h => eq_of_flat h
  | .string _, _, _, h => eq_of_flat h
  | .unusable, _, _, h => eq_of_flat h
  | .array items, o, d, h => by
      -- Opening the array brings the count to at least one more than what is open.
      have hitems := afterTokens_itemTokens items o (max d (o + 1)) (by omega)
      rw [tokens, afterTokens_cons, depth]
      refine hitems.trans ?_
      congr 1
      omega
  | .object members, o, d, h => by
      have hmembers := afterTokens_memberTokens members o (max d (o + 1)) (by omega)
      rw [tokens, afterTokens_cons, depth]
      refine hmembers.trans ?_
      congr 1
      omega

theorem afterTokens_itemTokens : ∀ (items : List Json) (o d : Nat), o + 1 ≤ d →
    afterTokens (itemTokens items) ⟨.outside, o + 1, d⟩ =
      ⟨.outside, o, max d (o + 1 + depthAll items)⟩
  | [], o, d, h => by
      rw [depthAll]
      exact eq_of_flat h
  | [item], o, d, h => by
      rw [itemTokens, afterTokens_append, afterTokens_tokens item (o + 1) d h, depthAll, depthAll,
        Nat.max_zero]
      rfl
  | item :: next :: items, o, d, h => by
      have hnext := afterTokens_itemTokens (next :: items) o (max d (o + 1 + depth item)) (by omega)
      rw [itemTokens_cons_cons, afterTokens_append, afterTokens_tokens item (o + 1) d h,
        afterTokens_cons, depthAll]
      refine hnext.trans ?_
      congr 1
      omega

theorem afterTokens_memberTokens : ∀ (members : List (String × Json)) (o d : Nat), o + 1 ≤ d →
    afterTokens (memberTokens members) ⟨.outside, o + 1, d⟩ =
      ⟨.outside, o, max d (o + 1 + depthMembers members)⟩
  | [], o, d, h => by
      rw [depthMembers]
      exact eq_of_flat h
  | [(key, value)], o, d, h => by
      -- Neither a key nor its colon is counted.
      have hvalue := afterTokens_tokens value (o + 1) d h
      rw [memberTokens, afterTokens_cons, afterTokens_cons, afterTokens_append, depthMembers,
        depthMembers, Nat.max_zero]
      show afterTokens [.closeBrace] (afterTokens (tokens value) ⟨.outside, o + 1, d⟩) = _
      rw [hvalue]
      rfl
  | (key, value) :: next :: members, o, d, h => by
      have hvalue := afterTokens_tokens value (o + 1) d h
      have hnext :=
        afterTokens_memberTokens (next :: members) o (max d (o + 1 + depth value)) (by omega)
      rw [memberTokens_cons_cons, afterTokens_cons, afterTokens_cons, afterTokens_append,
        afterTokens_cons, depthMembers]
      show afterTokens (memberTokens (next :: members))
        ((afterTokens (tokens value) ⟨.outside, o + 1, d⟩).afterToken .comma) = _
      rw [hvalue]
      refine hnext.trans ?_
      congr 1
      omega

end

end Count

/-- **However a value is written, its text nests as deep as the value.** -/
theorem nesting_of_written {text : String} {value : Json}
    (h : Written text.toList (tokens value)) : nesting text = depth value := by
  have hcount := Count.afterTokens_tokens value 0 0 (Nat.le_refl 0)
  rw [nesting, Count.across_of_written h, hcount]
  show max 0 (0 + depth value) = depth value
  omega

/-- A printed value nests as deep as the value. -/
theorem nesting_pretty {value : Json} (h : Legible value) : nesting value.pretty = depth value :=
  nesting_of_written (written_pretty h)

end Restyle.Json
