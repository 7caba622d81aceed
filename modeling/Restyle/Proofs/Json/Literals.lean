import Restyle.Json.Reader
import Mathlib.Tactic.Common

set_option autoImplicit false

/-! # The literals of tokens

A token can be written in many ways: a character of a string may be escaped or not, and a number may be
written with a fraction or an exponent. `Literal` gives the literals of a token by the rules of the
language, and `Written` the texts of a list of tokens, with blanks between them. A text is cut into the
tokens that it is written from (`readTokens_of_written`).
-/

namespace Restyle.Json

/-! ## Strings -/

/-- The escapes of one letter, with the characters that they stand for. -/
def shortEscapes : List (Char × Char) :=
  [('"', '"'), ('\\', '\\'), ('/', '/'), ('b', '\x08'), ('f', '\x0c'), ('n', '\n'), ('r', '\r'),
    ('t', '\t')]

/-- The hexadecimal digits in their order. -/
def lowerHexDigits : List Char :=
  ['0', '1', '2', '3', '4', '5', '6', '7', '8', '9', 'a', 'b', 'c', 'd', 'e', 'f']

/-- The hexadecimal digits in their order, with capital letters. -/
def upperHexDigits : List Char :=
  ['0', '1', '2', '3', '4', '5', '6', '7', '8', '9', 'A', 'B', 'C', 'D', 'E', 'F']

/-- A character is the hexadecimal digit of a value. -/
def HexDigit (c : Char) (n : Nat) : Prop :=
  lowerHexDigits[n]? = some c ∨ upperHexDigits[n]? = some c

/-- Four hexadecimal digits give a code point. -/
inductive HexCode : List Char → Nat → Prop where
  | digits {a b c d : Char} {w x y z : Nat} (ha : HexDigit a w) (hb : HexDigit b x)
      (hc : HexDigit c y) (hd : HexDigit d z) :
      HexCode [a, b, c, d] (((w * 16 + x) * 16 + y) * 16 + z)

/-- What stands between the quotes of a string literal, and the characters that it stands for. -/
inductive Characters : List Char → List Char → Prop where
  | nil : Characters [] []
  /-- A character that stands for itself. -/
  | plain {c : Char} {cs s : List Char} (hcontrol : 0x20 ≤ c.toNat) (hquote : c ≠ '"')
      (hbackslash : c ≠ '\\') (h : Characters cs s) : Characters (c :: cs) (c :: s)
  | short {e c : Char} {cs s : List Char} (he : (e, c) ∈ shortEscapes) (h : Characters cs s) :
      Characters ('\\' :: e :: cs) (c :: s)
  /-- A character by its code point. -/
  | code {digits cs s : List Char} {code : Nat} (hcode : HexCode digits code)
      (hwhole : code < 0xD800 ∨ 0xE000 ≤ code) (h : Characters cs s) :
      Characters ('\\' :: 'u' :: (digits ++ cs)) (Char.ofNat code :: s)
  /-- A character by the two halves of its code point. -/
  | pair {digits more cs s : List Char} {high low : Nat} (hhigh : HexCode digits (0xD800 + high))
      (hlow : HexCode more (0xDC00 + low)) (hhalf : high < 0x400) (hrest : low < 0x400)
      (h : Characters cs s) :
      Characters ('\\' :: 'u' :: (digits ++ '\\' :: 'u' :: (more ++ cs)))
        (Char.ofNat (0x10000 + high * 0x400 + low) :: s)

/-- Whether a character may stand for itself in a string literal. -/
def standsForItself (c : Char) : Bool := decide (0x20 ≤ c.toNat) && c != '"' && c != '\\'

theorem Characters.of_all {cs : List Char} (h : cs.all standsForItself = true) :
    Characters cs cs := by
  induction cs with
  | nil => exact .nil
  | cons c cs ih =>
      simp only [List.all_cons, standsForItself, Bool.and_eq_true, decide_eq_true_eq, bne_iff_ne]
        at h
      obtain ⟨⟨⟨hcontrol, hquote⟩, hbackslash⟩, hcs⟩ := h
      exact .plain hcontrol hquote hbackslash (ih hcs)

/-! ### Reading them -/

/-- A hexadecimal digit is one of those that the reader knows, and neither a quote nor a backslash. -/
theorem HexDigit.read {c : Char} {n : Nat} (h : HexDigit c n) :
    hexDigit? c = some n ∧ c ≠ '"' ∧ c ≠ '\\' := by
  have hlower : ∀ i : Fin lowerHexDigits.length,
      hexDigit? (lowerHexDigits.get i) = some i.val ∧ lowerHexDigits.get i ≠ '"'
        ∧ lowerHexDigits.get i ≠ '\\' := by decide
  have hupper : ∀ i : Fin upperHexDigits.length,
      hexDigit? (upperHexDigits.get i) = some i.val ∧ upperHexDigits.get i ≠ '"'
        ∧ upperHexDigits.get i ≠ '\\' := by decide
  rcases h with h | h
  · obtain ⟨hn, rfl⟩ := List.getElem?_eq_some_iff.mp h
    exact hlower ⟨n, hn⟩
  · obtain ⟨hn, rfl⟩ := List.getElem?_eq_some_iff.mp h
    exact hupper ⟨n, hn⟩

theorem HexCode.readCodes {digits : List Char} {code : Nat} (h : HexCode digits code)
    (codes : List Nat) (rest : List Char) :
    readCodes codes ('\\' :: 'u' :: (digits ++ rest)) = readCodes (code :: codes) rest := by
  cases h with
  | digits ha hb hc hd =>
      simp only [List.cons_append, List.nil_append, Json.readCodes, hexCode?, ha.read.1, hb.read.1,
        hc.read.1, hd.read.1, Option.bind_eq_bind, Option.bind_some]

theorem readCodes_short {e c : Char} (h : (e, c) ∈ shortEscapes) (codes : List Nat)
    (rest : List Char) : readCodes codes ('\\' :: e :: rest) = readCodes (c.toNat :: codes) rest := by
  simp only [shortEscapes, List.mem_cons, Prod.mk.injEq, List.not_mem_nil, or_false] at h
  rcases h with ⟨rfl, rfl⟩ | ⟨rfl, rfl⟩ | ⟨rfl, rfl⟩ | ⟨rfl, rfl⟩ | ⟨rfl, rfl⟩ | ⟨rfl, rfl⟩
    | ⟨rfl, rfl⟩ | ⟨rfl, rfl⟩ <;> rfl

theorem joinCodes_cons {code : Nat} (hhigh : ¬ (0xD800 ≤ code ∧ code < 0xDC00))
    (hlow : ¬ (0xDC00 ≤ code ∧ code < 0xE000)) (chars : List Char) (rest : List Nat) :
    joinCodes chars (code :: rest) = joinCodes (Char.ofNat code :: chars) rest := by
  rw [joinCodes.eq_def]
  simp only [Bool.and_eq_true, decide_eq_true_eq, if_neg hhigh, if_neg hlow]

/-- The code of a character is no half of a pair. -/
theorem joinCodes_toNat (c : Char) (chars : List Char) (rest : List Nat) :
    joinCodes chars (c.toNat :: rest) = joinCodes (c :: chars) rest := by
  have hvalid : c.toNat < 0xD800 ∨ 0xDFFF < c.toNat ∧ c.toNat < 0x110000 := c.valid
  rw [joinCodes_cons (by omega) (by omega), Char.ofNat_toNat]

/-- The two halves of a code point are joined. -/
theorem joinCodes_pair {high low : Nat} (hhigh : high < 0x400) (hlow : low < 0x400)
    (chars : List Char) (rest : List Nat) :
    joinCodes chars ((0xD800 + high) :: (0xDC00 + low) :: rest)
      = joinCodes (Char.ofNat (0x10000 + high * 0x400 + low) :: chars) rest := by
  have hfirst : 0xD800 ≤ 0xD800 + high ∧ 0xD800 + high < 0xDC00 := by omega
  have hsecond : 0xDC00 ≤ 0xDC00 + low ∧ 0xDC00 + low < 0xE000 := by omega
  have hhalves : 0xD800 + high - 0xD800 = high ∧ 0xDC00 + low - 0xDC00 = low := by omega
  rw [joinCodes.eq_def]
  simp only [Bool.and_eq_true, decide_eq_true_eq, if_pos hfirst, if_pos hsecond, hhalves]

/-- The characters of a literal are read, whatever follows its closing quote. -/
theorem Characters.exists_codes {cs s : List Char} (h : Characters cs s) :
    ∃ codes : List Nat,
      (∀ (before : List Nat) (rest : List Char),
        readCodes before (cs ++ '"' :: rest) = some (before.reverse ++ codes, rest))
      ∧ ∀ chars : List Char, joinCodes chars codes = some (chars.reverse ++ s) := by
  -- Reading and joining collect in reverse what they have passed, so both are stated for any start.
  induction h with
  | nil =>
      refine ⟨[], ?_, ?_⟩
      · intro before rest
        rw [List.append_nil]
        rfl
      · intro chars
        rw [List.append_nil]
        rfl
  | @plain c cs s hcontrol hquote hbackslash _ ih =>
      obtain ⟨codes, hread, hjoin⟩ := ih
      refine ⟨c.toNat :: codes, ?_, ?_⟩
      · intro before rest
        have hstep : readCodes before (c :: (cs ++ '"' :: rest))
            = readCodes (c.toNat :: before) (cs ++ '"' :: rest) := by
          rw [readCodes.eq_def]
          simp [hbackslash, Nat.not_lt.mpr hcontrol]
        rw [List.cons_append, hstep, hread]
        simp
      · intro chars
        rw [joinCodes_toNat, hjoin]
        simp
  | @short e c cs s he _ ih =>
      obtain ⟨codes, hread, hjoin⟩ := ih
      refine ⟨c.toNat :: codes, ?_, ?_⟩
      · intro before rest
        rw [List.cons_append, List.cons_append, readCodes_short he, hread]
        simp
      · intro chars
        rw [joinCodes_toNat, hjoin]
        simp
  | @code digits cs s code hcode hwhole _ ih =>
      obtain ⟨codes, hread, hjoin⟩ := ih
      refine ⟨code :: codes, ?_, ?_⟩
      · intro before rest
        rw [List.cons_append, List.cons_append, List.append_assoc, hcode.readCodes, hread]
        simp
      · intro chars
        rw [joinCodes_cons (by omega) (by omega), hjoin]
        simp
  | @pair digits more cs s high low hhigh hlow hhalf hrest _ ih =>
      obtain ⟨codes, hread, hjoin⟩ := ih
      refine ⟨(0xD800 + high) :: (0xDC00 + low) :: codes, ?_, ?_⟩
      · intro before rest
        rw [List.cons_append, List.cons_append, List.append_assoc, hhigh.readCodes, List.cons_append,
          List.cons_append, List.append_assoc, hlow.readCodes, hread]
        simp
      · intro chars
        rw [joinCodes_pair hhalf hrest, hjoin]
        simp

theorem Characters.readToken {cs : List Char} {s : String} (h : Characters cs s.toList)
    (rest : List Char) :
    readToken ('"' :: (cs ++ '"' :: rest)) = some (.string (some s), rest) := by
  obtain ⟨codes, hread, hjoin⟩ := h.exists_codes
  have hcodes : readCodes [] (cs ++ '"' :: rest) = some (codes, rest) := hread [] rest
  have hchars : joinCodes [] codes = some s.toList := hjoin []
  show readString (cs ++ '"' :: rest) = _
  rw [readString]
  simp only [hcodes, hchars, Option.map_some, String.ofList_toList]

/-! ## Numbers -/

/-- One or more decimal digits. -/
def Digits (cs : List Char) : Prop := cs ≠ [] ∧ ∀ c ∈ cs, c.isDigit = true

/-- The digits before the point of a number: a single zero, or digits that start with another one. -/
inductive Whole : List Char → List Nat → Prop where
  | zero : Whole ['0'] [0]
  | digits {c : Char} {cs : List Char} (hc : c ≠ '0') (h : Digits (c :: cs)) :
      Whole (c :: cs) ((c :: cs).map digitValue)

/-- The point of a number and the digits behind it, if there is one. -/
inductive Fraction : List Char → List Nat → Prop where
  | none : Fraction [] []
  | digits {cs : List Char} (h : Digits cs) : Fraction ('.' :: cs) (cs.map digitValue)

/-- The exponent of a number, if there is one. -/
inductive Exponent : List Char → Option Int → Prop where
  | none : Exponent [] none
  | unsigned {e : Char} {cs : List Char} (he : e = 'e' ∨ e = 'E') (h : Digits cs) :
      Exponent (e :: cs) (some (Numeral.ofDigits (cs.map digitValue)))
  | plus {e : Char} {cs : List Char} (he : e = 'e' ∨ e = 'E') (h : Digits cs) :
      Exponent (e :: '+' :: cs) (some (Numeral.ofDigits (cs.map digitValue)))
  | minus {e : Char} {cs : List Char} (he : e = 'e' ∨ e = 'E') (h : Digits cs) :
      Exponent (e :: '-' :: cs) (some (-Numeral.ofDigits (cs.map digitValue)))

/-- The literals of a number. -/
inductive NumberLiteral : List Char → Numeral → Prop where
  | positive {ws fs es : List Char} {whole fraction : List Nat} {exponent : Option Int}
      (hw : Whole ws whole) (hf : Fraction fs fraction) (he : Exponent es exponent) :
      NumberLiteral (ws ++ (fs ++ es)) ⟨false, whole, fraction, exponent⟩
  | negative {ws fs es : List Char} {whole fraction : List Nat} {exponent : Option Int}
      (hw : Whole ws whole) (hf : Fraction fs fraction) (he : Exponent es exponent) :
      NumberLiteral ('-' :: (ws ++ (fs ++ es))) ⟨true, whole, fraction, exponent⟩

/-- The characters with which a number could go on. -/
def continuesNumber (c : Char) : Bool := c.isDigit || c == '.' || c == 'e' || c == 'E'

/-- A text does not go on with a number in front of it. -/
def EndsNumber (cs : List Char) : Prop := ∀ c, cs.head? = some c → continuesNumber c = false

/-! ### Reading them -/

/-- A text that does not start with a digit. -/
def NoDigit (cs : List Char) : Prop := ∀ c, cs.head? = some c → c.isDigit = false

theorem EndsNumber.noDigit {cs : List Char} (h : EndsNumber cs) : NoDigit cs := by
  intro c hc
  have hends := h c hc
  simp only [continuesNumber, Bool.or_eq_false_iff] at hends
  exact hends.1.1.1

theorem Digits.readDigits {cs rest : List Char} (h : Digits cs) (hrest : NoDigit rest) :
    readDigits (cs ++ rest) = some (cs.map digitValue, rest) := by
  have hnone : rest.takeWhile Char.isDigit = [] ∧ rest.dropWhile Char.isDigit = rest := by
    cases rest with
    | nil => exact ⟨rfl, rfl⟩
    | cons c rest =>
        have hc : ¬ c.isDigit = true := by simp [hrest c rfl]
        exact ⟨List.takeWhile_cons_of_neg hc, List.dropWhile_cons_of_neg hc⟩
  have htake : (cs ++ rest).takeWhile Char.isDigit = cs := by
    rw [List.takeWhile_append_of_pos h.2, hnone.1, List.append_nil]
  have hdrop : (cs ++ rest).dropWhile Char.isDigit = rest := by
    rw [List.dropWhile_append_of_pos h.2, hnone.2]
  unfold Json.readDigits
  rw [htake, hdrop]
  cases cs with
  | nil => exact absurd rfl h.1
  | cons c cs => rfl

theorem Digits.append_ne {cs rest tail : List Char} (h : Digits cs) {c : Char}
    (hc : c.isDigit = false) : cs ++ rest ≠ c :: tail := by
  intro heq
  cases cs with
  | nil => exact h.1 rfl
  | cons d cs =>
      have hd := h.2 d List.mem_cons_self
      rw [(List.cons_eq_cons.mp heq).1, hc] at hd
      exact Bool.false_ne_true hd

theorem Whole.readWhole {cs rest : List Char} {whole : List Nat} (h : Whole cs whole)
    (hrest : NoDigit rest) : readWhole (cs ++ rest) = some (whole, rest) := by
  cases h with
  | zero => rfl
  | @digits c cs hc hdigits =>
      have hread := hdigits.readDigits hrest
      unfold Json.readWhole
      split
      · rename_i heq
        exact absurd (List.cons_eq_cons.mp heq).1 hc
      · exact hread

theorem Fraction.readFraction {cs rest : List Char} {fraction : List Nat} (h : Fraction cs fraction)
    (hrest : NoDigit rest) (hpoint : ∀ c, rest.head? = some c → c ≠ '.') :
    readFraction (cs ++ rest) = some (fraction, rest) := by
  cases h with
  | none =>
      cases rest with
      | nil => rfl
      | cons c rest =>
          have hc : c ≠ '.' := hpoint c rfl
          rw [List.nil_append, Json.readFraction]
          rintro tail heq
          exact hc (List.cons_eq_cons.mp heq).1
  | digits hdigits => exact hdigits.readDigits hrest

theorem Exponent.readExponent {cs rest : List Char} {exponent : Option Int} (h : Exponent cs exponent)
    (hrest : EndsNumber rest) : readExponent (cs ++ rest) = some (exponent, rest) := by
  cases h with
  | none =>
      cases rest with
      | nil => rfl
      | cons c rest =>
          have hc := hrest c rfl
          simp only [continuesNumber, Bool.or_eq_false_iff] at hc
          show Json.readExponent (c :: rest) = _
          simp only [Json.readExponent, hc.1.2, hc.2, Bool.or_false, Bool.false_eq_true, if_false]
  | @unsigned e cs he hdigits =>
      have hread := hdigits.readDigits hrest.noDigit
      have hmark : (e == 'e' || e == 'E') = true := by
        rcases he with rfl | rfl <;> rfl
      rw [List.cons_append, Json.readExponent, if_pos hmark, hread]
      · rfl
      -- the digits start with none of the signs
      · intro tail
        exact hdigits.append_ne (by decide)
      · intro tail
        exact hdigits.append_ne (by decide)
  | @plus e cs he hdigits | @minus e cs he hdigits =>
      have hread := hdigits.readDigits hrest.noDigit
      rcases he with rfl | rfl
      · show (Json.readDigits (cs ++ rest)).map _ = _
        rw [hread]
        rfl
      · show (Json.readDigits (cs ++ rest)).map _ = _
        rw [hread]
        rfl

/-- Behind the digits of a number comes its exponent or the end of it. -/
theorem Exponent.head_append {cs rest : List Char} {exponent : Option Int} (h : Exponent cs exponent)
    (hrest : EndsNumber rest) {c : Char} (hc : (cs ++ rest).head? = some c) :
    c.isDigit = false ∧ c ≠ '.' := by
  have hmark : ∀ e : Char, e = 'e' ∨ e = 'E' → e.isDigit = false ∧ e ≠ '.' := by
    rintro e (rfl | rfl) <;> decide
  cases h with
  | none =>
      have hends := hrest c hc
      simp only [continuesNumber, Bool.or_eq_false_iff, beq_eq_false_iff_ne] at hends
      exact ⟨hends.1.1.1, hends.1.1.2⟩
  | unsigned he _ => cases hc; exact hmark _ he
  | plus he _ => cases hc; exact hmark _ he
  | minus he _ => cases hc; exact hmark _ he

theorem Fraction.noDigit_append {cs rest : List Char} {fraction : List Nat} (h : Fraction cs fraction)
    (hrest : NoDigit rest) : NoDigit (cs ++ rest) := by
  cases h with
  | none => exact hrest
  | digits _ =>
      intro c hc
      cases hc
      rfl

theorem readUnsigned_append {ws fs es rest : List Char} {whole fraction : List Nat} {exponent : Option Int}
    (hw : Whole ws whole) (hf : Fraction fs fraction) (he : Exponent es exponent)
    (hrest : EndsNumber rest) (negative : Bool) :
    readUnsigned negative (ws ++ (fs ++ es) ++ rest)
      = some (⟨negative, whole, fraction, exponent⟩, rest) := by
  have hexponent : NoDigit (es ++ rest) := fun c hc => (he.head_append hrest hc).1
  have hpoint : ∀ c, (es ++ rest).head? = some c → c ≠ '.' :=
    fun c hc => (he.head_append hrest hc).2
  have hwhole := hw.readWhole (hf.noDigit_append hexponent)
  have hfraction := hf.readFraction hexponent hpoint
  have hlast := he.readExponent hrest
  rw [List.append_assoc, List.append_assoc, readUnsigned]
  simp only [hwhole, hfraction, hlast, Option.bind_eq_bind, Option.bind_some]

/-- A text that starts like a number is read as one. -/
theorem readToken_eq_readNumber {c : Char} (hc : c = '-' ∨ c.isDigit = true) (rest : List Char) :
    readToken (c :: rest) = readNumber (c :: rest) := by
  unfold readToken
  split
  case h_11 => rfl
  all_goals
    rename_i heq
    obtain ⟨rfl, -⟩ := List.cons_eq_cons.mp heq
    exact absurd hc (by decide)

theorem Whole.exists_cons {cs : List Char} {whole : List Nat} (h : Whole cs whole) :
    ∃ c rest, cs = c :: rest ∧ c.isDigit = true := by
  cases h with
  | zero => exact ⟨'0', [], rfl, rfl⟩
  | @digits c cs _ hdigits => exact ⟨c, cs, rfl, hdigits.2 c List.mem_cons_self⟩

theorem NumberLiteral.readToken {cs rest : List Char} {n : Numeral} (h : NumberLiteral cs n)
    (hrange : n.inRange = true) (hrest : EndsNumber rest) :
    readToken (cs ++ rest) = some (.scalar (.number n.value), rest) := by
  cases h with
  | @positive ws fs es whole fraction exponent hw hf he =>
      have hunsigned := readUnsigned_append hw hf he hrest false
      -- The first digit decides that a number is read, and that it has no sign.
      obtain ⟨c, tail, rfl, hc⟩ := hw.exists_cons
      have hsign : c ≠ '-' := by
        rintro rfl
        exact absurd hc (by decide)
      rw [List.cons_append, List.cons_append] at hunsigned ⊢
      rw [readToken_eq_readNumber (.inr hc), readNumber, hunsigned]
      · simp only [Option.map_some, if_pos hrange]
      · intro other heq
        exact hsign (List.cons_eq_cons.mp heq).1
  | @negative ws fs es whole fraction exponent hw hf he =>
      have hunsigned := readUnsigned_append hw hf he hrest true
      rw [List.cons_append, readToken_eq_readNumber (.inl rfl), readNumber]
      simp only [hunsigned, Option.map_some, if_pos hrange]

/-! ## Tokens -/

/-- The literals of a token. -/
inductive Literal : List Char → Token → Prop where
  | openBrace : Literal ['\x7b'] .openBrace
  | closeBrace : Literal ['\x7d'] .closeBrace
  | openBracket : Literal ['['] .openBracket
  | closeBracket : Literal [']'] .closeBracket
  | colon : Literal [':'] .colon
  | comma : Literal [','] .comma
  | null : Literal ['n', 'u', 'l', 'l'] (.scalar .null)
  | true : Literal ['t', 'r', 'u', 'e'] (.scalar (.bool true))
  | false : Literal ['f', 'a', 'l', 's', 'e'] (.scalar (.bool false))
  | number {cs : List Char} {n : Numeral} (h : NumberLiteral cs n) (hrange : n.inRange = true) :
      Literal cs (.scalar (.number n.value))
  | string {cs : List Char} {s : String} (h : Characters cs s.toList) :
      Literal ('"' :: (cs ++ ['"'])) (.string (some s))

/-- A text is literals of some tokens, with blanks between them. A number goes as far as it can: it is
not followed by a character with which it could go on. -/
inductive Written : List Char → List Token → Prop where
  | nil : Written [] []
  | blank {c : Char} {cs : List Char} {ts : List Token} (hc : c ∈ [' ', '\t', '\n', '\r'])
      (h : Written cs ts) : Written (c :: cs) ts
  | token {literal cs : List Char} {t : Token} {ts : List Token} (hliteral : Literal literal t)
      (hends : ∀ value, t = .scalar (.number value) → EndsNumber cs) (h : Written cs ts) :
      Written (literal ++ cs) (t :: ts)

/-- A token of one character in front of a text. -/
theorem Written.mark {c : Char} {cs : List Char} {t : Token} {ts : List Token}
    (hliteral : Literal [c] t) (ht : ∀ value, t ≠ .scalar (.number value)) (h : Written cs ts) :
    Written (c :: cs) (t :: ts) :=
  .token hliteral (fun value hvalue => absurd hvalue (ht value)) h

/-- A string without escapes in front of a text. -/
theorem Written.quoted (s : String) {cs : List Char} {ts : List Token}
    (hs : s.toList.all standsForItself = true) (h : Written cs ts) :
    Written ('"' :: (s.toList ++ '"' :: cs)) (.string (some s) :: ts) := by
  have hwritten := Written.token (.string (.of_all hs)) nofun h
  rwa [List.cons_append, List.append_assoc] at hwritten

theorem Literal.readToken {literal cs : List Char} {t : Token} (h : Literal literal t)
    (hends : ∀ value, t = .scalar (.number value) → EndsNumber cs) :
    readToken (literal ++ cs) = some (t, cs) := by
  cases h with
  | number hnumber hrange => exact hnumber.readToken hrange (hends _ rfl)
  | string hstring =>
      rw [List.cons_append, List.append_assoc]
      exact hstring.readToken cs
  | _ => rfl

theorem isSpace_of_mem {c : Char} (h : c ∈ [' ', '\t', '\n', '\r']) : isSpace c = true := by
  simp only [List.mem_cons, List.not_mem_nil, or_false] at h
  rcases h with rfl | rfl | rfl | rfl <;> rfl

theorem readToken_blank {c : Char} (hc : isSpace c = true) (rest : List Char) :
    readToken (c :: rest) = none := by
  simp only [isSpace, Bool.or_eq_true, beq_iff_eq] at hc
  rcases hc with ((rfl | rfl) | rfl) | rfl <;> rfl

theorem readTokens_eq (acc : List Token) (cs : List Char) :
    readTokens acc cs =
      match cs.dropWhile isSpace with
      | [] => some acc.reverse
      | c :: rest =>
        match readToken (c :: rest) with
        | some (token, rest) => readTokens (token :: acc) rest
        | none => none := by
  rw [readTokens]
  split
  · rename_i h
    rw [h]
  · rename_i c rest h
    rw [h]
    dsimp only
    split
    · rename_i ht
      rw [ht]
    · rename_i ht
      rw [ht]

/-- Cutting a text into tokens gives the tokens that it is written from. -/
theorem readTokens_of_written {cs : List Char} {ts : List Token} (h : Written cs ts)
    (before : List Token) : readTokens before cs = some (before.reverse ++ ts) := by
  induction h generalizing before with
  | nil => simp [readTokens_eq]
  | blank hc _ ih =>
      rw [readTokens_eq, List.dropWhile_cons_of_pos (isSpace_of_mem hc), ← readTokens_eq, ih]
  | @token literal cs t ts hliteral hends _ ih =>
      have hread := hliteral.readToken hends
      cases htext : literal ++ cs with
      | nil =>
          rw [htext] at hread
          cases hread
      | cons c rest =>
          rw [htext] at hread
          -- Where a blank stands no token is read.
          have hc : ¬ isSpace c = true := by
            intro hc
            rw [readToken_blank hc] at hread
            cases hread
          rw [readTokens_eq, List.dropWhile_cons_of_neg hc]
          simp only [hread, ih, List.reverse_cons, List.append_assoc, List.cons_append,
            List.nil_append]

end Restyle.Json
