import Restyle.Json.Numeral

set_option autoImplicit false

/-! # JSON tokens

`Token.readAll` cuts a JSON text into its tokens. A token reader gets the characters that are left
and returns what is left behind the token; each reader leaves less than it was given, which is why
the loop over the text ends. -/

namespace Restyle.Json

/-- A token of a JSON text. A string token holds `none` when its escapes leave half of a surrogate
pair; a scalar token is `null`, a truth value or a number. -/
inductive Token where
  | openBrace
  | closeBrace
  | openBracket
  | closeBracket
  | colon
  | comma
  | scalar (value : Json)
  | string (content : Option String)

/-- The four blanks of JSON. -/
def isSpace (c : Char) : Bool := c == ' ' || c == '\t' || c == '\n' || c == '\r'

/-! ## Strings

A string literal is first read as a list of code points, where an escape may give one half of a
surrogate pair, and then the halves are joined. -/

/-- The value of a hexadecimal digit. -/
def hexDigit? (c : Char) : Option Nat :=
  if '0' ≤ c && c ≤ '9' then some (c.toNat - '0'.toNat)
  else if 'a' ≤ c && c ≤ 'f' then some (c.toNat - 'a'.toNat + 10)
  else if 'A' ≤ c && c ≤ 'F' then some (c.toNat - 'A'.toNat + 10)
  else none

/-- The code point behind `\u`. -/
def hexCode? (a b c d : Char) : Option Nat := do
  let a ← hexDigit? a
  let b ← hexDigit? b
  let c ← hexDigit? c
  let d ← hexDigit? d
  some (((a * 16 + b) * 16 + c) * 16 + d)

/-- The code point of an escape of one letter. -/
def shortEscape? : Char → Option Nat
  | '"' => some 0x22
  | '\\' => some 0x5C
  | '/' => some 0x2F
  | 'b' => some 0x08
  | 'f' => some 0x0C
  | 'n' => some 0x0A
  | 'r' => some 0x0D
  | 't' => some 0x09
  | _ => none

/-- Read a string literal behind its opening quote: its code points, and what is left behind the
closing quote. Control characters have to be escaped. -/
def readCodes (codes : List Nat) : List Char → Option (List Nat × List Char)
  | [] => none
  | '"' :: rest => some (codes.reverse, rest)
  | '\\' :: 'u' :: a :: b :: c :: d :: rest =>
    match hexCode? a b c d with
    | some code => readCodes (code :: codes) rest
    | none => none
  | '\\' :: e :: rest =>
    match shortEscape? e with
    | some code => readCodes (code :: codes) rest
    | none => none
  | c :: rest => if c.toNat < 0x20 then none else readCodes (c.toNat :: codes) rest

/-- Join the surrogate pairs of a list of code points; `none` when a half stands alone. -/
def joinCodes (chars : List Char) : List Nat → Option (List Char)
  | [] => some chars.reverse
  | code :: rest =>
    if 0xD800 ≤ code && code < 0xDC00 then
      match rest with
      | low :: rest =>
        if 0xDC00 ≤ low && low < 0xE000 then
          joinCodes (Char.ofNat (0x10000 + (code - 0xD800) * 0x400 + (low - 0xDC00)) :: chars) rest
        else none
      | [] => none
    else if 0xDC00 ≤ code && code < 0xE000 then none
    else joinCodes (Char.ofNat code :: chars) rest

/-- Read a string literal behind its opening quote. -/
def readString (cs : List Char) : Option (Token × List Char) :=
  match readCodes [] cs with
  | some (codes, rest) => some (.string ((joinCodes [] codes).map String.ofList), rest)
  | none => none

/-! ## Numbers -/

/-- The value of a decimal digit character. -/
def digitValue (c : Char) : Nat := c.toNat - '0'.toNat

/-- The leading digits, at least one, and what is left. -/
def readDigits (cs : List Char) : Option (List Nat × List Char) :=
  match cs.takeWhile Char.isDigit with
  | [] => none
  | digits => some (digits.map digitValue, cs.dropWhile Char.isDigit)

/-- The digits before the point: a single zero, or digits that start with another one. -/
def readWhole : List Char → Option (List Nat × List Char)
  | '0' :: rest => some ([0], rest)
  | cs => readDigits cs

/-- The digits behind the point, if there is one. -/
def readFraction : List Char → Option (List Nat × List Char)
  | '.' :: rest => readDigits rest
  | cs => some ([], cs)

/-- The exponent, if there is one. -/
def readExponent : List Char → Option (Option Int × List Char)
  | e :: rest =>
    if e == 'e' || e == 'E' then
      match rest with
      | '-' :: rest => (readDigits rest).map fun (digits, rest) => (some (-Numeral.ofDigits digits), rest)
      | '+' :: rest => (readDigits rest).map fun (digits, rest) => (some (Numeral.ofDigits digits), rest)
      | rest => (readDigits rest).map fun (digits, rest) => (some (Numeral.ofDigits digits), rest)
    else some (none, e :: rest)
  | [] => some (none, [])

/-- Read a number without its sign. -/
def readUnsigned (negative : Bool) (cs : List Char) : Option (Numeral × List Char) := do
  let (whole, cs) ← readWhole cs
  let (fraction, cs) ← readFraction cs
  let (exponent, cs) ← readExponent cs
  some (⟨negative, whole, fraction, exponent⟩, cs)

/-- Read a number. -/
def readNumber (cs : List Char) : Option (Token × List Char) :=
  let numeral := match cs with
    | '-' :: rest => readUnsigned true rest
    | cs => readUnsigned false cs
  numeral.map fun (n, rest) => (.scalar (if n.inRange then .number n.value else .unusable), rest)

/-! ## All tokens -/

/-- Read the token at the head of a text that does not start with a blank. -/
def readToken : List Char → Option (Token × List Char)
  | '\x7b' :: rest => some (.openBrace, rest)
  | '\x7d' :: rest => some (.closeBrace, rest)
  | '[' :: rest => some (.openBracket, rest)
  | ']' :: rest => some (.closeBracket, rest)
  | ':' :: rest => some (.colon, rest)
  | ',' :: rest => some (.comma, rest)
  | '"' :: rest => readString rest
  | 'n' :: 'u' :: 'l' :: 'l' :: rest => some (.scalar .null, rest)
  | 't' :: 'r' :: 'u' :: 'e' :: rest => some (.scalar (.bool true), rest)
  | 'f' :: 'a' :: 'l' :: 's' :: 'e' :: rest => some (.scalar (.bool false), rest)
  | cs => readNumber cs

/-! ### Every reader leaves less than it was given -/

theorem length_readCodes {codes out : List Nat} {cs rest : List Char}
    (h : readCodes codes cs = some (out, rest)) : rest.length < cs.length := by
  fun_induction readCodes codes cs <;> simp_all <;> omega

theorem length_readDigits {cs rest : List Char} {digits : List Nat}
    (h : readDigits cs = some (digits, rest)) : rest.length < cs.length := by
  unfold readDigits at h
  split at h
  · simp at h
  · rename_i taken hne
    simp only [Option.some.injEq, Prod.mk.injEq] at h
    have hlen := congrArg List.length (List.takeWhile_append_dropWhile (p := Char.isDigit) (l := cs))
    have hpos : 0 < (cs.takeWhile Char.isDigit).length := by
      cases hc : cs.takeWhile Char.isDigit with
      | nil => exact absurd hc hne
      | cons => simp
    rw [List.length_append] at hlen
    rw [← h.2]
    omega

theorem length_readWhole {cs rest : List Char} {digits : List Nat}
    (h : readWhole cs = some (digits, rest)) : rest.length < cs.length := by
  unfold readWhole at h
  split at h
  · simp only [Option.some.injEq, Prod.mk.injEq] at h
    simp [← h.2]
  · exact length_readDigits h

theorem length_readFraction {cs rest : List Char} {digits : List Nat}
    (h : readFraction cs = some (digits, rest)) : rest.length ≤ cs.length := by
  unfold readFraction at h
  split at h
  · have := length_readDigits h
    simp only [List.length_cons]
    omega
  · simp only [Option.some.injEq, Prod.mk.injEq] at h
    simp [← h.2]

theorem length_readExponent {cs rest : List Char} {e : Option Int}
    (h : readExponent cs = some (e, rest)) : rest.length ≤ cs.length := by
  unfold readExponent at h
  split at h
  · split at h
    · split at h <;>
        · obtain ⟨⟨digits, left⟩, hd, he⟩ := Option.map_eq_some_iff.1 h
          have := length_readDigits hd
          simp only [Prod.mk.injEq] at he
          simp only [List.length_cons, ← he.2]
          try simp only [List.length_cons] at this
          omega
    · simp only [Option.some.injEq, Prod.mk.injEq] at h
      simp [← h.2]
  · simp only [Option.some.injEq, Prod.mk.injEq] at h
    simp [← h.2]

theorem length_readUnsigned {negative : Bool} {cs rest : List Char} {n : Numeral}
    (h : readUnsigned negative cs = some (n, rest)) : rest.length < cs.length := by
  simp only [readUnsigned, Option.bind_eq_bind, Option.bind_eq_some_iff] at h
  obtain ⟨⟨w, cs₁⟩, hw, ⟨f, cs₂⟩, hf, ⟨e, cs₃⟩, he, hr⟩ := h
  simp only [Option.some.injEq, Prod.mk.injEq] at hr
  have hw := length_readWhole hw
  have hf : cs₂.length ≤ cs₁.length := length_readFraction hf
  have he : cs₃.length ≤ cs₂.length := length_readExponent he
  rw [← hr.2]
  omega

theorem length_readNumber {cs rest : List Char} {t : Token}
    (h : readNumber cs = some (t, rest)) : rest.length < cs.length := by
  simp only [readNumber, Option.map_eq_some_iff] at h
  obtain ⟨⟨n, left⟩, hn, ht⟩ := h
  simp only [Prod.mk.injEq] at ht
  rw [← ht.2]
  split at hn
  · have := length_readUnsigned hn
    simp only [List.length_cons]
    omega
  · exact length_readUnsigned hn

/-- A token is at least one character long. -/
theorem length_readToken {cs rest : List Char} {t : Token}
    (h : readToken cs = some (t, rest)) : rest.length < cs.length := by
  unfold readToken at h
  split at h
  case h_7 cs =>
    unfold readString at h
    split at h
    · rename_i codes left hr
      simp only [Option.some.injEq, Prod.mk.injEq] at h
      have := length_readCodes hr
      simp only [List.length_cons, ← h.2]
      omega
    · simp at h
  case h_11 => exact length_readNumber h
  all_goals
    simp only [Option.some.injEq, Prod.mk.injEq] at h
    simp only [List.length_cons, ← h.2]
    omega

/-- Read the tokens of a text behind the tokens that are already read, last first. -/
def readTokens (tokens : List Token) (cs : List Char) : Option (List Token) :=
  match _h : cs.dropWhile isSpace with
  | [] => some tokens.reverse
  | c :: rest =>
    match _ht : readToken (c :: rest) with
    | some (token, rest) => readTokens (token :: tokens) rest
    | none => none
termination_by cs.length
decreasing_by
  have hr := length_readToken _ht
  have hd := (List.dropWhile_sublist (l := cs) isSpace).length_le
  rw [_h] at hd
  omega

/-- The tokens of a text, or `none` when some part of it is no token. -/
def Token.readAll (cs : List Char) : Option (List Token) := readTokens [] cs

end Restyle.Json
