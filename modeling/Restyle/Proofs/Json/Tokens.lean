import Restyle.Json.Printer
import Restyle.Proofs.Json.Literals

set_option autoImplicit false

/-! # The tokens of a printed value

A value has a list of tokens, whatever the layout it is printed in, and the indented layout is written
from these tokens (`written_pretty`).

Only for numbers it is left open whether they are printed as a literal that stands for them: a value is
`Legible` when this holds of all its numbers, and when nothing in it is unusable.
-/

namespace Restyle.Json

/-! ## Tokens -/

mutual

/-- The tokens of a value. -/
def tokens : Json → List Token
  | .array items => .openBracket :: itemTokens items
  | .object members => .openBrace :: memberTokens members
  | .string s => [.string (some s)]
  | value => [.scalar value]

/-- The tokens of the items of an array and of its end. -/
def itemTokens : List Json → List Token
  | [] => [.closeBracket]
  | [item] => tokens item ++ [.closeBracket]
  | item :: rest => tokens item ++ .comma :: itemTokens rest

/-- The tokens of the members of an object and of its end. -/
def memberTokens : List (String × Json) → List Token
  | [] => [.closeBrace]
  | [(key, value)] => .string (some key) :: .colon :: (tokens value ++ [.closeBrace])
  | (key, value) :: rest =>
    .string (some key) :: .colon :: (tokens value ++ .comma :: memberTokens rest)

end

theorem itemTokens_cons_cons (item next : Json) (items : List Json) :
    itemTokens (item :: next :: items) = tokens item ++ .comma :: itemTokens (next :: items) :=
  rfl

theorem memberTokens_cons_cons (key : String) (value : Json) (next : String × Json)
    (members : List (String × Json)) :
    memberTokens ((key, value) :: next :: members) =
      .string (some key) :: .colon :: (tokens value ++ .comma :: memberTokens (next :: members)) :=
  rfl

/-! ## Printed strings -/

theorem hexDigit_hexDigit {n : Nat} (h : n < 16) : HexDigit (hexDigit n) n := by
  have hall : ∀ n < 16, lowerHexDigits[n]? = some (hexDigit n) := by decide
  exact .inl (hall n h)

/-- The digits of a control character. -/
theorem hexCode_hexDigit {n : Nat} (h : n < 0x20) :
    HexCode ['0', '0', hexDigit (n / 16), hexDigit (n % 16)] n := by
  have hzero : HexDigit '0' 0 := .inl rfl
  have hcode := HexCode.digits hzero hzero (hexDigit_hexDigit (show n / 16 < 16 by omega))
    (hexDigit_hexDigit (show n % 16 < 16 by omega))
  have hsum : ((0 * 16 + 0) * 16 + n / 16) * 16 + n % 16 = n := by omega
  rwa [hsum] at hcode

/-- An escaped character stands for the character. -/
theorem Characters.escaped {cs s : List Char} (c : Char) (h : Characters cs s) :
    Characters (escapeChar c ++ cs) (c :: s) := by
  unfold escapeChar
  split_ifs with h1 h2 h3 h4 h5 h6 h7 h8
  · subst h1; exact .short (by decide) h
  · subst h2; exact .short (by decide) h
  · subst h3; exact .short (by decide) h
  · subst h4; exact .short (by decide) h
  · subst h5; exact .short (by decide) h
  · subst h6; exact .short (by decide) h
  · subst h7; exact .short (by decide) h
  · -- A control character without a letter of its own is written with its digits.
    have hcode := Characters.code (hexCode_hexDigit h8) (by omega) h
    rwa [Char.ofNat_toNat] at hcode
  · exact .plain (by omega) h1 h2 h

theorem characters_escaped (s : List Char) : Characters (s.flatMap escapeChar) s := by
  induction s with
  | nil => exact .nil
  | cons c s ih => exact .escaped c ih

theorem literal_quote (s : String) : Literal (quote s) (.string (some s)) :=
  .string (characters_escaped s.toList)

/-! ## Legible values -/

mutual

/-- Whether all parts of a value are printed as literals of their own. -/
def Legible : Json → Prop
  | .number value => Literal (printDecimal value) (.scalar (.number value))
  | .unusable => False
  | .array items => AllLegible items
  | .object members => MembersLegible members
  | _ => True

/-- Whether all values of a list are legible. -/
def AllLegible : List Json → Prop
  | [] => True
  | item :: rest => Legible item ∧ AllLegible rest

/-- Whether the values of all members are legible. -/
def MembersLegible : List (String × Json) → Prop
  | [] => True
  | (_, value) :: rest => Legible value ∧ MembersLegible rest

end

theorem endsNumber_lineBreak (level : Nat) (cs : List Char) : EndsNumber (lineBreak level ++ cs) := by
  rintro c h
  cases h
  rfl

theorem endsNumber_comma (cs : List Char) : EndsNumber (',' :: cs) := by
  rintro c h
  cases h
  rfl

theorem written_lineBreak (level : Nat) {cs : List Char} {ts : List Token} (h : Written cs ts) :
    Written (lineBreak level ++ cs) ts := by
  refine .blank (by decide) ?_
  induction 2 * level with
  | zero => exact h
  | succ n ih => exact .blank (by decide) ih

theorem written_quote (s : String) {cs : List Char} {ts : List Token} (h : Written cs ts) :
    Written (quote s ++ cs) (.string (some s) :: ts) :=
  .token (literal_quote s) nofun h

/-- A key, its colon and the blank behind it. -/
theorem written_member (key : String) {cs : List Char} {ts : List Token} (h : Written cs ts) :
    Written (quote key ++ ([':', ' '] ++ cs)) (.string (some key) :: .colon :: ts) :=
  written_quote key (.mark .colon nofun (.blank (by decide) h))

mutual

-- A text is built from its end: `cs` is what follows the value, so that a literal in front of it can be
-- read before anything is known about the whole text.

/-- The indented layout of a legible value is written from its tokens. -/
theorem written_prettyChars (level : Nat) : ∀ (value : Json), Legible value →
    ∀ {cs : List Char} {ts : List Token}, EndsNumber cs → Written cs ts →
      Written (prettyChars level value ++ cs) (tokens value ++ ts)
  | .null, _, _, _, _, h => .token .null nofun h
  | .bool true, _, _, _, _, h => .token .true nofun h
  | .bool false, _, _, _, _, h => .token .false nofun h
  | .number _, hlegible, _, _, hcs, h => .token hlegible (fun _ _ => hcs) h
  | .string s, _, _, _, _, h => written_quote s h
  | .array [], _, _, _, _, h =>
      .mark .openBracket nofun (.mark .closeBracket nofun h)
  | .array (item :: rest), hlegible, _, _, _, h =>
      .mark .openBracket nofun (written_prettyItems level (item :: rest) hlegible h)
  | .object [], _, _, _, _, h =>
      .mark .openBrace nofun (.mark .closeBrace nofun h)
  | .object (member :: rest), hlegible, _, _, _, h =>
      .mark .openBrace nofun (written_prettyMembers level (member :: rest) hlegible h)
  | .unusable, hlegible, _, _, _, _ => hlegible.elim

theorem written_prettyItems (level : Nat) : ∀ (items : List Json), AllLegible items →
    ∀ {cs : List Char} {ts : List Token}, Written cs ts →
      Written (prettyItems level items ++ cs) (itemTokens items ++ ts)
  | [], _, cs, ts, h => by
      rw [prettyItems, List.append_assoc]
      exact written_lineBreak level (.mark .closeBracket nofun h)
  | [item], hlegible, cs, ts, h => by
      have hclose : Written (lineBreak level ++ ']' :: cs) (.closeBracket :: ts) :=
        written_lineBreak level (.mark .closeBracket nofun h)
      have hitem := written_prettyChars (level + 1) item hlegible.1 (endsNumber_lineBreak _ _) hclose
      have := written_lineBreak (level + 1) hitem
      simpa only [prettyItems, itemTokens, List.append_assoc, List.cons_append,
        List.nil_append] using this
  | item :: next :: rest, hlegible, cs, ts, h => by
      have hrest := written_prettyItems level (next :: rest) hlegible.2 h
      have hcomma : Written (',' :: (prettyItems level (next :: rest) ++ cs))
          (.comma :: (itemTokens (next :: rest) ++ ts)) := .mark .comma nofun hrest
      have hitem := written_prettyChars (level + 1) item hlegible.1 (endsNumber_comma _) hcomma
      have := written_lineBreak (level + 1) hitem
      simpa only [prettyItems, itemTokens, List.append_assoc, List.cons_append,
        List.nil_append] using this

theorem written_prettyMembers (level : Nat) : ∀ (members : List (String × Json)),
    MembersLegible members → ∀ {cs : List Char} {ts : List Token}, Written cs ts →
      Written (prettyMembers level members ++ cs) (memberTokens members ++ ts)
  | [], _, cs, ts, h => by
      rw [prettyMembers, List.append_assoc]
      exact written_lineBreak level (.mark .closeBrace nofun h)
  | [(key, value)], hlegible, cs, ts, h => by
      have hclose : Written (lineBreak level ++ '\x7d' :: cs) (.closeBrace :: ts) :=
        written_lineBreak level (.mark .closeBrace nofun h)
      have hvalue := written_prettyChars (level + 1) value hlegible.1 (endsNumber_lineBreak _ _) hclose
      have := written_lineBreak (level + 1) (written_member key hvalue)
      simpa only [prettyMembers, memberTokens, List.append_assoc, List.cons_append,
        List.nil_append] using this
  | (key, value) :: next :: rest, hlegible, cs, ts, h => by
      have hrest := written_prettyMembers level (next :: rest) hlegible.2 h
      have hcomma : Written (',' :: (prettyMembers level (next :: rest) ++ cs))
          (.comma :: (memberTokens (next :: rest) ++ ts)) := .mark .comma nofun hrest
      have hvalue := written_prettyChars (level + 1) value hlegible.1 (endsNumber_comma _) hcomma
      have := written_lineBreak (level + 1) (written_member key hvalue)
      simpa only [prettyMembers, memberTokens, List.append_assoc, List.cons_append,
        List.nil_append] using this

end

theorem written_pretty {value : Json} (h : Legible value) : Written value.pretty.toList (tokens value) := by
  have hlays : Written (prettyChars 0 value ++ []) (tokens value ++ []) :=
    written_prettyChars 0 value h nofun .nil
  rwa [List.append_nil, List.append_nil, ← String.toList_ofList (l := prettyChars 0 value)] at hlays

end Restyle.Json
