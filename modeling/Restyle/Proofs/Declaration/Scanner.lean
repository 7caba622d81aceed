import Restyle.Declaration

set_option autoImplicit false

/-! # Scanning a block

The reading of a block by scanners that look at each character once: they never go back, and count the
open parentheses instead of reading arguments inside of arguments.
-/

namespace Restyle.Declaration

open Text (Reading)
open Text.Reader (char atEnd)

/-! ## Scanners for the parts of a value -/

/-- Leave out the blanks in front. -/
def skipSpace (cs : List Char) : List Char := cs.dropWhile isSpace

/-- What is left behind the next quote `q`, if there is one. -/
def afterQuote? (q : Char) : List Char → Option (List Char)
  | [] => none
  | c :: rest => if c = q then some rest else afterQuote? q rest

/-- What is left behind the parenthesis that closes the arguments of a function, if there is one.
`depth` more parentheses have been opened in between, and `quoted` is the quote that has to close
the string the text stands in. -/
def afterArguments? : Nat → Option Char → List Char → Option (List Char)
  | _, _, [] => none
  | depth, some q, c :: rest => afterArguments? depth (if c = q then none else some q) rest
  | depth, none, c :: rest =>
    if c = '"' || c = '\'' then afterArguments? depth (some c) rest
    else if c = '(' then afterArguments? (depth + 1) none rest
    else if c = ')' then
      match depth with
      | 0 => some rest
      | depth + 1 => afterArguments? depth none rest
    else afterArguments? depth none rest

/-- What is left behind a word, which is a function when arguments follow it. -/
def afterWord (cs : List Char) : List Char :=
  match cs.dropWhile isWordChar with
  | '(' :: rest => (afterArguments? 0 none rest).getD ('(' :: rest)
  | rest => rest

/-- What is left behind a token of a value, if one stands here. -/
def afterToken? : List Char → Option (List Char)
  | [] => none
  | c :: rest =>
    if c = '"' || c = '\'' then afterQuote? c rest
    else if c = ',' then some rest
    else if isWordChar c then some (afterWord (c :: rest))
    else none

theorem length_skipSpace_le (cs : List Char) : (skipSpace cs).length ≤ cs.length :=
  (List.dropWhile_sublist isSpace).length_le

theorem length_afterQuote? {q : Char} {cs rest : List Char} (h : afterQuote? q cs = some rest) :
    rest.length < cs.length := by
  induction cs with
  | nil => cases h
  | cons c cs ih =>
      rw [afterQuote?] at h
      split at h
      · cases h
        exact Nat.lt_succ_self _
      · exact Nat.lt_succ_of_lt (ih h)

theorem length_afterArguments? {depth : Nat} {quoted : Option Char} {cs rest : List Char}
    (h : afterArguments? depth quoted cs = some rest) : rest.length < cs.length := by
  fun_induction afterArguments? depth quoted cs with
  | case1 => cases h
  | case5 =>
      cases h
      exact Nat.lt_succ_self _
  | case2 | case3 | case4 | case6 | case7 =>
      rename_i ih
      exact Nat.lt_succ_of_lt (ih h)

theorem length_afterWord {c : Char} {cs : List Char} (h : isWordChar c = true) :
    (afterWord (c :: cs)).length ≤ cs.length := by
  have hd := (List.dropWhile_sublist (l := cs) isWordChar).length_le
  simp only [afterWord, List.dropWhile_cons, h, if_true]
  split
  · rename_i rest hr
    cases ha : afterArguments? 0 none rest with
    | none => simpa [← hr] using hd
    | some left =>
      have := length_afterArguments? ha
      rw [hr] at hd
      simp only [List.length_cons, Option.getD_some] at *
      omega
  · exact hd

/-- A token is at least one character long. -/
theorem length_afterToken? {cs rest : List Char} (h : afterToken? cs = some rest) :
    rest.length < cs.length := by
  cases cs with
  | nil => cases h
  | cons c cs =>
      rw [afterToken?] at h
      split at h
      · exact Nat.lt_succ_of_lt (length_afterQuote? h)
      split at h
      · cases h
        exact Nat.lt_succ_self _
      split at h
      · rename_i hword
        cases h
        exact Nat.lt_succ_of_le (length_afterWord hword)
      · cases h

/-- What is left behind all further tokens of a value, each behind blanks. -/
def afterTokens (cs : List Char) : List Char :=
  match _h : afterToken? (skipSpace cs) with
  | some rest => afterTokens rest
  | none => cs
termination_by cs.length
decreasing_by exact Nat.lt_of_lt_of_le (length_afterToken? _h) (length_skipSpace_le cs)

/-- Scan a value: at least one token. -/
def scanValue (cs : List Char) : Reading :=
  match afterToken? (skipSpace cs) with
  | some rest => .ok (afterTokens rest)
  | none => .error (skipSpace cs)

/-! ## Scanners for the parts of a block -/

/-- What is left behind the next `*/`, if there is one. -/
def afterCommentEnd? : List Char → Option (List Char)
  | [] => none
  | '*' :: '/' :: rest => some rest
  | _ :: rest => afterCommentEnd? rest

/-- Leave out a comment and the blanks behind it, if a comment stands here. -/
def skipComment (cs : List Char) : List Char :=
  match cs with
  | '/' :: '*' :: rest =>
    match afterCommentEnd? rest with
    | some rest => skipSpace rest
    | none => cs
  | _ => cs

/-- Leave out one given character, if it stands here. -/
def skipChar (c : Char) : List Char → List Char
  | [] => []
  | d :: rest => if d = c then rest else d :: rest

/-- Scan the name of a property. -/
def scanName (cs : List Char) : Reading :=
  match skipChar '-' cs with
  | [] => .error []
  | c :: rest => if c.isAlpha then .ok (rest.dropWhile isNameChar) else .error (c :: rest)

/-- Leave out the mark of an important declaration, if it stands here behind blanks. The word is
written in letters of either case. -/
def skipImportant (cs : List Char) : List Char :=
  match skipSpace cs with
  | '!' :: rest =>
    let word := (skipSpace rest).takeWhile Char.isAlpha
    if word.map Char.toLower = "important".toList then (skipSpace rest).dropWhile Char.isAlpha
    else cs
  | _ => cs

/-- Scan the selector in front of a block. -/
def scanSelector (cs : List Char) : Reading :=
  match cs with
  | [] => .error []
  | c :: rest => if c = '\x7b' then .error cs else .ok (rest.dropWhile (· != '\x7b'))

/-- Scan a declaration. -/
def scanDeclaration (cs : List Char) : Reading := do
  let cs ← scanName (skipComment cs)
  let cs ← char ':' (skipSpace cs)
  let cs ← scanValue cs
  .ok (skipImportant cs)

/-- Scan a block to the end of the text. -/
def scanBlock (cs : List Char) : Reading := do
  let cs ← scanSelector (skipSpace cs)
  let cs ← char '\x7b' cs
  let cs ← scanDeclaration (skipSpace cs)
  let cs ← char '\x7d' (skipSpace (skipChar ';' (skipSpace cs)))
  atEnd (skipSpace cs)

theorem char_nil (c : Char) : char c [] = .error [] := rfl

theorem char_cons (c d : Char) (cs : List Char) :
    char c (d :: cs) = if d = c then .ok cs else .error (d :: cs) := by
  rw [char, Text.Reader.one]
  simp only [beq_iff_eq]

theorem ne_of_isWordChar {c d : Char} (hc : isWordChar c = true) (hd : d ∈ wordBreaks) : c ≠ d := by
  rintro rfl
  rw [isWordChar, List.contains_iff_mem.mpr hd] at hc
  simp at hc

theorem not_quote_of_isWordChar {c : Char} (hc : isWordChar c = true) :
    ¬ (c = '"' || c = '\'') = true := by
  rw [Bool.or_eq_true, decide_eq_true_eq, decide_eq_true_eq]
  rintro (h | h)
  · exact ne_of_isWordChar hc (by decide) h
  · exact ne_of_isWordChar hc (by decide) h

theorem afterToken?_of_isWordChar {c : Char} (hc : isWordChar c = true) (cs : List Char) :
    afterToken? (c :: cs) = some (afterWord (c :: cs)) := by
  rw [afterToken?, if_neg (not_quote_of_isWordChar hc), if_neg (ne_of_isWordChar hc (by decide)),
    if_pos hc]

/-! ## Scanning arguments -/

theorem isPlainChar_iff {c : Char} : isPlainChar c = true ↔ c ∉ ['(', ')', '"', '\''] := by
  rw [isPlainChar, Bool.not_eq_true', ← Bool.not_eq_true, List.contains_iff_mem, argumentBreaks]

theorem afterArguments?_quote {q : Char} (hq : q = '"' ∨ q = '\'') (depth : Nat)
    (rest : List Char) :
    afterArguments? depth none (q :: rest) = afterArguments? depth (some q) rest := by
  rcases hq with rfl | rfl <;> cases depth <;> rfl

theorem afterArguments?_open (depth : Nat) (rest : List Char) :
    afterArguments? depth none ('(' :: rest) = afterArguments? (depth + 1) none rest := by
  cases depth <;> rfl

theorem afterArguments?_char {c : Char} (hc : c ∉ ['(', ')', '"', '\'']) (depth : Nat)
    (rest : List Char) :
    afterArguments? depth none (c :: rest) = afterArguments? depth none rest := by
  simp only [List.mem_cons, List.not_mem_nil, or_false, not_or] at hc
  cases depth <;> simp [afterArguments?, hc]

/-- Inside a string the scanner runs to its quote. -/
theorem afterArguments?_some (depth : Nat) (q : Char) (cs : List Char) :
    afterArguments? depth (some q) cs = (afterQuote? q cs).bind (afterArguments? depth none) := by
  induction cs with
  | nil => rfl
  | cons c cs ih =>
      rw [afterArguments?, afterQuote?]
      split
      · rfl
      · exact ih

/-- An open parenthesis more is closed first. -/
theorem afterArguments?_add (depth more : Nat) (quoted : Option Char) (cs : List Char) :
    afterArguments? (depth + (more + 1)) quoted cs
      = (afterArguments? depth quoted cs).bind (afterArguments? more none) := by
  induction cs generalizing depth quoted with
  | nil => rfl
  | cons c cs ih =>
      cases quoted with
      | some q => exact ih depth _
      | none =>
          by_cases hquote : c = '"' ∨ c = '\''
          · rw [afterArguments?_quote hquote, afterArguments?_quote hquote, ih]
          by_cases hopen : c = '('
          · rw [hopen, afterArguments?_open, afterArguments?_open, ← ih, Nat.add_right_comm]
          by_cases hclose : c = ')'
          · -- At depth zero this is the end of the inner scan, and the outer one goes on behind it.
            rw [hclose]
            cases depth with
            | zero => rw [Nat.zero_add]; rfl
            | succ depth => rw [Nat.add_right_comm]; exact ih depth none
          · have hc : c ∉ ['(', ')', '"', '\''] := by simp [hopen, hclose, not_or.mp hquote]
            rw [afterArguments?_char hc, afterArguments?_char hc, ih]

theorem afterArguments?_succ (depth : Nat) (cs : List Char) :
    afterArguments? (depth + 1) none cs
      = (afterArguments? 0 none cs).bind (afterArguments? depth none) := by
  have h := afterArguments?_add 0 depth none cs
  rwa [Nat.zero_add] at h

theorem afterArguments?_dropWhile (depth : Nat) (cs : List Char) :
    afterArguments? depth none (cs.dropWhile isPlainChar) = afterArguments? depth none cs := by
  induction cs with
  | nil => rfl
  | cons c cs ih =>
      by_cases hc : isPlainChar c = true
      · rw [List.dropWhile_cons_of_pos hc, ih, afterArguments?_char (isPlainChar_iff.mp hc)]
      · rw [List.dropWhile_cons_of_neg hc]

end Restyle.Declaration
