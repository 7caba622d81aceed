import Restyle.Proofs.Declaration.Readers

set_option autoImplicit false

/-! # Reading values

A value is a row of tokens, and a word may be derived as several of them: `ab` is one word or two, and
in `ab(c)` only the second of two words is a function. The reader takes the longest word it can, with its
arguments. `afterWord_mem_tokens` says that this does no harm: of a row of tokens it leaves a row of
tokens.
-/

namespace Restyle.Declaration

open Grammar Computability

/-! ## Strings and arguments -/

/-- `rest` stands behind the first `q` of a text. -/
def Behind (q : Char) (cs rest : List Char) : Prop := ∃ text, q ∉ text ∧ cs = text ++ q :: rest

theorem behind_cons {q c : Char} {cs rest : List Char} :
    Behind q (c :: cs) rest ↔ if c = q then cs = rest else Behind q cs rest := by
  by_cases hc : c = q
  · subst hc
    rw [if_pos rfl]
    constructor
    · rintro ⟨text, hq, htext⟩
      cases text with
      | nil => exact (List.cons.inj htext).2
      | cons d text =>
          -- The text would start with its own end.
          rw [← (List.cons.inj htext).1] at hq
          exact absurd List.mem_cons_self hq
    · rintro rfl
      exact ⟨[], List.not_mem_nil, rfl⟩
  · rw [if_neg hc]
    constructor
    · rintro ⟨text, hq, htext⟩
      cases text with
      | nil => exact absurd (List.cons.inj htext).1 hc
      | cons d text => exact ⟨text, fun h => hq (List.mem_cons_of_mem _ h), (List.cons.inj htext).2⟩
    · rintro ⟨text, hq, rfl⟩
      exact ⟨c :: text, by simp [hq, Ne.symm hc], rfl⟩

theorem afterQuote?_eq_some_iff {q : Char} {cs rest : List Char} :
    afterQuote? q cs = some rest ↔ Behind q cs rest := by
  induction cs with
  | nil => simp [afterQuote?, Behind]
  | cons c cs ih =>
      rw [afterQuote?, behind_cons]
      by_cases hc : c = q
      · rw [if_pos hc, if_pos hc, Option.some.injEq]
      · rw [if_neg hc, if_neg hc, ih]

theorem afterArguments?_string {s : List Char} (hs : s ∈ Grammar.string) (depth : Nat)
    (rest : List Char) :
    afterArguments? depth none (s ++ rest) = afterArguments? depth none rest := by
  obtain ⟨q, text, hq, htext, rfl⟩ := mem_string_iff.mp hs
  have hquote : afterQuote? q (text ++ q :: rest) = some rest :=
    afterQuote?_eq_some_iff.mpr ⟨text, htext, rfl⟩
  calc afterArguments? depth none (q :: (text ++ [q]) ++ rest)
    _ = afterArguments? depth (some q) (text ++ q :: rest) := by
        rw [List.cons_append, List.append_assoc, afterArguments?_quote hq]
        rfl
    _ = afterArguments? depth none rest := by
        rw [afterArguments?_some, hquote]
        rfl

/-- Arguments leave the number of open parentheses as it was. -/
theorem afterArguments?_args {a : List Char} (ha : Args a) (depth : Nat) (rest : List Char) :
    afterArguments? depth none (a ++ rest) = afterArguments? depth none rest := by
  induction ha generalizing depth rest with
  | nil => rfl
  | string hs _ ih => rw [List.append_assoc, afterArguments?_string hs, ih]
  | @parens inner left _ _ ihi ih =>
      calc afterArguments? depth none ('(' :: (inner ++ ')' :: left) ++ rest)
        _ = afterArguments? (depth + 1) none (inner ++ ')' :: (left ++ rest)) := by
            rw [List.cons_append, afterArguments?_open, List.append_assoc, List.cons_append]
        _ = afterArguments? (depth + 1) none (')' :: (left ++ rest)) := ihi _ _
        _ = afterArguments? depth none (left ++ rest) := rfl
        _ = afterArguments? depth none rest := ih _ _
  | char hc _ ih => rw [List.cons_append, afterArguments?_char hc, ih]

theorem exists_args_of_afterArguments? {cs rest : List Char}
    (h : afterArguments? 0 none cs = some rest) : ∃ a, Args a ∧ cs = a ++ ')' :: rest := by
  -- A string and the arguments in parentheses are taken as a whole, hence strong induction.
  induction hlength : cs.length using Nat.strongRecOn generalizing cs rest with
  | ind length ih =>
      subst hlength
      cases cs with
      | nil => cases h
      | cons c cs =>
          by_cases hq : c = '"' ∨ c = '\''
          · rw [afterArguments?_quote hq, afterArguments?_some, Option.bind_eq_some_iff] at h
            obtain ⟨left, hleft, h⟩ := h
            obtain ⟨a, ha, rfl⟩ := ih _ (Nat.lt_succ_of_lt (length_afterQuote? hleft)) h rfl
            obtain ⟨text, htext, rfl⟩ := afterQuote?_eq_some_iff.mp hleft
            have hs : c :: (text ++ [c]) ∈ Grammar.string :=
              mem_string_iff.mpr ⟨c, text, hq, htext, rfl⟩
            exact ⟨_, .string hs ha, by simp⟩
          by_cases ho : c = '('
          · -- The arguments in parentheses are closed first.
            rw [ho, afterArguments?_open, afterArguments?_succ, Option.bind_eq_some_iff] at h
            obtain ⟨left, hleft, h⟩ := h
            obtain ⟨a, ha, rfl⟩ := ih _ (Nat.lt_succ_of_lt (length_afterArguments? hleft)) h rfl
            obtain ⟨inner, hi, rfl⟩ := ih _ (Nat.lt_succ_self _) hleft rfl
            exact ⟨_, .parens hi ha, by simp [ho]⟩
          by_cases hc : c = ')'
          · subst hc
            cases h
            exact ⟨[], .nil, rfl⟩
          · have hother : c ∉ ['(', ')', '"', '\''] := by simp [ho, hc, not_or.mp hq]
            rw [afterArguments?_char hother] at h
            obtain ⟨a, ha, rfl⟩ := ih _ (Nat.lt_succ_self _) h rfl
            exact ⟨c :: a, .char hother ha, rfl⟩

/-- The arguments of a function end at the parenthesis that closes them. -/
theorem afterArguments?_eq_some_iff {cs rest : List Char} :
    afterArguments? 0 none cs = some rest ↔ ∃ a, Args a ∧ cs = a ++ ')' :: rest := by
  constructor
  · exact exists_args_of_afterArguments?
  · rintro ⟨a, ha, rfl⟩
    rw [afterArguments?_args ha]
    rfl

/-! ## Words -/

theorem afterWord_append {w : List Char} (hw : ∀ c ∈ w, IsWordChar c) (rest : List Char) :
    afterWord (w ++ rest) = afterWord rest := by
  have hdrop : (w ++ rest).dropWhile isWordChar = rest.dropWhile isWordChar :=
    List.dropWhile_append_of_pos fun c hc => isWordChar_iff.mpr (hw c hc)
  rw [afterWord, hdrop]
  rfl

theorem afterWord_function {a : List Char} (ha : Args a) (rest : List Char) :
    afterWord ('(' :: (a ++ ')' :: rest)) = rest := by
  have harguments : afterArguments? 0 none (a ++ ')' :: rest) = some rest :=
    afterArguments?_eq_some_iff.mpr ⟨a, ha, rfl⟩
  rw [afterWord, List.dropWhile_cons_of_neg (by decide)]
  show (afterArguments? 0 none (a ++ ')' :: rest)).getD _ = rest
  rw [harguments, Option.getD_some]

theorem afterWord_cons {c : Char} (hc : ¬ IsWordChar c) (ho : c ≠ '(') (rest : List Char) :
    afterWord (c :: rest) = c :: rest := by
  rw [afterWord, List.dropWhile_cons_of_neg fun h => hc (isWordChar_iff.mp h)]
  split
  · rename_i h
    exact absurd (List.cons.inj h).1 ho
  · rfl

theorem afterWord_spaced {s rest : List Char} (hs : ∀ c ∈ s, IsWs c)
    (h : afterWord rest = rest) : afterWord (s ++ rest) = s ++ rest := by
  cases s with
  | nil => exact h
  | cons c s =>
      have hc := hs c List.mem_cons_self
      exact afterWord_cons hc.not_isWordChar hc.ne_open _

/-- A word with what is taken behind it is one token. -/
theorem exists_token_afterWord {c : Char} (hc : IsWordChar c) (cs : List Char) :
    ∃ t ∈ token, c :: cs = t ++ afterWord (c :: cs) := by
  have hp := isWordChar_iff.mpr hc
  have hw : (c :: cs).takeWhile isWordChar ∈ word := by
    refine ⟨?_, fun d hd => isWordChar_iff.mp (List.mem_takeWhile_imp hd)⟩
    rw [List.takeWhile_cons_of_pos hp]
    exact List.cons_ne_nil _ _
  have hsplit : (c :: cs).takeWhile isWordChar ++ (c :: cs).dropWhile isWordChar = c :: cs :=
    List.takeWhile_append_dropWhile
  generalize (c :: cs).takeWhile isWordChar = w at hw hsplit
  rw [afterWord]
  split
  · rename_i rest hrest
    rw [hrest] at hsplit
    cases harguments : afterArguments? 0 none rest with
    | none => exact ⟨w, .inr hw, hsplit.symm⟩
    | some left =>
        -- The whole function is the token.
        obtain ⟨a, ha, rfl⟩ := afterArguments?_eq_some_iff.mp harguments
        refine ⟨w ++ ['('] ++ a ++ [')'], .inl (.inl (.inr ?_)), ?_⟩
        · exact Language.append_mem_mul
            (Language.append_mem_mul (Language.append_mem_mul hw rfl) ha) rfl
        · rw [← hsplit, Option.getD_some]
          simp
  · exact ⟨w, .inr hw, hsplit.symm⟩

/-! ## Tokens -/

/-- The characters that can follow a value. -/
def IsStop (c : Char) : Prop := c ∈ ['!', ';', '\x7d']

theorem IsStop.mem_wordBreaks {c : Char} (h : IsStop c) : c ∈ wordBreaks := by
  revert h
  simp only [IsStop, wordBreaks, List.mem_cons, List.not_mem_nil, or_false]
  tauto

theorem afterToken?_of_isStop {c : Char} (h : IsStop c) (rest : List Char) :
    afterToken? (c :: rest) = none := by
  have hw : isWordChar c = false := by
    rw [Bool.eq_false_iff, ne_eq, isWordChar_iff]
    exact not_isWordChar_of_mem h.mem_wordBreaks
  have hc : c ≠ '"' ∧ c ≠ '\'' ∧ c ≠ ',' := by
    refine ⟨?_, ?_, ?_⟩ <;> rintro rfl <;> revert h <;> simp [IsStop]
  simp [afterToken?, hw, hc]

theorem afterToken?_string {s : List Char} (hs : s ∈ Grammar.string) (rest : List Char) :
    afterToken? (s ++ rest) = some rest := by
  obtain ⟨q, text, hq, htext, rfl⟩ := mem_string_iff.mp hs
  rw [List.cons_append, afterToken?, if_pos (by simpa using hq), List.append_assoc]
  exact afterQuote?_eq_some_iff.mpr ⟨text, htext, rfl⟩

theorem afterToken?_word {w : List Char} (hw : w ∈ word) (rest : List Char) :
    afterToken? (w ++ rest) = some (afterWord (w ++ rest)) := by
  obtain ⟨hne, hw⟩ := hw
  cases w with
  | nil => exact absurd rfl hne
  | cons c w => exact afterToken?_of_isWordChar (isWordChar_iff.mpr (hw c List.mem_cons_self)) _

/-- What is taken as a token is one. -/
theorem exists_token_of_afterToken? {cs rest : List Char} (h : afterToken? cs = some rest) :
    ∃ t ∈ token, cs = t ++ rest := by
  cases cs with
  | nil => cases h
  | cons c cs =>
      rw [afterToken?] at h
      split at h
      · rename_i hq
        obtain ⟨text, htext, rfl⟩ := afterQuote?_eq_some_iff.mp h
        refine ⟨c :: (text ++ [c]), .inl (.inl (.inl ?_)), by simp⟩
        exact mem_string_iff.mpr ⟨c, text, by simpa using hq, htext, rfl⟩
      · split at h
        · rename_i hc
          cases h
          exact ⟨[c], .inl (.inr (by rw [hc]; rfl)), rfl⟩
        · split at h
          · rename_i hw
            cases h
            exact exists_token_afterWord (isWordChar_iff.mp hw) cs
          · cases h

/-- A token does not start with a blank. -/
theorem skipSpace_token {t : List Char} (ht : t ∈ token) (rest : List Char) :
    skipSpace (t ++ rest) = t ++ rest := by
  have hstart : ∃ c left, t = c :: left ∧ ¬ IsWs c := by
    have hword : ∀ w ∈ word, ∃ c left, w = c :: left ∧ ¬ IsWs c := by
      rintro (_ | ⟨c, w⟩) ⟨hne, hw⟩
      · exact absurd rfl hne
      · exact ⟨c, w, rfl, fun hc => hc.not_isWordChar (hw c List.mem_cons_self)⟩
    rcases mem_token_cases ht with hs | ⟨w, hw, a, -, rfl⟩ | rfl | hw
    · obtain ⟨q, text, hq, -, rfl⟩ := mem_string_iff.mp hs
      refine ⟨q, _, rfl, ?_⟩
      rcases hq with rfl | rfl <;> exact not_isWs_of_mem (by decide)
    · obtain ⟨c, left, rfl, hc⟩ := hword w hw
      exact ⟨c, _, rfl, hc⟩
    · exact ⟨',', [], rfl, not_isWs_of_mem (by decide)⟩
    · exact hword t hw
  obtain ⟨c, left, rfl, hc⟩ := hstart
  exact skipSpace_cons hc _

section Tokens

variable {k : Language Char} (hk : StartsSpaced k IsStop)

include hk

/-- Taking the rest of a word leaves a row of tokens, though the word may have been meant as several
tokens. -/
theorem afterWord_mem_tokens : ∀ r ∈ (ws * token)∗ * k, afterWord r ∈ (ws * token)∗ * k := by
  refine tokens_induction ?_ ?_
  · intro r hr
    obtain ⟨c, rest, hrest, hc⟩ := hk r hr
    have hword := not_isWordChar_of_mem hc.mem_wordBreaks
    have ho : c ≠ '(' := by rintro rfl; exact absurd hc (by simp [IsStop])
    have hself : afterWord r = r := by
      obtain ⟨s, hs, hsplit⟩ := exists_skipSpace r
      rw [hsplit, hrest]
      exact afterWord_spaced hs (afterWord_cons hword ho rest)
    rw [hself]
    exact mem_tokens_of_mem hr
  · intro s hs t ht r hr ih
    have hwhole : s ++ (t ++ r) ∈ (ws * token)∗ * k :=
      mem_tokens_iff.mpr (.inr (Language.append_mem_mul hs (Language.append_mem_mul ht hr)))
    cases s with
    | cons d s =>
        -- A blank ends the word.
        have hd := hs d List.mem_cons_self
        rwa [List.cons_append, afterWord_cons hd.not_isWordChar hd.ne_open]
    | nil =>
        rw [List.nil_append] at hwhole ⊢
        rcases mem_token_cases ht with hstring | ⟨w, hw, a, ha, rfl⟩ | rfl | hw
        · -- Neither a quote nor a comma continues a word.
          obtain ⟨q, text, hq, -, rfl⟩ := mem_string_iff.mp hstring
          have hword : ¬ IsWordChar q ∧ q ≠ '(' := by
            rcases hq with rfl | rfl
            · exact ⟨not_isWordChar_of_mem (by decide), by decide⟩
            · exact ⟨not_isWordChar_of_mem (by decide), by decide⟩
          rwa [List.cons_append, afterWord_cons hword.1 hword.2]
        · -- The word continues to the name of the function, whose arguments are taken with it.
          rwa [List.append_assoc, afterWord_append hw.2, List.cons_append, List.append_assoc,
            List.cons_append, afterWord_function ha]
        · rwa [List.cons_append, afterWord_cons (not_isWordChar_of_mem (by decide)) (by decide)]
        · -- Two words without a blank in between are read as one.
          rwa [afterWord_append hw.2]

/-- A token in front of a row of tokens, however it is read. -/
theorem afterToken?_append_mem {t r : List Char} (ht : t ∈ token) (hr : r ∈ (ws * token)∗ * k) :
    ∃ rest ∈ (ws * token)∗ * k, afterToken? (t ++ r) = some rest := by
  rcases mem_token_cases ht with hs | ⟨w, hw, a, ha, rfl⟩ | rfl | hw
  · exact ⟨r, hr, afterToken?_string hs r⟩
  · refine ⟨r, hr, ?_⟩
    rw [List.append_assoc, afterToken?_word hw, afterWord_append hw.2, List.cons_append,
      List.append_assoc, List.cons_append, List.nil_append, afterWord_function ha]
  · exact ⟨r, hr, rfl⟩
  · refine ⟨afterWord r, afterWord_mem_tokens hk r hr, ?_⟩
    rw [afterToken?_word hw, afterWord_append hw.2]

theorem mem_ws_mul_token_mul_iff {cs : List Char} :
    cs ∈ ws * (token * ((ws * token)∗ * k)) ↔
      ∃ rest, afterToken? (skipSpace cs) = some rest ∧ rest ∈ (ws * token)∗ * k := by
  constructor
  · intro h
    obtain ⟨s, hs, _, ⟨t, ht, r, hr, rfl⟩, rfl⟩ := h
    obtain ⟨rest, hrest, htoken⟩ := afterToken?_append_mem hk ht hr
    refine ⟨rest, ?_, hrest⟩
    rw [skipSpace_append hs, skipSpace_token ht, htoken]
  · rintro ⟨rest, htoken, hrest⟩
    obtain ⟨t, ht, hsplit⟩ := exists_token_of_afterToken? htoken
    obtain ⟨s, hs, hcs⟩ := exists_skipSpace cs
    rw [hcs, hsplit]
    exact Language.append_mem_mul hs (Language.append_mem_mul ht hrest)

/-- **A row of tokens**, read to its end. -/
theorem mem_tokens_mul_iff {cs : List Char} : cs ∈ (ws * token)∗ * k ↔ afterTokens cs ∈ k := by
  fun_induction afterTokens cs with
  | case1 cs rest h ih =>
      rw [← ih, mem_tokens_iff, mem_ws_mul_token_mul_iff hk]
      constructor
      · rintro (hcs | ⟨left, hleft, hmem⟩)
        · -- What follows the value does not start with a token.
          obtain ⟨c, r, hr, hc⟩ := hk cs hcs
          rw [hr, afterToken?_of_isStop hc] at h
          cases h
        · rw [h] at hleft
          cases hleft
          exact hmem
      · exact fun hrest => .inr ⟨rest, h, hrest⟩
  | case2 cs h =>
      rw [mem_tokens_iff, mem_ws_mul_token_mul_iff hk]
      constructor
      · rintro (hcs | ⟨left, hleft, -⟩)
        · exact hcs
        · rw [h] at hleft
          cases hleft
      · exact .inl

/-- A value, which is at least one token. -/
theorem mem_value_mul_iff {cs : List Char} :
    cs ∈ ws * (token * ((ws * token)∗ * k)) ↔ ∃ rest, scanValue cs = .ok rest ∧ rest ∈ k := by
  rw [mem_ws_mul_token_mul_iff hk, scanValue]
  cases afterToken? (skipSpace cs) with
  | none => simp
  | some rest => simp [mem_tokens_mul_iff hk]

end Tokens

end Restyle.Declaration
