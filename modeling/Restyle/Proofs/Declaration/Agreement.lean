import Restyle.Proofs.Declaration.Scanner

set_option autoImplicit false

/-! # Readers and scanners agree

The readers of the grammar try one alternative after another, go back where one is stuck, and read the
arguments of a function by reading arguments. The scanners do none of this. They leave the same
characters, and where the reading of a block is stuck, they are stuck as well
(`readBlock_eq_scanBlock`), so that what is said about the checker can be proved of the scanners.

Inside a choice it makes no difference where a reader is stuck. Most of the statements are therefore
about what a reader leaves, if it leaves anything.
-/

namespace Restyle.Text.Reader

/-! ## What readers leave -/

section Parts

variable {p q : Reader} {ps : List Reader} {cs rest : List Char}

theorem toOption_seq_cons (p : Reader) (ps : List Reader) (cs : List Char) :
    (seq (p :: ps) cs).toOption = (p cs).toOption.bind fun rest => (seq ps rest).toOption := by
  rw [seq]
  cases p cs with
  | ok rest => rfl
  | error stuck => rfl

theorem seq_of_ok (h : p cs = .ok rest) : seq (p :: ps) cs = seq ps rest := by
  rw [seq, h]
  rfl

theorem seq_singleton (p : Reader) (cs : List Char) : seq [p] cs = p cs := by
  rw [seq]
  cases p cs with
  | ok rest => rfl
  | error stuck => rfl

theorem run1_cons (p : Char → Bool) (c : Char) (cs : List Char) :
    run1 p (c :: cs) = if p c then .ok (cs.dropWhile p) else .error (c :: cs) := by
  rw [run1, seq, one]
  split
  · exact seq_singleton (run p) cs
  · rfl

theorem choice_of_some (h : (p cs).toOption = some rest) : choice (p :: q :: ps) cs = .ok rest := by
  rw [choice]
  cases hp : p cs with
  | ok left =>
      rw [hp] at h
      cases h
      rfl
  | error stuck => rw [hp] at h; cases h

theorem choice_of_none (h : (p cs).toOption = none) :
    choice (p :: q :: ps) cs = choice (q :: ps) cs := by
  rw [choice]
  cases hp : p cs with
  | ok left => rw [hp] at h; cases h
  | error stuck => rfl

theorem toOption_choice_cons (p q : Reader) (ps : List Reader) (cs : List Char) :
    (choice (p :: q :: ps) cs).toOption = (p cs).toOption.or (choice (q :: ps) cs).toOption := by
  cases hp : (p cs).toOption with
  | none => rw [choice_of_none hp, Option.none_or]
  | some rest => rw [choice_of_some hp]; rfl

theorem optional_eq (p : Reader) (cs : List Char) :
    optional p cs = .ok ((p cs).toOption.getD cs) := by
  rw [optional]
  cases p cs with
  | ok rest => rfl
  | error stuck => rfl

theorem many_of_some (h : (p cs).toOption = some rest) (hlt : rest.length < cs.length) :
    many p cs = many p rest := by
  rw [many]
  cases hp : p cs with
  | ok left =>
      rw [hp] at h
      cases h
      exact if_pos hlt
  | error stuck => rw [hp] at h; cases h

theorem many_of_none (h : (p cs).toOption = none) : many p cs = .ok cs := by
  rw [many]
  cases hp : p cs with
  | ok left => rw [hp] at h; cases h
  | error stuck => rfl

/-- Repeating a part reads it at places with no more characters than there are. -/
theorem many_congr (h : ∀ ds : List Char, ds.length ≤ cs.length → p ds = q ds) :
    many p cs = many q cs := by
  fun_induction many p cs with
  | case1 cs rest hp hlt ih =>
      have hq : q cs = .ok rest := (h cs (Nat.le_refl _)).symm.trans hp
      rw [many_of_some (congrArg Except.toOption hq) hlt]
      exact ih fun ds hds => h ds (by omega)
  | case2 cs rest hp hlt =>
      have hq : q cs = .ok rest := (h cs (Nat.le_refl _)).symm.trans hp
      rw [many, hq]
      simp only [if_neg hlt]
  | case3 cs stuck hp =>
      have hq : q cs = .error stuck := (h cs (Nat.le_refl _)).symm.trans hp
      rw [many, hq]

/-- A reader that uses itself behind a first character only is what it uses. -/
theorem fix_eq {f : Reader → Reader}
    (hf : ∀ (g g' : Reader) (cs : List Char),
      (∀ rest : List Char, rest.length < cs.length → g rest = g' rest) → f g cs = f g' cs)
    (cs : List Char) : fix f cs = f (fix f) cs := by
  rw [fix]
  exact hf _ _ cs fun rest h => dif_pos h

end Parts

end Restyle.Text.Reader

namespace Restyle.Declaration

open Text Text.Reader

/-! ## Strings -/

theorem toOption_char_cons (c d : Char) (cs : List Char) :
    (char c (d :: cs)).toOption = if d = c then some cs else none := by
  rw [char_cons]
  split
  · rfl
  · rfl

/-- The next quote stands behind the characters that are none. -/
theorem afterQuote?_eq (q : Char) (cs : List Char) :
    afterQuote? q cs = (char q (cs.dropWhile (· != q))).toOption := by
  induction cs with
  | nil => rfl
  | cons c cs ih =>
      rw [afterQuote?]
      split
      · rename_i hc
        rw [List.dropWhile_cons_of_neg (by simp [hc]), toOption_char_cons, if_pos hc]
      · rename_i hc
        rw [List.dropWhile_cons_of_pos (by simp [hc]), ih]

theorem toOption_readQuoted_cons (q c : Char) (cs : List Char) :
    (readQuoted q (c :: cs)).toOption = if c = q then afterQuote? q cs else none := by
  rw [readQuoted, toOption_seq_cons, toOption_char_cons]
  split
  · show (seq [char q] (cs.dropWhile (· != q))).toOption = _
    rw [afterQuote?_eq, seq_singleton]
  · rfl

theorem toOption_readString_cons (c : Char) (cs : List Char) :
    (readString (c :: cs)).toOption = if c = '"' || c = '\'' then afterQuote? c cs else none := by
  rw [readString, toOption_choice_cons, choice, toOption_readQuoted_cons, toOption_readQuoted_cons]
  by_cases hdouble : c = '"'
  · subst hdouble
    simp
  · by_cases hsingle : c = '\''
    · subst hsingle
      simp
    · simp [hdouble, hsingle]

/-! ## Arguments -/

/-- A reader of arguments is used behind the parenthesis that opens them. -/
theorem readArgument_congr {g g' : Reader} {cs : List Char}
    (h : ∀ rest : List Char, rest.length < cs.length → g rest = g' rest) :
    readArgument g cs = readArgument g' cs := by
  have hparens : seq [char '(', g, char ')'] cs = seq [char '(', g', char ')'] cs := by
    cases cs with
    | nil => rfl
    | cons c cs =>
        rw [seq, seq, char_cons]
        split
        · show seq [g, char ')'] cs = seq [g', char ')'] cs
          rw [seq, seq, h cs (Nat.lt_succ_self _)]
        · rfl
  simp only [readArgument, choice, hparens]

theorem readArguments_eq (cs : List Char) :
    readArguments cs = many (readArgument readArguments) cs := by
  refine fix_eq (fun g g' cs h => ?_) cs
  exact many_congr fun ds hds => readArgument_congr fun rest hrest => h rest (by omega)

/-- Read arguments and the parenthesis that closes them. -/
def readClosed : Reader := seq [readArguments, char ')']

theorem readClosed_of_some {cs rest : List Char}
    (h : (readArgument readArguments cs).toOption = some rest) (hlt : rest.length < cs.length) :
    readClosed cs = readClosed rest := by
  rw [readClosed, seq, seq, readArguments_eq, readArguments_eq rest, many_of_some h hlt]

theorem readClosed_of_none {cs : List Char} (h : (readArgument readArguments cs).toOption = none) :
    readClosed cs = char ')' cs := by
  rw [readClosed, seq, readArguments_eq, many_of_none h]
  exact seq_singleton _ _

/-- In front of an argument stands a string, a parenthesis or another character. -/
theorem toOption_readArgument_cons (c : Char) (cs : List Char) :
    (readArgument readArguments (c :: cs)).toOption
      = if c = '"' || c = '\'' then afterQuote? c cs
        else if c = '(' then (readClosed cs).toOption
        else if c = ')' then none
        else some (cs.dropWhile isPlainChar) := by
  have hparens : (seq [char '(', readArguments, char ')'] (c :: cs)).toOption
      = if c = '(' then (readClosed cs).toOption else none := by
    rw [toOption_seq_cons, toOption_char_cons]
    split
    · rfl
    · rfl
  have hplain : (run1 isPlainChar (c :: cs)).toOption
      = if c ∈ ['(', ')', '"', '\''] then none else some (cs.dropWhile isPlainChar) := by
    rw [run1_cons]
    by_cases hc : c ∈ ['(', ')', '"', '\'']
    · rw [if_neg (fun h => isPlainChar_iff.mp h hc), if_pos hc]
      rfl
    · rw [if_pos (isPlainChar_iff.mpr hc), if_neg hc]
      rfl
  rw [readArgument, toOption_choice_cons, toOption_choice_cons, choice, toOption_readString_cons,
    hparens, hplain]
  by_cases hquote : c = '"' ∨ c = '\''
  · rcases hquote with rfl | rfl <;> simp
  · rw [not_or] at hquote
    by_cases hopen : c = '('
    · subst hopen
      simp
    · simp [hquote, hopen]

/-- **Counting the open parentheses finds the end of the arguments.** -/
theorem toOption_readClosed (cs : List Char) :
    (readClosed cs).toOption = afterArguments? 0 none cs := by
  -- Both go on behind the first argument, which may be any number of characters further on.
  induction hlength : cs.length using Nat.strongRecOn generalizing cs with
  | ind length ih =>
      have hshorter {rest : List Char} (h : rest.length < cs.length) :
          (readClosed rest).toOption = afterArguments? 0 none rest := ih _ (hlength ▸ h) rest rfl
      cases cs with
      | nil =>
          rw [readClosed_of_none rfl]
          rfl
      | cons c cs =>
          have hargument := toOption_readArgument_cons c cs
          split at hargument
          · -- A string, or a quote that is not closed and so is no argument.
            rename_i hquote
            rw [afterArguments?_quote (by simpa using hquote), afterArguments?_some]
            cases hafter : afterQuote? c cs with
            | none =>
                rw [readClosed_of_none (hargument.trans hafter), toOption_char_cons, if_neg]
                · rfl
                · rintro rfl
                  exact absurd hquote (by decide)
            | some rest =>
                have hlt := Nat.lt_succ_of_lt (length_afterQuote? hafter)
                rw [readClosed_of_some (hargument.trans hafter) hlt]
                exact hshorter hlt
          split at hargument
          · -- The reader reads the inner arguments first; the scanner has one more to close.
            rename_i hopen
            subst hopen
            rw [hshorter (Nat.lt_succ_self _)] at hargument
            rw [afterArguments?_open, afterArguments?_succ]
            cases hafter : afterArguments? 0 none cs with
            | none =>
                rw [readClosed_of_none (hargument.trans hafter)]
                rfl
            | some rest =>
                have hlt := Nat.lt_succ_of_lt (length_afterArguments? hafter)
                rw [readClosed_of_some (hargument.trans hafter) hlt]
                exact hshorter hlt
          split at hargument
          · rename_i hclose
            subst hclose
            rw [readClosed_of_none hargument]
            rfl
          · -- The reader takes a run of plain characters where the scanner takes one after the other.
            rename_i hquote hopen hclose
            have hlt : (cs.dropWhile isPlainChar).length < (c :: cs).length :=
              Nat.lt_succ_of_le (List.dropWhile_sublist isPlainChar).length_le
            rw [readClosed_of_some hargument hlt, hshorter hlt, afterArguments?_dropWhile,
              afterArguments?_char (by simpa [hopen, hclose] using hquote)]

/-! ## Tokens -/

theorem toOption_readFunction {c : Char} (hc : isWordChar c = true) (cs : List Char) :
    (readFunction (c :: cs)).toOption
      = (char '(' (cs.dropWhile isWordChar)).toOption.bind (afterArguments? 0 none) := by
  have hclosed : ∀ ds, (seq [char '(', readArguments, char ')'] ds).toOption
      = (char '(' ds).toOption.bind (afterArguments? 0 none) := by
    intro ds
    rw [toOption_seq_cons]
    congr 1
    funext rest
    exact toOption_readClosed rest
  rw [readFunction, toOption_seq_cons, readWord, run1_cons, if_pos hc]
  exact hclosed _

theorem afterWord_cons_eq {c : Char} (hc : isWordChar c = true) (cs : List Char) :
    afterWord (c :: cs) = ((readFunction (c :: cs)).toOption).getD (cs.dropWhile isWordChar) := by
  rw [toOption_readFunction hc, afterWord, List.dropWhile_cons_of_pos hc]
  split
  · rename_i rest hrest
    rw [hrest]
    rfl
  · rename_i hopen
    cases hrest : cs.dropWhile isWordChar with
    | nil => rfl
    | cons d rest =>
        rw [toOption_char_cons, if_neg]
        · rfl
        · rintro rfl
          exact hopen rest hrest

theorem readToken_of_isWordChar {c : Char} (hc : isWordChar c = true) (cs : List Char) :
    readToken (c :: cs) = .ok (afterWord (c :: cs)) := by
  have hstring := toOption_readString_cons c cs
  rw [if_neg (not_quote_of_isWordChar hc)] at hstring
  rw [readToken, choice_of_none hstring, afterWord_cons_eq hc]
  cases hfunction : (readFunction (c :: cs)).toOption with
  | some rest => rw [choice_of_some hfunction]; rfl
  | none =>
      have hcomma := toOption_char_cons ',' c cs
      rw [if_neg (ne_of_isWordChar hc (by decide))] at hcomma
      rw [choice_of_none hfunction, choice_of_none hcomma, choice, readWord, run1_cons, if_pos hc]
      rfl

/-- Where no word stands, there is a string, a comma or nothing that can be read. -/
theorem readToken_of_not_isWordChar {c : Char} (hc : ¬ isWordChar c = true) (cs : List Char) :
    readToken (c :: cs) = (afterToken? (c :: cs)).elim (.error (c :: cs)) .ok := by
  have hword : readWord (c :: cs) = .error (c :: cs) := by
    rw [readWord, run1_cons, if_neg hc]
  have hfunction : (readFunction (c :: cs)).toOption = none := by
    rw [readFunction, toOption_seq_cons, hword]
    rfl
  have hstring := toOption_readString_cons c cs
  have hcomma := toOption_char_cons ',' c cs
  rw [readToken, afterToken?, if_neg hc]
  split at hstring
  · rename_i hquote
    rw [if_pos hquote]
    cases hafter : afterQuote? c cs with
    | some rest => rw [choice_of_some (hstring.trans hafter)]; rfl
    | none =>
        -- a quote is no comma either
        have hnoComma : c ≠ ',' := by
          rintro rfl
          exact absurd hquote (by decide)
        rw [if_neg hnoComma] at hcomma
        rw [choice_of_none (hstring.trans hafter), choice_of_none hfunction, choice_of_none hcomma,
          choice, hword]
        rfl
  · rename_i hquote
    rw [if_neg hquote, choice_of_none hstring, choice_of_none hfunction]
    split at hcomma
    · rename_i hisComma
      rw [if_pos hisComma, choice_of_some hcomma]
      rfl
    · rename_i hnoComma
      rw [if_neg hnoComma, choice_of_none hcomma, choice, hword]
      rfl

/-- **A token is read as it is scanned.** -/
theorem readToken_eq (cs : List Char) :
    readToken cs = (afterToken? cs).elim (.error cs) .ok := by
  cases cs with
  | nil => rfl
  | cons c cs =>
      by_cases hc : isWordChar c = true
      · rw [readToken_of_isWordChar hc, afterToken?_of_isWordChar hc]
        rfl
      · exact readToken_of_not_isWordChar hc cs

theorem readSpaced_eq (cs : List Char) :
    seq [readSpace, readToken] cs = (afterToken? (skipSpace cs)).elim (.error (skipSpace cs)) .ok :=
  (seq_singleton readToken (skipSpace cs)).trans (readToken_eq _)

/-- A row of tokens is read as it is scanned. -/
theorem many_spaced_eq (cs : List Char) :
    many (seq [readSpace, readToken]) cs = .ok (afterTokens cs) := by
  fun_induction afterTokens cs with
  | case1 cs rest h ih =>
      have htoken : (seq [readSpace, readToken] cs).toOption = some rest := by
        rw [readSpaced_eq, h]
        rfl
      rw [many_of_some htoken (Nat.lt_of_lt_of_le (length_afterToken? h) (length_skipSpace_le cs)), ih]
  | case2 cs h =>
      refine many_of_none ?_
      rw [readSpaced_eq, h]
      rfl

theorem readValue_eq (cs : List Char) : readValue cs = scanValue cs := by
  rw [readValue, many1, seq, readSpaced_eq, scanValue]
  cases afterToken? (skipSpace cs) with
  | none => rfl
  | some rest => exact (seq_singleton _ rest).trans (many_spaced_eq rest)

/-! ## The parts of a block -/

theorem optional_char_eq (c : Char) (cs : List Char) :
    optional (char c) cs = .ok (skipChar c cs) := by
  cases cs with
  | nil => rfl
  | cons d cs =>
      rw [optional_eq, toOption_char_cons, skipChar]
      split
      · rfl
      · rfl

theorem readSelector_eq (cs : List Char) : readSelector cs = scanSelector cs := by
  cases cs with
  | nil => rfl
  | cons c cs =>
      rw [readSelector, run1_cons, scanSelector]
      by_cases hc : c = '\x7b'
      · rw [if_pos hc, if_neg (by simp [hc])]
      · rw [if_neg hc, if_pos (by simp [hc])]

theorem readName_eq (cs : List Char) : readName cs = scanName cs := by
  rw [readName, seq_of_ok (optional_char_eq '-' cs), scanName]
  cases skipChar '-' cs with
  | nil => rfl
  | cons c rest =>
      by_cases hc : c.isAlpha = true
      · rw [seq_of_ok (if_pos hc)]
        exact (seq_singleton _ rest).trans (if_pos hc).symm
      · rw [seq, one, if_neg hc]
        exact (if_neg hc).symm

/-- The end of a comment is read behind what stands in front of it. -/
theorem toOption_upTo_commentEnd (cs : List Char) :
    (seq [upTo ['*', '/'], literal ['*', '/']] cs).toOption = afterCommentEnd? cs := by
  have hseq (cs : List Char) : (seq [upTo ['*', '/'], literal ['*', '/']] cs).toOption
      = (find? ['*', '/'] cs).bind fun rest => (literal ['*', '/'] rest).toOption := by
    rw [toOption_seq_cons, upTo]
    cases find? ['*', '/'] cs with
    | none => rfl
    | some rest => exact congrArg Except.toOption (seq_singleton _ rest)
  rw [hseq]
  fun_induction afterCommentEnd? cs with
  | case1 => rfl
  | case2 rest => rfl
  | case3 c cs hne ih =>
      have hstart : ¬ ['*', '/'].isPrefixOf (c :: cs) = true := by
        rw [List.isPrefixOf_iff_prefix]
        rintro ⟨rest, hrest⟩
        cases hrest
        exact hne rest rfl rfl
      rw [find?, if_neg hstart, ih]

theorem optional_comment_eq (cs : List Char) :
    optional (seq [readComment, readSpace]) cs = .ok (skipComment cs) := by
  rw [optional_eq, toOption_seq_cons, readComment]
  unfold skipComment
  split
  · rename_i rest
    have hliteral : literal ['/', '*'] ('/' :: '*' :: rest) = .ok rest := rfl
    rw [seq_of_ok hliteral, toOption_upTo_commentEnd]
    cases afterCommentEnd? rest with
    | none => rfl
    | some left => rfl
  · rename_i hstart
    have hliteral : ¬ ['/', '*'].isPrefixOf cs = true := by
      rw [List.isPrefixOf_iff_prefix]
      rintro ⟨rest, rfl⟩
      exact hstart rest rfl
    rw [toOption_seq_cons, literal, if_neg hliteral]
    rfl

theorem take_length_sub_dropWhile (p : Char → Bool) (cs : List Char) :
    cs.take (cs.length - (cs.dropWhile p).length) = cs.takeWhile p := by
  have hlength : (cs.takeWhile p).length + (cs.dropWhile p).length = cs.length := by
    rw [← List.length_append, List.takeWhile_append_dropWhile]
  rw [← hlength, Nat.add_sub_cancel]
  exact (List.prefix_iff_eq_take.mp (List.takeWhile_prefix p)).symm

/-- The word of a mark is the first one behind it. -/
theorem toOption_verify_important (cs : List Char) :
    (verify isImportant (run1 Char.isAlpha) cs).toOption
      = if (cs.takeWhile Char.isAlpha).map Char.toLower = "important".toList then
          some (cs.dropWhile Char.isAlpha)
        else none := by
  cases cs with
  | nil => rfl
  | cons c cs =>
      by_cases hc : c.isAlpha = true
      · have hread : run1 Char.isAlpha (c :: cs) = .ok ((c :: cs).dropWhile Char.isAlpha) := by
          rw [run1_cons, if_pos hc, List.dropWhile_cons_of_pos hc]
        rw [verify, hread]
        show Except.toOption (if isImportant ((c :: cs).take _) = true then _ else _) = _
        rw [take_length_sub_dropWhile, isImportant]
        simp only [beq_iff_eq]
        split
        · rfl
        · rfl
      · have hread : run1 Char.isAlpha (c :: cs) = .error (c :: cs) := by
          rw [run1_cons, if_neg hc]
        rw [verify, hread, List.takeWhile_cons_of_neg hc]
        rfl

theorem optional_important_eq (cs : List Char) :
    optional (seq [readSpace, readImportant]) cs = .ok (skipImportant cs) := by
  have hspace : readSpace cs = .ok (skipSpace cs) := rfl
  rw [optional_eq, seq_of_ok hspace, seq_singleton, readImportant]
  unfold skipImportant
  split
  · -- Behind a mark without its word the reader goes back to where the blanks began.
    rename_i rest hmark
    have hbang : char '!' (skipSpace cs) = .ok rest := by rw [hmark]; rfl
    have hblanks : readSpace rest = .ok (skipSpace rest) := rfl
    rw [seq_of_ok hbang, seq_of_ok hblanks, seq_singleton, toOption_verify_important]
    dsimp only
    split
    · rfl
    · rfl
  · rename_i hmark
    have hbang : (char '!' (skipSpace cs)).toOption = none := by
      cases hskip : skipSpace cs with
      | nil => rfl
      | cons c rest =>
          rw [toOption_char_cons, if_neg]
          rintro rfl
          exact hmark rest hskip
    rw [toOption_seq_cons, hbang]
    rfl

theorem readDeclaration_eq (cs : List Char) : readDeclaration cs = scanDeclaration cs := by
  have hmark (left : List Char) :
      seq [optional (seq [readSpace, readImportant])] left = .ok (skipImportant left) :=
    (seq_singleton _ left).trans (optional_important_eq left)
  rw [readDeclaration, seq_of_ok (optional_comment_eq cs), seq, readName_eq, scanDeclaration]
  congr 1
  funext left
  rw [seq_of_ok (show readSpace left = .ok (skipSpace left) from rfl), seq]
  congr 1
  funext left
  rw [seq, readValue_eq, funext hmark]

/-- **A block is read as it is scanned**, and the reading is stuck in the same place. -/
theorem readBlock_eq_scanBlock (cs : List Char) : readBlock cs = scanBlock cs := by
  have hspace (left : List Char) : readSpace left = .ok (skipSpace left) := rfl
  rw [readBlock, seq_of_ok (hspace cs), seq, readSelector_eq, scanBlock]
  congr 1
  funext left
  rw [seq]
  congr 1
  funext left
  rw [seq_of_ok (hspace left), seq, readDeclaration_eq]
  congr 1
  funext left
  rw [seq_of_ok (hspace left), seq_of_ok (optional_char_eq ';' _), seq_of_ok (hspace _), seq]
  congr 1
  funext left
  rw [seq_of_ok (hspace left), seq_singleton]

/-- The checker scans a block. -/
theorem check_eq (block : String) :
    check block =
      match scanBlock block.toList with
      | .ok _ => .ok ()
      | .error rest => .error (refusalAt block.toList rest) := by
  cases h : scanBlock block.toList with
  | ok rest => simp only [check, readBlock_eq_scanBlock, h]
  | error rest => simp only [check, readBlock_eq_scanBlock, h]

end Restyle.Declaration
