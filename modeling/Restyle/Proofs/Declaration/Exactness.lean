import Restyle.Proofs.Declaration.Agreement
import Restyle.Proofs.Declaration.Value

set_option autoImplicit false

/-! # The checker accepts exactly the grammar

The statements about the parts of a block, and their composition. They are put together from the last
part to the first, since each needs to know how the texts behind it start: `ending` is what follows a
declaration, the mark of an important declaration stands in front of it, the value in front of the mark,
and so on up to the selector.
-/

namespace Restyle.Declaration

open Grammar Computability
open Text (Reading)
open Text.Reader (char atEnd)

/-! ## The end of a block -/

/-- What follows a declaration. -/
def ending : Language Char := ws * (opt (lit ';') * (ws * (lit '\x7d' * ws)))

theorem startsSpaced_ending : StartsSpaced ending (· ∈ [';', '\x7d']) := by
  refine startsSpaced_ws_mul (startsSpaced_opt_mul ?_ (startsSpaced_ws_mul ?_))
  · exact startsSpaced_lit_mul (by decide) (not_isWs_of_mem (by decide)) _
  · exact startsSpaced_lit_mul (by decide) (not_isWs_of_mem (by decide)) _

theorem starts_ending : Starts ending fun c => ¬ c.isAlpha = true := by
  refine startsSpaced_ending.starts.mono ?_
  rintro c (hc | hc) halpha
  · exact not_isWs_of_isAlpha halpha hc
  · simp only [List.mem_cons, List.not_mem_nil, or_false] at hc
    rcases hc with rfl | rfl <;> exact absurd halpha (by decide)

theorem mem_ws_iff {cs : List Char} : cs ∈ ws ↔ skipSpace cs = [] := by
  have hnil : Spaced 1 := by
    rintro _ rfl
    rfl
  have h : cs ∈ ws * 1 ↔ skipSpace cs ∈ (1 : Language Char) := mem_ws_mul_iff hnil
  rwa [mul_one, Language.mem_one] at h

theorem mem_ending_iff {cs : List Char} :
    cs ∈ ending ↔ ∃ rest, char '\x7d' (skipSpace (skipChar ';' (skipSpace cs))) = .ok rest ∧
      skipSpace rest = [] := by
  have hbrace : ¬ IsWs '\x7d' := not_isWs_of_mem (by decide)
  have hsemicolon : ¬ IsWs ';' := not_isWs_of_mem (by decide)
  have hstart : Starts (ws * (lit '\x7d' * ws)) (· ≠ ';') := by
    refine (starts_ws_mul (starts_lit_mul _ _)).mono ?_
    rintro c (hc | rfl)
    · rintro rfl
      exact hsemicolon hc
    · decide
  -- The blanks around a semicolon that is not there are one run.
  have hspaced : Spaced (opt (lit ';') * (ws * (lit '\x7d' * ws))) :=
    (spaced_lit_mul hsemicolon _).opt_mul (spaced_lit_mul hbrace _).ws_mul
  rw [ending, mem_ws_mul_iff hspaced, mem_opt_lit_mul_iff hstart, mem_ws_mul_lit_mul_iff hbrace]
  simp only [mem_ws_iff]

/-! ## The mark of an important declaration -/

theorem isAlpha_of_toLower_mem {c : Char} (h : c.toLower ∈ "important".toList) :
    c.isAlpha = true := by
  have halpha : c.isAlpha = (c.isUpper || c.isLower) := rfl
  have hupper : c.isUpper = decide ('A'.val ≤ c.val ∧ c.val ≤ 'Z'.val) := rfl
  by_cases hc : c.isUpper = true
  · rw [halpha, hc, Bool.true_or]
  · have hself : c.toLower = c := dif_neg (by rwa [hupper, decide_eq_true_eq] at hc)
    have hall : "important".toList.all Char.isAlpha = true := by decide
    exact List.all_eq_true.mp hall c (hself ▸ h)

theorem isAlpha_of_mem_important {w : List Char} (hw : w ∈ important) :
    ∀ c ∈ w, c.isAlpha = true := by
  intro c hc
  have hmap : w.map Char.toLower = "important".toList := hw
  exact isAlpha_of_toLower_mem (hmap ▸ List.mem_map_of_mem hc)

/-- No letter follows the mark, so its word ends where its letters end. -/
theorem skipImportant_mark {s s' w rest : List Char} (hs : s ∈ ws) (hs' : s' ∈ ws)
    (hw : w ∈ important) (hrest : rest ∈ ending) :
    skipImportant (s ++ '!' :: (s' ++ (w ++ rest))) = rest := by
  have hletters := isAlpha_of_mem_important hw
  have hmark : skipSpace (s ++ '!' :: (s' ++ (w ++ rest))) = '!' :: (s' ++ (w ++ rest)) := by
    rw [skipSpace_append hs, skipSpace_cons (not_isWs_of_mem (by decide))]
  have hword : skipSpace (s' ++ (w ++ rest)) = w ++ rest := by
    rw [skipSpace_append hs']
    cases w with
    | nil => cases hw
    | cons c w => exact skipSpace_cons (not_isWs_of_isAlpha (hletters c List.mem_cons_self)) _
  have hstop : rest.takeWhile Char.isAlpha = [] ∧ rest.dropWhile Char.isAlpha = rest := by
    obtain ⟨c, left, rfl, hc⟩ := starts_ending rest hrest
    exact ⟨List.takeWhile_cons_of_neg hc, List.dropWhile_cons_of_neg hc⟩
  have htake : (w ++ rest).takeWhile Char.isAlpha = w := by
    rw [List.takeWhile_append_of_pos hletters, hstop.1, List.append_nil]
  have hdrop : (w ++ rest).dropWhile Char.isAlpha = rest := by
    rw [List.dropWhile_append_of_pos hletters, hstop.2]
  rw [skipImportant, hmark]
  show (if ((skipSpace (s' ++ (w ++ rest))).takeWhile Char.isAlpha).map Char.toLower = _ then _ else _)
    = rest
  rw [hword, htake, hdrop]
  exact if_pos hw

theorem skipImportant_of_ending {cs : List Char} (h : cs ∈ ending) : skipImportant cs = cs := by
  obtain ⟨c, rest, hrest, hc⟩ := startsSpaced_ending cs h
  rw [skipImportant, hrest]
  split
  · rename_i heq
    cases heq
    exact absurd hc (by decide)
  · rfl

/-- What is left out is a mark. -/
theorem skipImportant_cases (cs : List Char) :
    skipImportant cs = cs ∨
      ∃ m ∈ ws * (lit '!' * (ws * important)), cs = m ++ skipImportant cs := by
  rw [skipImportant]
  split
  · rename_i rest hmark
    dsimp only
    split
    · rename_i hword
      obtain ⟨s, hs, hcs⟩ := exists_skipSpace cs
      obtain ⟨s', hs', hrest⟩ := exists_skipSpace rest
      refine .inr ⟨s ++ (['!'] ++ (s' ++ (skipSpace rest).takeWhile Char.isAlpha)), ?_, ?_⟩
      · refine Language.append_mem_mul hs (Language.append_mem_mul rfl ?_)
        exact Language.append_mem_mul hs' hword
      · conv_lhs => rw [hcs, hmark, hrest]
        simp
    · exact .inl rfl
  · exact .inl rfl

theorem mem_mark_mul_iff {cs : List Char} :
    cs ∈ opt (ws * (lit '!' * (ws * important))) * ending ↔ skipImportant cs ∈ ending := by
  constructor
  · intro h
    rcases mem_opt_mul.mp h with h | h
    · rwa [skipImportant_of_ending h]
    · obtain ⟨_, ⟨s, hs, _, ⟨_, rfl, _, ⟨s', hs', w, hw, rfl⟩, rfl⟩, rfl⟩, r, hr, rfl⟩ := h
      have hskip := skipImportant_mark hs hs' hw hr
      simp only [List.append_assoc, List.cons_append, List.nil_append]
      rwa [hskip]
  · exact mem_opt_mul_of_left (skipImportant_cases cs)

/-! ## The name of a property -/

theorem mem_name_mul_iff {k : Language Char} (hk : Starts k fun c => ¬ IsNameChar c)
    {cs : List Char} : cs ∈ name * k ↔ ∃ rest, scanName cs = .ok rest ∧ rest ∈ k := by
  have hletter : Starts (one IsLetter * (run IsNameChar * k)) (· ≠ '-') := by
    intro w hw
    obtain ⟨c, rest, hc, -, rfl⟩ := mem_one_mul.mp hw
    refine ⟨c, rest, rfl, ?_⟩
    rintro rfl
    exact absurd (isAlpha_iff.mpr hc) (by decide)
  have hrun : ∀ w ∈ k, w.dropWhile isNameChar ∈ k := by
    intro w hw
    rwa [dropWhile_of_starts isNameChar_iff hk hw]
  rw [name, mul_assoc, mul_assoc, mem_opt_lit_mul_iff hletter, mem_one_mul, scanName]
  cases skipChar '-' cs with
  | nil => simp
  | cons c rest =>
      simp only [List.cons.injEq, mem_run_mul_iff isNameChar_iff hrun, ← isAlpha_iff]
      by_cases hc : c.isAlpha = true
      · simp [hc]
      · simp [hc]

theorem starts_name_mul (k : Language Char) :
    Starts (name * k) fun c => ¬ IsWs c ∧ c ≠ '/' := by
  rw [name, mul_assoc, mul_assoc]
  refine starts_opt_mul ((starts_lit_mul '-' _).mono ?_) ?_
  · rintro c rfl
    exact ⟨fun h => absurd (isSpace_iff.mpr h) (by decide), by decide⟩
  · intro w hw
    obtain ⟨c, rest, hc, -, rfl⟩ := mem_one_mul.mp hw
    have halpha := isAlpha_iff.mpr hc
    refine ⟨c, rest, rfl, not_isWs_of_isAlpha halpha, ?_⟩
    rintro rfl
    exact absurd halpha (by decide)

/-! ## Comments -/

theorem afterCommentEnd?_eq_some_iff {cs rest : List Char} :
    afterCommentEnd? cs = some rest ↔
      ∃ text, ¬ ['*', '/'] <:+: text ∧ cs = text ++ '*' :: '/' :: rest := by
  fun_induction afterCommentEnd? cs with
  | case1 => simp
  | case2 left =>
      constructor
      · rintro h
        cases h
        exact ⟨[], by simp, rfl⟩
      · rintro ⟨text, htext, hsplit⟩
        -- A text without a comment end cannot reach beyond the first one.
        rcases text with _ | ⟨c, _ | ⟨d, text⟩⟩
        · cases hsplit
          rfl
        · cases hsplit
        · cases hsplit
          exact absurd ⟨[], text, rfl⟩ htext
  | case3 c cs hne ih =>
      rw [ih]
      constructor
      · rintro ⟨text, htext, rfl⟩
        refine ⟨c :: text, ?_, rfl⟩
        rw [List.infix_cons_iff]
        rintro (hstart | hinside)
        · -- A comment end that starts here would have been found.
          rcases text with _ | ⟨d, text⟩
          · simp at hstart
          · rw [List.cons_prefix_cons, List.cons_prefix_cons] at hstart
            exact hne _ hstart.1.symm (by rw [← hstart.2.1]; rfl)
        · exact htext hinside
      · rintro ⟨text, htext, hsplit⟩
        cases text with
        | nil =>
            cases hsplit
            exact (hne _ rfl rfl).elim
        | cons d text =>
            cases hsplit
            exact ⟨text, fun h => htext (List.infix_cons h), rfl⟩

theorem skipComment_comment {w s rest : List Char} (hw : w ∈ comment) (hs : s ∈ ws) :
    skipComment (w ++ (s ++ rest)) = skipSpace rest := by
  obtain ⟨text, htext, rfl⟩ := hw
  have hend : afterCommentEnd? (text ++ '*' :: '/' :: (s ++ rest)) = some (s ++ rest) :=
    afterCommentEnd?_eq_some_iff.mpr ⟨text, htext, rfl⟩
  simp only [List.cons_append, List.append_assoc, List.nil_append]
  rw [skipComment, hend]
  exact skipSpace_append hs rest

/-- What is left out is a comment with the blanks behind it. -/
theorem skipComment_cases (cs : List Char) :
    skipComment cs = cs ∨ ∃ w ∈ comment * ws, cs = w ++ skipComment cs := by
  unfold skipComment
  split
  · rename_i left
    cases hend : afterCommentEnd? left with
    | none => exact .inl rfl
    | some rest =>
        obtain ⟨text, htext, rfl⟩ := afterCommentEnd?_eq_some_iff.mp hend
        obtain ⟨s, hs, hrest⟩ := exists_skipSpace rest
        refine .inr ⟨('/' :: '*' :: (text ++ ['*', '/'])) ++ s, ?_, ?_⟩
        · exact Language.append_mem_mul ⟨text, htext, rfl⟩ hs
        · conv_lhs => rw [hrest]
          simp
  · exact .inl rfl

theorem mem_comment_mul_iff {k : Language Char} (hk : Starts k fun c => c ≠ '/' ∧ ¬ IsWs c)
    {cs : List Char} : cs ∈ opt (comment * ws) * k ↔ skipComment cs ∈ k := by
  constructor
  · intro h
    rcases mem_opt_mul.mp h with h | h
    · obtain ⟨c, rest, rfl, hc, -⟩ := hk cs h
      rwa [skipComment]
      rintro left ⟨rfl, -⟩
      exact hc rfl
    · rw [mul_assoc] at h
      obtain ⟨w, hw, _, ⟨s, hs, rest, hrest, rfl⟩, rfl⟩ := h
      have hself : skipSpace rest = rest :=
        dropWhile_of_starts isSpace_iff (hk.mono fun c hc => hc.2) hrest
      show skipComment (w ++ (s ++ rest)) ∈ k
      rwa [skipComment_comment hw hs, hself]
  · exact mem_opt_mul_of_left (skipComment_cases cs)

/-! ## Selectors -/

theorem scanSelector_append {w : List Char} (hw : w ∈ selector) (rest : List Char) :
    scanSelector (w ++ '\x7b' :: rest) = .ok ('\x7b' :: rest) := by
  obtain ⟨hbrace, c, w, rfl, -⟩ := hw
  rw [List.mem_cons, not_or] at hbrace
  have hinside : ∀ d ∈ w, (d != '\x7b') = true := by
    intro d hd
    rw [bne_iff_ne]
    rintro rfl
    exact hbrace.2 hd
  rw [List.cons_append, scanSelector, if_neg (Ne.symm hbrace.1),
    List.dropWhile_append_of_pos hinside]
  rfl

theorem exists_selector_of_scanSelector {cs rest : List Char}
    (h : scanSelector (skipSpace cs) = .ok rest) : ∃ w ∈ selector, skipSpace cs = w ++ rest := by
  cases hskip : skipSpace cs with
  | nil =>
      rw [hskip] at h
      cases h
  | cons c left =>
      rw [hskip, scanSelector] at h
      split at h
      · cases h
      · rename_i hc
        cases h
        refine ⟨c :: left.takeWhile (· != '\x7b'), ?_, ?_⟩
        · -- Blanks have been skipped, so the selector does not start with one.
          refine ⟨?_, c, _, rfl, not_isWs_of_skipSpace hskip⟩
          rw [List.mem_cons, not_or]
          refine ⟨Ne.symm hc, fun h => ?_⟩
          exact absurd (List.mem_takeWhile_imp h) (by decide)
        · rw [List.cons_append, List.takeWhile_append_dropWhile]

theorem starts_selector_mul (k : Language Char) : Starts (selector * k) fun c => ¬ IsWs c := by
  rintro _ ⟨_, ⟨-, c, left, rfl, hc⟩, rest, -, rfl⟩
  exact ⟨c, left ++ rest, rfl, hc⟩

theorem mem_selector_mul_iff {k : Language Char} {cs : List Char} :
    cs ∈ ws * (selector * (lit '\x7b' * k)) ↔
      ∃ rest, scanSelector (skipSpace cs) = .ok rest ∧ rest ∈ lit '\x7b' * k := by
  rw [mem_ws_mul_iff (starts_selector_mul _).spaced]
  constructor
  · rintro ⟨w, hw, _, hrest, hsplit⟩
    obtain ⟨rest, -, rfl⟩ := mem_lit_mul.mp hrest
    rw [← hsplit]
    exact ⟨'\x7b' :: rest, scanSelector_append hw rest, hrest⟩
  · rintro ⟨rest, hread, hrest⟩
    obtain ⟨w, hw, hsplit⟩ := exists_selector_of_scanSelector hread
    rw [hsplit]
    exact Language.append_mem_mul hw hrest

/-! ## Blocks -/

theorem exists_bind_eq_ok_iff {x : Reading} {f : List Char → Reading} {P : List Char → Prop} :
    (∃ rest, x >>= f = .ok rest ∧ P rest) ↔
      ∃ left, x = .ok left ∧ ∃ rest, f left = .ok rest ∧ P rest := by
  cases x with
  | error stuck => simp [bind, Except.bind]
  | ok left => simp [bind, Except.bind]

theorem bind_succeeds_iff {x : Reading} {f : List Char → Reading} :
    (∃ rest, x >>= f = .ok rest) ↔ ∃ left, x = .ok left ∧ ∃ rest, f left = .ok rest := by
  have h := exists_bind_eq_ok_iff (x := x) (f := f) (P := fun _ => True)
  simpa only [and_true] using h

theorem startsSpaced_mark_mul :
    StartsSpaced (opt (ws * (lit '!' * (ws * important))) * ending) IsStop := by
  refine startsSpaced_opt_mul ?_ (startsSpaced_ending.mono ?_)
  · rw [mul_assoc, mul_assoc]
    refine startsSpaced_ws_mul (startsSpaced_lit_mul ?_ (not_isWs_of_mem (by decide)) _)
    simp [IsStop]
  · intro c hc
    exact List.mem_cons_of_mem _ hc

theorem mem_declaration_mul_iff {cs : List Char} :
    cs ∈ declaration * ending ↔ ∃ rest, scanDeclaration cs = .ok rest ∧ rest ∈ ending := by
  have hcolon : ¬ IsWs ':' := not_isWs_of_mem (by decide)
  simp only [declaration, mul_assoc]
  -- Both have to know how the texts behind them start: the last two goals say so.
  rw [mem_comment_mul_iff, mem_name_mul_iff]
  · simp only [mem_ws_mul_lit_mul_iff hcolon, mem_value_mul_iff startsSpaced_mark_mul,
      mem_mark_mul_iff, scanDeclaration, exists_bind_eq_ok_iff, Except.ok.injEq, exists_eq_left']
  · refine (starts_ws_mul (starts_lit_mul ':' _)).mono ?_
    rintro c (hc | rfl)
    · exact hc.not_isNameChar
    · exact fun h => absurd (isNameChar_iff.mpr h) (by decide)
  · exact (starts_name_mul _).mono fun c hc => ⟨hc.2, hc.1⟩

theorem starts_declaration_mul (k : Language Char) : Starts (declaration * k) fun c => ¬ IsWs c := by
  simp only [declaration, mul_assoc]
  refine starts_opt_mul ?_ ((starts_name_mul _).mono fun c hc => hc.1)
  rintro _ ⟨_, ⟨_, ⟨text, -, rfl⟩, s, -, rfl⟩, rest, -, rfl⟩
  exact ⟨'/', _, rfl, fun h => absurd (isSpace_iff.mpr h) (by decide)⟩

theorem atEnd_succeeds_iff {cs : List Char} : (∃ rest, atEnd cs = .ok rest) ↔ cs = [] := by
  cases cs with
  | nil => simp [atEnd]
  | cons c cs => simp [atEnd]

/-- **The reader of blocks reads exactly the blocks of the grammar.** -/
theorem mem_block_iff {cs : List Char} : cs ∈ block ↔ ∃ rest, scanBlock cs = .ok rest := by
  have hblock : block = ws * (selector * (lit '\x7b' * (ws * (declaration * ending)))) := by
    simp only [block, ending, mul_assoc]
  have hspaced : Spaced (declaration * ending) := (starts_declaration_mul ending).spaced
  rw [hblock, mem_selector_mul_iff]
  simp only [mem_lit_mul_iff, mem_ws_mul_iff hspaced, mem_declaration_mul_iff, mem_ending_iff,
    scanBlock, bind_succeeds_iff, atEnd_succeeds_iff]

/-- **The checker accepts a block if and only if the grammar derives it.** -/
theorem check_eq_ok_iff (block : String) :
    check block = .ok () ↔ block.toList ∈ Grammar.block := by
  rw [mem_block_iff, check_eq]
  cases scanBlock block.toList with
  | ok rest => simp
  | error rest => simp

end Restyle.Declaration
