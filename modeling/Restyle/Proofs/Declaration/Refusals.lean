import Restyle.Proofs.Declaration.Exactness

set_option autoImplicit false

/-! # Where a block is refused

A refusal reports the place where the reading of a block got stuck. The text in front of that place is the
beginning of a block that is accepted (`refusal_position`), so the refusal never points behind the first
fault.

This is put together from the readers of the parts. A reader that succeeds has taken a text of its
language, and one that is stuck has taken the beginning of such a text (`Reads`). Where a reader goes back
before it gives up, as from a string that is not closed, it does not count what it has seen on the way.
-/

namespace Restyle.Declaration

open Grammar Computability
open Text (Reading)
open Text.Reader (char atEnd)

/-! ## What a reader has taken -/

/-- A language has a text. -/
def Derivable (l : Language Char) : Prop := ∃ w, w ∈ l

/-- What a reader has taken of a text: a text of its language, or the beginning of one if it is
stuck. -/
def Reads (l : Language Char) (cs : List Char) : Reading → Prop
  | .ok left => ∃ w ∈ l, cs = w ++ left
  | .error rest => ∃ taken more, cs = taken ++ rest ∧ taken ++ more ∈ l

section Reads

variable {l k : Language Char} {cs left : List Char}

/-- A reader that is stuck at once has taken nothing. -/
theorem reads_stuck (h : Derivable l) (cs : List Char) : Reads l cs (.error cs) := by
  obtain ⟨w, hw⟩ := h
  exact ⟨[], w, rfl, hw⟩

/-- Reading on behind a text of the first part. -/
theorem Reads.behind {x : Reading} (hfirst : ∃ w ∈ l, cs = w ++ left) (hx : Reads k left x) :
    Reads (l * k) cs x := by
  obtain ⟨w, hw, rfl⟩ := hfirst
  cases x with
  | ok rest =>
      obtain ⟨v, hv, rfl⟩ := hx
      exact ⟨w ++ v, Language.append_mem_mul hw hv, (List.append_assoc ..).symm⟩
  | error rest =>
      obtain ⟨taken, more, rfl, hmore⟩ := hx
      refine ⟨w ++ taken, more, (List.append_assoc ..).symm, ?_⟩
      rw [List.append_assoc]
      exact Language.append_mem_mul hw hmore

/-- One reader behind another. If the first is stuck, any text of the second completes it. -/
theorem Reads.bind {x : Reading} {f : List Char → Reading} (hx : Reads l cs x) (hk : Derivable k)
    (hf : ∀ left, Reads k left (f left)) : Reads (l * k) cs (x >>= f) := by
  cases x with
  | ok left => exact Reads.behind hx (hf left)
  | error rest =>
      obtain ⟨taken, more, hcs, hmore⟩ := hx
      obtain ⟨v, hv⟩ := hk
      refine ⟨taken, more ++ v, hcs, ?_⟩
      rw [← List.append_assoc]
      exact Language.append_mem_mul hmore hv

/-- A part that a reader may leave where it is. -/
theorem exists_opt (h : left = cs ∨ ∃ w ∈ l, cs = w ++ left) : ∃ w ∈ opt l, cs = w ++ left := by
  rcases h with rfl | ⟨w, hw, hcs⟩
  · exact ⟨[], .inl rfl, rfl⟩
  · exact ⟨w, .inr hw, hcs⟩

end Reads

/-! ## Languages that have a text -/

@[simp] theorem derivable_mul {l k : Language Char} :
    Derivable (l * k) ↔ Derivable l ∧ Derivable k := by
  constructor
  · rintro ⟨_, w, hw, v, hv, rfl⟩
    exact ⟨⟨w, hw⟩, ⟨v, hv⟩⟩
  · rintro ⟨⟨w, hw⟩, v, hv⟩
    exact ⟨w ++ v, Language.append_mem_mul hw hv⟩

theorem derivable_one : Derivable 1 := ⟨[], Language.nil_mem_one⟩

@[simp] theorem derivable_ws : Derivable ws := ⟨[], fun _ h => nomatch h⟩

@[simp] theorem derivable_lit (c : Char) : Derivable (lit c) := ⟨[c], rfl⟩

@[simp] theorem derivable_opt (l : Language Char) : Derivable (opt l) := ⟨[], .inl rfl⟩

@[simp] theorem derivable_kstar (l : Language Char) : Derivable l∗ := ⟨[], Language.nil_mem_kstar l⟩

@[simp] theorem derivable_letter : Derivable (one IsLetter) := ⟨['a'], 'a', isAlpha_iff.mp (by decide), rfl⟩

@[simp] theorem derivable_run (p : Char → Prop) : Derivable (run p) := ⟨[], fun _ h => nomatch h⟩

@[simp] theorem derivable_token : Derivable token :=
  ⟨['a'], .inr ⟨List.cons_ne_nil _ _, List.forall_mem_singleton.mpr (isWordChar_iff.mp (by decide))⟩⟩

@[simp] theorem derivable_selector : Derivable selector :=
  ⟨['a'], by decide, 'a', [], rfl, fun h => absurd (isSpace_iff.mpr h) (by decide)⟩

/-! ## Readers that are stuck at once or not at all -/

theorem reads_char (c : Char) (cs : List Char) : Reads (lit c) cs (char c cs) := by
  cases cs with
  | nil => exact reads_stuck (derivable_lit c) []
  | cons d rest =>
      rw [char_cons]
      split
      · rename_i hd
        exact ⟨[c], rfl, by rw [hd]; rfl⟩
      · exact reads_stuck (derivable_lit c) _

theorem exists_skipChar (c : Char) (cs : List Char) :
    ∃ w ∈ opt (lit c), cs = w ++ skipChar c cs := by
  apply exists_opt
  cases cs with
  | nil => exact .inl rfl
  | cons d rest =>
      rw [skipChar]
      split
      · rename_i hd
        exact .inr ⟨[c], rfl, by rw [hd]; rfl⟩
      · exact .inl rfl

theorem reads_scanSelector (cs : List Char) :
    Reads selector (skipSpace cs) (scanSelector (skipSpace cs)) := by
  cases hread : scanSelector (skipSpace cs) with
  | ok left => exact exists_selector_of_scanSelector hread
  | error rest =>
      have hrest : rest = skipSpace cs := by
        unfold scanSelector at hread
        split at hread
        · rename_i hnil
          cases hread
          exact hnil.symm
        · split at hread
          · cases hread
            rfl
          · cases hread
      rw [hrest]
      exact reads_stuck derivable_selector _

/-! ## Names -/

theorem reads_scanName (cs : List Char) : Reads name cs (scanName cs) := by
  rw [name, mul_assoc]
  refine Reads.behind (exists_skipChar '-' cs) ?_
  rw [scanName]
  cases skipChar '-' cs with
  | nil => exact reads_stuck (by simp) []
  | cons c rest =>
      dsimp only
      split
      · rename_i hc
        refine ⟨c :: rest.takeWhile isNameChar, ?_, ?_⟩
        · refine mem_one_mul.mpr ⟨c, _, isAlpha_iff.mp hc, ?_, rfl⟩
          intro d hd
          exact isNameChar_iff.mp (List.mem_takeWhile_imp hd)
        · rw [List.cons_append, List.takeWhile_append_dropWhile]
      · exact reads_stuck (by simp) _

/-! ## Values -/

theorem exists_tokens (cs : List Char) : ∃ w ∈ (ws * token)∗, cs = w ++ afterTokens cs := by
  fun_induction afterTokens cs with
  | case1 cs rest h ih =>
      obtain ⟨s, hs, hcs⟩ := exists_skipSpace cs
      obtain ⟨t, ht, hsplit⟩ := exists_token_of_afterToken? h
      obtain ⟨w, hw, hrest⟩ := ih
      refine ⟨s ++ t ++ w, ?_, ?_⟩
      · have hmem : s ++ t ++ w ∈ ws * token * (ws * token)∗ :=
          Language.append_mem_mul (Language.append_mem_mul hs ht) hw
        rw [← Language.one_add_self_mul_kstar_eq_kstar]
        exact .inr hmem
      · rw [List.append_assoc, List.append_assoc, ← hrest, ← hsplit]
        exact hcs
  | case2 cs h => exact ⟨[], Language.nil_mem_kstar _, rfl⟩

theorem reads_scanValue (cs : List Char) :
    Reads (ws * (token * (ws * token)∗)) cs (scanValue cs) := by
  refine Reads.behind (exists_skipSpace cs) ?_
  rw [scanValue]
  cases htoken : afterToken? (skipSpace cs) with
  | none => exact reads_stuck (by simp) _
  | some rest =>
      have hfirst := exists_token_of_afterToken? htoken
      exact Reads.behind hfirst (exists_tokens rest)

/-! ## Blocks -/

theorem reads_scanDeclaration (cs : List Char) : Reads declaration cs (scanDeclaration cs) := by
  have hdeclaration : declaration = opt (comment * ws) * (name * (ws * (lit ':' *
      (ws * (token * (ws * token)∗) * opt (ws * (lit '!' * (ws * important))))))) := by
    simp only [declaration, mul_assoc]
  rw [hdeclaration, scanDeclaration]
  refine Reads.behind (exists_opt (skipComment_cases cs)) ?_
  refine (reads_scanName _).bind (by simp) fun left => ?_
  refine Reads.behind (exists_skipSpace left) ?_
  refine (reads_char ':' _).bind (by simp) fun left => ?_
  refine (reads_scanValue left).bind (by simp) fun left => ?_
  exact exists_opt (skipImportant_cases left)

/-- Behind a closing brace only blanks are taken. -/
theorem reads_atEnd (cs : List Char) : Reads ws cs (atEnd (skipSpace cs)) := by
  have hnil : Reads 1 (skipSpace cs) (atEnd (skipSpace cs)) := by
    cases skipSpace cs with
    | nil => exact ⟨[], rfl, rfl⟩
    | cons c rest => exact reads_stuck derivable_one _
  have hblanks : Reads (ws * 1) cs (atEnd (skipSpace cs)) := Reads.behind (exists_skipSpace cs) hnil
  rwa [mul_one] at hblanks

/-- **Where the reading of a block is stuck, it has taken the beginning of a block.** -/
theorem reads_scanBlock (cs : List Char) : Reads Grammar.block cs (scanBlock cs) := by
  have hblock : Grammar.block = ws * (selector * (lit '\x7b' * (ws * (declaration *
      (ws * (opt (lit ';') * (ws * (lit '\x7d' * ws)))))))) := by
    simp only [Grammar.block, mul_assoc]
  rw [hblock, scanBlock]
  refine Reads.behind (exists_skipSpace cs) ?_
  -- each reader that can get stuck is followed by parts that have a text
  refine (reads_scanSelector cs).bind (by simp [declaration, name]) fun left => ?_
  refine (reads_char '\x7b' left).bind (by simp [declaration, name]) fun left => ?_
  refine Reads.behind (exists_skipSpace left) ?_
  refine (reads_scanDeclaration _).bind (by simp) fun left => ?_
  refine Reads.behind (exists_skipSpace left) (Reads.behind (exists_skipChar ';' _) ?_)
  refine Reads.behind (exists_skipSpace _) ?_
  exact (reads_char '\x7d' _).bind (by simp) reads_atEnd

/-! ## Positions -/

theorem byteLength_append (cs ds : List Char) :
    byteLength (cs ++ ds) = byteLength cs + byteLength ds := by
  induction cs with
  | nil => simp [byteLength]
  | cons c cs ih =>
      simp only [byteLength, List.cons_append, List.foldr_cons] at ih ⊢
      omega

theorem utf8ByteSize_ofList (cs : List Char) : (String.ofList cs).utf8ByteSize = byteLength cs := by
  induction cs with
  | nil => rfl
  | cons c cs ih =>
      rw [String.ofList_cons, String.utf8ByteSize_append, ih, String.utf8ByteSize_singleton]
      rfl

theorem check_of_mem_block {cs : List Char} (h : cs ∈ Grammar.block) :
    check (String.ofList cs) = .ok () := by
  obtain ⟨rest, hread⟩ := mem_block_iff.mp h
  simp [check_eq, hread]

/-- A refusal splits the block, and the part in front can be continued to a block that is accepted. -/
theorem exists_split_of_check {block : String} {refusal : Refusal}
    (h : check block = .error refusal) :
    ∃ before after : List Char, block = String.ofList before ++ String.ofList after ∧
      refusal = refusalAt (before ++ after) after ∧
      ∃ more, check (String.ofList before ++ more) = .ok () := by
  have hreads := reads_scanBlock block.toList
  rw [check_eq] at h
  cases hread : scanBlock block.toList with
  | ok rest =>
      rw [hread] at h
      cases h
  | error after =>
      rw [hread] at h hreads
      obtain ⟨before, more, hsplit, hmore⟩ := hreads
      refine ⟨before, after, ?_, ?_, String.ofList more, ?_⟩
      · rw [← String.ofList_append, ← hsplit, String.ofList_toList]
      · rw [← hsplit]
        cases h
        rfl
      · rw [← String.ofList_append]
        exact check_of_mem_block hmore

theorem message_ne (c : Char) :
    "unexpected '" ++ String.singleton c ++ "'" ≠ "unexpected end of block" := by
  intro h
  have hchars := congrArg String.toList h
  simp at hchars

/-- **A refusal points at a place of the block.** Its offset lies between two characters, its message is
about the character behind the offset, or about the end of the block if and only if the offset is there, and
the text in front of the offset can be continued to a block that is accepted. -/
theorem refusal_position {block : String} {refusal : Refusal} (h : check block = .error refusal) :
    refusal.offset ≤ block.utf8ByteSize ∧ String.Pos.Raw.IsValid block ⟨refusal.offset⟩ ∧
    (refusal.message = "unexpected end of block" ↔ refusal.offset = block.utf8ByteSize) ∧
    ∃ before after : String, block = before ++ after ∧ before.utf8ByteSize = refusal.offset ∧
      (∀ c rest, after.toList = c :: rest →
        refusal.message = "unexpected '" ++ String.singleton c ++ "'") ∧
      ∃ more, check (before ++ more) = .ok () := by
  obtain ⟨before, after, hblock, rfl, hmore⟩ := exists_split_of_check h
  have hoffset : (refusalAt (before ++ after) after).offset = (String.ofList before).utf8ByteSize := by
    show byteLength (before ++ after) - byteLength after = _
    rw [utf8ByteSize_ofList, byteLength_append]
    omega
  have hsize : block.utf8ByteSize
      = (String.ofList before).utf8ByteSize + (String.ofList after).utf8ByteSize := by
    rw [hblock, String.utf8ByteSize_append]
  refine ⟨by omega, ?_, ?_, String.ofList before, String.ofList after, hblock, hoffset.symm, ?_, hmore⟩
  · rw [String.Pos.Raw.isValid_iff_exists_append]
    exact ⟨_, _, hblock, by rw [hoffset]; rfl⟩
  · rw [hoffset, hsize]
    cases after with
    | nil => exact ⟨fun _ => rfl, fun _ => rfl⟩
    | cons c rest =>
        -- the character behind the offset is at least one byte long
        have hpos := c.utf8Size_pos
        have hrest : (String.ofList (c :: rest)).utf8ByteSize = c.utf8Size + byteLength rest := by
          rw [utf8ByteSize_ofList]
          rfl
        constructor
        · exact fun hmessage => absurd hmessage (message_ne c)
        · intro hend
          omega
  · intro c rest hafter
    rw [String.toList_ofList] at hafter
    subst hafter
    rfl

/-- A string that is not closed behind the first word of a value, in a block that is not all ASCII. -/
theorem refusal_position_string :
    let block := "é\x7bcontent: ü \"x\x7d"
    check block = .error ⟨15, "unexpected '\"'"⟩ ∧
      ∃ before after : String, block = before ++ after ∧ before.utf8ByteSize = 15 ∧
        ∃ more, check (before ++ more) = .ok () := by
  intro block
  have hcheck : check block = .error ⟨15, "unexpected '\"'"⟩ := by decide +kernel
  obtain ⟨-, -, -, before, after, hsplit, hsize, -, hmore⟩ := refusal_position hcheck
  exact ⟨hcheck, before, after, hsplit, hsize, hmore⟩

end Restyle.Declaration
