import Restyle.Proofs.Declaration.Refusals

set_option autoImplicit false

/-! # The mark of a fixed direction

A property that keeps its direction has a comment in front of it, the mark `/* @noflip */`. The checker
leaves the mark out with the blanks behind it and reads on as if it were not there
(`scanBlock_marked`). A reader gets the characters that are left and knows nothing of those that are
gone, so it is stuck in front of the same characters with and without the mark; only the offset of that
place grows by the fourteen bytes of the mark (`check_marked`).

One comment may stand in front of a declaration, and the mark is one: a text that starts with a comment
of its own may pass without the mark, but not behind it.
-/

namespace Restyle

/-- The same refusal, some bytes further behind. -/
def Refusal.later (bytes : Nat) (r : Refusal) : Refusal := { r with offset := r.offset + bytes }

namespace Declaration

open Text (Reading)
open Text.Reader (char atEnd)

/-- The mark and the blank behind it, as they stand in front of a property. -/
def fixedMark : String := "/* @noflip */ "

/-- The block in which a declaration is checked. -/
def bodyBlock (text : String) : String := "body\x7b" ++ text ++ "\x7d"

/-- A text starts with a comment, possibly behind blanks. -/
def StartsComment (text : String) : Prop := ['/', '*'] <+: skipSpace text.toList

instance (text : String) : Decidable (StartsComment text) :=
  inferInstanceAs (Decidable (['/', '*'] <+: skipSpace text.toList))

/-! ## Reading behind the mark -/

/-- The reading of a block from behind its declaration. -/
def scanClosing (cs : List Char) : Reading := do
  let cs ← char '\x7d' (skipSpace (skipChar ';' (skipSpace cs)))
  atEnd (skipSpace cs)

/-- In front of a declaration stands a selector that is always the same. -/
theorem scanBlock_body (cs : List Char) :
    scanBlock ("body\x7b".toList ++ cs) = scanDeclaration (skipSpace cs) >>= scanClosing := by
  have hselector : scanSelector (skipSpace ("body\x7b".toList ++ cs)) = .ok ('\x7b' :: cs) := rfl
  rw [scanBlock, hselector]
  rfl

theorem skipComment_eq_self {cs : List Char} (h : ¬ ['/', '*'] <+: cs) : skipComment cs = cs := by
  unfold skipComment
  split
  next rest => exact absurd ⟨rest, rfl⟩ h
  next => rfl

/-- The mark is a comment, and is left out with the blanks behind it. -/
theorem skipComment_fixedMark (cs : List Char) :
    skipComment (fixedMark.toList ++ cs) = skipSpace cs := by
  have hcomment : "/* @noflip */".toList ∈ Grammar.comment := ⟨" @noflip ".toList, by decide, rfl⟩
  have hblank : [' '] ∈ Grammar.ws := List.forall_mem_singleton.mpr (Or.inl rfl)
  have hmark : fixedMark.toList = "/* @noflip */".toList ++ [' '] := by decide
  rw [hmark, List.append_assoc]
  exact skipComment_comment hcomment hblank

theorem scanDeclaration_fixedMark {cs : List Char} (h : ¬ ['/', '*'] <+: skipSpace cs) :
    scanDeclaration (skipSpace (fixedMark.toList ++ cs)) = scanDeclaration (skipSpace cs) := by
  have hmark : skipSpace (fixedMark.toList ++ cs) = fixedMark.toList ++ cs := rfl
  unfold scanDeclaration
  rw [hmark, skipComment_fixedMark, skipComment_eq_self h]

/-- The brace that closes a block does not complete the start of a comment. -/
theorem startsComment_of_isPrefix {text : String}
    (h : ['/', '*'] <+: skipSpace (text.toList ++ ['\x7d'])) : StartsComment text := by
  unfold StartsComment
  have hsplit : skipSpace (text.toList ++ ['\x7d']) = skipSpace text.toList ++ ['\x7d'] := by
    unfold skipSpace
    rw [List.dropWhile_append]
    split
    next hblank => rw [List.isEmpty_iff.mp hblank]; rfl
    next => rfl
  rw [hsplit, List.prefix_concat_iff] at h
  rcases h with hall | hstart
  · -- the brace would be one of the two characters
    have hbrace : '\x7d' ∈ ['/', '*'] := by
      rw [hall]
      exact List.mem_concat_self
    exact absurd hbrace (by decide)
  · exact hstart

/-- **The mark makes no difference to a reader**: it gets as far with the mark as without it. -/
theorem scanBlock_marked {text : String} (h : ¬ StartsComment text) :
    scanBlock (bodyBlock (fixedMark ++ text)).toList = scanBlock (bodyBlock text).toList := by
  have hplain : (bodyBlock text).toList = "body\x7b".toList ++ (text.toList ++ ['\x7d']) := by
    simp [bodyBlock]
  have hmarked : (bodyBlock (fixedMark ++ text)).toList
      = "body\x7b".toList ++ (fixedMark.toList ++ (text.toList ++ ['\x7d'])) := by
    simp [bodyBlock]
  rw [hplain, hmarked, scanBlock_body, scanBlock_body,
    scanDeclaration_fixedMark fun hprefix => h (startsComment_of_isPrefix hprefix)]

/-! ## Checking behind the mark -/

/-- A place of a text is as far behind its start as the text is longer. -/
theorem refusalAt_later {longer block rest : List Char} {bytes : Nat} (hrest : rest <:+ block)
    (hbytes : byteLength longer = byteLength block + bytes) :
    refusalAt longer rest = (refusalAt block rest).later bytes := by
  obtain ⟨taken, rfl⟩ := hrest
  have hoffset : byteLength longer - byteLength rest
      = byteLength (taken ++ rest) - byteLength rest + bytes := by
    rw [hbytes, byteLength_append]
    omega
  unfold refusalAt Refusal.later
  rw [hoffset]

theorem suffix_of_scanBlock {cs rest : List Char} (h : scanBlock cs = .error rest) : rest <:+ cs := by
  have hreads := reads_scanBlock cs
  rw [h] at hreads
  obtain ⟨taken, -, hsplit, -⟩ := hreads
  exact ⟨taken, hsplit.symm⟩

/-- **The checker decides alike with and without the mark.** A refusal is about the same character,
fourteen bytes later. -/
theorem check_marked {text : String} (h : ¬ StartsComment text) :
    check (bodyBlock (fixedMark ++ text)) = (check (bodyBlock text)).mapError (Refusal.later 14) := by
  have hbytes : byteLength (bodyBlock (fixedMark ++ text)).toList
      = byteLength (bodyBlock text).toList + 14 := by
    have hmark : byteLength fixedMark.toList = 14 := by decide
    simp only [bodyBlock, String.toList_append, byteLength_append, hmark]
    omega
  rw [check_eq, check_eq, scanBlock_marked h]
  cases hread : scanBlock (bodyBlock text).toList with
  | ok rest => rfl
  | error rest =>
      have hlater := refusalAt_later (suffix_of_scanBlock hread) hbytes
      simp only [hlater]
      rfl

/-- A comment of its own is read only where there is no mark in front of it. -/
example :
    check (bodyBlock "/* a */ b: c") = .ok () ∧
      check (bodyBlock (fixedMark ++ "/* a */ b: c")) = .error ⟨19, "unexpected '/'"⟩ := by
  decide +kernel

end Declaration

end Restyle
