import Restyle.Selector
import Mathlib.Data.Bool.AllAny
import Mathlib.Tactic.Common

set_option autoImplicit false

/-! # Selectors as they are written

A selector is written as a sequence of compounds with combinators between them. A compound may start
with the name of an element; then come classes, ids, pseudo classes and attribute tests in any order.
`Selector.Written` is such a selector, with the backslashes that its author has put into the names, and
`Selector.Written.refiners_ofText` says that scanning its text finds the names it was written with.

The scanner knows only one state besides what it has found: whether a compound starts. Each part of a
compound leads from any state to the state inside a compound (`Selector.scan_part`), and a combinator
leads from any state to the start of one (`Selector.scan_gap`). A pseudo class without a name is the one
part that reads on into the next: two of them in a row are read as one, which makes no difference since
neither has a name to give.
-/

namespace Restyle

/-! ## Writing selectors -/

namespace Selector.Written

/-- A character that a name can hold without a backslash before it. -/
def Bare (c : Char) : Prop := c.isAlphanum = true ∨ c = '-' ∨ c = '_' ∨ 128 ≤ c.toNat

/-- A character of a name as it is written. A backslash may stand before any of them. -/
structure Glyph where
  char : Char
  escaped : Bool
  bare : escaped = false → Bare char

/-- The text of a name. -/
def spelled (name : List Glyph) : List Char :=
  name.flatMap fun glyph => if glyph.escaped then ['\\', glyph.char] else [glyph.char]

/-- The name that is meant. -/
def meant (name : List Glyph) : List Char := name.map Glyph.char

/-- The name of an element. Its first character has no backslash before it. -/
structure Element where
  first : Char
  leads : Text.isAlphabetic first = true ∨ first = '_'
  rest : List Glyph

/-- What may follow the element of a compound. -/
inductive Part where
  | className (first : Glyph) (rest : List Glyph)
  | id (first : Glyph) (rest : List Glyph)
  /-- A pseudo class, or a pseudo element with two colons. The name may be missing. -/
  | pseudo (doubled : Bool) (name : List Glyph)
  /-- An attribute test. -/
  | test (content : List Char) (closes : ']' ∉ content)

/-- The text of a part. -/
def Part.text : Part → List Char
  | .className first rest => '.' :: spelled (first :: rest)
  | .id first rest => '#' :: spelled (first :: rest)
  | .pseudo doubled name => ':' :: ((if doubled then [':'] else []) ++ spelled name)
  | .test content _ => '[' :: (content ++ [']'])

/-- The names in a part. -/
def Part.refiners : Part → List Refiner
  | .className first rest => [.className (String.ofList (meant (first :: rest)))]
  | .id first rest => [.id (String.ofList (meant (first :: rest)))]
  | .pseudo .. => []
  | .test .. => []

/-- A compound. Both the element and the parts may be missing. -/
structure Compound where
  element : Option Element
  parts : List Part

/-- The text of a compound. -/
def Compound.text (compound : Compound) : List Char :=
  (compound.element.elim [] fun element => element.first :: spelled element.rest)
    ++ compound.parts.flatMap Part.text

/-- The names in a compound, in their order. -/
def Compound.refiners (compound : Compound) : List Refiner :=
  (compound.element.elim [] fun element =>
      [.element (String.ofList (element.first :: meant element.rest))])
    ++ compound.parts.flatMap Part.refiners

/-- The characters that may separate two compounds. -/
def combinators : List Char := [' ', '\t', '\n', '\x0b', '\x0c', '\r', '>', '+', '~', ',']

/-- What separates two compounds. -/
structure Gap where
  text : List Char
  text_ne : text ≠ []
  combinator : ∀ c ∈ text, c ∈ combinators

end Selector.Written

/-- A selector as it is written. -/
structure Selector.Written where
  first : Written.Compound
  others : List (Written.Gap × Written.Compound)

namespace Selector.Written

/-- The text of a selector. -/
def text (written : Written) : List Char :=
  written.first.text
    ++ written.others.flatMap fun (gap, compound) => gap.text ++ compound.text

/-- The names in a selector, in their order. -/
def refiners (written : Written) : List Refiner :=
  written.first.refiners ++ written.others.flatMap fun (_, compound) => compound.refiners

end Selector.Written

/-! ## Characters -/

namespace Text

/-- The tables of alphabetic and blank characters have nothing in common. -/
theorem stretches_disjoint : ∀ a ∈ alphabeticStretches, ∀ b ∈ blankStretches,
    a.last < b.first ∨ b.last < a.first := by
  decide +kernel

theorem isBlank_of_isAlphabetic {c : Char} (h : isAlphabetic c = true) : isBlank c = false := by
  rw [Bool.eq_false_iff]
  intro hblank
  obtain ⟨b, hb, hcontains⟩ := List.any_eq_true.mp hblank
  simp only [Stretch.contains, Bool.and_eq_true, decide_eq_true_eq] at hcontains
  unfold isAlphabetic at h
  split at h
  · -- the letters of ASCII lie between the blanks of ASCII and those beyond it
    have hblanks : ∀ b ∈ blankStretches, b.last < 65 ∨ 122 < b.first := by decide
    have hletter : 65 ≤ c.toNat ∧ c.toNat ≤ 122 := by
      have hcase : (c.isUpper || c.isLower) = true := h
      rcases Bool.or_eq_true_iff.mp hcase with hupper | hlower
      · have hrange : 65 ≤ c.toNat ∧ c.toNat ≤ 90 := of_decide_eq_true hupper
        omega
      · obtain ⟨hfirst, hlast⟩ := Bool.and_eq_true_iff.mp hlower
        have hrange : 97 ≤ c.toNat ∧ c.toNat ≤ 122 :=
          ⟨of_decide_eq_true hfirst, of_decide_eq_true hlast⟩
        omega
    have hb := hblanks b hb
    omega
  · obtain ⟨a, ha, halpha⟩ := List.any_eq_true.mp h
    simp only [Stretch.contains, Bool.and_eq_true, decide_eq_true_eq] at halpha
    have hdisjoint := stretches_disjoint a ha b hb
    omega

end Text

namespace Selector

open Written

theorem isNameChar_iff (c : Char) : isNameChar c = true ↔ Bare c := by
  simp [isNameChar, Bare, Text.isAscii, or_assoc]

/-- A character that stands in a name without a backslash is one of a name. -/
theorem isNameChar_of_unescaped {glyph : Glyph} (h : glyph.escaped = false) :
    isNameChar glyph.char = true :=
  (isNameChar_iff glyph.char).mpr (glyph.bare h)

theorem ne_of_isNameChar {c d : Char} (hc : isNameChar c = true) (hd : isNameChar d = false) :
    c ≠ d := by
  rintro rfl
  rw [hc] at hd
  cases hd

theorem isCombinator_of_mem {c : Char} (h : c ∈ combinators) : isCombinator c = true := by
  have hall : ∀ c ∈ combinators, isCombinator c = true := List.all_iff_forall_prop.mp (by decide)
  exact hall c h

/-- The first character of an element does not separate compounds. -/
theorem isCombinator_of_leads {c : Char} (h : Text.isAlphabetic c = true ∨ c = '_') :
    isCombinator c = false := by
  have hblank : Text.isBlank c = false := by
    rcases h with halpha | rfl
    · exact Text.isBlank_of_isAlphabetic halpha
    · decide
  have hsigns : ∀ c ∈ ['>', '+', '~', ',', '(', ')'], ¬ (Text.isAlphabetic c = true ∨ c = '_') :=
    List.all_iff_forall_prop.mp (by decide)
  have hc : c ∉ ['>', '+', '~', ',', '(', ')'] := fun hmem => hsigns c hmem h
  simpa [isCombinator, hblank, and_assoc] using hc

/-! ## Names -/

/-- A name cannot go on with this text. -/
def Ends (rest : List Char) : Prop := ∀ c ∈ rest.head?, isNameChar c = false ∧ c ≠ '\\'

theorem takeName_cons {c : Char} (hc : c ≠ '\\') (name rest : List Char) :
    takeName name (c :: rest)
      = if isNameChar c then takeName (c :: name) rest else (name.reverse, c :: rest) := by
  rw [takeName]
  · exact fun heq => absurd heq hc
  · exact fun _ _ heq => absurd heq hc

theorem takeName_of_ends {rest : List Char} (h : Ends rest) (name : List Char) :
    takeName name rest = (name.reverse, rest) := by
  cases rest with
  | nil => rw [takeName]
  | cons c rest =>
      obtain ⟨hname, hc⟩ := h c rfl
      rw [takeName_cons hc, hname]
      rfl

/-- A written name is read to its end, with its backslashes resolved. -/
theorem takeName_spelled (name : List Glyph) {rest : List Char} (h : Ends rest)
    (before : List Char) :
    takeName before (spelled name ++ rest) = (before.reverse ++ meant name, rest) := by
  induction name generalizing before with
  | nil => simpa [spelled, meant] using takeName_of_ends h before
  | cons glyph name ih =>
      -- one character goes to what has been read, with or without a backslash before it
      have hread : takeName before (spelled (glyph :: name) ++ rest)
          = takeName (glyph.char :: before) (spelled name ++ rest) := by
        cases hescaped : glyph.escaped with
        | true => simp [spelled, hescaped, takeName]
        | false =>
            have hname := isNameChar_of_unescaped hescaped
            have hne : glyph.char ≠ '\\' := ne_of_isNameChar hname (by decide)
            simp [spelled, hescaped, takeName_cons hne, hname]
      rw [hread, ih]
      simp [meant]

/-! ## Steps of the scanner -/

/-- The characters that mean the same wherever they stand: a part or an escape begins. -/
def signs : List Char := ['.', '#', ':', '[', '\\']

/-- The first character of an element is none of them. -/
theorem notMem_signs_of_leads {c : Char} (h : Text.isAlphabetic c = true ∨ c = '_') : c ∉ signs := by
  have hsigns : ∀ c ∈ signs, ¬ (Text.isAlphabetic c = true ∨ c = '_') :=
    List.all_iff_forall_prop.mp (by decide)
  exact fun hmem => hsigns c hmem h

section Steps

variable (start : Bool) (refiners : List Refiner)

/-- Colons in a row are read as one. -/
theorem scan_colon (rest : List Char) :
    scan start refiners (':' :: rest)
      = scan false refiners (takeName [] (rest.dropWhile (· == ':'))).2 := by
  rw [scan, if_neg (by decide), if_neg (by decide), if_pos (beq_self_eq_true _)]

theorem scan_colon_colon (rest : List Char) :
    scan start refiners (':' :: ':' :: rest) = scan start refiners (':' :: rest) := by
  rw [scan_colon, scan_colon, List.dropWhile_cons_of_pos rfl]

/-- A character that begins no part either separates compounds or belongs to an element. -/
theorem scan_cons {c : Char} (hc : c ∉ signs) (rest : List Char) :
    scan start refiners (c :: rest)
      = if isCombinator c then scan true refiners rest
        else if start && (Text.isAlphabetic c || c == '_') then
          scan false (.element (String.ofList (takeName [c] rest).1) :: refiners)
            (takeName [c] rest).2
        else scan false refiners rest := by
  simp only [signs, List.mem_cons, List.not_mem_nil, or_false, not_or, ← beq_eq_false_iff_ne] at hc
  obtain ⟨hdot, hhash, hcolon, hbracket, hbackslash⟩ := hc
  rw [scan, hdot, hhash, hcolon, hbracket, hbackslash]
  rfl

theorem scan_combinator {c : Char} (hc : c ∈ combinators) (rest : List Char) :
    scan start refiners (c :: rest) = scan true refiners rest := by
  have hsigns : ∀ c ∈ combinators, c ∉ signs := List.all_iff_forall_prop.mp (by decide)
  rw [scan_cons start refiners (hsigns c hc), isCombinator_of_mem hc, if_pos rfl]

/-- Behind a run of combinators a compound starts. -/
theorem scan_gap (gap : Gap) (rest : List Char) :
    scan start refiners (gap.text ++ rest) = scan true refiners rest := by
  obtain ⟨text, hne, hcombinators⟩ := gap
  induction text generalizing start with
  | nil => exact absurd rfl hne
  | cons c text ih =>
      have hc := hcombinators c List.mem_cons_self
      rw [List.cons_append, scan_combinator start refiners hc]
      cases text with
      | nil => rfl
      | cons d text =>
          exact ih true (List.cons_ne_nil d text) fun e he =>
            hcombinators e (List.mem_cons_of_mem c he)

end Steps

/-! ## Parts -/

theorem exists_spelled_eq (glyph : Glyph) (name : List Glyph) :
    ∃ c cs, spelled (glyph :: name) = c :: cs ∧ c ≠ ':' := by
  cases hescaped : glyph.escaped with
  | true => exact ⟨'\\', glyph.char :: spelled name, by simp [spelled, hescaped], by decide⟩
  | false =>
      have hne : glyph.char ≠ ':' := ne_of_isNameChar (isNameChar_of_unescaped hescaped) (by decide)
      exact ⟨glyph.char, spelled name, by simp [spelled, hescaped], hne⟩

theorem dropWhile_colon {c : Char} (hc : c ≠ ':') (rest : List Char) :
    (c :: rest).dropWhile (· == ':') = c :: rest :=
  List.dropWhile_cons_of_neg (by simpa using hc)

/-- A colon and a name are passed over. Without a name, colons that follow are passed over with it. -/
theorem scan_colon_spelled (name : List Glyph) {rest : List Char} (h : Ends rest) (start : Bool)
    (refiners : List Refiner) :
    scan start refiners (':' :: (spelled name ++ rest)) = scan false refiners rest := by
  cases name with
  | cons glyph name =>
      obtain ⟨c, cs, hspelled, hc⟩ := exists_spelled_eq glyph name
      have hread := takeName_spelled (glyph :: name) h []
      rw [hspelled, List.cons_append] at hread
      rw [scan_colon, hspelled, List.cons_append, dropWhile_colon hc, hread]
  | nil =>
      show scan start refiners (':' :: rest) = scan false refiners rest
      cases rest with
      | nil => rw [scan_colon, List.dropWhile_nil, takeName]
      | cons c rest =>
          -- a colon here opens the next part, and reading on from either colon comes to the same
          by_cases hc : c = ':'
          · rw [hc, scan_colon_colon, scan_colon, scan_colon]
          · rw [scan_colon, dropWhile_colon hc, takeName_of_ends h]

/-- A part gives its name, wherever it stands. -/
theorem scan_part (part : Part) {rest : List Char} (h : Ends rest) (start : Bool)
    (refiners : List Refiner) :
    scan start refiners (part.text ++ rest)
      = scan false (part.refiners.reverse ++ refiners) rest := by
  cases part with
  | className first name =>
      rw [Part.text, List.cons_append, scan, if_pos (beq_self_eq_true _), takeName_spelled _ h]
      rfl
  | id first name =>
      rw [Part.text, List.cons_append, scan, if_neg (by decide), if_pos (beq_self_eq_true _),
        takeName_spelled _ h]
      rfl
  | pseudo doubled name =>
      rw [Part.text]
      cases doubled with
      | true => exact (scan_colon_colon ..).trans (scan_colon_spelled name h start refiners)
      | false => exact scan_colon_spelled name h start refiners
  | test content closes =>
      -- the first bracket that closes is the one behind the content
      have hskip : (content ++ [']'] ++ rest).dropWhile (· != ']') = ']' :: rest := by
        rw [List.append_assoc, List.dropWhile_append_of_pos]
        · rfl
        · intro c hc
          rw [bne_iff_ne]
          rintro rfl
          exact closes hc
      rw [Part.text, List.cons_append, scan, if_neg (by decide), if_neg (by decide),
        if_neg (by decide), if_pos (beq_self_eq_true _), hskip]
      rfl

theorem ends_parts (parts : List Part) {rest : List Char} (h : Ends rest) :
    Ends (parts.flatMap Part.text ++ rest) := by
  cases parts with
  | nil => exact h
  | cons part parts =>
      intro c hc
      cases part <;> cases hc <;> decide

/-- The state behind some parts is not needed: it depends on whether there are any. -/
theorem scan_parts (parts : List Part) {rest : List Char} (h : Ends rest) (start : Bool)
    (refiners : List Refiner) :
    ∃ inside, scan start refiners (parts.flatMap Part.text ++ rest)
      = scan inside ((parts.flatMap Part.refiners).reverse ++ refiners) rest := by
  induction parts generalizing start refiners with
  | nil => exact ⟨start, rfl⟩
  | cons part parts ih =>
      obtain ⟨inside, hparts⟩ := ih false (part.refiners.reverse ++ refiners)
      refine ⟨inside, ?_⟩
      rw [List.flatMap_cons, List.append_assoc, scan_part part (ends_parts parts h), hparts,
        List.flatMap_cons, List.reverse_append, List.append_assoc]

/-! ## Compounds -/

theorem scan_element (element : Element) {rest : List Char} (h : Ends rest)
    (refiners : List Refiner) :
    scan true refiners (element.first :: (spelled element.rest ++ rest))
      = scan false (.element (String.ofList (element.first :: meant element.rest)) :: refiners)
          rest := by
  obtain ⟨c, hleads, name⟩ := element
  have hsign := notMem_signs_of_leads hleads
  have hcombinator := isCombinator_of_leads hleads
  have hstarts : (true && (Text.isAlphabetic c || c == '_')) = true := by simpa using hleads
  rw [scan_cons true refiners hsign, hcombinator, if_neg Bool.false_ne_true, if_pos hstarts,
    takeName_spelled name h]
  rfl

theorem scan_compound (compound : Compound) {rest : List Char} (h : Ends rest)
    (refiners : List Refiner) :
    ∃ inside, scan true refiners (compound.text ++ rest)
      = scan inside (compound.refiners.reverse ++ refiners) rest := by
  obtain ⟨element, parts⟩ := compound
  unfold Compound.text Compound.refiners
  cases element with
  | none => exact scan_parts parts h true refiners
  | some element =>
      obtain ⟨inside, hparts⟩ := scan_parts parts h false
        (.element (String.ofList (element.first :: meant element.rest)) :: refiners)
      refine ⟨inside, ?_⟩
      have hends := ends_parts parts h
      simp only [Option.elim_some, List.append_assoc, List.cons_append, List.nil_append,
        List.reverse_cons]
      rw [scan_element element hends, hparts]

theorem ends_others (others : List (Gap × Compound)) :
    Ends (others.flatMap fun (gap, compound) => gap.text ++ compound.text) := by
  cases others with
  | nil => exact fun c hc => by cases hc
  | cons other others =>
      obtain ⟨⟨text, hne, hcombinators⟩, compound⟩ := other
      obtain ⟨d, text, rfl⟩ := List.exists_cons_of_ne_nil hne
      intro c hc
      cases hc
      have hall : ∀ c ∈ combinators, isNameChar c = false ∧ c ≠ '\\' :=
        List.all_iff_forall_prop.mp (by decide)
      exact hall d (hcombinators d List.mem_cons_self)

theorem scan_others (others : List (Gap × Compound)) (start : Bool) (refiners : List Refiner) :
    scan start refiners (others.flatMap fun (gap, compound) => gap.text ++ compound.text)
      = refiners.reverse ++ others.flatMap fun (_, compound) => compound.refiners := by
  induction others generalizing start refiners with
  | nil =>
      rw [List.flatMap_nil, List.flatMap_nil, scan, List.append_nil]
  | cons other others ih =>
      obtain ⟨gap, compound⟩ := other
      rw [List.flatMap_cons, List.flatMap_cons, List.append_assoc, scan_gap]
      obtain ⟨inside, hcompound⟩ := scan_compound compound (ends_others others) refiners
      rw [hcompound, ih, List.reverse_append, List.reverse_reverse, List.append_assoc]

end Selector

/-- **Scanning finds the names that a selector was written with.** These are the names of its elements,
classes and ids, in their order and without the backslashes; pseudo classes and attribute tests add
nothing. -/
theorem Selector.Written.refiners_ofText (written : Written) :
    (Selector.ofText (String.ofList written.text)).refiners = written.refiners := by
  show Selector.scan true [] (String.ofList written.text).toList = _
  obtain ⟨inside, hfirst⟩ :=
    Selector.scan_compound written.first (Selector.ends_others written.others) []
  rw [String.toList_ofList, text, hfirst, Selector.scan_others, List.append_nil,
    List.reverse_reverse]
  rfl

/-- The text `a.w\\: >::[x.y]#w`. -/
example :
    let w : Selector.Written.Glyph := ⟨'w', false, fun _ => Or.inl rfl⟩
    let colon : Selector.Written.Glyph := ⟨':', true, nofun⟩
    let written : Selector.Written :=
      ⟨⟨some ⟨'a', by decide, []⟩, [.className w [colon]]⟩,
        [(⟨[' ', '>'], by decide, List.all_iff_forall_prop.mp (by decide)⟩,
          ⟨none, [.pseudo true [], .test ['x', '.', 'y'] (by decide), .id w []]⟩)]⟩
    String.ofList written.text = "a.w\\: >::[x.y]#w" ∧
      written.refiners = [.element "a", .className "w:", .id "w"] := by
  decide

end Restyle
