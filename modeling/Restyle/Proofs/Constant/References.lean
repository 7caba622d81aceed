import Restyle.Proofs.Constant.Naming
import Restyle.Proofs.Printing.Header
import Restyle.Proofs.Tree.Listing

set_option autoImplicit false

/-! # References to constants

A constant is declared under the name in the table, as it stands. A reference to it goes through the
table too, but what comes out is written like any other value: without its backslashes. So the two
spell the same name exactly if it has none, and a derived name has a backslash exactly if its key has
one (`backslash_mem_upperSnake_iff`).
-/

namespace Restyle

/-! ## Backslashes in derived names -/

namespace Text

/-- No character of several leads to a backslash. -/
theorem longUpcases_ne : ∀ entry ∈ longUpcases, '\\'.toNat ∉ entry.2 := by decide +kernel

/-- No stretch is moved over the backslash: all of it comes to lie behind or in front of it. -/
theorem caseShifts_ne : ∀ shift ∈ caseShifts, '\\'.toNat < shift.target ∨
    shift.target + (shift.source.last - shift.source.first) < '\\'.toNat := by decide +kernel

theorem backslash_not_mem_upcaseCode {n : Nat} (hn : 128 ≤ n) : '\\'.toNat ∉ upcaseCode n := by
  have hcode : '\\'.toNat = 92 := rfl
  unfold upcaseCode
  split
  next codes hlookup =>
    obtain ⟨before, after, hsplit, -⟩ := List.lookup_eq_some_iff.mp hlookup
    apply longUpcases_ne (n, codes)
    rw [hsplit]
    exact List.mem_append_right _ List.mem_cons_self
  next =>
    split
    next shift hfind =>
      have hcontains := List.find?_some hfind
      simp only [Stretch.contains, Bool.and_eq_true, decide_eq_true_eq] at hcontains
      have hshift := caseShifts_ne shift (List.mem_of_find?_eq_some hfind)
      rw [List.mem_singleton]
      omega
    next =>
      rw [List.mem_singleton]
      omega

theorem toUpper_eq_backslash_iff (c : Char) : c.toUpper = '\\' ↔ c = '\\' := by
  unfold Char.toUpper
  split
  next hlower =>
    -- a lower case letter becomes an upper case letter, and the backslash is neither
    have hcode : '\\'.val.toNat = 92 := rfl
    have hfirst : 97 ≤ c.val.toNat := UInt32.le_iff_toNat_le.mp hlower.1
    have hlast : c.val.toNat ≤ 122 := UInt32.le_iff_toNat_le.mp hlower.2
    constructor
    · intro heq
      have hval := congrArg UInt32.toNat (congrArg Char.val heq)
      have hshift : ('A'.val - 'a'.val).toNat = 4294967264 := by decide
      rw [UInt32.toNat_add, hshift] at hval
      omega
    · rintro rfl
      omega
  next => rfl

theorem eq_of_ofNat_eq_backslash {code : Nat} (h : Char.ofNat code = '\\') :
    code = '\\'.toNat := by
  by_cases hvalid : code.isValidChar
  · rw [Char.ofNat, dif_pos hvalid] at h
    exact congrArg Char.toNat h
  · rw [Char.ofNat, dif_neg hvalid] at h
    cases h

/-- Upper-casing neither makes nor loses a backslash. -/
theorem backslash_mem_upcase_iff (c : Char) : '\\' ∈ upcase c ↔ c = '\\' := by
  unfold upcase
  by_cases hascii : isAscii c = true
  · rw [if_pos hascii, List.mem_singleton, eq_comm]
    exact toUpper_eq_backslash_iff c
  · rw [if_neg hascii]
    have hcode : 128 ≤ c.toNat := by simpa [isAscii] using hascii
    constructor
    · intro hmem
      obtain ⟨code, hcodes, heq⟩ := List.mem_map.mp hmem
      rw [eq_of_ofNat_eq_backslash heq] at hcodes
      exact absurd hcodes (backslash_not_mem_upcaseCode hcode)
    · rintro rfl
      exact absurd hcode (by decide)

end Text

theorem backslash_mem_snakeChar_iff (before : Option Char) (c : Char) :
    '\\' ∈ snakeChar before c ↔ c = '\\' := by
  unfold snakeChar
  split
  next hdash =>
    rw [beq_iff_eq] at hdash
    subst hdash
    decide
  next =>
    split
    · simp [Text.backslash_mem_upcase_iff]
    · exact Text.backslash_mem_upcase_iff c

theorem backslash_mem_snakeChars_iff (before : Option Char) (cs : List Char) :
    '\\' ∈ snakeChars before cs ↔ '\\' ∈ cs := by
  induction cs generalizing before with
  | nil => rfl
  | cons c rest ih =>
      rw [snakeChars, List.mem_append, backslash_mem_snakeChar_iff, ih, List.mem_cons, eq_comm]

/-- The name of a key has a backslash exactly if the key has one. -/
theorem backslash_mem_upperSnake_iff (key : String) :
    '\\' ∈ (upperSnake key).toList ↔ '\\' ∈ key.toList := by
  unfold upperSnake
  split
  · rfl
  · rw [String.toList_ofList]
    exact backslash_mem_snakeChars_iff none key.toList

theorem unescape_eq_self_iff (text : String) : unescape text = text ↔ '\\' ∉ text.toList := by
  unfold unescape
  rw [← String.toList_inj, String.toList_ofList, List.filter_eq_self]
  constructor
  · intro hall hmem
    exact absurd (hall '\\' hmem) (by decide)
  · intro hnone c hc
    have hne : c ≠ '\\' := by
      rintro rfl
      exact hnone hc
    simpa using hne

/-! ## Spelled-out references -/

mutual

/-- A value with `text` in the place of every reference to `key`. -/
def Value.spell (key text : String) : Value → Value
  | .ident name => if name = key then .expression text else .ident name
  | .list terms => .list (Term.spellAll key text terms)
  | .literal text => .literal text
  | .expression code => .expression code
  | .resourcePath path suffix => .resourcePath path suffix

/-- Terms with `text` in the place of every reference to `key`, at any depth. -/
def Term.spellAll (key text : String) : List Term → List Term
  | [] => []
  | ⟨value, spaced⟩ :: rest => ⟨value.spell key text, spaced⟩ :: Term.spellAll key text rest

end

section Spelling

variable {names : NameTable} {key text : String}

mutual

theorem Value.text_spell (h : unescape (names[key]?.getD key) = text) (inUrl : Bool) :
    ∀ value : Value, (value.spell key text).text names inUrl = value.text names inUrl
  | .ident name => by
      unfold Value.spell
      by_cases hname : name = key
      · rw [if_pos hname, hname]
        exact h.symm
      · rw [if_neg hname]
  | .list terms => by
      rw [Value.spell, Value.text, Value.text]
      exact Term.textBehind_spellAll h inUrl "" terms
  | .literal _ => by rw [Value.spell]
  | .expression _ => by rw [Value.spell]
  | .resourcePath _ _ => by rw [Value.spell]

/-- A list of terms is written as if its references to `key` were spelled out. -/
theorem Term.textBehind_spellAll (h : unescape (names[key]?.getD key) = text) (inUrl : Bool) :
    ∀ (written : String) (terms : List Term),
      Term.textBehind names inUrl written (Term.spellAll key text terms)
        = Term.textBehind names inUrl written terms
  | _, [] => by rw [Term.spellAll]
  | written, ⟨value, spaced⟩ :: rest => by
      rw [Term.spellAll, Term.textBehind, Term.textBehind, Value.text_spell h inUrl value]
      exact Term.textBehind_spellAll h inUrl _ rest

end

/-- References to `key` are written as `text` throughout exactly if that is the text of its name. -/
theorem Term.textAll_spellAll_iff (names : NameTable) (key text : String) :
    (∀ inUrl terms, Term.textAll names inUrl terms
      = Term.textAll names inUrl (Term.spellAll key text terms)) ↔
    unescape (names[key]?.getD key) = text := by
  constructor
  · intro h
    -- a lone reference is enough
    have hlone := h false [⟨.ident key, false⟩]
    simpa [Term.textAll, Term.textBehind, Term.spellAll, Value.spell, Value.text] using hlone
  · intro h inUrl terms
    exact (Term.textBehind_spellAll h inUrl "" terms).symm

end Spelling

/-! ## Declarations in the output -/

/-- Every constant has its line in the header. -/
theorem PrintSetup.exists_headerText_eq (setup : PrintSetup) {decl : Constant}
    (hdecl : decl ∈ setup.constants) :
    ∃ before after, setup.headerText
      = before ++ decl.line setup.options.layout setup.names ++ after := by
  obtain ⟨first, last, hsplit⟩ := List.append_of_mem hdecl
  let line := Constant.line setup.options.layout setup.names
  refine ⟨externalLine setup.options.layout setup.externals.toList ++ String.join (first.map line),
    String.join (last.map line)
      ++ if setup.constants.isEmpty then "" else setup.options.layout.lineEnd, ?_⟩
  have hlines : String.join (setup.constants.map line)
      = String.join (first.map line) ++ line decl ++ String.join (last.map line) := by
    rw [hsplit, List.map_append, List.map_cons, String.join_append, String.join_cons,
      String.append_assoc]
  show _ ++ (String.join (setup.constants.map line) ++ _) = _
  rw [hlines]
  simp only [String.append_assoc]
  rfl

/-- Every constant of a converted stylesheet has its line in the output. -/
theorem Converter.exists_gss_eq_line {converter : Converter} {sheet : Stylesheet}
    {names : NameTable} {conversion : Conversion}
    (h : (converter.setupFor sheet names).generate sheet.stripExternals = .ok conversion)
    {decl : Constant} (hdecl : decl ∈ sheet.declared) :
    ∃ before after, conversion.gss
      = before ++ decl.line converter.options.layout names ++ after := by
  have hconstant : decl ∈ (converter.setupFor sheet names).constants := by
    show decl ∈ sheet.stripExternals.constants
    rw [Stylesheet.constants_stripExternals]
    exact hdecl
  obtain ⟨before, after, hheader⟩ := PrintSetup.exists_headerText_eq _ hconstant
  obtain ⟨rest, hgss⟩ := PrintSetup.exists_gss_eq h
  refine ⟨before, after ++ rest, ?_⟩
  rw [hgss, hheader, String.append_assoc]
  rfl

/-- A derived name in a successful conversion: the constant is declared under it, and references are
written as the name without its backslashes. They spell the declared name exactly if the key has no
backslash. -/
theorem Converter.references_spell_name {converter : Converter} {sheet : Stylesheet}
    {conversion : Conversion} (hderived : converter.names = none)
    (h : converter.convert sheet = .ok conversion) :
    ∃ table, converter.namesFor sheet.declared = .ok table ∧
      (converter.setupFor sheet table).generate sheet.stripExternals = .ok conversion ∧
      ∀ decl ∈ sheet.declared,
        (∃ before after, conversion.gss
          = before ++ ("@def " ++ upperSnake decl.key ++ " " ++ decl.text table (decl.kind = .url)
              ++ ";" ++ converter.options.layout.lineEnd) ++ after) ∧
        (∀ inUrl terms, Term.textAll table inUrl terms
          = Term.textAll table inUrl
              (Term.spellAll decl.key (unescape (upperSnake decl.key)) terms)) ∧
        ((∀ inUrl terms, Term.textAll table inUrl terms
          = Term.textAll table inUrl (Term.spellAll decl.key (upperSnake decl.key) terms)) ↔
            '\\' ∉ decl.key.toList) := by
  rw [convert_eq, Stylesheet.constants_stripExternals] at h
  obtain ⟨table, htable, hgenerate⟩ := ok_of_bind h
  have hofConstants : NameTable.ofConstants sheet.declared = .ok table := by
    rw [← htable, namesFor, hderived]
  refine ⟨table, htable, hgenerate, ?_⟩
  intro decl hdecl
  have hname : table[decl.key]? = some (upperSnake decl.key) := by
    rw [NameTable.getElem?_of_ofConstants hofConstants, if_pos (List.mem_map_of_mem hdecl)]
  refine ⟨?_, ?_, ?_⟩
  · have hline : decl.line converter.options.layout table
        = "@def " ++ upperSnake decl.key ++ " " ++ decl.text table (decl.kind = .url)
            ++ ";" ++ converter.options.layout.lineEnd := by
      rw [Constant.line, hname]
      rfl
    rw [← hline]
    exact exists_gss_eq_line hgenerate hdecl
  · rw [Term.textAll_spellAll_iff, hname]
    rfl
  · rw [Term.textAll_spellAll_iff, hname, ← backslash_mem_upperSnake_iff]
    exact unescape_eq_self_iff (upperSnake decl.key)

/-- A stylesheet that declares a constant and refers to it in a nested list. -/
def Stylesheet.referring (key : String) : Stylesheet :=
  ⟨[.constant ⟨.plain, key, [⟨.literal "red", true⟩]⟩,
    .rule [.ofText ".x"] [⟨"color", [⟨.list [⟨.ident key, true⟩], true⟩], false⟩]]⟩

theorem Converter.references_spell_name_myColor :
    compact.convert (.referring "myColor")
        = .ok ⟨"@def MY_COLOR red;.x\x7bcolor: MY_COLOR;\x7d", []⟩ ∧
      ∃ table, compact.namesFor (Stylesheet.referring "myColor").declared = .ok table ∧
        ∀ inUrl terms, Term.textAll table inUrl terms
          = Term.textAll table inUrl (Term.spellAll "myColor" (upperSnake "myColor") terms) := by
  have h : compact.convert (.referring "myColor")
      = .ok ⟨"@def MY_COLOR red;.x\x7bcolor: MY_COLOR;\x7d", []⟩ := by
    simp only [convert_eq, setupFor, Stylesheet.stripExternals_eq]
    decide +kernel
  obtain ⟨table, htable, -, hall⟩ := references_spell_name rfl h
  have hdecl : ⟨.plain, "myColor", [⟨.literal "red", true⟩]⟩
      ∈ (Stylesheet.referring "myColor").declared := by decide +kernel
  exact ⟨h, table, htable, (hall _ hdecl).2.2.mpr (by decide)⟩

/-- A reference loses the backslash that its declaration shows. -/
theorem Converter.reference_loses_backslash :
    compact.convert (.referring "a\\b") = .ok ⟨"@def A\\B red;.x\x7bcolor: AB;\x7d", []⟩ ∧
      (compact.namesFor (Stylesheet.referring "a\\b").declared).map
          (fun table => (table["a\\b"]?, Value.text table false (.ident "a\\b")))
        = .ok (some "A\\B", "AB") := by
  simp only [convert_eq, setupFor, Stylesheet.stripExternals_eq]
  decide +kernel

end Restyle
