import Restyle.Proofs.Json.Tokens

set_option autoImplicit false

/-! # Written values read back

The reader of tokens keeps the open arrays and objects on a stack. Reading the tokens of a value has one
effect, wherever the value may stand: the value is put into the innermost open array or object
(`run_tokens`). With the cutting of texts into tokens this gives that a value is read however it is
written (`parse?_of_written`), and that a printed value reads back.
-/

namespace Restyle.Json

namespace Reading

/-! ## Steps -/

theorem run_cons {reading next : Reading} {t : Token} (h : reading.step t = some next)
    (rest : List Token) : reading.run (t :: rest) = next.run rest := by
  rw [run, h]

/-- A token that begins a value closes nothing. -/
theorem close_of_beginValue {frames : List Frame} {t : Token} {next : Reading}
    (h : beginValue frames t = some next) : close frames t = none := by
  cases t with
  | closeBrace | closeBracket | colon | comma => cases h
  | openBrace | openBracket | scalar _ | string _ =>
      rcases frames with _ | ⟨_ | _, outer⟩ <;> rfl

/-- The first token of a value, where a value may begin. -/
theorem run_beginValue {e : Expected} (he : e = .value ∨ e = .firstItem) {frames : List Frame}
    {t : Token} {next : Reading} (h : beginValue frames t = some next) (rest : List Token) :
    (within frames e).run (t :: rest) = next.run rest := by
  apply run_cons
  rcases he with rfl | rfl
  · exact h
  · rw [step, close_of_beginValue h, Option.none_or, h]

/-- A key and its colon, where a member may begin. -/
theorem run_beginMember {e : Expected} (he : e = .key ∨ e = .firstKey)
    (members : List (Option String × Json)) (last : Option String) (key : String)
    (outer : List Frame) (rest : List Token) :
    (within (.object members last :: outer) e).run (.string (some key) :: .colon :: rest) =
      (within (.object members (some key) :: outer) .value).run rest := by
  have hkey : (within (.object members last :: outer) e).step (.string (some key)) =
      some (within (.object members (some key) :: outer) .colon) := by
    rcases he with rfl | rfl
    · rfl
    · rfl
  rw [run_cons hkey, run_cons rfl]

theorem mapM_map_eq_some {α β : Type} {f : β → Option α} {g : α → β} (h : ∀ a, f (g a) = some a)
    (as : List α) : (as.map g).mapM f = some as := by
  induction as with
  | nil => rfl
  | cons a as ih => simp [List.mapM_cons, h, ih]

theorem ofMembers_map (members : List (String × Json)) :
    ofMembers (members.map fun member => (some member.1, member.2)) = .object members := by
  rw [ofMembers, mapM_map_eq_some]
  intro member
  rfl

/-! ## Runs -/

mutual

/-- **The tokens of a value put it into the innermost open frame.** -/
theorem run_tokens : ∀ (value : Json) (frames : List Frame) (e : Expected),
    e = .value ∨ e = .firstItem → ∀ rest : List Token,
      (within frames e).run (tokens value ++ rest) = (complete value frames).run rest
  | .null, _, _, he, rest => run_beginValue (t := .scalar .null) he rfl rest
  | .bool b, _, _, he, rest => run_beginValue (t := .scalar (.bool b)) he rfl rest
  | .number value, _, _, he, rest => run_beginValue (t := .scalar (.number value)) he rfl rest
  | .string s, _, _, he, rest => run_beginValue (t := .string (some s)) he rfl rest
  | .unusable, _, _, he, rest => run_beginValue (t := .scalar .unusable) he rfl rest
  | .array items, frames, e, he, rest => by
      rw [tokens, List.cons_append, run_beginValue he rfl]
      exact run_itemTokens items [] frames .firstItem (.inl rfl) rest
  | .object members, frames, e, he, rest => by
      rw [tokens, List.cons_append, run_beginValue he rfl]
      exact run_memberTokens members [] none frames .firstKey (.inl rfl) rest

-- An array may end at once, but not behind a comma.
theorem run_itemTokens : ∀ (items before : List Json) (outer : List Frame) (e : Expected),
    (e = .firstItem ∨ e = .value ∧ items ≠ []) → ∀ rest : List Token,
      (within (.array before :: outer) e).run (itemTokens items ++ rest) =
        (complete (.array (before.reverse ++ items)) outer).run rest
  | [], before, outer, e, he, rest => by
      rcases he with rfl | ⟨-, hne⟩
      · rw [List.append_nil]
        exact run_cons rfl rest
      · exact absurd rfl hne
  | [item], before, outer, e, he, rest => by
      have he : e = .value ∨ e = .firstItem := he.symm.imp_left And.left
      rw [itemTokens, List.append_assoc, run_tokens item _ e he, ← List.reverse_cons]
      exact run_cons rfl rest
  | item :: next :: items, before, outer, e, he, rest => by
      have he : e = .value ∨ e = .firstItem := he.symm.imp_left And.left
      have hnext := run_itemTokens (next :: items) (item :: before) outer .value
        (.inr ⟨rfl, List.cons_ne_nil _ _⟩) rest
      rw [List.reverse_cons, List.append_assoc] at hnext
      rw [itemTokens_cons_cons, List.append_assoc, run_tokens item _ e he, List.cons_append,
        complete, run_cons rfl]
      exact hnext

-- The same holds for an object. What it has so far is kept with optional keys, since a key may be
-- unusable; those of a value are not.
theorem run_memberTokens : ∀ (members before : List (String × Json)) (last : Option String)
    (outer : List Frame) (e : Expected), (e = .firstKey ∨ e = .key ∧ members ≠ []) →
    ∀ rest : List Token,
      (within (.object (before.map fun m => (some m.1, m.2)) last :: outer) e).run
          (memberTokens members ++ rest) =
        (complete (.object (before.reverse ++ members)) outer).run rest
  | [], before, last, outer, e, he, rest => by
      rcases he with rfl | ⟨-, hne⟩
      · rw [List.append_nil, ← ofMembers_map, List.map_reverse]
        exact run_cons rfl rest
      · exact absurd rfl hne
  | [(key, value)], before, last, outer, e, he, rest => by
      have he : e = .key ∨ e = .firstKey := he.symm.imp_left And.left
      rw [memberTokens, List.cons_append, List.cons_append, run_beginMember he, List.append_assoc,
        run_tokens value _ .value (.inl rfl), ← List.reverse_cons, ← ofMembers_map, List.map_reverse]
      exact run_cons rfl rest
  | (key, value) :: next :: members, before, last, outer, e, he, rest => by
      have he : e = .key ∨ e = .firstKey := he.symm.imp_left And.left
      have hnext := run_memberTokens (next :: members) ((key, value) :: before) (some key) outer .key
        (.inr ⟨rfl, List.cons_ne_nil _ _⟩) rest
      rw [List.reverse_cons, List.append_assoc] at hnext
      rw [memberTokens_cons_cons, List.cons_append, List.cons_append, run_beginMember he,
        List.append_assoc, run_tokens value _ .value (.inl rfl), List.cons_append, complete,
        run_cons rfl]
      exact hnext

end

end Reading

/-- The tokens of a value spell it. -/
theorem ofTokens?_tokens (value : Json) : ofTokens? (tokens value) = some value := by
  have hrun := Reading.run_tokens value [] .value (.inl rfl) []
  rw [List.append_nil] at hrun
  rw [ofTokens?, hrun]
  rfl

/-- **However a value is written, it is read.** -/
theorem parse?_of_written {text : String} {value : Json}
    (h : Written text.toList (tokens value)) : parse? text = some value := by
  rw [parse?, Token.readAll, readTokens_of_written h]
  exact ofTokens?_tokens value

/-- A legible value reads back from its indented layout. -/
theorem parse?_pretty {value : Json} (h : Legible value) : parse? value.pretty = some value :=
  parse?_of_written (written_pretty h)

end Restyle.Json
