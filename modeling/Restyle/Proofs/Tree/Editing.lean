import Restyle.Proofs.Tree.Places

set_option autoImplicit false

/-! # Edits that keep or remove

An editor may answer with other nodes in the place of the one it is asked about. One that never does so
(`Editor.KeepsOrRemoves`) deletes subtrees, though which ones may depend on its state, and so on all
that it has been asked before.

`Editor.Pass` describes such an edit without the tree that it builds: the editor is asked about a node, if
it keeps the node about those inside it, and then about the rest of the list, with its state handed on
from each question to the next. The places where the answer is to remove are recorded on the way. Every
list has its pass (`Editor.exists_pass`), and from it one reads off the edited tree (`Pass.editNodes_eq`),
the questions and their order (`Pass.recording`) and the answers (`Pass.consult_eq`).
-/

namespace Restyle

/-- The answer to remove a node. -/
def Edit.removes {node : Node} : Edit node → Bool
  | .remove => true
  | _ => false

namespace Node

/-! ## Marks on a list, from those inside its first node and those behind it -/

/-- The marks on a list, from those on its first node and inside it and those on the rest. -/
def graft (inner later : List Nat → Bool) : List Nat → Bool
  | [] => later []
  | 0 :: place => inner place
  | (i + 1) :: place => later (i :: place)

theorem graft_behind (inner later : List Nat → Bool) (place : List Nat) :
    graft inner later (behind 1 place) = later place := by
  cases place <;> rfl

theorem clearedAll_graft (inner later : List Nat → Bool) (n : Node) (rest : List Node) :
    clearedAll (graft inner later) (n :: rest)
      = if inner [] then clearedAll later rest else cleared inner n :: clearedAll later rest := by
  rw [clearedAll]
  simp only [graft_behind]
  rfl

/-- The nodes that are reached, in document order, and which of them are removed. -/
def answered (removed : List Nat → Bool) (ns : List Node) : List (Node × Bool) :=
  (reachedSpots removed ns).map fun spot => (spot.2, removed spot.1)

theorem answered_graft (inner later : List Nat → Bool) (n : Node) (rest : List Node) :
    answered (graft inner later) (n :: rest)
      = (n, inner []) :: ((if inner [] then [] else answered inner n.children) ++
          answered later rest) := by
  have hlater : (fun place => graft inner later (behind 1 place)) = later :=
    funext (graft_behind inner later)
  have hinner : (fun place => graft inner later (0 :: place)) = inner := rfl
  rw [answered, reachedSpots_cons, hlater, hinner, List.map_cons, List.map_append, List.map_map,
    answered, answered]
  have hmark : (fun spot : List Nat × Node => (spot.2, graft inner later spot.1))
        ∘ Prod.map (behind 1) id
      = fun spot => (spot.2, later spot.1) := by
    funext spot
    exact Prod.ext rfl (graft_behind inner later spot.1)
  rw [hmark]
  by_cases h : inner [] = true
  · have hself : graft inner later [0] = true := h
    rw [if_pos hself, if_pos h]
    rfl
  · have hself : ¬ graft inner later [0] = true := h
    rw [if_neg hself, if_neg h, List.map_map]
    rfl

theorem kindName_without (refused : Node → Bool) (n : Node) :
    (without refused n).kindName = n.kindName := by
  cases n <;> rfl

end Node

namespace Editor

open Node

variable {σ : Type} {editor : Editor σ}

/-! ## How an edit goes through a tree -/

theorem editNodes_cons (n : Node) (rest : List Node) (s : σ) :
    editor.editNodes (n :: rest) s
      = ((editor.editEach (editor n s).1.result (editor n s).2).1 ++
          (editor.editNodes rest (editor.editEach (editor n s).1.result (editor n s).2).2).1,
        (editor.editNodes rest (editor.editEach (editor n s).1.result (editor n s).2).2).2) := by
  rw [editNodes]

theorem editNodes_append (ms ns : List Node) (s : σ) :
    editor.editNodes (ms ++ ns) s
      = ((editor.editNodes ms s).1 ++ (editor.editNodes ns (editor.editNodes ms s).2).1,
        (editor.editNodes ns (editor.editNodes ms s).2).2) := by
  induction ms generalizing s with
  | nil => simp only [List.nil_append, editNodes]
  | cons m ms ih => simp only [List.cons_append, editNodes_cons, ih, List.append_assoc]

theorem snd_editChildren (n : Node) (s : σ) :
    (editor.editChildren n s).2 = (editor.editNodes n.children s).2 := by
  cases n <;> simp only [editChildren, children, editNodes_append, editNodes]

/-- A node is cleared inside if its children are. For a conditional block, whose children are two lists,
this is asked of every first part of them. -/
theorem fst_editChildren {n : Node} {s : σ} {removed : List Nat → Bool}
    (h : ∀ front, front <+: n.children →
      (editor.editNodes front s).1 = clearedAll removed front) :
    (editor.editChildren n s).1 = cleared removed n := by
  have htwo : ∀ nodes branches, n.children = nodes ++ branches →
      (editor.editNodes nodes s).1 = clearedAll removed nodes ∧
      (editor.editNodes branches (editor.editNodes nodes s).2).1
        = clearedAll (fun place => removed (behind nodes.length place)) branches := by
    intro nodes branches hchildren
    have hnodes := h nodes (hchildren ▸ List.prefix_append nodes branches)
    have hall := h (nodes ++ branches) (hchildren ▸ List.prefix_refl _)
    rw [editNodes_append, clearedAll_append, hnodes] at hall
    exact ⟨hnodes, List.append_cancel_left hall⟩
  cases n with
  | ifBlock condition nodes branches =>
      obtain ⟨hnodes, hbranches⟩ := htwo nodes branches rfl
      rw [editChildren, cleared, ← hnodes, ← hbranches]
  | elseIf condition nodes branches =>
      obtain ⟨hnodes, hbranches⟩ := htwo nodes branches rfl
      rw [editChildren, cleared, ← hnodes, ← hbranches]
  | elseBlock nodes => rw [editChildren, cleared, ← h nodes (List.prefix_refl _)]
  | media queries nodes => rw [editChildren, cleared, ← h nodes (List.prefix_refl _)]
  | noFlip nodes => rw [editChildren, cleared, ← h nodes (List.prefix_refl _)]
  | _ => simp only [editChildren, cleared]

/-! ## Passes -/

/-- The editor puts nothing in the place of a node. -/
def KeepsOrRemoves (editor : Editor σ) : Prop :=
  ∀ (n : Node) (s : σ), (editor n s).1 = .keep ∨ (editor n s).1 = .remove

/-- The way of an editor through a list, from one state to another, and which places it removes. -/
inductive Pass (editor : Editor σ) : List Node → σ → (List Nat → Bool) → σ → Prop where
  | nil (s : σ) (removed : List Nat → Bool) : Pass editor [] s removed s
  | keep {n : Node} {rest : List Node} {s t u : σ} {inner later : List Nat → Bool} :
      (editor n s).1 = .keep → inner [] = false → Pass editor n.children (editor n s).2 inner t →
      Pass editor rest t later u → Pass editor (n :: rest) s (graft inner later) u
  | remove {n : Node} {rest : List Node} {s u : σ} {later : List Nat → Bool} :
      (editor n s).1 = .remove → Pass editor rest (editor n s).2 later u →
      Pass editor (n :: rest) s (graft (fun _ => true) later) u

/-- An editor that keeps or removes passes every list. No place is empty, so what is marked there is
free: inside a node it is the mark of the node itself. -/
theorem exists_pass (h : editor.KeepsOrRemoves) (ns : List Node) : ∀ (s : σ) (outer : Bool),
    ∃ removed t, removed [] = outer ∧ Pass editor ns s removed t := by
  induction ns using forest_induction with
  | nil =>
      intro s outer
      exact ⟨fun _ => outer, s, rfl, .nil s _⟩
  | cons n rest hchildren hrest =>
      intro s outer
      rcases h n s with hkeep | hremove
      · obtain ⟨inner, t, hinner, hpass⟩ := hchildren (editor n s).2 false
        obtain ⟨later, u, hlater, hpass'⟩ := hrest t outer
        exact ⟨graft inner later, u, hlater, .keep hkeep hinner hpass hpass'⟩
      · obtain ⟨later, u, hlater, hpass⟩ := hrest (editor n s).2 outer
        exact ⟨graft (fun _ => true) later, u, hlater, .remove hremove hpass⟩

namespace Pass

variable {ns : List Node} {s t : σ} {removed : List Nat → Bool}

theorem snd_editNodes (h : Pass editor ns s removed t) : (editor.editNodes ns s).2 = t := by
  induction h with
  | nil s removed => rw [editNodes]
  | keep hkeep _ _ _ hinner hlater =>
      rw [editNodes_cons_of_keep hkeep, snd_editChildren, hinner, hlater]
  | remove hremove _ hlater => rw [editNodes_cons_of_remove hremove, hlater]

theorem fst_editNodes (h : Pass editor ns s removed t) : ∀ front, front <+: ns →
    (editor.editNodes front s).1 = clearedAll removed front := by
  induction h with
  | nil s removed =>
      intro front hfront
      rw [List.prefix_nil.mp hfront, editNodes, clearedAll]
  | keep hkeep hself hpass _ hinner hlater =>
      intro front hfront
      rcases List.prefix_cons_iff.mp hfront with rfl | ⟨front, rfl, hshorter⟩
      · rw [editNodes, clearedAll]
      · rw [editNodes_cons_of_keep hkeep, clearedAll_graft, hself, fst_editChildren hinner,
          snd_editChildren, hpass.snd_editNodes, hlater front hshorter]
        rfl
  | remove hremove _ hlater =>
      intro front hfront
      rcases List.prefix_cons_iff.mp hfront with rfl | ⟨front, rfl, hshorter⟩
      · rw [editNodes, clearedAll]
      · rw [editNodes_cons_of_remove hremove, clearedAll_graft, hlater front hshorter]
        rfl

/-- The edited tree is the tree without the removed places. -/
theorem editNodes_eq (h : Pass editor ns s removed t) :
    editor.editNodes ns s = (clearedAll removed ns, t) :=
  Prod.ext (h.fst_editNodes ns (List.prefix_refl ns)) h.snd_editNodes

end Pass

/-! ## The questions and the answers -/

/-- The same editor, with a note of each question and whether the answer was to remove. -/
def recording (editor : Editor σ) : Editor (σ × List (Node × Bool)) := fun node s =>
  ((editor node s.1).1, (editor node s.1).2, s.2 ++ [(node, (editor node s.1).1.removes)])

/-- Ask an editor about some nodes in a row: which of them it removes, and its state in the end. -/
def consult (editor : Editor σ) : List Node → σ → List Bool × σ
  | [], s => ([], s)
  | n :: rest, s =>
      ((editor n s).1.removes :: (consult editor rest (editor n s).2).1,
        (consult editor rest (editor n s).2).2)

theorem consult_append (ms ns : List Node) (s : σ) :
    editor.consult (ms ++ ns) s
      = ((editor.consult ms s).1 ++ (editor.consult ns (editor.consult ms s).2).1,
        (editor.consult ns (editor.consult ms s).2).2) := by
  induction ms generalizing s with
  | nil => rfl
  | cons m ms ih => simp only [List.cons_append, consult, ih]

namespace Pass

variable {ns : List Node} {s t : σ} {removed : List Nat → Bool}

/-- The questions are the nodes that are reached, in document order. -/
theorem recording (h : Pass editor ns s removed t) : ∀ log : List (Node × Bool),
    Pass editor.recording ns (s, log) removed (t, log ++ answered removed ns) := by
  induction h with
  | nil s removed =>
      intro log
      rw [answered, reachedSpots, spots, List.filter_nil, List.map_nil, List.append_nil]
      exact .nil (s, log) removed
  | @keep n rest s t u inner later hkeep hself _ _ hinner hlater =>
      intro log
      rw [answered_graft, hself, if_neg Bool.false_ne_true, List.append_cons, ← List.append_assoc]
      have hnote : (editor.recording n (s, log)).2 = ((editor n s).2, log ++ [(n, false)]) := by
        simp only [Editor.recording, hkeep, Edit.removes]
      have hanswer : (editor.recording n (s, log)).1 = .keep := hkeep
      refine Pass.keep hanswer hself ?_ (hlater _)
      rw [hnote]
      exact hinner _
  | @remove n rest s u later hremove _ hlater =>
      intro log
      rw [answered_graft, if_pos rfl, List.nil_append, List.append_cons]
      have hnote : (editor.recording n (s, log)).2 = ((editor n s).2, log ++ [(n, true)]) := by
        simp only [Editor.recording, hremove, Edit.removes]
      have hanswer : (editor.recording n (s, log)).1 = .remove := hremove
      refine Pass.remove hanswer ?_
      rw [hnote]
      exact hlater _

/-- The answers are those that the editor gives when it is asked the questions in a row. -/
theorem consult_eq (h : Pass editor ns s removed t) :
    editor.consult ((answered removed ns).map Prod.fst) s
      = ((answered removed ns).map Prod.snd, t) := by
  induction h with
  | nil s removed => rfl
  | keep hkeep hself _ _ hinner hlater =>
      rw [answered_graft, hself, if_neg Bool.false_ne_true]
      simp only [List.map_cons, List.map_append, consult, consult_append, hinner, hlater, hkeep,
        Edit.removes]
  | remove hremove _ hlater =>
      rw [answered_graft, if_pos rfl]
      simp only [List.nil_append, List.map_cons, consult, hlater, hremove, Edit.removes]

end Pass

/-- **An editor that keeps or removes deletes the subtrees that it refuses, and nothing else.** It is asked
about the nodes with no removed node around them, each once and in document order, with its state handed
on from one question to the next. What is left is the tree without the removed nodes and all that they
contain, and the nodes there hold what they held before.

If the answers do not depend on the state, lists may be edited one by one, and nothing changes where
nothing is refused. If they depend on the kind of a node only, a second pass changes nothing. -/
theorem editNodes_deletes (h : editor.KeepsOrRemoves) (ns : List Node) :
    (∀ s, ∃ (removed : List Nat → Bool) (asked : List (List Nat × Node)),
      asked.Pairwise (fun a b => a.1 < b.1) ∧
      (∀ place n, (place, n) ∈ asked ↔ Node.at? ns place = some n ∧
        ∀ above, above ≠ [] → above <+: place → above ≠ place → removed above = false) ∧
      editor.editNodes ns s = (Node.clearedAll removed ns,
        (editor.consult (asked.map Prod.snd) s).2) ∧
      (editor.consult (asked.map Prod.snd) s).1 = asked.map (removed ·.1) ∧
      editor.recording.editNodes ns (s, [])
        = ((editor.editNodes ns s).1, (editor.editNodes ns s).2,
          asked.map fun spot => (spot.2, removed spot.1)) ∧
      (Node.subtreesAll (editor.editNodes ns s).1).map Node.hollow
        = (asked.filter (!removed ·.1)).map (Node.hollow ·.2)) ∧
    (∀ refused, editor.Refuses refused →
      (∀ ms s t u, (editor.editNodes (ns ++ ms) s).1
        = (editor.editNodes ns t).1 ++ (editor.editNodes ms u).1) ∧
      ((∀ n ∈ Node.subtreesAll ns, refused n = false) → ∀ s, (editor.editNodes ns s).1 = ns) ∧
      ((∀ m n : Node, m.kindName = n.kindName → refused m = refused n) →
        ∀ s t, (editor.editNodes (editor.editNodes ns s).1 t).1 = (editor.editNodes ns s).1)) := by
  constructor
  · -- Everything is read off one pass, which fixes the places that the editor removes.
    intro s
    obtain ⟨removed, t, -, hpass⟩ := exists_pass h ns s false
    have hnodes : (reachedSpots removed ns).map Prod.snd = (answered removed ns).map Prod.fst := by
      rw [answered, List.map_map]
      rfl
    have hmarks : (reachedSpots removed ns).map (removed ·.1)
        = (answered removed ns).map Prod.snd := by
      rw [answered, List.map_map]
      rfl
    refine ⟨removed, reachedSpots removed ns, (pairwise_spots ns).filter _,
      mem_reachedSpots_iff removed ns, ?_, ?_, ?_, ?_⟩
    · rw [hnodes, hpass.consult_eq, hpass.editNodes_eq]
    · rw [hnodes, hmarks, hpass.consult_eq]
    · rw [(hpass.recording []).editNodes_eq, hpass.editNodes_eq, List.nil_append]
      rfl
    · rw [hpass.editNodes_eq]
      exact hollow_clearedAll removed ns
  · intro refused hrefuses
    simp only [editNodes_of_refuses hrefuses]
    refine ⟨?_, ?_, ?_⟩
    · intro ms _ _ _
      exact withoutAll_append refused ns ms
    · intro hnone _
      exact withoutAll_eq_self ns hnone
    · intro hkind _ _
      apply withoutAll_eq_self
      apply refused_of_mem_withoutAll
      intro n
      exact hkind _ _ (kindName_without refused n)

/-- An editor that removes every third node it is asked about, and one that removes media blocks. -/
theorem editNodes_deletes_nested :
    let a : Node := .rule [⟨".a", [.className "a"]⟩] []
    let b : Node := .rule [⟨".b", [.className "b"]⟩] []
    let body : List Node := [a, .media ["print"] [b]]
    let block : Node := .ifBlock (.runtime "x()") body [.elseBlock [a]]
    let tree : List Node := [block, .noFlip [b]]
    let left : List Node := [.ifBlock (.runtime "x()") [a] [.elseBlock [a]]]
    let everyThird : Editor Nat := fun _ s => (if s % 3 = 2 then .remove else .keep, s + 1)
    let isMedia : Node → Bool := fun n => n.kindName == "@media"
    let dropMedia : Editor Nat := fun n s => (if isMedia n then .remove else .keep, s + 1)
    everyThird.KeepsOrRemoves ∧ everyThird.editNodes tree 0 = (left, 6) ∧
    (∃ (removed : List Nat → Bool) (asked : List (List Nat × Node)),
      asked.Pairwise (fun p q => p.1 < q.1) ∧
      (∀ place n, (place, n) ∈ asked ↔ Node.at? tree place = some n ∧
        ∀ above, above ≠ [] → above <+: place → above ≠ place → removed above = false) ∧
      asked.map (fun spot => (spot.2, removed spot.1))
        = [(block, false), (a, false), (.media ["print"] [b], true), (.elseBlock [a], false),
          (a, false), (.noFlip [b], true)]) ∧
    dropMedia.KeepsOrRemoves ∧ dropMedia.Refuses isMedia ∧
    (dropMedia.editNodes body 5).1 = [a] ∧
    (dropMedia.editNodes (body ++ tree) 0).1
      = (dropMedia.editNodes body 5).1 ++ (dropMedia.editNodes tree 7).1 ∧
    (dropMedia.editNodes left 0).1 = left ∧
    (dropMedia.editNodes (dropMedia.editNodes tree 1).1 2).1 = (dropMedia.editNodes tree 1).1 := by
  intro a b body block tree left everyThird isMedia dropMedia
  have hcounts : everyThird.KeepsOrRemoves := by
    intro n s
    by_cases h : s % 3 = 2
    · exact Or.inr (if_pos h)
    · exact Or.inl (if_neg h)
  have hdrops : dropMedia.KeepsOrRemoves := by
    intro n s
    by_cases h : isMedia n = true
    · exact Or.inr (if_pos h)
    · exact Or.inl (if_neg h)
  have hrefuses : dropMedia.Refuses isMedia := fun _ _ => rfl
  have hleft : everyThird.editNodes tree 0 = (left, 6) := by
    simp [tree, block, body, left, everyThird, editNodes, editChildren, editEach, Edit.result]
  have hlog : (everyThird.recording.editNodes tree (0, [])).2.2
      = [(block, false), (a, false), (.media ["print"] [b], true), (.elseBlock [a], false),
        (a, false), (.noFlip [b], true)] := by
    simp [tree, block, body, everyThird, recording, Edit.removes, editNodes, editChildren, editEach,
      Edit.result, a]
  -- The removed places are not known by name, only through the answers that are on record.
  obtain ⟨removed, asked, horder, hmem, -, -, hrecord, -⟩ :=
    (editNodes_deletes hcounts tree).1 0
  rw [hrecord] at hlog
  obtain ⟨hconcat, -, -⟩ := (editNodes_deletes hdrops body).2 isMedia hrefuses
  obtain ⟨-, hsame, -⟩ := (editNodes_deletes hdrops left).2 isMedia hrefuses
  obtain ⟨-, -, htwice⟩ := (editNodes_deletes hdrops tree).2 isMedia hrefuses
  refine ⟨hcounts, hleft, ⟨removed, asked, horder, hmem, hlog⟩, hdrops, hrefuses, ?_,
    hconcat tree 0 5 7, hsame ?_ 0, htwice ?_ 1 2⟩
  · rw [editNodes_of_refuses hrefuses]
    rfl
  · decide
  · intro m n hkind
    simp only [isMedia, hkind]

end Editor

end Restyle
