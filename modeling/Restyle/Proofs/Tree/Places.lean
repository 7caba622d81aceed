import Restyle.Proofs.Tree.Listing

set_option autoImplicit false

/-! # Places in a tree

A place is the way to a node from the top: its number in the list it stands in, behind the numbers of the
nodes around it. The nodes inside a node are numbered through, the body of a block before its branches.
So a node stands inside another exactly if its place continues that of the other, and document order is
the lexicographic order of places. `Node.at?` is the node at a place, and `Node.spots` lists all places of
a tree with their nodes: each once (`Node.mem_spots_iff`) and in document order (`Node.pairwise_spots`).

Some places may be marked as removed. `Node.reached` then tells which places do not stand inside a
removed node, and `Node.clearedAll` is the tree without the removed nodes and all that they contain. Its
nodes are those that are reached and not removed themselves (`Node.hollow_clearedAll`).
-/

namespace Restyle

namespace Node

/-! ## Places and the nodes there -/

/-- The node at a place. -/
def at? (ns : List Node) : List Nat → Option Node
  | [] => none
  | i :: inner => ns[i]?.bind fun n => if inner = [] then some n else at? n.children inner

/-- The place of a node when `k` more nodes stand in front of its list. -/
def behind (k : Nat) : List Nat → List Nat
  | [] => []
  | i :: inner => (i + k) :: inner

theorem behind_behind (j k : Nat) (place : List Nat) :
    behind j (behind k place) = behind (k + j) place := by
  cases place with
  | nil => rfl
  | cons i inner => rw [behind, behind, behind, Nat.add_assoc]

mutual

/-- The places inside a node, with their nodes, in document order. -/
def innerSpots : Node → List (List Nat × Node)
  | .ifBlock _ nodes branches =>
      spots nodes ++ (spots branches).map (Prod.map (behind nodes.length) id)
  | .elseIf _ nodes branches =>
      spots nodes ++ (spots branches).map (Prod.map (behind nodes.length) id)
  | .elseBlock nodes => spots nodes
  | .media _ nodes => spots nodes
  | .noFlip nodes => spots nodes
  | _ => []

/-- The places in a list of nodes, with their nodes, in document order. -/
def spots : List Node → List (List Nat × Node)
  | [] => []
  | n :: rest =>
      ([0], n) :: ((innerSpots n).map (Prod.map (0 :: ·) id) ++
        (spots rest).map (Prod.map (behind 1) id))

end

theorem spots_append (ms ns : List Node) :
    spots (ms ++ ns) = spots ms ++ (spots ns).map (Prod.map (behind ms.length) id) := by
  induction ms with
  | nil =>
      have hself : Prod.map (behind 0) id = @id (List Nat × Node) := by
        funext ⟨place, n⟩
        cases place <;> rfl
      rw [List.length_nil, hself, List.map_id]
      rfl
  | cons m ms ih =>
      have hcompose : Prod.map (behind 1) id ∘ Prod.map (behind ms.length) id
          = @Prod.map _ _ Node _ (behind (m :: ms).length) id := by
        funext ⟨place, n⟩
        exact Prod.ext (behind_behind 1 ms.length place) rfl
      rw [List.cons_append, spots, spots, ih, List.map_append, List.map_map, hcompose,
        List.cons_append, List.append_assoc]

theorem innerSpots_eq (n : Node) : innerSpots n = spots n.children := by
  cases n <;> simp only [innerSpots, children, spots_append, spots]

theorem spots_cons (n : Node) (rest : List Node) :
    spots (n :: rest) = ([0], n) :: ((spots n.children).map (Prod.map (0 :: ·) id) ++
      (spots rest).map (Prod.map (behind 1) id)) := by
  rw [spots, innerSpots_eq]

/-! ## The list of places -/

theorem ne_nil_of_mem_spots {ns : List Node} {spot : List Nat × Node} (h : spot ∈ spots ns) :
    spot.1 ≠ [] := by
  induction ns generalizing spot with
  | nil => cases h
  | cons n rest ih =>
      rw [spots, List.mem_cons, List.mem_append, List.mem_map, List.mem_map] at h
      rcases h with rfl | ⟨inner, -, rfl⟩ | ⟨later, hlater, rfl⟩
      · exact List.cons_ne_nil _ _
      · exact List.cons_ne_nil _ _
      · obtain ⟨i, place, hplace⟩ := List.exists_cons_of_ne_nil (ih hlater)
        rw [Prod.map_fst, hplace]
        exact List.cons_ne_nil _ _

section Members

variable {n m : Node} {rest : List Node} {inner : List Nat}

theorem mem_spots_zero :
    (0 :: inner, m) ∈ spots (n :: rest) ↔ inner = [] ∧ m = n ∨ (inner, m) ∈ spots n.children := by
  rw [spots_cons, List.mem_cons, List.mem_append, List.mem_map, List.mem_map]
  constructor
  · rintro (hfirst | ⟨⟨_, _⟩, hspot, hplace⟩ | ⟨⟨place, _⟩, -, hplace⟩)
    · cases hfirst
      exact Or.inl ⟨rfl, rfl⟩
    · cases hplace
      exact Or.inr hspot
    · -- behind the first node, no place starts with zero
      cases place with
      | nil => cases hplace
      | cons i place => cases (List.cons.inj (Prod.mk.inj hplace).1).1
  · rintro (⟨rfl, rfl⟩ | hspot)
    · exact Or.inl rfl
    · exact Or.inr (Or.inl ⟨(inner, m), hspot, rfl⟩)

theorem mem_spots_succ {i : Nat} :
    ((i + 1) :: inner, m) ∈ spots (n :: rest) ↔ (i :: inner, m) ∈ spots rest := by
  rw [spots_cons, List.mem_cons, List.mem_append, List.mem_map, List.mem_map]
  constructor
  · rintro (hfirst | ⟨_, -, hplace⟩ | ⟨⟨place, _⟩, hspot, hplace⟩)
    · cases hfirst
    · cases hplace
    · cases place with
      | nil => cases hplace
      | cons j place =>
          cases hplace
          exact hspot
  · intro hspot
    exact Or.inr (Or.inr ⟨(i :: inner, m), hspot, rfl⟩)

end Members

/-- Every place is listed with its node. -/
theorem mem_spots_iff (ns : List Node) :
    ∀ (place : List Nat) (m : Node), (place, m) ∈ spots ns ↔ at? ns place = some m := by
  induction ns using forest_induction with
  | nil =>
      intro place m
      cases place <;> simp [spots, at?]
  | cons n rest hchildren hrest =>
      intro place m
      rcases place with _ | ⟨_ | i, inner⟩
      · constructor
        · intro h
          exact absurd rfl (ne_nil_of_mem_spots h)
        · intro h
          cases h
      · have hat : at? (n :: rest) (0 :: inner)
            = if inner = [] then some n else at? n.children inner := rfl
        rw [mem_spots_zero, hchildren, hat]
        by_cases hinner : inner = []
        · subst hinner
          simp [at?, eq_comm]
        · simp [hinner]
      · rw [mem_spots_succ, hrest]
        rfl

theorem behind_lt_behind (k : Nat) {p q : List Nat} (h : p < q) : behind k p < behind k q := by
  cases q with
  | nil => cases h
  | cons j q =>
      cases p with
      | nil => exact List.nil_lt_cons _ _
      | cons i p =>
          rw [List.cons_lt_cons_iff] at h
          rw [behind, behind, List.cons_lt_cons_iff]
          rcases h with h | ⟨rfl, h⟩
          · exact Or.inl (Nat.add_lt_add_right h k)
          · exact Or.inr ⟨rfl, h⟩

theorem zero_cons_lt_behind {p q : List Nat} (h : q ≠ []) : 0 :: p < behind 1 q := by
  cases q with
  | nil => exact absurd rfl h
  | cons j q =>
      rw [behind, List.cons_lt_cons_iff]
      left
      omega

/-- Places are listed in document order, and so each of them once. -/
theorem pairwise_spots (ns : List Node) : (spots ns).Pairwise (fun a b => a.1 < b.1) := by
  induction ns using forest_induction with
  | nil => exact List.Pairwise.nil
  | cons n rest hchildren hrest =>
      rw [spots_cons, List.pairwise_cons, List.pairwise_append]
      refine ⟨?_, ?_, ?_, ?_⟩
      · intro spot hspot
        rw [List.mem_append, List.mem_map, List.mem_map] at hspot
        rcases hspot with ⟨inner, hinner, rfl⟩ | ⟨later, hlater, rfl⟩
        · -- a node stands before what it contains
          obtain ⟨i, p, hp⟩ := List.exists_cons_of_ne_nil (ne_nil_of_mem_spots hinner)
          have hlt : [] < inner.1 := by
            rw [hp]
            exact List.nil_lt_cons i p
          exact List.cons_lt_cons_iff.mpr (Or.inr ⟨rfl, hlt⟩)
        · exact zero_cons_lt_behind (ne_nil_of_mem_spots hlater)
      · -- among the contents of the node
        rw [List.pairwise_map]
        apply hchildren.imp
        intro a b h
        exact List.cons_lt_cons_iff.mpr (Or.inr ⟨rfl, h⟩)
      · -- among what follows it
        rw [List.pairwise_map]
        apply hrest.imp
        intro a b h
        exact behind_lt_behind 1 h
      · -- between the contents and what follows
        intro spot hspot spot' hspot'
        obtain ⟨inner, -, rfl⟩ := List.mem_map.mp hspot
        obtain ⟨later, hlater, rfl⟩ := List.mem_map.mp hspot'
        exact zero_cons_lt_behind (ne_nil_of_mem_spots hlater)

/-! ## Removed nodes -/

/-- No node around a place is removed. -/
def reached : (List Nat → Bool) → List Nat → Bool
  | _, [] => true
  | removed, i :: inner =>
      inner.isEmpty || (!removed [i] && reached (fun place => removed (i :: place)) inner)

theorem reached_cons (removed : List Nat → Bool) (i : Nat) {inner : List Nat} (h : inner ≠ []) :
    reached removed (i :: inner)
      = (!removed [i] && reached (fun place => removed (i :: place)) inner) := by
  rw [reached, List.isEmpty_eq_false_iff.mpr h, Bool.false_or]

theorem reached_behind (removed : List Nat → Bool) (k : Nat) (place : List Nat) :
    reached removed (behind k place) = reached (fun place => removed (behind k place)) place := by
  cases place <;> rfl

theorem reached_iff (removed : List Nat → Bool) (place : List Nat) :
    reached removed place = true ↔
      ∀ above, above ≠ [] → above <+: place → above ≠ place → removed above = false := by
  induction place generalizing removed with
  | nil =>
      constructor
      · intro _ above hne habove
        exact absurd (List.prefix_nil.mp habove) hne
      · intro _
        rfl
  | cons i inner ih =>
      cases inner with
      | nil =>
          constructor
          · intro _ above hne habove hself
            rcases List.prefix_cons_iff.mp habove with rfl | ⟨tail, rfl, htail⟩
            · exact absurd rfl hne
            · rw [List.prefix_nil.mp htail] at hself
              exact absurd rfl hself
          · intro _
            rfl
      | cons j inner =>
          rw [reached_cons removed i (List.cons_ne_nil j inner), Bool.and_eq_true, Bool.not_eq_true', ih]
          constructor
          · rintro ⟨hi, hinner⟩ above hne habove hself
            rcases List.prefix_cons_iff.mp habove with rfl | ⟨tail, rfl, htail⟩
            · exact absurd rfl hne
            · -- either the outermost node, or one around the place inside it
              by_cases hnil : tail = []
              · rwa [hnil]
              · exact hinner tail hnil htail fun heq => hself (by rw [heq])
          · intro h
            refine ⟨h [i] (by simp) (by simp) (by simp), ?_⟩
            intro above _ habove hself
            exact h (i :: above) (by simp) (List.cons_prefix_cons.mpr ⟨rfl, habove⟩)
              fun heq => hself (List.cons.inj heq).2

/-- The places that are reached, with their nodes, in document order. -/
def reachedSpots (removed : List Nat → Bool) (ns : List Node) : List (List Nat × Node) :=
  (spots ns).filter fun spot => reached removed spot.1

theorem mem_reachedSpots_iff (removed : List Nat → Bool) (ns : List Node) (place : List Nat)
    (m : Node) :
    (place, m) ∈ reachedSpots removed ns ↔ at? ns place = some m ∧
      ∀ above, above ≠ [] → above <+: place → above ≠ place → removed above = false := by
  rw [reachedSpots, List.mem_filter, mem_spots_iff, reached_iff]

theorem reachedSpots_cons (removed : List Nat → Bool) (n : Node) (rest : List Node) :
    reachedSpots removed (n :: rest)
      = ([0], n) ::
        ((if removed [0] then []
          else (reachedSpots (fun place => removed (0 :: place)) n.children).map
            (Prod.map (0 :: ·) id)) ++
        (reachedSpots (fun place => removed (behind 1 place)) rest).map (Prod.map (behind 1) id)) := by
  have hinner : ((spots n.children).map (Prod.map (0 :: ·) id)).filter
        (fun spot => reached removed spot.1)
      = if removed [0] then []
        else (reachedSpots (fun place => removed (0 :: place)) n.children).map
          (Prod.map (0 :: ·) id) := by
    have hstep : ∀ spot ∈ spots n.children, reached removed (0 :: spot.1)
        = (!removed [0] && reached (fun place => removed (0 :: place)) spot.1) :=
      fun spot hspot => reached_cons removed 0 (ne_nil_of_mem_spots hspot)
    rw [List.filter_map, reachedSpots]
    by_cases h : removed [0] = true
    · rw [if_pos h, List.map_eq_nil_iff, List.filter_eq_nil_iff]
      intro spot hspot
      simp [hstep spot hspot, h]
    · rw [if_neg h]
      congr 1
      apply List.filter_congr
      intro spot hspot
      simp [hstep spot hspot, h]
  have hlater : ((spots rest).map (Prod.map (behind 1) id)).filter
        (fun spot => reached removed spot.1)
      = (reachedSpots (fun place => removed (behind 1 place)) rest).map
          (Prod.map (behind 1) id) := by
    rw [List.filter_map, reachedSpots]
    congr 1
    apply List.filter_congr
    intro spot _
    exact reached_behind removed 1 spot.1
  rw [reachedSpots, spots_cons, List.filter_cons_of_pos rfl, List.filter_append, hinner, hlater]

mutual

/-- A node without the removed nodes inside it. -/
def cleared : (List Nat → Bool) → Node → Node
  | removed, .ifBlock condition nodes branches =>
      .ifBlock condition (clearedAll removed nodes)
        (clearedAll (fun place => removed (behind nodes.length place)) branches)
  | removed, .elseIf condition nodes branches =>
      .elseIf condition (clearedAll removed nodes)
        (clearedAll (fun place => removed (behind nodes.length place)) branches)
  | removed, .elseBlock nodes => .elseBlock (clearedAll removed nodes)
  | removed, .media queries nodes => .media queries (clearedAll removed nodes)
  | removed, .noFlip nodes => .noFlip (clearedAll removed nodes)
  | _, node => node

/-- A list of nodes without those at removed places, at any depth. -/
def clearedAll : (List Nat → Bool) → List Node → List Node
  | _, [] => []
  | removed, node :: rest =>
      if removed [0] then clearedAll (fun place => removed (behind 1 place)) rest
      else cleared (fun place => removed (0 :: place)) node ::
        clearedAll (fun place => removed (behind 1 place)) rest

end

theorem clearedAll_append (removed : List Nat → Bool) (ms ns : List Node) :
    clearedAll removed (ms ++ ns)
      = clearedAll removed ms ++ clearedAll (fun place => removed (behind ms.length place)) ns := by
  induction ms generalizing removed with
  | nil =>
      have hself : (fun place => removed (behind 0 place)) = removed := by
        funext place
        cases place <;> rfl
      rw [List.length_nil, hself]
      rfl
  | cons m ms ih =>
      rw [List.cons_append, clearedAll, clearedAll, ih]
      simp only [behind_behind, List.length_cons]
      split
      · rfl
      · rfl

theorem children_cleared (removed : List Nat → Bool) (n : Node) :
    (cleared removed n).children = clearedAll removed n.children := by
  cases n <;> simp only [cleared, children, clearedAll_append, clearedAll]

/-- What a node itself holds: the node with nothing inside it. -/
def hollow : Node → Node
  | .ifBlock condition _ _ => .ifBlock condition [] []
  | .elseIf condition _ _ => .elseIf condition [] []
  | .elseBlock _ => .elseBlock []
  | .media queries _ => .media queries []
  | .noFlip _ => .noFlip []
  | node => node

theorem hollow_cleared (removed : List Nat → Bool) (n : Node) :
    hollow (cleared removed n) = hollow n := by
  cases n <;> rfl

/-- **What is left.** The nodes of a cleared tree are those that are reached and not removed, in their
order, and each of them holds what it held before. -/
theorem hollow_clearedAll (removed : List Nat → Bool) (ns : List Node) :
    (subtreesAll (clearedAll removed ns)).map hollow
      = ((reachedSpots removed ns).filter (!removed ·.1)).map (hollow ·.2) := by
  induction ns using forest_induction generalizing removed with
  | nil => rfl
  | cons n rest hchildren hrest =>
      rw [clearedAll, reachedSpots_cons]
      have hlater := hrest fun place => removed (behind 1 place)
      by_cases h : removed [0] = true
      · rw [if_pos h, if_pos h, List.nil_append, List.filter_cons_of_neg (by simp [h]), hlater,
          List.filter_map, List.map_map]
        rfl
      · have hinner := hchildren fun place => removed (0 :: place)
        rw [if_neg h, if_neg h, subtreesAll, subtrees_eq_cons, children_cleared,
          List.filter_cons_of_pos (by simp [h]), List.filter_append, List.cons_append, List.map_cons,
          List.map_append, List.map_cons, List.map_append, hollow_cleared, hinner, hlater,
          List.filter_map, List.filter_map, List.map_map, List.map_map]
        rfl

end Node

end Restyle
