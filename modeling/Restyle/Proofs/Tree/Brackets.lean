import Restyle.Proofs.Tree.Parts
import Mathlib.Tactic.Common

set_option autoImplicit false

/-! # The calls of a walk

Whatever a visitor answers, the calls that it receives have the shape of the tree. The call at the
beginning of a part and the call at its end are a pair of brackets, and between them lie the calls for
what the part contains, in document order; nothing lies between them where the visitor has skipped the
part. `Bracketed` describes such lists of calls by the parts that they belong to.

A walk that is stopped ends with the call that stopped it. `Visitor.walk_brackets` says that there is no
third way, for walks through stylesheets, nodes and lists of nodes.

The calls are those that `Visitor.recording` writes down: a visitor that asks another one for its
answers and keeps a record of them.
-/

namespace Restyle

/-! ## Records of calls -/

/-- A call that a visitor receives. The call at the beginning of a part comes with the answer to it. -/
inductive Call where
  | visit (item : Item) (answer : Control)
  | leave (item : Item)
deriving DecidableEq

/-- The visitor that answers as `v` does and records the calls. -/
def Visitor.recording {σ : Type} (v : Visitor σ) : Visitor (σ × List Call) where
  visit item s :=
    ((v.visit item s.1).1, (v.visit item s.1).2, s.2 ++ [.visit item (v.visit item s.1).1])
  leave item s := (v.leave item s.1, s.2 ++ [.leave item])

/-! ## Brackets -/

/-- The parts directly inside a part, in document order. -/
def Item.parts : Item → List Item
  | .stylesheet sheet => sheet.nodes.map .node
  | .node n => [.content n]
  | .content (.rule selectors properties) => selectors.map .selector ++ properties.map .property
  | .content (.ifBlock _ nodes branches) => nodes.map .node ++ branches.map .node
  | .content (.elseIf _ nodes branches) => nodes.map .node ++ branches.map .node
  | .content (.elseBlock nodes) => nodes.map .node
  | .content (.media _ nodes) => nodes.map .node
  | .content (.page _ properties) => properties.map .property
  | .content (.fontFace properties) => properties.map .property
  | .content (.sprite selectors _ properties) => selectors.map .selector ++ properties.map .property
  | .content (.noFlip nodes) => nodes.map .node
  | _ => []

theorem Item.parts_content (n : Node) :
    (Item.content n).parts = n.ownSelectors.map .selector
      ++ (n.ownProperties.map .property ++ n.children.map .node) := by
  cases n <;> simp [parts, Node.ownSelectors, Node.ownProperties, Node.children]

/-- The parts inside a part that are shown behind an answer. -/
def Item.shown (item : Item) : Control → List Item
  | .proceed => item.parts
  | _ => []

/-- The calls of a finished walk through some parts, one behind the other. -/
inductive Bracketed : List Item → List Call → Prop where
  | nil : Bracketed [] []
  | cons {item : Item} {rest : List Item} {answer : Control} {inside calls : List Call}
      (hanswer : answer ≠ .stop) (hinside : Bracketed (item.shown answer) inside)
      (hrest : Bracketed rest calls) :
      Bracketed (item :: rest) (.visit item answer :: (inside ++ .leave item :: calls))

/-- Behind the beginning of a part, `inside` leads to its end. -/
structure LeadsToEnd (item : Item) (answer : Control) (after inside : List Call) : Prop where
  bracketed : Bracketed (item.shown answer) inside
  leave : ∃ rest, after = inside ++ .leave item :: rest

namespace Bracketed

/-- Two elements that are singled out in a list are the same, or one stands before the other. -/
theorem append_cons_eq_append_cons {α : Type} {x y : α} {as bs cs ds : List α}
    (h : as ++ x :: bs = cs ++ y :: ds) :
    (as = cs ∧ x = y ∧ bs = ds) ∨ (∃ middle, as = cs ++ y :: middle ∧ ds = middle ++ x :: bs) ∨
      ∃ middle, cs = as ++ x :: middle ∧ bs = middle ++ y :: ds := by
  -- One list is a beginning of the other; they are the same where nothing is left in between.
  rcases List.append_eq_append_iff.mp h with ⟨middle, hcs, hbs⟩ | ⟨middle, has, hds⟩
  · cases middle with
    | nil =>
        obtain ⟨hxy, htail⟩ := List.cons_eq_cons.mp hbs
        exact Or.inl ⟨(hcs.trans (List.append_nil as)).symm, hxy, htail⟩
    | cons z middle =>
        obtain ⟨rfl, htail⟩ := List.cons_eq_cons.mp hbs
        exact Or.inr (Or.inr ⟨middle, hcs, htail⟩)
  · cases middle with
    | nil =>
        obtain ⟨hxy, htail⟩ := List.cons_eq_cons.mp hds
        exact Or.inl ⟨has.trans (List.append_nil cs), hxy.symm, htail.symm⟩
    | cons z middle =>
        obtain ⟨rfl, htail⟩ := List.cons_eq_cons.mp hds
        exact Or.inr (Or.inl ⟨middle, has, htail⟩)

theorem append {items others : List Item} {calls more : List Call} (h : Bracketed items calls)
    (h' : Bracketed others more) : Bracketed (items ++ others) (calls ++ more) := by
  induction h with
  | nil => exact h'
  | cons hanswer hinside _ _ ih =>
      rw [List.cons_append, List.cons_append, List.append_assoc, List.cons_append]
      exact .cons hanswer hinside ih

/-- No part of a finished walk has stopped it. -/
theorem visit_stop_notMem {items : List Item} {calls : List Call} (h : Bracketed items calls)
    (item : Item) : .visit item .stop ∉ calls := by
  induction h with
  | nil => exact List.not_mem_nil
  | cons hanswer _ _ ihinside ihrest =>
      intro hmem
      rw [List.mem_cons, List.mem_append, List.mem_cons] at hmem
      rcases hmem with heq | hmem | heq | hmem
      · cases heq
        exact hanswer rfl
      · exact ihinside hmem
      · cases heq
      · exact ihrest hmem

/-! ### Every beginning has one end

The end of a part is found by counting: it is the first call that ends more than has begun. -/

/-- How a call changes the number of parts that have begun and not ended. -/
def rise : Call → Int
  | .visit .. => 1
  | .leave _ => -1

/-- How many more parts begin than end. -/
def surplus : List Call → Int
  | [] => 0
  | call :: calls => rise call + surplus calls

theorem surplus_append (calls more : List Call) :
    surplus (calls ++ more) = surplus calls + surplus more := by
  induction calls with
  | nil => exact (Int.zero_add _).symm
  | cons call calls ih => rw [List.cons_append, surplus, ih, surplus, Int.add_assoc]

/-- All that begins ends. -/
theorem surplus_eq_zero {items : List Item} {calls : List Call} (h : Bracketed items calls) :
    surplus calls = 0 := by
  induction h with
  | nil => rfl
  | @cons item rest answer inside calls _ _ _ ihinside ihrest =>
      rw [surplus, surplus_append, surplus, ihinside, ihrest]
      rfl

/-- Nothing ends before it has begun. -/
theorem surplus_nonneg {items : List Item} {calls : List Call} (h : Bracketed items calls) :
    ∀ first second : List Call, calls = first ++ second → 0 ≤ surplus first := by
  induction h with
  | nil =>
      intro first second hsplit
      rw [(List.append_eq_nil_iff.mp hsplit.symm).1]
      exact Int.le_refl 0
  | @cons item rest answer inside calls _ hinside _ ihinside ihrest =>
      intro first second hsplit
      cases first with
      | nil => exact Int.le_refl 0
      | cons call first =>
          obtain ⟨rfl, htail⟩ := List.cons_eq_cons.mp hsplit
          have hvisit : rise (.visit item answer) = 1 := rfl
          have hleave : rise (.leave item) = -1 := rfl
          rw [surplus, hvisit]
          rcases List.append_eq_append_iff.mp htail with ⟨middle, hfirst, hrest⟩ | ⟨middle, hin, -⟩
          · -- the first stretch goes to the end of the part or beyond it
            rw [hfirst, surplus_append, hinside.surplus_eq_zero]
            cases middle with
            | nil => decide
            | cons call middle =>
                obtain ⟨rfl, hcalls⟩ := List.cons_eq_cons.mp hrest
                have hmiddle := ihrest middle second hcalls
                rw [surplus, hleave]
                omega
          · -- it ends inside the part, which is one more that has begun
            have hfirst := ihinside first middle hin
            omega

/-- Two complete stretches in front of an end are the same. -/
theorem eq_of_append_leave_eq {items others : List Item} {item : Item} {first second : List Call}
    (hfirst : Bracketed items first) (hsecond : Bracketed others second)
    {rest more : List Call} (h : first ++ .leave item :: rest = second ++ .leave item :: more) :
    first = second := by
  -- an end that stands inside a complete stretch has a beginning there
  have hinside : ∀ {items others : List Item} {short long middle : List Call},
      Bracketed items short → Bracketed others long → long ≠ short ++ .leave item :: middle := by
    intro items others short long middle hshort hlong heq
    have hnonneg := hlong.surplus_nonneg (short ++ [.leave item]) middle (by simp [heq])
    have hleave : surplus [.leave item] = -1 := rfl
    rw [surplus_append, hshort.surplus_eq_zero, hleave] at hnonneg
    exact absurd hnonneg (by decide)
  rcases append_cons_eq_append_cons h with ⟨heq, -⟩ | ⟨middle, heq, -⟩ | ⟨middle, heq, -⟩
  · exact heq
  · exact absurd heq (hinside hsecond hfirst)
  · exact absurd heq (hinside hfirst hsecond)

theorem exists_leadsToEnd {items : List Item} {calls : List Call} (h : Bracketed items calls) :
    ∀ (before : List Call) (item : Item) (answer : Control) (after : List Call),
      calls = before ++ .visit item answer :: after → ∃ inside, LeadsToEnd item answer after inside := by
  induction h with
  | nil =>
      intro before item answer after hsplit
      cases (List.append_eq_nil_iff.mp hsplit.symm).2
  | @cons first rest firstAnswer inside calls _ hinside _ ihinside ihrest =>
      intro before item answer after hsplit
      cases before with
      | nil =>
          cases hsplit
          exact ⟨inside, hinside, calls, rfl⟩
      | cons call before =>
          obtain ⟨-, hsplit⟩ := List.cons_eq_cons.mp hsplit
          rcases append_cons_eq_append_cons hsplit with
            ⟨-, hcall, -⟩ | ⟨middle, hin, hafter⟩ | ⟨middle, -, hrest⟩
          · cases hcall
          · -- the part begins inside the first one and ends there
            obtain ⟨within, hwithin, ending, hmiddle⟩ := ihinside before item answer middle hin
            refine ⟨within, hwithin, ending ++ .leave first :: calls, ?_⟩
            rw [hafter, hmiddle, List.append_assoc, List.cons_append]
          · exact ihrest middle item answer after hrest

/-- The beginning of a part is followed by one end of it, behind the calls for what is inside. -/
theorem existsUnique_leadsToEnd {items : List Item} {calls : List Call} (h : Bracketed items calls)
    {before : List Call} {item : Item} {answer : Control} {after : List Call}
    (hsplit : calls = before ++ .visit item answer :: after) :
    ∃! inside, LeadsToEnd item answer after inside := by
  obtain ⟨inside, hinside⟩ := h.exists_leadsToEnd before item answer after hsplit
  refine ⟨inside, hinside, ?_⟩
  intro other hother
  obtain ⟨rest, hrest⟩ := hinside.leave
  obtain ⟨more, hmore⟩ := hother.leave
  exact eq_of_append_leave_eq hother.bracketed hinside.bracketed (hmore.symm.trans hrest)

end Bracketed

/-! ## How calls end -/

/-- The calls of a walk through some parts, by the way in which it has ended. -/
def Ends (items : List Item) : Outcome → List Call → Prop
  | .finished, calls => Bracketed items calls
  | .stopped, calls => ∃ before item, calls = before ++ [.visit item .stop] ∧
      ∀ other, .visit other .stop ∉ before

/-- What is behind a finished walk decides how both end. -/
theorem Bracketed.append_ends {items others : List Item} {calls more : List Call} {outcome : Outcome}
    (h : Bracketed items calls) (h' : Ends others outcome more) :
    Ends (items ++ others) outcome (calls ++ more) := by
  cases outcome with
  | finished => exact h.append h'
  | stopped =>
      obtain ⟨before, item, rfl, hbefore⟩ := h'
      refine ⟨calls ++ before, item, (List.append_assoc ..).symm, ?_⟩
      intro other hmem
      rcases List.mem_append.mp hmem with hmem | hmem
      · exact h.visit_stop_notMem other hmem
      · exact hbefore other hmem

/-- The calls of a walk through some parts have the shape of these. Only an answer stops a walk, and at
once; a walk that is not stopped has brackets for all parts, with one end for every beginning. -/
structure ProperWalk (items : List Item) (outcome : Outcome) (calls : List Call) : Prop where
  stopped_iff : outcome = .stopped ↔ ∃ item, .visit item .stop ∈ calls
  stop_last : ∀ before item after, calls = before ++ .visit item .stop :: after → after = []
  bracketed : outcome = .finished → Bracketed items calls
  leadsToEnd : outcome = .finished → ∀ before item answer after,
    calls = before ++ .visit item answer :: after → ∃! inside, LeadsToEnd item answer after inside

namespace Ends

variable {items : List Item} {calls : List Call}

theorem proper_of_finished (h : Ends items .finished calls) : ProperWalk items .finished calls where
  stopped_iff := by simp [Bracketed.visit_stop_notMem h]
  stop_last before item after hsplit := by
    have hmem : .visit item .stop ∈ calls := by simp [hsplit]
    exact absurd hmem (Bracketed.visit_stop_notMem h item)
  bracketed _ := h
  leadsToEnd _ before item answer after hsplit := Bracketed.existsUnique_leadsToEnd h hsplit

theorem proper_of_stopped (h : Ends items .stopped calls) : ProperWalk items .stopped calls where
  stopped_iff := by
    obtain ⟨before, item, rfl, -⟩ := h
    exact ⟨fun _ => ⟨item, by simp⟩, fun _ => rfl⟩
  stop_last first other after hsplit := by
    obtain ⟨before, item, rfl, hbefore⟩ := h
    rcases Bracketed.append_cons_eq_append_cons hsplit with
      ⟨-, -, hnil⟩ | ⟨middle, hmiddle, -⟩ | ⟨middle, -, hnil⟩
    · exact hnil.symm
    · have hmem : .visit other .stop ∈ before := by simp [hmiddle]
      exact absurd hmem (hbefore other)
    · cases (List.append_eq_nil_iff.mp hnil.symm).2
  bracketed h := by cases h
  leadsToEnd h := by cases h

theorem proper {outcome : Outcome} (h : Ends items outcome calls) : ProperWalk items outcome calls := by
  cases outcome with
  | finished => exact h.proper_of_finished
  | stopped => exact h.proper_of_stopped

end Ends

/-! ## Walks with a record -/

/-- `recorded` is the walk `plain` through some parts, with a record of its calls. -/
def Walk.Records {σ : Type} (items : List Item) (plain : Walk σ) (recorded : Walk (σ × List Call)) :
    Prop :=
  ∀ s log, ∃ calls, recorded (s, log) = ((plain s).1, (plain s).2, log ++ calls) ∧
    Ends items (plain s).1 calls

namespace Walk.Records

variable {σ : Type} {items others : List Item} {plain next : Walk σ}
  {recorded more : Walk (σ × List Call)}

theorem done : Records (σ := σ) [] .done .done := by
  intro s log
  exact ⟨[], by simp [Walk.done], .nil⟩

/-- One walk behind the other. -/
theorem andThen (h : Records items plain recorded) (h' : Records others next more) :
    Records (items ++ others) (plain.andThen next) (recorded.andThen more) := by
  intro s log
  obtain ⟨calls, hcalls, hends⟩ := h s log
  rcases hplain : plain s with ⟨_ | _, t⟩
  · rw [hplain] at hcalls hends
    obtain ⟨further, hfurther, hends'⟩ := h' t (log ++ calls)
    refine ⟨calls ++ further, ?_, ?_⟩
    · simp only [Walk.andThen, hcalls, hplain, hfurther, List.append_assoc]
    · simp only [Walk.andThen, hplain]
      exact Bracketed.append_ends hends hends'
  · rw [hplain] at hcalls hends
    refine ⟨calls, ?_, ?_⟩
    · simp only [Walk.andThen, hcalls, hplain]
    · simp only [Walk.andThen, hplain]
      exact hends

/-- The members of a list, each walked as one part. -/
theorem inOrder {α : Type} (item : α → Item) {walk : α → Walk σ} {walk' : α → Walk (σ × List Call)}
    (h : ∀ a, Records [item a] (walk a) (walk' a)) (as : List α) :
    Records (as.map item) (Walk.inOrder walk as) (Walk.inOrder walk' as) := by
  induction as with
  | nil => exact done
  | cons a rest ih => exact (h a).andThen ih

/-- A part with what is inside it. -/
theorem around (v : Visitor σ) {item : Item} (h : Records item.parts plain recorded) :
    Records [item] (v.around item plain) (v.recording.around item recorded) := by
  intro s log
  rcases hvisit : v.visit item s with ⟨answer, t⟩
  have hrecord : v.recording.visit item (s, log) = (answer, t, log ++ [.visit item answer]) := by
    simp only [Visitor.recording, hvisit]
  cases answer with
  | stop =>
      refine ⟨[.visit item .stop], ?_, ?_⟩
      · simp only [Visitor.around, hrecord, hvisit]
      · simp only [Visitor.around, hvisit]
        exact ⟨[], item, rfl, fun _ => List.not_mem_nil⟩
  | skip =>
      refine ⟨[.visit item .skip, .leave item], ?_, ?_⟩
      · simp only [Visitor.around, hvisit, Visitor.recording, List.append_assoc, List.cons_append,
          List.nil_append]
      · have hanswer : Control.skip ≠ .stop := nofun
        simp only [Visitor.around, hvisit]
        exact .cons hanswer .nil .nil
  | proceed =>
      obtain ⟨calls, hcalls, hends⟩ := h t (log ++ [.visit item .proceed])
      rcases hplain : plain t with ⟨_ | _, u⟩
      · -- The walk inside comes to its end, and the part is left.
        rw [hplain] at hcalls hends
        refine ⟨.visit item .proceed :: (calls ++ [.leave item]), ?_, ?_⟩
        · simp only [Visitor.around, hvisit, hcalls, hplain, Visitor.recording, List.append_assoc,
            List.cons_append, List.nil_append]
        · have hanswer : Control.proceed ≠ .stop := nofun
          simp only [Visitor.around, hvisit, hplain]
          exact .cons hanswer hends .nil
      · -- The walk stops inside, and the part is not left.
        rw [hplain] at hcalls hends
        obtain ⟨before, other, rfl, hbefore⟩ := hends
        refine ⟨.visit item .proceed :: (before ++ [.visit other .stop]), ?_, ?_⟩
        · simp only [Visitor.around, hrecord, hvisit, hcalls, hplain, List.append_assoc,
            List.cons_append, List.nil_append]
        · simp only [Visitor.around, hvisit, hplain]
          refine ⟨.visit item .proceed :: before, other, rfl, ?_⟩
          intro another hmem
          rcases List.mem_cons.mp hmem with heq | hmem
          · cases heq
          · exact hbefore another hmem

/-- A part with nothing inside. -/
theorem leaf (v : Visitor σ) (item : Item) (h : item.parts = []) :
    Records [item] (v.around item .done) (v.recording.around item .done) := by
  apply around
  rw [h]
  exact done

end Walk.Records

namespace Visitor

variable {σ : Type} (v : Visitor σ)

theorem records_selectors (selectors : List Selector) :
    Walk.Records (selectors.map .selector) (Walk.inOrder v.walkSelector selectors)
      (Walk.inOrder v.recording.walkSelector selectors) :=
  .inOrder Item.selector (fun selector => .leaf v (.selector selector) rfl) selectors

theorem records_properties (properties : List Property) :
    Walk.Records (properties.map .property) (Walk.inOrder v.walkProperty properties)
      (Walk.inOrder v.recording.walkProperty properties) :=
  .inOrder Item.property (fun property => .leaf v (.property property) rfl) properties

theorem records_walkNode {n : Node}
    (h : Walk.Records [.content n] (v.walkContent n) (v.recording.walkContent n)) :
    Walk.Records [.node n] (v.walkNode n) (v.recording.walkNode n) :=
  .around v h

theorem records_walkContent {n : Node}
    (h : Walk.Records (n.children.map .node) (v.walkNodes n.children)
      (v.recording.walkNodes n.children)) :
    Walk.Records [.content n] (v.walkContent n) (v.recording.walkContent n) := by
  rw [walkContent_eq, walkContent_eq]
  apply Walk.Records.around
  rw [Item.parts_content]
  exact (v.records_selectors n.ownSelectors).andThen ((v.records_properties n.ownProperties).andThen h)

theorem records_walkNodes (ns : List Node) :
    Walk.Records (ns.map .node) (v.walkNodes ns) (v.recording.walkNodes ns) := by
  induction ns using Node.forest_induction with
  | nil => exact .done
  | cons n rest hchildren hrest =>
      exact (v.records_walkNode (v.records_walkContent hchildren)).andThen hrest

/-- **Walks have the shape of the tree and stop at once.** A visitor is called by a recorded walk as by
the walk itself: it gives the same answers and comes to the same state, and the walk ends in the same
way. The calls on record are those of a proper walk, whether it goes through a stylesheet, a node or a
list of nodes. -/
theorem walk_brackets (s : σ) :
    (∀ sheet, ∃ calls,
      v.recording.walk sheet (s, []) = ((v.walk sheet s).1, (v.walk sheet s).2, calls) ∧
        ProperWalk [.stylesheet sheet] (v.walk sheet s).1 calls) ∧
    (∀ n, ∃ calls,
      v.recording.walkNode n (s, []) = ((v.walkNode n s).1, (v.walkNode n s).2, calls) ∧
        ProperWalk [.node n] (v.walkNode n s).1 calls) ∧
    (∀ ns, ∃ calls,
      v.recording.walkNodes ns (s, []) = ((v.walkNodes ns s).1, (v.walkNodes ns s).2, calls) ∧
        ProperWalk (ns.map .node) (v.walkNodes ns s).1 calls) := by
  have hproper : ∀ {items : List Item} {plain : Walk σ} {recorded : Walk (σ × List Call)},
      Walk.Records items plain recorded → ∃ calls,
        recorded (s, []) = ((plain s).1, (plain s).2, calls) ∧ ProperWalk items (plain s).1 calls := by
    intro items plain recorded h
    obtain ⟨calls, hcalls, hends⟩ := h s []
    exact ⟨calls, hcalls, hends.proper⟩
  refine ⟨fun sheet => ?_, fun n => ?_, fun ns => hproper (v.records_walkNodes ns)⟩
  · exact hproper (Walk.Records.around v (v.records_walkNodes sheet.nodes))
  · exact hproper (v.records_walkNode (v.records_walkContent (v.records_walkNodes n.children)))

end Visitor

end Restyle
