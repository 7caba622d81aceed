import Restyle.Proofs.Printing.Posture

set_option autoImplicit false

/-! # The tasks of a printer

While a stylesheet is printed, one task leads to the next: a list of nodes to its nodes, a block to its
body and its branches, and most of them to a closing brace. `Printer.Reaches` lists which task is begun
in which state of the printer. In a run that succeeds, every task that is begun succeeds
(`Reaches.succeeds`). No node is begun while a brace is owed or an address is written, and no brace is
closed that was not opened (`Reaches.ready`).
-/

namespace Restyle

/-- The second part of a step that succeeds, when the first part is known. -/
theorem ok_of_bind_of_ok {α β : Type} {x : Except ConversionError α}
    {f : α → Except ConversionError β} {a : α} {b : β} (h : x >>= f = .ok b) (hx : x = .ok a) :
    f a = .ok b := by
  rw [hx] at h
  exact h

namespace Printer

/-- What a printer may be about to do. -/
inductive Task where
  /-- Print a node. -/
  | node (n : Node)
  /-- Print nodes that follow each other. -/
  | nodes (ns : List Node)
  /-- Print the branches of a conditional block. -/
  | branches (bs : List Node)
  /-- Close a brace. -/
  | brace

/-- Carry out a task. -/
def Task.run (setup : PrintSetup) : Task → Printer → Except ConversionError Printer
  | .node n, p => printNode setup n p
  | .nodes ns, p => printNodes setup ns p
  | .branches bs, p => printBranches setup bs p
  | .brace, p => .ok p.closeBrace

/-- While a stylesheet is printed, a task is begun in a state. What a task leads to comes in the order
of the printer: a part is begun in the state that the parts before it have led to. -/
inductive Reaches (setup : PrintSetup) (sheet : Stylesheet) : Task → Printer → Prop where
  | sheet {p : Printer} (hp : setup.header = .ok p) : Reaches setup sheet (.nodes sheet.nodes) p
  | first {n : Node} {rest : List Node} {p : Printer}
      (h : Reaches setup sheet (.nodes (n :: rest)) p) : Reaches setup sheet (.node n) p
  | rest {n : Node} {rest : List Node} {p q : Printer}
      (h : Reaches setup sheet (.nodes (n :: rest)) p) (hq : printNode setup n p = .ok q) :
      Reaches setup sheet (.nodes rest) q
  | ruleEnd {selectors : List Selector} {properties : List Property} {p : Printer}
      (h : Reaches setup sheet (.node (.rule selectors properties)) p) :
      Reaches setup sheet .brace
        ((p.beginRule.printSelectors selectors).printProperties setup properties).openPendingBrace
  | spriteEnd {selectors : List Selector} {resource : String} {properties : List Property}
      {p : Printer} (h : Reaches setup sheet (.node (.sprite selectors resource properties)) p) :
      Reaches setup sheet .brace
        ((((p.beginRule.printSelectors selectors).openPendingBrace.print
          ("gwt-sprite: \"" ++ unescape resource ++ "\"")).semicolon).printProperties setup
            properties).openPendingBrace
  | pageEnd {properties : List Property} {p : Printer}
      (h : Reaches setup sheet (.node (.page none properties)) p) :
      Reaches setup sheet .brace ((p.print "@page").openBrace.printProperties setup properties)
  | pseudoPageEnd {pseudo : String} {properties : List Property} {p : Printer}
      (h : Reaches setup sheet (.node (.page (some pseudo) properties)) p) :
      Reaches setup sheet .brace
        (((p.print "@page").print (" :" ++ pseudo)).openBrace.printProperties setup properties)
  | fontFaceEnd {properties : List Property} {p : Printer}
      (h : Reaches setup sheet (.node (.fontFace properties)) p) :
      Reaches setup sheet .brace ((p.print "@font-face").openBrace.printProperties setup properties)
  | mediaBody {queries : List String} {nodes : List Node} {p : Printer}
      (h : Reaches setup sheet (.node (.media queries nodes)) p) :
      Reaches setup sheet (.nodes nodes) ((p.print "@media").printMedia queries).openBrace
  | mediaEnd {queries : List String} {nodes : List Node} {p p₁ : Printer}
      (h : Reaches setup sheet (.node (.media queries nodes)) p)
      (h₁ : printNodes setup nodes ((p.print "@media").printMedia queries).openBrace = .ok p₁) :
      Reaches setup sheet .brace p₁
  | noFlipBody {nodes : List Node} {p : Printer}
      (h : Reaches setup sheet (.node (.noFlip nodes)) p) :
      Reaches setup sheet (.nodes nodes) (p.setFlags ({ · with noFlip := true }))
  | ifBody {condition : Condition} {nodes branches : List Node} {p p₁ : Printer}
      (h : Reaches setup sheet (.node (.ifBlock condition nodes branches)) p)
      (h₁ : openConditional "@if" condition p.breakLine = .ok p₁) :
      Reaches setup sheet (.nodes nodes) p₁
  | ifBranches {condition : Condition} {nodes branches : List Node} {p p₁ p₂ : Printer}
      (h : Reaches setup sheet (.node (.ifBlock condition nodes branches)) p)
      (h₁ : openConditional "@if" condition p.breakLine = .ok p₁)
      (h₂ : printNodes setup nodes p₁ = .ok p₂) : Reaches setup sheet (.branches branches) p₂
  | ifEnd {condition : Condition} {nodes branches : List Node} {p p₁ p₂ p₃ : Printer}
      (h : Reaches setup sheet (.node (.ifBlock condition nodes branches)) p)
      (h₁ : openConditional "@if" condition p.breakLine = .ok p₁)
      (h₂ : printNodes setup nodes p₁ = .ok p₂) (h₃ : printBranches setup branches p₂ = .ok p₃) :
      Reaches setup sheet .brace p₃
  | elseIfStart {condition : Condition} {nodes branches rest : List Node} {p : Printer}
      (h : Reaches setup sheet (.branches (.elseIf condition nodes branches :: rest)) p) :
      Reaches setup sheet .brace p
  | elseIfBody {condition : Condition} {nodes branches rest : List Node} {p p₁ : Printer}
      (h : Reaches setup sheet (.branches (.elseIf condition nodes branches :: rest)) p)
      (h₁ : openConditional "@elseif" condition p.closeBrace = .ok p₁) :
      Reaches setup sheet (.nodes nodes) p₁
  | elseIfBranches {condition : Condition} {nodes branches rest : List Node} {p p₁ p₂ : Printer}
      (h : Reaches setup sheet (.branches (.elseIf condition nodes branches :: rest)) p)
      (h₁ : openConditional "@elseif" condition p.closeBrace = .ok p₁)
      (h₂ : printNodes setup nodes p₁ = .ok p₂) : Reaches setup sheet (.branches branches) p₂
  | elseIfRest {condition : Condition} {nodes branches rest : List Node} {p p₁ p₂ p₃ : Printer}
      (h : Reaches setup sheet (.branches (.elseIf condition nodes branches :: rest)) p)
      (h₁ : openConditional "@elseif" condition p.closeBrace = .ok p₁)
      (h₂ : printNodes setup nodes p₁ = .ok p₂) (h₃ : printBranches setup branches p₂ = .ok p₃) :
      Reaches setup sheet (.branches rest) p₃
  | elseStart {nodes rest : List Node} {p : Printer}
      (h : Reaches setup sheet (.branches (.elseBlock nodes :: rest)) p) :
      Reaches setup sheet .brace p
  | elseBody {nodes rest : List Node} {p : Printer}
      (h : Reaches setup sheet (.branches (.elseBlock nodes :: rest)) p) :
      Reaches setup sheet (.nodes nodes)
        ((p.closeBrace.print "@else").openBrace.setFlags ({ · with breakPending := false }))
  | elseRest {nodes rest : List Node} {p p₂ : Printer}
      (h : Reaches setup sheet (.branches (.elseBlock nodes :: rest)) p)
      (h₂ : printNodes setup nodes
        ((p.closeBrace.print "@else").openBrace.setFlags ({ · with breakPending := false })) = .ok p₂) :
      Reaches setup sheet (.branches rest) p₂

namespace Reaches

variable {setup : PrintSetup} {sheet : Stylesheet} {task : Task} {p : Printer}

/-! ## Success -/

/-- Where the printing of a stylesheet succeeds, every task on the way does. -/
theorem succeeds {conversion : Conversion} (hsheet : setup.generate sheet = .ok conversion)
    (h : Reaches setup sheet task p) : ∃ q, task.run setup p = .ok q := by
  induction h with
  | sheet hp =>
      rw [PrintSetup.generate_eq] at hsheet
      have hbody := ok_of_bind_of_ok hsheet hp
      obtain ⟨q, hq, -⟩ := ok_of_bind hbody
      exact ⟨q, hq⟩
  | first _ ih =>
      obtain ⟨q, hq⟩ := ih
      rw [Task.run, printNodes] at hq
      obtain ⟨p₁, h₁, -⟩ := ok_of_bind hq
      exact ⟨p₁, h₁⟩
  | rest _ h₁ ih =>
      obtain ⟨q, hq⟩ := ih
      rw [Task.run, printNodes] at hq
      exact ⟨q, ok_of_bind_of_ok hq h₁⟩
  | mediaBody _ ih =>
      obtain ⟨q, hq⟩ := ih
      rw [Task.run, printNode] at hq
      obtain ⟨p₁, h₁, -⟩ := ok_of_bind hq
      exact ⟨p₁, h₁⟩
  | noFlipBody _ ih =>
      obtain ⟨q, hq⟩ := ih
      rw [Task.run, printNode] at hq
      obtain ⟨p₁, h₁, -⟩ := ok_of_bind hq
      exact ⟨p₁, h₁⟩
  | ifBody _ h₁ ih =>
      obtain ⟨q, hq⟩ := ih
      rw [Task.run, printNode] at hq
      have hbody := ok_of_bind_of_ok hq h₁
      obtain ⟨p₂, h₂, -⟩ := ok_of_bind hbody
      exact ⟨p₂, h₂⟩
  | ifBranches _ h₁ h₂ ih =>
      obtain ⟨q, hq⟩ := ih
      rw [Task.run, printNode] at hq
      have hbody := ok_of_bind_of_ok hq h₁
      have hbranches := ok_of_bind_of_ok hbody h₂
      obtain ⟨p₃, h₃, -⟩ := ok_of_bind hbranches
      exact ⟨p₃, h₃⟩
  | elseIfBody _ h₁ ih =>
      obtain ⟨q, hq⟩ := ih
      rw [Task.run, printBranches] at hq
      have hbody := ok_of_bind_of_ok hq h₁
      obtain ⟨p₂, h₂, -⟩ := ok_of_bind hbody
      exact ⟨p₂, h₂⟩
  | elseIfBranches _ h₁ h₂ ih =>
      obtain ⟨q, hq⟩ := ih
      rw [Task.run, printBranches] at hq
      have hbody := ok_of_bind_of_ok hq h₁
      have hbranches := ok_of_bind_of_ok hbody h₂
      obtain ⟨p₃, h₃, -⟩ := ok_of_bind hbranches
      exact ⟨p₃, h₃⟩
  | elseIfRest _ h₁ h₂ h₃ ih =>
      obtain ⟨q, hq⟩ := ih
      rw [Task.run, printBranches] at hq
      have hbody := ok_of_bind_of_ok hq h₁
      have hbranches := ok_of_bind_of_ok hbody h₂
      exact ⟨q, ok_of_bind_of_ok hbranches h₃⟩
  | elseBody _ ih =>
      obtain ⟨q, hq⟩ := ih
      rw [Task.run, printBranches] at hq
      obtain ⟨p₂, h₂, -⟩ := ok_of_bind hq
      exact ⟨p₂, h₂⟩
  | elseRest _ h₂ ih =>
      obtain ⟨q, hq⟩ := ih
      rw [Task.run, printBranches] at hq
      exact ⟨q, ok_of_bind_of_ok hq h₂⟩
  -- What is left are closing braces, which cannot fail.
  | _ => exact ⟨_, rfl⟩

end Reaches

/-! ## Postures -/

/-- No brace is owed and no address is written. -/
structure Posture.Settled (s : Posture) : Prop where
  bracePending_eq : s.bracePending = false
  inUrl_eq : s.inUrl = false

/-- The posture in which a task may be begun. A list of branches is begun inside the block that its
first member closes. -/
def Task.Ready : Task → Posture → Prop
  | .node _, s => s.Settled
  | .nodes _, s => s.Settled
  | .branches _, s => s.Settled ∧ 0 < s.level
  | .brace, s => 0 < s.level

/-- The level does not matter for that. -/
theorem Posture.Settled.of_level {s t : Posture} {level : Nat} (h : s.Settled)
    (ht : t = { s with level := level }) : t.Settled := by
  rw [ht]
  exact ⟨h.bracePending_eq, h.inUrl_eq⟩

/-- A block is open where its properties have been printed. -/
theorem level_block_pos (setup : PrintSetup) (properties : List Property) {p : Printer}
    (h : p.posture.Settled) : 0 < (p.openBrace.printProperties setup properties).posture.level := by
  have hopen : p.openBrace.posture.bracePending = false := by
    rw [posture_openBrace, h.bracePending_eq]
  rw [posture_printProperties setup properties hopen, posture_openBrace]
  exact Nat.succ_pos _

namespace Reaches

variable {setup : PrintSetup} {sheet : Stylesheet} {task : Task} {p : Printer}

/-- Every task is begun in a posture that it may be begun in. -/
theorem ready (h : Reaches setup sheet task p) : task.Ready p.posture := by
  induction h with
  | sheet hp =>
      rw [posture_header hp]
      exact ⟨rfl, rfl⟩
  | first _ ih => exact ih
  | @rest n rest p q _ hq ih =>
      have hnode : q.posture = p.posture := posture_printNode setup n ih.bracePending_eq hq
      rw [hnode]
      exact ih
  | @ruleEnd selectors properties p _ ih =>
      have hopen := posture_openPendingBrace_beginRule selectors ih.bracePending_eq
      show 0 < Posture.level _
      rw [posture_openPendingBrace_printProperties, hopen]
      exact Nat.succ_pos _
  | @spriteEnd selectors resource properties p _ ih =>
      have hopen := posture_openPendingBrace_beginRule selectors ih.bracePending_eq
      show 0 < Posture.level _
      rw [posture_openPendingBrace_printProperties, posture_openPendingBrace, posture_semicolon,
        posture_print, hopen]
      exact Nat.add_pos_left (Nat.succ_pos _) _
  | @pageEnd properties p _ ih =>
      exact level_block_pos setup properties (by rw [posture_print]; exact ih)
  | @pseudoPageEnd pseudo properties p _ ih =>
      exact level_block_pos setup properties (by rw [posture_print, posture_print]; exact ih)
  | @fontFaceEnd properties p _ ih =>
      exact level_block_pos setup properties (by rw [posture_print]; exact ih)
  | @mediaBody queries nodes p _ ih =>
      have hopen := posture_openBrace ((p.print "@media").printMedia queries)
      rw [posture_printMedia, posture_print] at hopen
      exact Posture.Settled.of_level ih hopen
  | @mediaEnd queries nodes p p₁ _ h₁ ih =>
      have hopen := posture_openBrace ((p.print "@media").printMedia queries)
      rw [posture_printMedia, posture_print] at hopen
      have hbody := posture_printNodes setup nodes (by rw [hopen]; exact ih.bracePending_eq) h₁
      show 0 < p₁.posture.level
      rw [hbody, hopen]
      exact Nat.succ_pos _
  | noFlipBody _ ih => exact ⟨ih.bracePending_eq, ih.inUrl_eq⟩
  | ifBody _ h₁ ih =>
      have hopen := posture_openConditional h₁
      rw [posture_breakLine] at hopen
      exact Posture.Settled.of_level ih hopen
  | @ifBranches condition nodes branches p p₁ p₂ _ h₁ h₂ ih =>
      have hopen := posture_openConditional h₁
      rw [posture_breakLine] at hopen
      have hbody := posture_printNodes setup nodes (by rw [hopen]; exact ih.bracePending_eq) h₂
      show p₂.posture.Settled ∧ 0 < p₂.posture.level
      rw [hbody, hopen]
      exact ⟨⟨ih.bracePending_eq, ih.inUrl_eq⟩, Nat.succ_pos _⟩
  | @ifEnd condition nodes branches p p₁ p₂ p₃ _ h₁ h₂ h₃ ih =>
      have hopen := posture_openConditional h₁
      rw [posture_breakLine] at hopen
      have hbody := posture_printNodes setup nodes (by rw [hopen]; exact ih.bracePending_eq) h₂
      have hbranches := posture_printBranches setup branches
        (by rw [hbody, hopen]; exact ih.bracePending_eq)
        (fun _ => by rw [hbody, hopen]; exact Nat.succ_pos _) h₃
      show 0 < p₃.posture.level
      rw [hbranches, hbody, hopen]
      exact Nat.succ_pos _
  -- A branch closes the block before it, which the invariant for branches says is open, and opens its
  -- own at the same level.
  | elseIfStart _ ih => exact ih.2
  | elseIfBody _ h₁ ih =>
      have hopen := posture_openConditional h₁
      rw [posture_closeBrace] at hopen
      exact Posture.Settled.of_level ih.1 hopen
  | @elseIfBranches condition nodes branches rest p p₁ p₂ _ h₁ h₂ ih =>
      have hopen := posture_openConditional h₁
      rw [posture_closeBrace, Nat.sub_add_cancel ih.2] at hopen
      have hbody := posture_printNodes setup nodes (by rw [hopen]; exact ih.1.bracePending_eq) h₂
      show p₂.posture.Settled ∧ 0 < p₂.posture.level
      rw [hbody, hopen]
      exact ih
  | @elseIfRest condition nodes branches rest p p₁ p₂ p₃ _ h₁ h₂ h₃ ih =>
      have hopen := posture_openConditional h₁
      rw [posture_closeBrace, Nat.sub_add_cancel ih.2] at hopen
      have hbody := posture_printNodes setup nodes (by rw [hopen]; exact ih.1.bracePending_eq) h₂
      have hbranches := posture_printBranches setup branches
        (by rw [hbody, hopen]; exact ih.1.bracePending_eq)
        (fun _ => by rw [hbody, hopen]; exact ih.2) h₃
      show p₃.posture.Settled ∧ 0 < p₃.posture.level
      rw [hbranches, hbody, hopen]
      exact ih
  | elseStart _ ih => exact ih.2
  | elseBody _ ih => exact Posture.Settled.of_level ih.1 (posture_openElse _)
  | @elseRest nodes rest p p₂ _ h₂ ih =>
      have hopen := posture_openElse p
      rw [Nat.sub_add_cancel ih.2] at hopen
      have hbody := posture_printNodes setup nodes (by rw [hopen]; exact ih.1.bracePending_eq) h₂
      show p₂.posture.Settled ∧ 0 < p₂.posture.level
      rw [hbody, hopen]
      exact ih

/-- A node that is begun on the way ends in the posture in which it began. -/
theorem exists_posture_eq {conversion : Conversion} {n : Node}
    (hsheet : setup.generate sheet = .ok conversion) (h : Reaches setup sheet (.node n) p) :
    ∃ q, printNode setup n p = .ok q ∧ q.posture = p.posture := by
  obtain ⟨q, hq⟩ := h.succeeds hsheet
  have hready : p.posture.Settled := h.ready
  exact ⟨q, hq, posture_printNode setup n hready.bracePending_eq hq⟩

end Reaches

end Printer

end Restyle
