import Ecmascript.Proofs.Cover.Run

/-!
# How deeply accepted trees nest

The parser reads every statement, every operand behind a prefix operator and the inside of every
destructuring pattern one level deeper, and gives up below a fixed number of levels. Other phrases,
such as chains of binary operators, go down a tree without taking a level, and attempts that fail
take levels for phrases that are in no tree. So the bound says how many of the phrases that take a
level can lie inside each other, on any path down an accepted tree.
-/

set_option autoImplicit false

namespace Ecmascript

namespace Node

variable {category : Category} {node : Node category} {levels fewer : Nat}

/-- Phrases that take a level of nesting: statements, applications of prefix operators, and
destructuring patterns. -/
def takesLevel : {category : Category} → Node category → Bool
  | .statement, _ => true
  | .expression, .unaryExpression _ _ => true
  | .expression, .awaitExpression _ => true
  | .expression, .updateExpression _ isPrefix _ => isPrefix
  | .pattern, .arrayPattern _ => true
  | .pattern, .objectPattern _ => true
  | _, _ => false

/-- A path leads down from a phrase: each phrase on it is a part of the one in front of it, and the
first is a part of the phrase itself. -/
def LeadsDown (node : Node category) (path : List Part) : Prop :=
  (⟨category, node⟩ :: path).IsChain fun outer inner => inner ∈ outer.2.parts

/-- On every path that leads down from a phrase, the phrase included, so many phrases at most take a
level. -/
def NestsWithin (levels : Nat) (node : Node category) : Prop :=
  ∀ path : List Part, node.LeadsDown path →
    (⟨category, node⟩ :: path).countP (fun part => part.2.takesLevel) ≤ levels

theorem NestsWithin.mono (within : node.NestsWithin fewer) (le : fewer ≤ levels) :
    node.NestsWithin levels :=
  fun path leads => Nat.le_trans (within path leads) le

/-- A path that leads down from a part leads down from the phrase. -/
theorem NestsWithin.part (within : node.NestsWithin levels) {part : Part}
    (member : part ∈ node.parts) : part.2.NestsWithin levels := by
  intro path leads
  have further := within (part :: path) (List.isChain_cons_cons.2 ⟨member, leads⟩)
  exact Nat.le_trans (List.sublist_cons_self _ _).countP_le further

/-- A phrase nests as deeply as its parts, and a level deeper if it takes one. -/
theorem nestsWithin_of_parts (fewer : Nat)
    (inside : ∀ part ∈ node.parts, part.2.NestsWithin fewer)
    (fits : node.takesLevel.toNat + fewer ≤ levels) : node.NestsWithin levels := by
  intro path leads
  have own : (if node.takesLevel = true then 1 else 0) = node.takesLevel.toNat := by
    cases node.takesLevel <;> rfl
  cases path with
  | nil =>
      rw [List.countP_cons, own, List.countP_nil]
      omega
  | cons part path =>
      obtain ⟨member, leads⟩ := List.isChain_cons_cons.1 leads
      have further : (part :: path).countP (fun part => part.2.takesLevel) ≤ fewer :=
        inside part member path leads
      rw [List.countP_cons, own]
      omega

theorem nestsWithin_succ (inside : ∀ part ∈ node.parts, part.2.NestsWithin levels) :
    node.NestsWithin (levels + 1) :=
  nestsWithin_of_parts levels inside (by have := node.takesLevel.toNat_le; omega)

theorem nestsWithin_iff_of_plain (plain : node.takesLevel = false) :
    node.NestsWithin levels ↔ ∀ part ∈ node.parts, part.2.NestsWithin levels := by
  refine ⟨fun within part => within.part, fun inside => nestsWithin_of_parts levels inside ?_⟩
  rw [plain]
  exact Nat.le_of_eq (Nat.zero_add _)

theorem nestsWithin_leaf (alone : node.parts = []) (plain : node.takesLevel = false) :
    node.NestsWithin levels := by
  rw [nestsWithin_iff_of_plain plain, alone]
  exact nofun

theorem nestsWithin_located {start stop : Nat} {item : Node category} :
    (Node.located start stop item).NestsWithin levels ↔ item.NestsWithin levels := by
  rw [nestsWithin_iff_of_plain rfl]
  simp [parts]

theorem nestsWithin_nil {item : Category} : (Node.nil : Many item).NestsWithin levels :=
  nestsWithin_leaf rfl rfl

theorem nestsWithin_cons {head : Node category} {tail : Many category} :
    (Node.cons head tail).NestsWithin levels ↔
      head.NestsWithin levels ∧ tail.NestsWithin levels := by
  rw [nestsWithin_iff_of_plain rfl]
  simp [parts]

theorem nestsWithin_template {chunks : Many (.located .word)}
    {expressions : Many (.located .expression)} :
    (Node.template chunks expressions).NestsWithin levels ↔
      chunks.NestsWithin levels ∧ expressions.NestsWithin levels := by
  rw [nestsWithin_iff_of_plain rfl]
  simp [parts]

end Node

/-! ## The rules of the grammar -/

/-- The levels that a role takes. The statement inside a level of nesting takes that level. -/
def Role.own : Role → Nat
  | inner => 1
  | _ => 0

theorem Role.own_front (role : Role) : role.front.own = role.own := by
  cases role <;> rfl

theorem takesLevel_plainExpression {kind : TokenKind} {expression : Node .expression}
    (plain : Parser.plainExpression? kind = some expression) : expression.takesLevel = false := by
  unfold Parser.plainExpression? at plain
  split at plain <;> cases plain <;> rfl

theorem takesLevel_key (key : Node .key) : key.takesLevel = false := by
  cases key <;> rfl

variable {σ : Scope} {role role' : Role} {ts : List Token} {category category' : Category}
  {node : Node category} {node' : Node category'} {levels : Nat}

/-- A phrase takes a level only when it becomes a statement. -/
theorem Wraps.nestsWithin (wraps : Wraps role node role' node')
    (inside : node.NestsWithin (role.own + levels)) : node'.NestsWithin (role'.own + levels) := by
  have statement {item : Node .statement}
      (parts : ∀ part ∈ item.parts, part.2.NestsWithin (Role.phrase.own + levels)) :
      item.NestsWithin (Role.inner.own + levels) :=
    Node.nestsWithin_of_parts _ parts (by simp [Node.takesLevel, Role.own])
  cases wraps with
  | blockStatement body => exact statement fun _ member => inside.part member
  | functionDeclaration _ | classDeclaration _ =>
      exact statement (List.forall_mem_singleton.2 inside)
  | bindingName _ _ | identifierTarget _ => exact Node.nestsWithin_leaf rfl rfl
  | _ => exact (Node.nestsWithin_iff_of_plain rfl).2 (List.forall_mem_singleton.2 inside)

/-- Where so many levels are left, a phrase nests within them. -/
theorem Covers.nestsWithin (inside : Covers σ role ts node)
    (left : Parser.maxNesting ≤ σ.depth + levels) : node.NestsWithin (role.own + levels) := by
  -- A level that is taken is one of those that are left.
  have taken {depth : Nat} (room : depth < Parser.maxNesting) {levels : Nat}
      (left : Parser.maxNesting ≤ depth + levels) :
      ∃ fewer, levels = fewer + 1 ∧ Parser.maxNesting ≤ depth + 1 + fewer :=
    ⟨levels - 1, by omega, by omega⟩
  induction inside generalizing levels with
  | wider _ _ _ _ ih | argument _ ih | element _ ih | item _ ih => exact ih left
  | deeper _ ih => exact ih (Nat.le_trans left (Nat.add_le_add_right (Nat.le_succ _) _))
  | located _ _ ih => exact Node.nestsWithin_located.2 (ih left)
  | wraps wraps _ ih =>
      have inner := Node.nestsWithin_located.1 (ih left)
      exact Node.nestsWithin_located.2 (wraps.nestsWithin inner)
  | nil => exact Node.nestsWithin_nil
  | cons _ _ ih ih' =>
      have first := ih left
      rw [Role.own_front] at first
      exact Node.nestsWithin_cons.2 ⟨first, ih' left⟩
  | last _ ih => exact Node.nestsWithin_cons.2 ⟨ih left, Node.nestsWithin_nil⟩
  | none => exact Node.nestsWithin_leaf rfl rfl
  | some _ ih => exact (Node.nestsWithin_iff_of_plain rfl).2 (List.forall_mem_singleton.2 (ih left))
  -- Single tokens
  | chunk _ => exact Node.nestsWithin_located.2 (Node.nestsWithin_leaf rfl rfl)
  | plainExpression plain =>
      exact Node.nestsWithin_leaf (parts_plainExpression plain) (takesLevel_plainExpression plain)
  | plainKey plain => exact Node.nestsWithin_leaf (parts_plainKey plain) (takesLevel_key _)
  -- Phrases with a level of their own
  | statement room _ ih =>
      obtain ⟨fewer, rfl, left'⟩ := taken room left
      have item := ih left'
      exact item.mono (Nat.le_of_eq (by simp only [Role.own, Nat.zero_add, Nat.add_comm]))
  | unaryExpression room _ ih | prefixUpdate room _ _ ih | awaitExpression _ room _ ih
  | arrayPattern room _ ih | objectPattern room _ ih =>
      obtain ⟨fewer, rfl, left'⟩ := taken room left
      exact Node.nestsWithin_succ (List.forall_mem_singleton.2 (ih left'))
  -- Phrases that share tokens with their parts
  | wholeTemplate _ ih =>
      exact Node.nestsWithin_template.2
        ⟨Node.nestsWithin_cons.2 ⟨ih left, Node.nestsWithin_nil⟩, Node.nestsWithin_nil⟩
  | longerTemplate _ _ _ ih ih' ih'' =>
      obtain ⟨chunks, expressions⟩ := Node.nestsWithin_template.1 (ih'' left)
      exact Node.nestsWithin_template.2 ⟨Node.nestsWithin_cons.2 ⟨ih left, chunks⟩,
        Node.nestsWithin_cons.2 ⟨ih' left, expressions⟩⟩
  | @shorthandBinding _ _ _ _ name _ _ _ ih =>
      have key (levels : Nat) : (Node.nameKey name).NestsWithin levels :=
        Node.nestsWithin_leaf rfl rfl
      exact (Node.nestsWithin_iff_of_plain rfl).2 (List.forall_mem_cons.2
        ⟨Node.nestsWithin_located.2 (key _), List.forall_mem_singleton.2 (ih left)⟩)
  | _ =>
      -- Of the phrases that are left, statements take a level, and they are inside one.
      refine Node.nestsWithin_of_parts levels ?_ ?_
      · dsimp only [Node.parts]
        simp_all [Role.own, Scope.function, Scope.field]
      · simp [Node.takesLevel, Role.own]

/-- On every path down the tree of an accepted script, at most 256 phrases are statements,
applications of unary operators, of `await` or of an update operator in front of its operand, array
patterns or object patterns. -/
theorem parse_nestsWithin {source : String} {program : Program}
    (accepted : parse source = .ok program) : program.body.NestsWithin 256 := by
  obtain ⟨_, _, ts, _, inside⟩ := covers_of_parseWith accepted
  have left : Parser.maxNesting ≤ Scope.script.depth + 256 := by decide
  exact inside.nestsWithin left

/-- Two statements, two prefix operators and an array pattern, of which four lie inside each
other. -/
theorem parse_nestsWithin_block :
    let target : Located .pattern := .located 1 4
      (.arrayPattern (.single (.some (.located 2 3 (.bindingIdentifier "a")))))
    let update : Located .expression :=
      .located 6 9 (.updateExpression .decrement true (.located 8 9 (.identifier "b")))
    let value : Located .expression := .located 5 9 (.unaryExpression .not update)
    let assigned : Located .statement := .located 1 9
      (.expressionStatement (.located 1 9 (.assignmentExpression .assign target value)))
    let body : Many (.located .statement) :=
      .single (.located 0 10 (.blockStatement (.single assigned)))
    parse "\x7b[a]=!--b\x7d" = .ok { start := 0, stop := 10, body } ∧ body.NestsWithin 256 := by
  intro target update value assigned body
  have accepted : parse "\x7b[a]=!--b\x7d" = .ok { start := 0, stop := 10, body } := by
    decide +kernel
  exact ⟨accepted, parse_nestsWithin accepted⟩

end Ecmascript
