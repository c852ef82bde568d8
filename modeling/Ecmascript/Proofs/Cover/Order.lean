import Ecmascript.Proofs.Cover.Run
import Ecmascript.Proofs.Tree.Order

/-!
# The order of accepted scripts

The parts of a phrase are written one behind the other, in the order in which the tree holds them.
So a walk over the tree of an accepted script goes forward in the source.
-/

set_option autoImplicit false

namespace Ecmascript

variable {source : Text} {category : Category} {ts ts' : List Token}

/-- Tokens that are divided in two lie on both sides of some offset. -/
theorem Token.Between.divide {start stop : Nat}
    (between : Token.Between source start (ts ++ ts') stop) (le : start ≤ stop) :
    ∃ middle, start ≤ middle ∧ middle ≤ stop ∧ Token.Between source start ts middle ∧
      Token.Between source middle ts' stop := by
  obtain ⟨front, back, ordered⟩ := Token.between_append.1 between
  cases ts with
  | nil => exact ⟨start, Nat.le_refl _, le, ⟨nofun, .nil⟩, back⟩
  | cons first rest =>
      have final := List.getLast?_eq_some_getLast (List.cons_ne_nil first rest)
      generalize (first :: rest).getLast _ = last at final
      have spans : Token.Spans (first :: rest) first.start last.stop :=
        ⟨first, last, rfl, final, rfl, rfl⟩
      obtain ⟨begins, filled, ends, _⟩ := front.le_of_spans spans
      have member := List.mem_of_mem_getLast? final
      have front' := (front.spans spans).widen begins (Nat.le_refl _)
      refine ⟨last.stop, by omega, ends, front', ?_, back.2⟩
      intro token later
      exact ⟨ordered last member token later, (back.1 token later).2⟩

/-- Tokens lie behind the beginning of the first of them. -/
theorem Token.Between.behind {start stop : Nat} {token : Token}
    (between : Token.Between source start (token :: ts) stop) :
    Token.Between source token.start (token :: ts) stop := by
  constructor
  · intro other member
    obtain ⟨_, ends, filled, written⟩ := between.1 other member
    rcases List.mem_cons.1 member with rfl | later
    · exact ⟨Nat.le_refl _, ends, filled, written⟩
    · have after := (List.pairwise_cons.1 between.2).1 other later
      have first := (between.1 token List.mem_cons_self).2.2.1
      exact ⟨by omega, ends, filled, written⟩
  · exact between.2

/-! ## Phrases and their tokens -/

/-- Wherever the tokens are, a phrase is laid there. -/
def Lays (source : Text) (ts : List Token) {category : Category} (node : Node category) : Prop :=
  ∀ start stop, start ≤ stop → Token.Between source start ts stop → node.Laid start stop

/-- Wherever the tokens are, phrases are laid there one behind the other. -/
def LayInTurn (source : Text) (ts : List Token) (parts : List Node.Part) : Prop :=
  ∀ start stop, start ≤ stop → Token.Between source start ts stop →
    Node.LaidInTurn start stop parts

theorem Lays.followed {node : Node category} {rest : List Node.Part} (first : Lays source ts node)
    (others : LayInTurn source ts' rest) : LayInTurn source (ts ++ ts') (⟨_, node⟩ :: rest) := by
  intro start stop le between
  obtain ⟨middle, less, more, front, back⟩ := between.divide le
  exact ⟨middle, less, more, first _ _ less front, others _ _ more back⟩

theorem Lays.last {node : Node category} (only : Lays source ts node) :
    LayInTurn source ts [⟨_, node⟩] := by
  intro start stop le between
  exact ⟨stop, le, Nat.le_refl _, only _ _ le between, trivial⟩

theorem LayInTurn.lays {node : Node category} (row : LayInTurn source ts node.parts)
    (plain : node.Plain) : Lays source ts node := by
  intro start stop le between
  exact (row start stop le between).laid plain

/-- A phrase without parts is laid wherever its tokens are. -/
theorem Node.Plain.lays {node : Node category} (plain : node.Plain) (alone : node.parts = []) :
    Lays source ts node := by
  intro start stop _ _
  exact Node.laid_of_no_parts plain alone

/-- An empty list behind a phrase has no tokens of its own. -/
theorem Lays.before_nil {item : Category} {node : Node category} (only : Lays source ts node) :
    LayInTurn source ts [⟨_, node⟩, ⟨_, (.nil : Many item)⟩] := by
  have nothing : Lays source [] (.nil : Many item) := Node.Plain.lays ⟨rfl, rfl, rfl, trivial⟩ rfl
  have row := only.followed nothing.last
  rwa [List.append_nil] at row

theorem Lays.single {node : Node category} (only : Lays source ts node) :
    Lays source ts (.cons node .nil) :=
  only.before_nil.lays ⟨rfl, rfl, rfl, trivial⟩

theorem Lays.located {start stop : Nat} {node : Node category} (inside : Lays source ts node)
    (spans : Token.Spans ts start stop) : Lays source ts (.located start stop node) := by
  intro start' stop' le between
  obtain ⟨begins, filled, ends, _⟩ := between.le_of_spans spans
  have less := Nat.le_of_lt filled
  exact (inside _ _ less (between.spans spans)).located begins less ends

/-! ## Phrases of the same tokens -/

section

variable {role role' : Role} {category' : Category} {node : Node category} {node' : Node category'}

theorem Wraps.walk (wraps : Wraps role node role' node') : node'.walk = node.walk := by
  cases wraps with
  | blockStatement _ | bindingName _ _ | identifierTarget _ =>
      rw [Node.walk_bare rfl, Node.walk_bare rfl]
      rfl
  | _ =>
      rw [Node.walk_bare rfl]
      exact List.flatMap_singleton ..

theorem Wraps.outer (wraps : Wraps role node role' node') : node'.outer = node.outer := by
  cases wraps with
  | blockStatement _ | bindingName _ _ | identifierTarget _ =>
      rw [Node.outer_bare rfl, Node.outer_bare rfl]
      rfl
  | _ =>
      rw [Node.outer_bare rfl]
      exact List.flatMap_singleton ..

/-- Phrases of the same tokens have the same positions in them. -/
theorem Wraps.laid {start stop start' stop' : Nat} (wraps : Wraps role node role' node')
    (laid : (Node.located start stop node).Laid start' stop') :
    (Node.located start stop node').Laid start' stop' := by
  have walk : (Node.located start stop node').walk = (Node.located start stop node).walk := by
    rw [Node.walk_located, Node.walk_located, wraps.walk]
  obtain ⟨apart, siblings⟩ := Node.everywhere_located.1 laid.siblings
  obtain ⟨_, templates⟩ := Node.everywhere_located.1 laid.templates
  constructor
  · rw [walk]
    exact laid.within
  · rw [walk]
    exact laid.sorted
  · rw [Node.outer_located]
    exact List.pairwise_singleton _ _
  · apply Node.everywhere_located.2
    constructor
    · change node'.outer.Pairwise _
      rw [wraps.outer]
      exact apart
    · exact wraps.everywhere (by cases wraps <;> trivial) siblings
  · apply Node.everywhere_located.2
    exact ⟨trivial, wraps.everywhere (by cases wraps <;> trivial) templates⟩

end

/-! ## All phrases -/

/-- What a list of tokens holds is laid where the tokens are. -/
theorem Covers.lays {σ : Scope} {role : Role} {node : Node category}
    (inside : Covers σ role ts node) : Lays source ts node := by
  induction inside with
  | wider front back _ _ ih =>
      intro start stop le between
      simp only [Token.between_append] at between
      exact ih start stop le between.2.1.1
  | deeper _ ih | statement _ _ ih | argument _ ih | element _ ih | item _ ih => exact ih
  | located spans _ ih => exact ih.located spans
  | wraps wraps _ ih =>
      intro start stop le between
      exact wraps.laid (ih start stop le between)
  | @chunk σ token part raw kind =>
      intro start stop le between
      obtain ⟨begins, ends, _, written⟩ := between.1 token List.mem_cons_self
      obtain ⟨_, _, filled⟩ := written.chunk kind
      have form : (Node.word raw).Plain := ⟨rfl, rfl, rfl, trivial⟩
      exact (Node.laid_of_no_parts form rfl).located (by omega) filled (by omega)
  | @plainExpression σ token expression plain =>
      have form : expression.Plain := by cases expression <;> exact ⟨rfl, rfl, rfl, trivial⟩
      exact form.lays (parts_plainExpression plain)
  | @plainKey σ token key plain =>
      have form : key.Plain := by cases key <;> exact ⟨rfl, rfl, rfl, trivial⟩
      exact form.lays (parts_plainKey plain)
  | nil | none | word _ | bindingIdentifier _ | shorthandProperty _ | emptyStatement
  | debuggerStatement => exact Node.Plain.lays ⟨rfl, rfl, rfl, trivial⟩ rfl
  | shorthandBinding _ _ ih =>
      intro start stop le between
      obtain ⟨begins, ends, filled, _⟩ := between.1 _ List.mem_cons_self
      have value := ih _ stop (by omega) between.behind
      exact value.shorthand begins (Nat.le_of_lt filled) ends
  | last _ ih => exact ih.single
  | wholeTemplate _ ih =>
      intro start stop le between
      exact (ih.single.before_nil start stop le between).wholeTemplate
  | longerTemplate _ _ _ ih ih' ih'' =>
      intro start stop le between
      exact (ih.followed (ih'.followed ih''.last) start stop le between).longerTemplate
  | forStatement _ _ _ _ _ ih ih' ih'' ih''' =>
      exact (ih.followed (ih'.followed (ih''.followed ih'''.last))).lays ⟨rfl, rfl, rfl, trivial⟩
  | ifStatement _ _ _ ih ih' ih'' | forInStatement _ _ _ _ ih ih' ih''
  | forOfStatement _ _ _ _ ih ih' ih'' | tryStatement _ _ _ _ ih ih' ih''
  | function _ _ _ ih ih' ih'' | classDefinition _ _ _ ih ih' ih''
  | conditionalExpression _ _ _ ih ih' ih'' =>
      exact (ih.followed (ih'.followed ih''.last)).lays ⟨rfl, rfl, rfl, trivial⟩
  | cons _ _ ih ih' | whileStatement _ _ ih ih' | doStatement _ _ ih ih'
  | switchStatement _ _ ih ih' | labeledStatement _ _ ih ih' | declarator _ _ ih ih'
  | handler _ _ ih ih' | switchCase _ _ ih ih' | methodMember _ _ _ ih ih'
  | fieldMember _ _ ih ih' | taggedTemplate _ _ ih ih' | memberExpression _ _ ih ih'
  | computedMember _ _ ih ih' | callExpression _ _ ih ih' | newExpression _ _ ih ih'
  | binaryExpression _ _ ih ih' | logicalExpression _ _ ih ih' | assignmentExpression _ _ _ ih ih'
  | arrowFunction _ _ ih ih' | valueProperty _ _ ih ih' | methodProperty _ _ _ _ ih ih'
  | defaultPattern _ _ ih ih' | bindingProperty _ _ ih ih' =>
      exact (ih.followed ih'.last).lays ⟨rfl, rfl, rfl, trivial⟩
  | some _ ih | expressionStatement _ ih | variableStatement _ _ ih | returnStatement _ _ ih
  | breakStatement _ ih | continueStatement _ ih | throwStatement _ ih | declarationHead _ _ ih
  | block _ ih | computedKey _ ih | arrayExpression _ ih | objectExpression _ ih
  | unaryExpression _ _ ih | prefixUpdate _ _ _ ih | postfixUpdate _ _ ih
  | sequenceExpression _ _ ih | spreadExpression _ ih | yieldExpression _ _ ih
  | awaitExpression _ _ _ ih | expressionBody _ ih | blockBody _ ih | spreadProperty _ ih
  | arrayPattern _ _ ih | objectPattern _ _ ih | restPattern _ ih | restProperty _ ih =>
      exact ih.last.lays ⟨rfl, rfl, rfl, trivial⟩

/-- A walk over the tree of an accepted script goes forward in the source. Phrases with the same
phrase around them do not overlap, and the chunks and expressions of a template alternate. -/
theorem parse_laid {source : String} {program : Program} (accepted : parse source = .ok program) :
    program.body.Laid program.start program.stop := by
  obtain ⟨start, stop, ts, between, inside⟩ := covers_of_parseWith accepted
  rw [start, stop]
  exact inside.lays _ _ (Nat.zero_le _) between

/-- A template with two chunks around an expression. -/
theorem parse_laid_substitution :
    let chunk : Located .word := .located 1 2 (.word "a")
    let chunk' : Located .word := .located 6 6 (.word "")
    let name : Located .expression := .located 4 5 (.identifier "b")
    let value : Located .expression := .located 0 7
      (.templateExpression (.template (.cons chunk (.single chunk')) (.single name)))
    let body : Many (.located .statement) := .single (.located 0 7 (.expressionStatement value))
    parse "`a$\x7bb\x7d`" = .ok { start := 0, stop := 7, body } ∧ body.Laid 0 7 := by
  intro chunk chunk' name value body
  have accepted : parse "`a$\x7bb\x7d`" = .ok { start := 0, stop := 7, body } := by
    decide +kernel
  exact ⟨accepted, parse_laid accepted⟩

end Ecmascript
