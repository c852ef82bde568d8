import Ecmascript.Proofs.Cover.Run
import Ecmascript.Proofs.Tree.Discipline

/-!
# Positions in accepted scripts

Every located phrase of an accepted script lies inside the phrases around it, begins and ends at
characters of the source, and is not empty, except for the text chunks of templates.
-/

set_option autoImplicit false

namespace Ecmascript

/-- Where a phrase has to stay: between two offsets. The chunks of a template may be empty. -/
structure Extent where
  start : Nat
  stop : Nat
  isChunk : Bool

/-- Where the parts of a phrase have to stay: inside the phrase if it has a position. -/
def Extent.inside (extent : Extent) {category : Category} (node : Node category)
    (part : Category) : Extent :=
  match node with
  | .located start stop _ => { extent with start, stop }
  | .template _ _ => { extent with isChunk := part = .list (.located .word) }
  | _ => extent

/-- Whether a phrase may stand in an extent. -/
def Extent.Holds (source : Text) (extent : Extent) {category : Category} (node : Node category) :
    Prop :=
  match node with
  | .located start stop _ =>
      extent.start ≤ start ∧ start ≤ stop ∧ stop ≤ extent.stop ∧
        source.IsBoundary start ∧ source.IsBoundary stop ∧ (start < stop ∨ extent.isChunk = true)
  | _ => True

/-- Located phrases lie inside each other, at characters of the source, and are not empty. -/
def positions (source : Text) : Discipline Extent where
  allows extent node := extent.Holds source node
  inside extent node part := extent.inside node part

variable {source : Text} {extent : Extent} {category : Category}

namespace Node

/-- Phrases without a position or chunks leave their parts where they are. -/
theorem Obeys.positions {node : Node category} (allowed : extent.Holds source node)
    (parts : ∀ part ∈ node.parts, part.2.Obeys (positions source) (extent.inside node part.1)) :
    node.Obeys (positions source) extent :=
  .intro allowed parts

theorem obeys_positions_located {start stop : Nat} {item : Node category} :
    (Node.located start stop item).Obeys (positions source) extent ↔
      (extent.start ≤ start ∧ start ≤ stop ∧ stop ≤ extent.stop ∧ source.IsBoundary start ∧
        source.IsBoundary stop ∧ (start < stop ∨ extent.isChunk = true)) ∧
      item.Obeys (Ecmascript.positions source) { extent with start, stop } := by
  constructor
  · intro obeys
    obtain ⟨holds, parts⟩ := obeys_iff.1 obeys
    exact ⟨holds, parts ⟨_, item⟩ (List.mem_singleton.2 rfl)⟩
  · rintro ⟨holds, obeys⟩
    exact .positions holds (List.forall_mem_singleton.2 obeys)

theorem obeys_positions_nil : (.nil : Many category).Obeys (Ecmascript.positions source) extent :=
  .positions trivial nofun

theorem obeys_positions_cons {head : Node category} {tail : Many category}
    (first : head.Obeys (Ecmascript.positions source) extent)
    (rest : tail.Obeys (Ecmascript.positions source) extent) :
    (Node.cons head tail).Obeys (Ecmascript.positions source) extent :=
  .positions trivial (List.forall_mem_cons.2 ⟨first, List.forall_mem_singleton.2 rest⟩)

/-- Only the chunks of a template may be empty. -/
theorem obeys_positions_template {chunks : Many (.located .word)}
    {expressions : Many (.located .expression)} :
    (Node.template chunks expressions).Obeys (Ecmascript.positions source) extent ↔
      chunks.Obeys (Ecmascript.positions source) { extent with isChunk := true } ∧
        expressions.Obeys (Ecmascript.positions source) { extent with isChunk := false } := by
  constructor
  · intro obeys
    obtain ⟨obeys, obeys'⟩ := List.forall_mem_cons.1 (obeys_iff.1 obeys).2
    exact ⟨obeys, obeys' ⟨_, expressions⟩ (List.mem_singleton.2 rfl)⟩
  · rintro ⟨obeys, obeys'⟩
    exact .positions trivial (List.forall_mem_cons.2 ⟨obeys, List.forall_mem_singleton.2 obeys'⟩)

end Node

theorem Role.front_eq_chunk {role : Role} : role.front = .chunk ↔ role = .chunk := by
  cases role <;> simp [front]

/-- Phrases of the same tokens have the same positions. -/
theorem Wraps.positions {role role' : Role} {inner outer : Category} {node : Node inner}
    {node' : Node outer} {start stop : Nat} (wraps : Wraps role node role' node')
    (obeys : (Node.located start stop node).Obeys (positions source) extent) :
    (Node.located start stop node').Obeys (positions source) extent := by
  obtain ⟨allowed, inside⟩ := Node.obeys_positions_located.1 obeys
  refine Node.obeys_positions_located.2 ⟨allowed, ?_⟩
  cases wraps with
  | blockStatement body => exact .positions trivial (Node.obeys_iff.1 inside).2
  | bindingName _ _ | identifierTarget _ => exact .positions trivial nofun
  | _ => exact .positions trivial (List.forall_mem_singleton.2 inside)

/-- What a list of tokens holds stays where the tokens are. -/
theorem Covers.positions {σ : Scope} {role : Role} {ts : List Token} {node : Node category}
    (inside : Covers σ role ts node) :
    ∀ {extent : Extent}, Token.Between source extent.start ts extent.stop →
      (role = .chunk → extent.isChunk = true) → node.Obeys (positions source) extent := by
  induction inside with
  | wider front back _ _ ih =>
      intro extent between isChunk
      simp only [Token.between_append] at between
      exact ih between.2.1.1 isChunk
  | deeper _ ih => exact ih
  | located spans _ ih =>
      intro extent between isChunk
      obtain ⟨begins, filled, ends, first, last⟩ := between.le_of_spans spans
      exact Node.obeys_positions_located.2
        ⟨⟨begins, Nat.le_of_lt filled, ends, first, last, .inl filled⟩, ih (between.spans spans) isChunk⟩
  | wraps wraps _ ih =>
      intro extent between _
      refine wraps.positions (ih between fun chunk => ?_)
      rw [chunk] at wraps
      cases wraps
  | statement _ _ ih | argument _ ih | element _ ih | item _ ih =>
      exact fun between _ => ih between nofun
  | nil => exact fun _ _ => Node.obeys_positions_nil
  | cons _ _ ih ih' =>
      intro extent between isChunk
      obtain ⟨front, back, _⟩ := Token.between_append.1 between
      have head := ih front fun chunk => isChunk (Role.front_eq_chunk.1 chunk)
      exact Node.obeys_positions_cons head (ih' back isChunk)
  | last _ ih =>
      intro extent between isChunk
      exact Node.obeys_positions_cons (ih between isChunk) Node.obeys_positions_nil
  | @chunk σ token part raw kind =>
      intro extent between isChunk
      obtain ⟨begins, ends, _, written⟩ := between.1 token List.mem_cons_self
      obtain ⟨first, last, filled⟩ := written.chunk kind
      refine Node.obeys_positions_located.2 ⟨⟨?_, filled, ?_, first, last, .inr (isChunk rfl)⟩, ?_⟩
      · omega
      · omega
      · exact .positions trivial nofun
  | @plainExpression σ token expression plain =>
      intro extent between isChunk
      have allowed : extent.Holds source expression := by cases expression <;> trivial
      exact .positions allowed (by rw [parts_plainExpression plain]; nofun)
  | @plainKey σ token key plain =>
      intro extent between isChunk
      have allowed : extent.Holds source key := by cases key <;> trivial
      exact .positions allowed (by rw [parts_plainKey plain]; nofun)
  | @shorthandBinding σ use token ts name value named _ ih =>
      intro extent between isChunk
      obtain ⟨begins, ends, filled, written⟩ := between.1 token List.mem_cons_self
      obtain ⟨first, last⟩ := written.boundaries
      have key : (Node.located token.start token.stop (.nameKey name)).Obeys
          (Ecmascript.positions source) extent :=
        Node.obeys_positions_located.2 ⟨⟨begins, Nat.le_of_lt filled, ends, first, last, .inl filled⟩,
          .positions trivial nofun⟩
      have value := ih between nofun
      exact .positions trivial (List.forall_mem_cons.2 ⟨key, List.forall_mem_singleton.2 value⟩)
  | wholeTemplate _ ih =>
      intro extent between _
      have chunk := @ih { extent with isChunk := true } between fun _ => rfl
      exact Node.obeys_positions_template.2
        ⟨Node.obeys_positions_cons chunk Node.obeys_positions_nil, Node.obeys_positions_nil⟩
  | longerTemplate _ _ _ ih ih' ih'' =>
      intro extent between _
      obtain ⟨front, later, _⟩ := Token.between_append.1 between
      obtain ⟨middle, back, _⟩ := Token.between_append.1 later
      have chunk := @ih { extent with isChunk := true } front fun _ => rfl
      have expression := @ih' { extent with isChunk := false } middle nofun
      obtain ⟨chunks, expressions⟩ := Node.obeys_positions_template.1 (ih'' back nofun)
      exact Node.obeys_positions_template.2 ⟨Node.obeys_positions_cons chunk chunks,
        Node.obeys_positions_cons expression expressions⟩
  | _ =>
      intro extent between isChunk
      refine Node.Obeys.positions trivial ?_
      dsimp only [Node.parts, Extent.inside]
      simp_all [Token.between_append]

/-- Every located phrase of an accepted script begins and ends at a character of the source, lies
inside the phrases around it and inside the script, which spans the source, and is not empty,
except for the chunks of templates. -/
theorem parse_positions {source : String} {program : Program}
    (accepted : parse source = .ok program) :
    program.start = 0 ∧ program.stop = Text.byteLength source.toList ∧
      program.body.Obeys (positions source.toList)
        { start := program.start, stop := program.stop, isChunk := false } := by
  obtain ⟨start, stop, ts, between, inside⟩ := covers_of_parseWith accepted
  refine ⟨start, stop, ?_⟩
  rw [start, stop]
  exact inside.positions between nofun

/-- A template without text has a chunk that is empty. -/
theorem parse_positions_empty_template :
    let chunk : Located .word := .located 1 1 (.word "")
    let template : Located .expression :=
      .located 0 2 (.templateExpression (.template (.single chunk) .nil))
    let body : Many (.located .statement) := .single (.located 0 2 (.expressionStatement template))
    parse "``" = .ok { start := 0, stop := 2, body } ∧
      body.Obeys (positions "``".toList) { start := 0, stop := 2, isChunk := false } := by
  intro chunk template body
  have accepted : parse "``" = .ok { start := 0, stop := 2, body } := by
    decide +kernel
  exact ⟨accepted, (parse_positions accepted).2.2⟩

end Ecmascript
