import Ecmascript.Proofs.Tree.Discipline

/-!
# The order of positions in a tree

A walk visits a phrase before its parts, and the parts from left to right. The chunks and the
expressions of a template are two lists in the tree and alternate in the source, so a walk visits
them alternately.
-/

set_option autoImplicit false

namespace Ecmascript

/-- Two byte offsets. -/
structure Span where
  start : Nat
  stop : Nat

namespace Node

variable {category : Category}

/-- The offsets of a located phrase. -/
def span? : {category : Category} → Node category → Option Span
  | _, .located start stop _ => Option.some ⟨start, stop⟩
  | _, _ => Option.none

/-- The first phrase of a list and the others. -/
def uncons? {item : Category} : Many item → Option (Node item × Many item)
  | .nil => Option.none
  | .cons head tail => Option.some (head, tail)

/-- The parts of a template as they are written: behind its first chunk and expression, the rest is
a template again. -/
def alternate (chunks : Many (.located .word)) (expressions : Many (.located .expression)) :
    List Part :=
  match chunks.uncons?, expressions.uncons? with
  | Option.some (chunk, chunks), Option.some (expression, expressions) =>
      [⟨_, chunk⟩, ⟨_, expression⟩, ⟨_, .template chunks expressions⟩]
  | _, _ => [⟨_, chunks⟩, ⟨_, expressions⟩]

/-- The parts of a phrase in the order in which they are written. -/
def inOrder : {category : Category} → Node category → List Part
  | _, .template chunks expressions => alternate chunks expressions
  | _, node => node.parts

theorem sizeOf_part_lt {node : Node category} {part : Part} (member : part ∈ node.parts) :
    sizeOf part.2 < sizeOf node := by
  revert part
  cases node <;> simp [parts] <;> omega

theorem sizeOf_inOrder_lt {node : Node category} {part : Part} (member : part ∈ node.inOrder) :
    sizeOf part.2 < sizeOf node := by
  cases node with
  | template chunks expressions =>
      cases chunks with
      | nil => exact sizeOf_part_lt member
      | cons chunk chunks =>
          cases expressions with
          | nil => exact sizeOf_part_lt member
          | cons expression expressions =>
              simp only [inOrder, alternate, uncons?, List.mem_cons, List.not_mem_nil] at member
              rcases member with rfl | rfl | rfl | ⟨⟨⟩⟩ <;> simp <;> omega
  | _ => exact sizeOf_part_lt member

/-- The parts of a phrase that are apart from each other. The key of a shorthand property is the
beginning of its value. -/
def apartParts : {category : Category} → Node category → List Part
  | _, .bindingProperty _ value true => [⟨_, value⟩]
  | _, node => node.inOrder

theorem mem_inOrder_of_mem_apartParts {node : Node category} {part : Part}
    (member : part ∈ node.apartParts) : part ∈ node.inOrder := by
  cases node with
  | bindingProperty key value isShorthand =>
      cases isShorthand with
      | false => exact member
      | true => exact List.mem_cons_of_mem _ member
  | _ => exact member

/-- The positions of a phrase and of all phrases in it, a phrase before its parts. -/
def walk {category : Category} (node : Node category) : List Span :=
  node.span?.toList ++ node.inOrder.attach.flatMap fun part => part.1.2.walk
termination_by sizeOf node
decreasing_by exact sizeOf_inOrder_lt part.2

/-- The outermost positions in a phrase, which is only its own if it has one. -/
def outer {category : Category} (node : Node category) : List Span :=
  match node.span? with
  | Option.some span => [span]
  | Option.none => node.apartParts.attach.flatMap fun part => part.1.2.outer
termination_by sizeOf node
decreasing_by exact sizeOf_inOrder_lt (mem_inOrder_of_mem_apartParts part.2)

theorem walk_located {start stop : Nat} {item : Node category} :
    (Node.located start stop item).walk = ⟨start, stop⟩ :: item.walk := by
  rw [walk]
  simp [span?, inOrder, parts]

theorem walk_bare {node : Node category} (bare : node.span? = Option.none) :
    node.walk = node.inOrder.flatMap fun part => part.2.walk := by
  rw [walk]
  simp [bare]

theorem outer_located {start stop : Nat} {item : Node category} :
    (Node.located start stop item).outer = [⟨start, stop⟩] := by
  rw [outer]
  simp [span?]

theorem outer_bare {node : Node category} (bare : node.span? = Option.none) :
    node.outer = node.apartParts.flatMap fun part => part.2.outer := by
  rw [outer]
  simp [bare]

theorem mem_walk_of_mem_inOrder {node : Node category} {part : Part} {span : Span}
    (among : part ∈ node.inOrder) (member : span ∈ part.2.walk) : span ∈ node.walk := by
  rw [walk]
  apply List.mem_append_right
  exact List.mem_flatMap.2 ⟨⟨part, among⟩, List.mem_attach _ _, member⟩

theorem mem_walk_of_mem_outer {node : Node category} {span : Span} (member : span ∈ node.outer) :
    span ∈ node.walk := by
  induction category, node using walk.induct with
  | case1 category node ih =>
      cases own : node.span? with
      | none =>
          rw [outer_bare own, List.mem_flatMap] at member
          obtain ⟨part, among, member⟩ := member
          have ordered := mem_inOrder_of_mem_apartParts among
          exact mem_walk_of_mem_inOrder ordered (ih ⟨part, ordered⟩ member)
      | some here =>
          rw [outer, own] at member
          rw [walk, own]
          exact List.mem_append_left _ member

/-! ## Rules -/

/-- The outermost positions inside of a located phrase are apart, one behind the other. -/
def SiblingsApart {category : Category} : Node category → Prop
  | .located _ _ item => item.outer.Pairwise fun first second => first.stop ≤ second.start
  | _ => True

/-- Chunks and expressions alternate: every expression is behind one chunk and in front of the next
one. -/
def Alternate : List Span → List Span → Prop
  | [_], [] => True
  | chunk :: next :: chunks, expression :: expressions =>
      chunk.stop ≤ expression.start ∧ expression.stop ≤ next.start ∧
        Alternate (next :: chunks) expressions
  | _, _ => False

/-- The chunks and the expressions of a template alternate. -/
def Interleaves {category : Category} : Node category → Prop
  | .template chunks expressions => Alternate chunks.outer expressions.outer
  | _ => True

theorem siblingsApart_bare {node : Node category} (bare : node.span? = Option.none) :
    node.SiblingsApart := by
  cases node with
  | located start stop item => cases bare
  | _ => trivial

/-! ## Phrases between two offsets -/

/-- The positions in a phrase stay between two offsets and come in the order of the source. -/
structure Laid (start stop : Nat) {category : Category} (node : Node category) : Prop where
  within : ∀ span ∈ node.walk, start ≤ span.start ∧ span.start ≤ span.stop ∧ span.stop ≤ stop
  sorted : node.walk.Pairwise fun first second => first.start ≤ second.start
  apart : node.outer.Pairwise fun first second => first.stop ≤ second.start
  siblings : node.Everywhere SiblingsApart
  templates : node.Everywhere Interleaves

/-- A phrase without a position of its own, whose parts are written one behind the other as the tree
holds them. -/
structure Plain {category : Category} (node : Node category) : Prop where
  bare : node.span? = Option.none
  straight : node.inOrder = node.parts
  apart : node.apartParts = node.parts
  whole : node.Interleaves

/-- Phrases are laid one behind the other. -/
def LaidInTurn (start stop : Nat) : List Part → Prop
  | [] => True
  | part :: rest => ∃ middle, start ≤ middle ∧ middle ≤ stop ∧ part.2.Laid start middle ∧
      LaidInTurn middle stop rest

variable {start stop : Nat}

namespace LaidInTurn

theorem within {parts : List Part} (row : LaidInTurn start stop parts) {span : Span}
    (member : span ∈ parts.flatMap fun part => part.2.walk) :
    start ≤ span.start ∧ span.start ≤ span.stop ∧ span.stop ≤ stop := by
  induction parts generalizing start with
  | nil => cases member
  | cons part rest ih =>
      obtain ⟨middle, less, more, laid, row⟩ := row
      rw [List.flatMap_cons, List.mem_append] at member
      rcases member with here | later
      · obtain ⟨begins, filled, ends⟩ := laid.within span here
        exact ⟨begins, filled, Nat.le_trans ends more⟩
      · obtain ⟨begins, filled, ends⟩ := ih row later
        exact ⟨Nat.le_trans less begins, filled, ends⟩

theorem sorted {parts : List Part} (row : LaidInTurn start stop parts) :
    (parts.flatMap fun part => part.2.walk).Pairwise
      fun first second => first.start ≤ second.start := by
  induction parts generalizing start with
  | nil => exact .nil
  | cons part rest ih =>
      obtain ⟨middle, less, more, laid, row⟩ := row
      rw [List.flatMap_cons, List.pairwise_append]
      refine ⟨laid.sorted, ih row, ?_⟩
      intro first here second later
      obtain ⟨_, filled, ends⟩ := laid.within first here
      obtain ⟨begins, _, _⟩ := row.within later
      omega

theorem apart {parts : List Part} (row : LaidInTurn start stop parts) :
    (parts.flatMap fun part => part.2.outer).Pairwise
      fun first second => first.stop ≤ second.start := by
  induction parts generalizing start with
  | nil => exact .nil
  | cons part rest ih =>
      obtain ⟨middle, less, more, laid, row⟩ := row
      rw [List.flatMap_cons, List.pairwise_append]
      refine ⟨laid.apart, ih row, ?_⟩
      intro first here second later
      obtain ⟨other, among, later⟩ := List.mem_flatMap.1 later
      have ends := (laid.within first (mem_walk_of_mem_outer here)).2.2
      have begins := (row.within (List.mem_flatMap.2 ⟨other, among, mem_walk_of_mem_outer later⟩)).1
      omega

theorem each {parts : List Part} (row : LaidInTurn start stop parts) :
    ∀ part ∈ parts, part.2.Everywhere SiblingsApart ∧ part.2.Everywhere Interleaves := by
  induction parts generalizing start with
  | nil => nofun
  | cons part rest ih =>
      obtain ⟨middle, _, _, laid, row⟩ := row
      exact List.forall_mem_cons.2 ⟨⟨laid.siblings, laid.templates⟩, ih row⟩

/-- A phrase is laid where its parts are. -/
theorem laid {node : Node category} (row : LaidInTurn start stop node.parts) (plain : node.Plain) :
    node.Laid start stop := by
  constructor
  · rw [walk_bare plain.bare, plain.straight]
    intro span member
    exact row.within member
  · rw [walk_bare plain.bare, plain.straight]
    exact row.sorted
  · rw [outer_bare plain.bare, plain.apart]
    exact row.apart
  · apply everywhere_iff.2
    exact ⟨siblingsApart_bare plain.bare, fun part member => (row.each part member).1⟩
  · apply everywhere_iff.2
    exact ⟨plain.whole, fun part member => (row.each part member).2⟩

end LaidInTurn

/-- A phrase without parts is laid anywhere. -/
theorem laid_of_no_parts {node : Node category} (plain : node.Plain) (alone : node.parts = []) :
    node.Laid start stop := by
  have row : LaidInTurn start stop node.parts := by
    rw [alone]
    trivial
  exact row.laid plain

/-- A located phrase is laid between offsets around it. -/
theorem Laid.located {start' stop' : Nat} {item : Node category} (inside : item.Laid start' stop')
    (begins : start ≤ start') (filled : start' ≤ stop') (ends : stop' ≤ stop) :
    (Node.located start' stop' item).Laid start stop := by
  constructor
  · rw [walk_located]
    intro span member
    rcases List.mem_cons.1 member with rfl | member
    · exact ⟨begins, filled, ends⟩
    · obtain ⟨begins', filled', ends'⟩ := inside.within span member
      exact ⟨Nat.le_trans begins begins', filled', Nat.le_trans ends' ends⟩
  · rw [walk_located]
    exact List.pairwise_cons.2 ⟨fun span member => (inside.within span member).1, inside.sorted⟩
  · rw [outer_located]
    exact List.pairwise_singleton _ _
  · apply everywhere_iff.2
    exact ⟨inside.apart, List.forall_mem_singleton.2 inside.siblings⟩
  · apply everywhere_iff.2
    exact ⟨trivial, List.forall_mem_singleton.2 inside.templates⟩

/-! ## Templates -/

theorem outer_nil : (.nil : Many category).outer = [] := by
  rw [outer_bare rfl]
  rfl

theorem outer_cons {head : Located category} {tail : Many (.located category)} :
    (Node.cons head tail).outer = ⟨head.start, head.stop⟩ :: tail.outer := by
  cases head
  rw [outer_bare rfl]
  simp [apartParts, inOrder, parts, outer_located, start, stop]

theorem start_mem_walk (phrase : Located category) :
    ⟨phrase.start, phrase.stop⟩ ∈ phrase.walk := by
  cases phrase
  rw [walk_located]
  exact List.mem_cons_self

/-- A template begins with its first chunk. -/
theorem head_mem_walk {chunk : Located .word} {chunks : Many (.located .word)}
    {expressions : Many (.located .expression)} :
    ⟨chunk.start, chunk.stop⟩ ∈ (Node.template (.cons chunk chunks) expressions).walk := by
  have own := start_mem_walk chunk
  cases expressions with
  | nil =>
      have first : ⟨chunk.start, chunk.stop⟩ ∈ (Node.cons chunk chunks).walk :=
        mem_walk_of_mem_inOrder List.mem_cons_self own
      exact mem_walk_of_mem_inOrder List.mem_cons_self first
  | cons expression expressions => exact mem_walk_of_mem_inOrder List.mem_cons_self own

/-- In front of a template in which chunks and expressions alternate, so do one more of each. -/
theorem Alternate.cons {chunk expression : Span} {chunks : Many (.located .word)}
    {expressions : List Span} (alternate : Alternate chunks.outer expressions)
    (before : chunk.stop ≤ expression.start)
    (behind : ∀ next ∈ chunks.outer.head?, expression.stop ≤ next.start) :
    Alternate (chunk :: chunks.outer) (expression :: expressions) := by
  cases spans : chunks.outer with
  | nil =>
      rw [spans] at alternate
      cases expressions <;> cases alternate
  | cons next others =>
      rw [spans] at alternate behind
      exact ⟨before, behind next rfl, alternate⟩

theorem LaidInTurn.wholeTemplate {chunk : Located .word}
    (row : LaidInTurn start stop
      [⟨_, .cons chunk .nil⟩, ⟨_, (.nil : Many (.located .expression))⟩]) :
    (Node.template (.cons chunk .nil) .nil).Laid start stop := by
  have whole : (Node.template (.cons chunk .nil) .nil).Interleaves := by
    change Alternate _ _
    rw [outer_cons, outer_nil, outer_nil]
    trivial
  exact row.laid ⟨rfl, rfl, rfl, whole⟩

/-- A chunk, an expression and a template behind one another are a longer template. -/
theorem LaidInTurn.longerTemplate {chunk : Located .word} {expression : Located .expression}
    {chunks : Many (.located .word)} {expressions : Many (.located .expression)}
    (row : LaidInTurn start stop
      [⟨_, chunk⟩, ⟨_, expression⟩, ⟨_, .template chunks expressions⟩]) :
    (Node.template (.cons chunk chunks) (.cons expression expressions)).Laid start stop := by
  have each := row.each
  simp only [List.forall_mem_cons] at each
  obtain ⟨⟨chunk_apart, chunk_templates⟩, ⟨expression_apart, expression_templates⟩,
    ⟨rest_apart, rest_templates⟩, _⟩ := each
  obtain ⟨_, chunks_apart, expressions_apart⟩ := everywhere_template.1 rest_apart
  obtain ⟨alternates, chunks_templates, expressions_templates⟩ :=
    everywhere_template.1 rest_templates
  constructor
  · rw [walk_bare rfl]
    exact fun span member => row.within member
  · rw [walk_bare rfl]
    exact row.sorted
  · rw [outer_bare rfl]
    exact row.apart
  · apply everywhere_template.2
    exact ⟨trivial, everywhere_cons.2 ⟨trivial, chunk_apart, chunks_apart⟩,
      everywhere_cons.2 ⟨trivial, expression_apart, expressions_apart⟩⟩
  · apply everywhere_template.2
    refine ⟨?_, everywhere_cons.2 ⟨trivial, chunk_templates, chunks_templates⟩,
      everywhere_cons.2 ⟨trivial, expression_templates, expressions_templates⟩⟩
    change Alternate _ _
    rw [outer_cons, outer_cons]
    obtain ⟨_, _, _, chunk_laid, _, _, _, expression_laid, _, _, _, rest_laid, _⟩ := row
    have ends := (chunk_laid.within _ (start_mem_walk chunk)).2.2
    obtain ⟨begins, _, ends'⟩ := expression_laid.within _ (start_mem_walk expression)
    apply Alternate.cons alternates
    · exact Nat.le_trans ends begins
    · intro next first
      cases chunks with
      | nil =>
          rw [outer_nil] at first
          cases first
      | cons second others =>
          rw [outer_cons] at first
          cases first
          exact Nat.le_trans ends' (rest_laid.within _ head_mem_walk).1

/-! ## Shorthand properties -/

/-- A shorthand property is laid where its value is, since its key begins there too. -/
theorem Laid.shorthand {start' stop' : Nat} {name : String} {value : Located .pattern}
    (inside : value.Laid start' stop) (begins : start ≤ start') (filled : start' ≤ stop')
    (ends : stop' ≤ stop) :
    (Node.bindingProperty (.located start' stop' (.nameKey name)) value true).Laid start stop := by
  have leaf : (Node.nameKey name).Laid start' stop' := laid_of_no_parts ⟨rfl, rfl, rfl, trivial⟩ rfl
  have key := leaf.located begins filled ends
  have walk_key : (Node.located start' stop' (.nameKey name)).walk = [⟨start', stop'⟩] := by
    rw [walk_located, walk_bare rfl]
    rfl
  have walks : (Node.bindingProperty (.located start' stop' (.nameKey name)) value true).walk =
      ⟨start', stop'⟩ :: value.walk := by
    rw [walk_bare rfl]
    simp [inOrder, parts, walk_key]
  constructor
  · rw [walks]
    intro span member
    rcases List.mem_cons.1 member with rfl | member
    · exact ⟨begins, filled, ends⟩
    · obtain ⟨begins', filled', ends'⟩ := inside.within span member
      exact ⟨Nat.le_trans begins begins', filled', ends'⟩
  · rw [walks]
    exact List.pairwise_cons.2 ⟨fun span member => (inside.within span member).1, inside.sorted⟩
  · rw [outer_bare rfl]
    simpa [apartParts] using inside.apart
  · apply everywhere_iff.2
    exact ⟨trivial,
      List.forall_mem_cons.2 ⟨key.siblings, List.forall_mem_singleton.2 inside.siblings⟩⟩
  · apply everywhere_iff.2
    exact ⟨trivial,
      List.forall_mem_cons.2 ⟨key.templates, List.forall_mem_singleton.2 inside.templates⟩⟩

end Node

end Ecmascript
