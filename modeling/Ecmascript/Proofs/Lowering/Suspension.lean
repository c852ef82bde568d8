import Ecmascript.Proofs.Lowering.NormalForm

/-!
# Lowering and suspended functions

A generator is suspended by `yield` and an asynchronous function by `await`, so each of them has to
stand in a function that can be suspended that way. The parameters of an arrow function are read in
the function around it. They become the parameters of a function of its own when the arrow function
is lowered, and that function is no generator, and asynchronous only if the arrow function is. So
lowering arrow functions keeps every `yield` and `await` in a legal place just when the script has
none in the parameters of an arrow function that the arrow function itself would not allow.
-/

set_option autoImplicit false

namespace Ecmascript

/-- The nearest function with its parameters, body of an arrow function or value of a field. -/
structure Boundary where
  isGenerator : Bool
  isAsync : Bool

namespace Boundary

/-- What is neither a generator nor asynchronous: the script itself and the value of a field. -/
def plain : Boundary :=
  { isGenerator := false, isAsync := false }

/-- A `yield` belongs to a generator and an `await` to an asynchronous function. -/
def Admits (boundary : Boundary) : {category : Category} → Node category → Prop
  | _, .yieldExpression _ _ => boundary.isGenerator = true
  | _, .awaitExpression _ => boundary.isAsync = true
  | _, _ => True

/-- The boundary around the parts of a phrase. The parameters of an arrow function count to the
arrow function or to what is around it. -/
def inside (ownsParameters : Bool) (boundary : Boundary) :
    {category : Category} → Node category → Category → Boundary
  | _, .function _ isGenerator isAsync _ _, _ => { isGenerator, isAsync }
  | _, .arrowFunction isAsync _ _, part =>
      if part = .arrowBody || ownsParameters then { isGenerator := false, isAsync } else boundary
  | _, .fieldMember _ _ _, part =>
      if part = .option (.located .expression) then plain else boundary
  | _, _, _ => boundary

end Boundary

/-- Every `yield` stands in a generator and every `await` in an asynchronous function. -/
def suspension (ownsParameters : Bool) : Discipline Boundary where
  allows boundary node := boundary.Admits node
  inside boundary node part := boundary.inside ownsParameters node part

/-- The boundary around a site. -/
def Site.boundary (site : Site) : Boundary :=
  { isGenerator := site.inGenerator, isAsync := site.inAsync }

variable {settings : Settings} {owns : Bool} {boundary : Boundary} {start stop : Nat}
  {category : Category} {node : Node category}

namespace Node

/-! ## Single phrases -/

/-- Whether a phrase is neither suspended nor a boundary. -/
def isTransparent : {category : Category} → Node category → Bool
  | _, .yieldExpression _ _ => false
  | _, .awaitExpression _ => false
  | _, .function _ _ _ _ _ => false
  | _, .arrowFunction _ _ _ => false
  | _, .fieldMember _ _ _ => false
  | _, _ => true

theorem inside_of_transparent (transparent : node.isTransparent = true) (part : Category) :
    boundary.inside owns node part = boundary := by
  cases node <;> first | rfl | cases transparent

/-- A phrase that is neither suspended nor a boundary is as legal as its parts. -/
theorem obeys_suspension_iff (transparent : node.isTransparent = true) :
    node.Obeys (suspension owns) boundary ↔
      ∀ part ∈ node.parts, part.2.Obeys (suspension owns) boundary := by
  have allowed : boundary.Admits node := by
    cases node <;> trivial
  rw [obeys_iff]
  refine (and_iff_right allowed).trans (forall₂_congr fun part _ => ?_)
  exact iff_of_eq (congrArg (Obeys _ · part.2) (inside_of_transparent transparent part.1))

theorem obeys_suspension_leaf (transparent : node.isTransparent = true)
    (leaf : node.parts = []) : node.Obeys (suspension owns) boundary := by
  rw [obeys_suspension_iff transparent, leaf]
  nofun

theorem obeys_suspension_one {inner : Category} {part : Node inner}
    (transparent : node.isTransparent = true) (whole : node.parts = [⟨_, part⟩]) :
    node.Obeys (suspension owns) boundary ↔ part.Obeys (suspension owns) boundary := by
  rw [obeys_suspension_iff transparent, whole]
  exact List.forall_mem_singleton

theorem obeys_suspension_two {first second : Category} {part : Node first} {part' : Node second}
    (transparent : node.isTransparent = true) (whole : node.parts = [⟨_, part⟩, ⟨_, part'⟩]) :
    node.Obeys (suspension owns) boundary ↔
      part.Obeys (suspension owns) boundary ∧ part'.Obeys (suspension owns) boundary := by
  rw [obeys_suspension_iff transparent, whole]
  exact List.forall_mem_cons.trans (and_congr_right' List.forall_mem_singleton)

theorem obeys_suspension_located {item : Node category} :
    (Node.located start stop item).Obeys (suspension owns) boundary ↔
      item.Obeys (suspension owns) boundary :=
  obeys_suspension_one rfl rfl

theorem obeys_suspension_single {item : Node category} :
    (Node.single item).Obeys (suspension owns) boundary ↔
      item.Obeys (suspension owns) boundary := by
  have whole : (Node.single item).Obeys (suspension owns) boundary ↔
      item.Obeys (suspension owns) boundary ∧
        (.nil : Many category).Obeys (suspension owns) boundary := obeys_suspension_two rfl rfl
  exact whole.trans (and_iff_left (obeys_suspension_leaf rfl rfl))

/-- A map of the parts that keeps them legal keeps a phrase legal. -/
theorem obeys_suspension_mapParts {f : {category : Category} → Node category → Node category}
    (same : ∀ part ∈ node.parts, ∀ boundary,
      (f part.2).Obeys (suspension owns) boundary ↔ part.2.Obeys (suspension owns) boundary) :
    (node.mapParts f).Obeys (suspension owns) boundary ↔ node.Obeys (suspension owns) boundary := by
  have allowed : boundary.Admits (node.mapParts f) ↔ boundary.Admits node := by
    cases node <;> exact Iff.rfl
  have inside (part : Category) :
      boundary.inside owns (node.mapParts f) part = boundary.inside owns node part := by
    cases node <;> rfl
  rw [obeys_iff, obeys_iff, parts_mapParts, List.forall_mem_map]
  refine and_congr allowed (forall₂_congr fun part member => ?_)
  rw [← same part member]
  exact iff_of_eq (congrArg (Obeys _ · (f part.2)) (inside part.1))

end Node

/-! ## Rules -/

/-- A call of `Math.pow` is as legal as its operands. -/
theorem obeys_suspension_mathPow {left right : Located .expression} :
    (mathPow start left right).Obeys (suspension owns) boundary ↔
      left.Obeys (suspension owns) boundary ∧ right.Obeys (suspension owns) boundary := by
  have math : (Node.located start start (.identifier "Math")).Obeys (suspension owns) boundary :=
    Node.obeys_suspension_located.2 (Node.obeys_suspension_leaf rfl rfl)
  have pow : (Node.located start start (.word "pow")).Obeys (suspension owns) boundary :=
    Node.obeys_suspension_located.2 (Node.obeys_suspension_leaf rfl rfl)
  have callee : (Node.located start start (.memberExpression
      (.located start start (.identifier "Math")) (.located start start (.word "pow")))).Obeys
        (suspension owns) boundary :=
    Node.obeys_suspension_located.2 ((Node.obeys_suspension_two rfl rfl).2 ⟨math, pow⟩)
  refine Iff.trans (Node.obeys_suspension_two rfl rfl) ((and_iff_right callee).trans ?_)
  refine Iff.trans (Node.obeys_suspension_two rfl rfl) (and_congr_right' ?_)
  exact Node.obeys_suspension_single

/-- The expression that reads a target is as legal as the target. -/
theorem ReadAs.obeys_suspension_iff {target : Located .pattern} {value : Located .expression}
    (reading : ReadAs target value) :
    value.Obeys (suspension owns) boundary ↔ target.Obeys (suspension owns) boundary := by
  cases reading with
  | name start stop name =>
      rw [Node.obeys_suspension_located, Node.obeys_suspension_located]
      exact iff_of_true (Node.obeys_suspension_leaf rfl rfl) (Node.obeys_suspension_leaf rfl rfl)
  | member start stop expression =>
      rw [Node.obeys_suspension_located, Node.obeys_suspension_located]
      exact Iff.symm (Node.obeys_suspension_one rfl rfl)

/-- The block that the body of an arrow function becomes is as legal as the body. -/
theorem BecomesBlock.obeys_suspension_iff {body : Node .arrowBody} {block : Located .block}
    (becomes : BecomesBlock body block) :
    block.Obeys (suspension owns) boundary ↔ body.Obeys (suspension owns) boundary := by
  cases becomes with
  | block => exact Iff.symm (Node.obeys_suspension_one rfl rfl)
  | value start stop value =>
      refine Node.obeys_suspension_located.trans ?_
      refine Iff.trans (Node.obeys_suspension_one rfl rfl) ?_
      refine Node.obeys_suspension_single.trans (Node.obeys_suspension_located.trans ?_)
      refine Iff.trans (Node.obeys_suspension_one rfl rfl) ?_
      refine Iff.trans (Node.obeys_suspension_one rfl rfl) ?_
      exact Iff.symm (Node.obeys_suspension_one rfl rfl)

/-- A rule keeps what is suspended in legal places, if the parameters of an arrow function that it
lowers count to the arrow function. -/
theorem Rule.obeys_suspension_iff {before after : Node .expression}
    (rule : Rule settings start before after) (counted : settings.lowerArrow = true → owns = true) :
    after.Obeys (suspension owns) boundary ↔ before.Obeys (suspension owns) boundary := by
  cases rule with
  | power chosen left right =>
      exact obeys_suspension_mathPow.trans (Iff.symm (Node.obeys_suspension_two rfl rfl))
  | @powerAssignment chosen target value reading right =>
      -- The target is read once more, which is as legal as assigning to it.
      refine Iff.trans (Node.obeys_suspension_two rfl rfl) ?_
      refine Iff.trans ?_ (Iff.symm (Node.obeys_suspension_two rfl rfl))
      refine and_congr_right fun legal => ?_
      refine Node.obeys_suspension_located.trans (obeys_suspension_mathPow.trans ?_)
      exact and_iff_right (reading.obeys_suspension_iff.2 legal)
  | @arrow chosen isAsync parameters body block becomes =>
      obtain rfl := counted chosen
      let own : Boundary := { isGenerator := false, isAsync }
      have name : (.none : Optional (.located .word)).Obeys (suspension true) own :=
        Node.obeys_suspension_leaf rfl rfl
      have function : (Node.function .none false isAsync parameters block).Obeys (suspension true)
          boundary ↔ parameters.Obeys (suspension true) own ∧ block.Obeys (suspension true) own := by
        refine Node.obeys_iff.trans ((and_iff_right trivial).trans ?_)
        refine List.forall_mem_cons.trans ((and_iff_right name).trans ?_)
        exact List.forall_mem_cons.trans (and_congr_right' List.forall_mem_singleton)
      have arrow : (Node.arrowFunction isAsync parameters body).Obeys (suspension true) boundary ↔
          parameters.Obeys (suspension true) own ∧ body.Obeys (suspension true) own := by
        refine Node.obeys_iff.trans ((and_iff_right trivial).trans ?_)
        exact List.forall_mem_cons.trans (and_congr_right' List.forall_mem_singleton)
      refine Iff.trans (Node.obeys_suspension_one rfl rfl) (function.trans (.trans ?_ arrow.symm))
      exact and_congr_right' becomes.obeys_suspension_iff

/-! ## Trees -/

theorem obeys_suspension_lowerExpression {expression : Node .expression}
    (counted : settings.lowerArrow = true → owns = true) :
    (lowerExpression settings start expression).Obeys (suspension owns) boundary ↔
      expression.Obeys (suspension owns) boundary := by
  rcases lowerExpression_cases expression with ⟨same, _⟩ | rule
  · rw [same]
  · exact rule.obeys_suspension_iff counted

/-- Lowering keeps what is suspended in legal places, if the parameters of the arrow functions that
it lowers count to the arrow functions. -/
theorem obeys_suspension_lower (counted : settings.lowerArrow = true → owns = true)
    (node : Node category) : ∀ boundary,
      (node.lower settings).Obeys (suspension owns) boundary ↔
        node.Obeys (suspension owns) boundary := by
  induction node using Node.induction_on_parts with
  | step node ih =>
      intro boundary
      have kept : (node.mapParts (Node.lower settings)).Obeys (suspension owns) boundary ↔
          node.Obeys (suspension owns) boundary := Node.obeys_suspension_mapParts ih
      cases node with
      | @located category start stop item =>
          have inside := ih ⟨_, item⟩ (List.mem_singleton.2 rfl) boundary
          cases category with
          | expression =>
              rw [lower_located_expression, Node.obeys_suspension_located,
                Node.obeys_suspension_located, obeys_suspension_lowerExpression counted]
              exact inside
          | loopHead =>
              cases item with
              | expressionHead expression =>
                  rw [lower_located_head, Node.obeys_suspension_located,
                    Node.obeys_suspension_located]
                  refine Iff.trans (Node.obeys_suspension_one rfl rfl) ?_
                  refine (obeys_suspension_lowerExpression counted).trans (.trans ?_ inside)
                  exact Iff.symm (Node.obeys_suspension_one rfl rfl)
              | _ => exact kept
          | _ => exact kept
      | _ => exact kept

/-- Without arrow functions it does not matter what their parameters count to. -/
theorem obeys_suspension_of_no_arrow (none : node.Everywhere fun node => node.isArrow = false) :
    node.Obeys (suspension true) boundary ↔ node.Obeys (suspension false) boundary := by
  induction node using Node.induction_on_parts generalizing boundary with
  | step node ih =>
      obtain ⟨other, below⟩ := Node.everywhere_iff.1 none
      have inside (part : Category) :
          boundary.inside true node part = boundary.inside false node part := by
        cases node <;> first | rfl | cases other
      rw [Node.obeys_iff, Node.obeys_iff]
      refine and_congr_right' (forall₂_congr fun part member => ?_)
      refine (ih part member (below part member)).trans ?_
      exact iff_of_eq (congrArg (Node.Obeys _ · part.2) (inside part.1))

/-! ## Grammatical trees -/

theorem Site.boundary_inside {site : Site} (transparent : node.isTransparent = true) :
    ∀ part ∈ node.parts, (site.inside node part.1).boundary = site.boundary := by
  cases node with
  | function | arrowFunction | fieldMember => contradiction
  | cons head tail =>
      intro part _
      change (if _ then _ else _ : Site).boundary = site.boundary
      split <;> rfl
  | _ => repeat' first
      | exact List.forall_mem_nil _
      | refine List.forall_mem_cons.2 ⟨rfl, ?_⟩

/-- A label is legal anywhere. -/
theorem obeys_suspension_label (label : Optional (.located .word)) :
    label.Obeys (suspension owns) boundary := by
  cases label with
  | none => exact Node.obeys_suspension_leaf rfl rfl
  | some label =>
      cases label with
      | located start stop label =>
          refine (Node.obeys_suspension_one rfl rfl).2 (Node.obeys_suspension_located.2 ?_)
          cases label
          exact Node.obeys_suspension_leaf rfl rfl

/-- A grammatical tree is legal where the parameters of an arrow function count to what is around
the arrow function. -/
theorem obeys_suspension_of_grammatical {site : Site} (obeys : node.Obeys grammatical site) :
    node.Obeys (suspension false) site.boundary := by
  induction obeys with
  | @intro category site node admits _ ih =>
      cases transparent : node.isTransparent with
      | true =>
          refine (Node.obeys_suspension_iff transparent).2 fun part member => ?_
          rw [← Site.boundary_inside transparent part member]
          exact ih part member
      | false =>
          cases node with
          | yieldExpression _ _ | awaitExpression _ =>
              exact .intro admits (List.forall_mem_singleton.2 (ih _ (.head _)))
          | function name isGenerator isAsync parameters body =>
              exact .intro trivial (List.forall_mem_cons.2 ⟨obeys_suspension_label name,
                List.forall_mem_cons.2 ⟨ih ⟨_, parameters⟩ (.tail _ (.head _)),
                  List.forall_mem_singleton.2 (ih ⟨_, body⟩ (.tail _ (.tail _ (.head _))))⟩⟩)
          | arrowFunction _ parameters body =>
              exact .intro trivial (List.forall_mem_cons.2 ⟨ih ⟨_, parameters⟩ (.head _),
                List.forall_mem_singleton.2 (ih ⟨_, body⟩ (.tail _ (.head _)))⟩)
          | fieldMember _ key value =>
              exact .intro trivial (List.forall_mem_cons.2 ⟨ih ⟨_, key⟩ (.head _),
                List.forall_mem_singleton.2 (ih ⟨_, value⟩ (.tail _ (.head _)))⟩)
          | _ => cases transparent

/-! ## Accepted scripts -/

/-- Every `yield` of an accepted script belongs to a generator and every `await` to an asynchronous
function. Lowering keeps it so unless it lowers arrow functions, and then just when it is so in the
script as well if the parameters of arrow functions count to the arrow functions. -/
theorem parse_lower_suspension_iff {source : String} {program : Program}
    (accepted : parse source = .ok program) (settings : Settings) :
    program.body.Obeys (suspension false) Boundary.plain ∧
      ((program.lower settings).body.Obeys (suspension false) Boundary.plain ↔
        (settings.lowerArrow = true → program.body.Obeys (suspension true) Boundary.plain)) := by
  have legal : program.body.Obeys (suspension false) Boundary.plain := by
    obtain ⟨_, _, _, _, inside⟩ := covers_of_parseWith accepted
    exact obeys_suspension_of_grammatical (inside.grammatical .script)
  refine ⟨legal, ?_⟩
  cases chosen : settings.lowerArrow with
  | false =>
      have kept : (program.lower settings).body.Obeys (suspension false) Boundary.plain :=
        (obeys_suspension_lower (fun lowers => by rw [chosen] at lowers; cases lowers)
          program.body Boundary.plain).2 legal
      exact iff_of_true kept nofun
  | true =>
      -- No arrow function is left, so the lowered script can be read either way.
      have spares : settings.Spares (program.lower settings).body :=
        (settles_lower (isLowerable_of_parse accepted)).spares rfl
      have none : (program.lower settings).body.Everywhere fun node => node.isArrow = false :=
        spares.mono fun kept => (Settings.chooses_eq_false_iff.1 kept).2 chosen
      refine (obeys_suspension_of_no_arrow none).symm.trans ?_
      refine (obeys_suspension_lower (fun _ => rfl) program.body Boundary.plain).trans ?_
      exact ⟨fun legal _ => legal, fun legal => legal rfl⟩

/-- An `await` in a parameter of an arrow function is legal, but not in the function that the arrow
function is lowered to. -/
theorem parse_lower_suspension_default :
    let awaited : Located .expression :=
      .located 16 23 (.awaitExpression (.located 22 23 (.identifier "c")))
    let parameter : Located .pattern := .located 12 23
      (.defaultPattern (.located 12 13 (.bindingIdentifier "b")) awaited)
    let inner : Located .expression := .located 11 29 (.arrowFunction false (.single parameter)
      (.expressionBody (.located 28 29 (.identifier "b"))))
    let outer : Located .expression := .located 0 29 (.arrowFunction true
      (.single (.located 6 7 (.bindingIdentifier "a"))) (.expressionBody inner))
    let script : Program :=
      { start := 0, stop := 29, body := .single (.located 0 29 (.expressionStatement outer)) }
    parse "async a => (b = await c) => b" = .ok script ∧
      script.body.Obeys (suspension false) Boundary.plain ∧
      ¬ (script.lower Settings.es5).body.Obeys (suspension false) Boundary.plain := by
  intro awaited parameter inner outer script
  have accepted : parse "async a => (b = await c) => b" = .ok script := by
    decide +kernel
  obtain ⟨legal, lowered⟩ := parse_lower_suspension_iff accepted Settings.es5
  refine ⟨accepted, legal, fun kept => ?_⟩
  have statement := ((lowered.1 kept rfl).part (.head _)).part (.head _)
  have outermost := (statement.part (.head _)).part (.head _)
  have body := ((outermost.part (.tail _ (.head _))).part (.head _)).part (.head _)
  have parameter := ((body.part (.head _)).part (.head _)).part (.head _)
  have default := (parameter.part (.tail _ (.head _))).part (.head _)
  exact Bool.false_ne_true (Node.obeys_iff.1 default).1

end Ecmascript
