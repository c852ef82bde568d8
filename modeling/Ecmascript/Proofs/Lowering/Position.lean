import Ecmascript.Proofs.Cover.Order
import Ecmascript.Proofs.Cover.Position
import Ecmascript.Proofs.Lowering.Composition

/-!
# Positions in lowered scripts

What lowering puts into a tree stands inside the phrases around it as well. Most new phrases have
the position of a phrase that they replace, or no width at all. Only the call that stands for a
power assignment has a position of its own, from where the target begins to where the value ends,
so it matters that an accepted script has the target of an assignment in front of the value.
-/

set_option autoImplicit false

namespace Ecmascript

/-! ## Phrases inside each other -/

/-- Whether a phrase may stand between two offsets. -/
def Span.Encloses (around : Span) {category : Category} (node : Node category) : Prop :=
  match node with
  | .located start stop _ => around.start ≤ start ∧ start ≤ stop ∧ stop ≤ around.stop
  | _ => True

/-- Where the parts of a phrase have to stay: inside the phrase if it has a position. -/
def Span.inside (around : Span) {category : Category} (node : Node category) : Span :=
  match node with
  | .located start stop _ => ⟨start, stop⟩
  | _ => around

/-- Located phrases lie inside each other. They may be empty. -/
def enclosed : Discipline Span where
  allows around node := around.Encloses node
  inside around node _ := around.inside node

variable {settings : Settings} {source : Text} {around : Span} {start stop : Nat}
  {category : Category} {node : Node category}

namespace Node

theorem obeys_enclosed_located {item : Node category} :
    (Node.located start stop item).Obeys enclosed around ↔
      (around.start ≤ start ∧ start ≤ stop ∧ stop ≤ around.stop) ∧
        item.Obeys enclosed ⟨start, stop⟩ :=
  obeys_iff.trans (and_congr_right' List.forall_mem_singleton)

/-- A phrase without a position is enclosed when its parts are. -/
theorem obeys_enclosed_iff (bare : node.span? = Option.none) :
    node.Obeys enclosed around ↔ ∀ part ∈ node.parts, part.2.Obeys enclosed around := by
  rw [obeys_iff]
  cases node with
  | located _ _ _ => cases bare
  | _ => exact and_iff_right trivial

theorem obeys_enclosed_leaf (bare : node.span? = Option.none) (leaf : node.parts = []) :
    node.Obeys enclosed around := by
  rw [obeys_enclosed_iff bare, leaf]
  nofun

theorem obeys_enclosed_one {inner : Category} {part : Node inner}
    (bare : node.span? = Option.none) (whole : node.parts = [⟨_, part⟩]) :
    node.Obeys enclosed around ↔ part.Obeys enclosed around := by
  rw [obeys_enclosed_iff bare, whole]
  exact List.forall_mem_singleton

theorem obeys_enclosed_two {first second : Category} {part : Node first} {part' : Node second}
    (bare : node.span? = Option.none) (whole : node.parts = [⟨_, part⟩, ⟨_, part'⟩]) :
    node.Obeys enclosed around ↔ part.Obeys enclosed around ∧ part'.Obeys enclosed around := by
  rw [obeys_enclosed_iff bare, whole]
  exact List.forall_mem_cons.trans (and_congr_right' List.forall_mem_singleton)

theorem obeys_enclosed_single {item : Node category} :
    (Node.single item).Obeys enclosed around ↔ item.Obeys enclosed around := by
  have whole : (Node.single item).Obeys enclosed around ↔ item.Obeys enclosed around ∧
      (.nil : Many category).Obeys enclosed around := obeys_enclosed_two rfl rfl
  exact whole.trans (and_iff_left (obeys_enclosed_leaf rfl rfl))

/-- A phrase that is enclosed somewhere is enclosed wherever it begins and ends inside. -/
theorem Obeys.between {phrase : Located category} (obeys : phrase.Obeys enclosed around)
    {around' : Span} (begins : around'.start ≤ phrase.start) (ends : phrase.stop ≤ around'.stop) :
    phrase.Obeys enclosed around' := by
  cases phrase
  obtain ⟨⟨_, filled, _⟩, inside⟩ := obeys_enclosed_located.1 obeys
  exact obeys_enclosed_located.2 ⟨⟨begins, filled, ends⟩, inside⟩

theorem Obeys.bounds {phrase : Located category} (obeys : phrase.Obeys enclosed around) :
    around.start ≤ phrase.start ∧ phrase.start ≤ phrase.stop ∧ phrase.stop ≤ around.stop := by
  cases phrase
  exact (obeys_enclosed_located.1 obeys).1

/-! ## Assignments -/

/-- The target of an assignment stands in front of the value. -/
def TargetFirst : Node .expression → Prop
  | .assignmentExpression _ target value => target.stop ≤ value.start
  | _ => True

theorem targetFirst_of_apart {expression : Node .expression}
    (apart : expression.outer.Pairwise fun first second => first.stop ≤ second.start) :
    expression.TargetFirst := by
  cases expression with
  | assignmentExpression operator target value =>
      cases target
      cases value
      rw [outer_bare rfl] at apart
      simpa [apartParts, inOrder, parts, outer_located, TargetFirst, Node.start, Node.stop]
        using apart
  | _ => trivial

theorem outer_expressionHead {expression : Node .expression} :
    (Node.expressionHead expression).outer = expression.outer := by
  rw [outer_bare rfl]
  exact List.flatMap_singleton ..

theorem TargetFirst.lower {expression : Node .expression} (ordered : expression.TargetFirst) :
    (expression.lower settings).TargetFirst := by
  cases expression with
  | assignmentExpression operator target value =>
      cases target
      cases value
      exact ordered
  | _ => trivial

end Node

/-! ## Rules -/

/-- A call of `Math.pow` is enclosed where its operands are: its callee has no width. -/
theorem obeys_enclosed_mathPow {left right : Located .expression} (filled : start ≤ stop)
    (first : left.Obeys enclosed ⟨start, stop⟩) (second : right.Obeys enclosed ⟨start, stop⟩) :
    (mathPow start left right).Obeys enclosed ⟨start, stop⟩ := by
  have empty {category : Category} {around : Span} {node : Node category}
      (begins : around.start ≤ start) (ends : start ≤ around.stop)
      (obeys : node.Obeys enclosed ⟨start, start⟩) :
      (Node.located start start node).Obeys enclosed around :=
    Node.obeys_enclosed_located.2 ⟨⟨begins, Nat.le_refl _, ends⟩, obeys⟩
  have object : (Node.located start start (.identifier "Math")).Obeys enclosed ⟨start, start⟩ :=
    empty (Nat.le_refl _) (Nat.le_refl _) (Node.obeys_enclosed_leaf rfl rfl)
  have property : (Node.located start start (.word "pow")).Obeys enclosed ⟨start, start⟩ :=
    empty (Nat.le_refl _) (Nat.le_refl _) (Node.obeys_enclosed_leaf rfl rfl)
  have callee : (Node.located start start (.memberExpression
      (.located start start (.identifier "Math")) (.located start start (.word "pow")))).Obeys
        enclosed ⟨start, stop⟩ :=
    empty (Nat.le_refl _) filled ((Node.obeys_enclosed_two rfl rfl).2 ⟨object, property⟩)
  have arguments : (Node.cons left (.single right)).Obeys enclosed ⟨start, stop⟩ :=
    (Node.obeys_enclosed_two rfl rfl).2 ⟨first, Node.obeys_enclosed_single.2 second⟩
  exact (Node.obeys_enclosed_two rfl rfl).2 ⟨callee, arguments⟩

/-- The expression that reads a target stands where the target does. -/
theorem ReadAs.obeys_enclosed {target : Located .pattern} {value : Located .expression}
    (reading : ReadAs target value) (obeys : target.Obeys enclosed around) :
    value.start = target.start ∧ value.stop = target.stop ∧ value.Obeys enclosed around := by
  cases reading with
  | name start stop name =>
      obtain ⟨bounds, _⟩ := Node.obeys_enclosed_located.1 obeys
      exact ⟨rfl, rfl, Node.obeys_enclosed_located.2 ⟨bounds, Node.obeys_enclosed_leaf rfl rfl⟩⟩
  | member start stop expression =>
      obtain ⟨bounds, inside⟩ := Node.obeys_enclosed_located.1 obeys
      exact ⟨rfl, rfl, Node.obeys_enclosed_located.2
        ⟨bounds, (Node.obeys_enclosed_one rfl rfl).1 inside⟩⟩

/-- The block that the value of an arrow function becomes, and the `return` in it, stand where the
value does. -/
theorem BecomesBlock.obeys_enclosed {body : Node .arrowBody} {block : Located .block}
    (becomes : BecomesBlock body block) (obeys : body.Obeys enclosed around) :
    block.Obeys enclosed around := by
  cases becomes with
  | block => exact (Node.obeys_enclosed_one rfl rfl).1 obeys
  | value start stop value =>
      have placed : (Node.located start stop value).Obeys enclosed around :=
        (Node.obeys_enclosed_one rfl rfl).1 obeys
      obtain ⟨bounds, inside⟩ := Node.obeys_enclosed_located.1 placed
      have whole : start ≤ start ∧ start ≤ stop ∧ stop ≤ stop :=
        ⟨Nat.le_refl _, bounds.2.1, Nat.le_refl _⟩
      have placed : (Node.located start stop value).Obeys enclosed ⟨start, stop⟩ :=
        Node.obeys_enclosed_located.2 ⟨whole, inside⟩
      have result : (Node.some (.located start stop value)).Obeys enclosed ⟨start, stop⟩ :=
        (Node.obeys_enclosed_one rfl rfl).2 placed
      have returned : (Node.returnStatement (.some (.located start stop value))).Obeys enclosed
          ⟨start, stop⟩ :=
        (Node.obeys_enclosed_one rfl rfl).2 result
      have placed : (Node.located start stop (.returnStatement (.some _))).Obeys enclosed
          ⟨start, stop⟩ :=
        Node.obeys_enclosed_located.2 ⟨whole, returned⟩
      have statement := Node.obeys_enclosed_single.2 placed
      exact Node.obeys_enclosed_located.2 ⟨bounds, (Node.obeys_enclosed_one rfl rfl).2 statement⟩

/-- What a rule leaves stays where the expression was. -/
theorem Rule.obeys_enclosed {before after : Node .expression}
    (rule : Rule settings start before after) (filled : start ≤ stop)
    (ordered : before.TargetFirst) (obeys : before.Obeys enclosed ⟨start, stop⟩) :
    after.Obeys enclosed ⟨start, stop⟩ := by
  cases rule with
  | power _ left right =>
      obtain ⟨first, second⟩ := (Node.obeys_enclosed_two rfl rfl).1 obeys
      exact obeys_enclosed_mathPow filled first second
  | @powerAssignment _ target value reading right =>
      obtain ⟨assigned, operand⟩ := (Node.obeys_enclosed_two rfl rfl).1 obeys
      obtain ⟨begins, ends, read⟩ := reading.obeys_enclosed assigned
      obtain ⟨target_begins, target_filled, _⟩ :
          start ≤ target.start ∧ target.start ≤ target.stop ∧ target.stop ≤ stop := assigned.bounds
      obtain ⟨_, right_filled, right_ends⟩ :
          start ≤ right.start ∧ right.start ≤ right.stop ∧ right.stop ≤ stop := operand.bounds
      -- The call reaches over both operands because the target is the first of them.
      have first : target.stop ≤ right.start := ordered
      have ends_inside : value.stop ≤ right.stop := by omega
      have begins_inside : value.start ≤ right.start := by omega
      have wide : value.start ≤ right.stop := Nat.le_trans begins_inside right_filled
      have call : (mathPow value.start value right).Obeys enclosed ⟨value.start, right.stop⟩ :=
        obeys_enclosed_mathPow wide (read.between (Nat.le_refl _) ends_inside)
          (operand.between begins_inside (Nat.le_refl _))
      have written : (Node.located value.start right.stop (mathPow value.start value right)).Obeys
          enclosed ⟨start, stop⟩ :=
        Node.obeys_enclosed_located.2 ⟨⟨begins ▸ target_begins, wide, right_ends⟩, call⟩
      exact (Node.obeys_enclosed_two rfl rfl).2 ⟨assigned, written⟩
  | @arrow _ isAsync parameters body block becomes =>
      obtain ⟨first, second⟩ := (Node.obeys_enclosed_two rfl rfl).1 obeys
      have nameless : (.none : Optional (.located .word)).Obeys enclosed ⟨start, stop⟩ :=
        Node.obeys_enclosed_leaf rfl rfl
      have body := becomes.obeys_enclosed second
      have definition : (Node.function .none false isAsync parameters block).Obeys enclosed
          ⟨start, stop⟩ := by
        apply (Node.obeys_enclosed_iff rfl).2
        exact List.forall_mem_cons.2 ⟨nameless, List.forall_mem_cons.2
          ⟨first, List.forall_mem_singleton.2 body⟩⟩
      exact (Node.obeys_enclosed_one rfl rfl).2 definition

/-! ## Trees -/

theorem obeys_enclosed_lowerExpression {expression : Node .expression} (filled : start ≤ stop)
    (ordered : expression.TargetFirst) (obeys : expression.Obeys enclosed ⟨start, stop⟩) :
    (lowerExpression settings start expression).Obeys enclosed ⟨start, stop⟩ := by
  rcases lowerExpression_cases expression with ⟨same, _⟩ | rule
  · rw [same]
    exact obeys
  · exact rule.obeys_enclosed filled ordered obeys

/-- A pass of lowering leaves phrases inside each other where they were so and siblings apart. -/
theorem obeys_enclosed_lower (settings : Settings) (node : Node category) :
    ∀ extent : Extent, node.Obeys (positions source) extent →
      node.Everywhere Node.SiblingsApart →
      (node.lower settings).Obeys enclosed ⟨extent.start, extent.stop⟩ := by
  induction node using Node.induction_on_parts with
  | step node ih =>
      intro extent placed siblings
      obtain ⟨holds, placedParts⟩ := Node.obeys_iff.1 placed
      obtain ⟨apart, siblingParts⟩ := Node.everywhere_iff.1 siblings
      have parts : ∀ part ∈ node.parts, (part.2.lower settings).Obeys enclosed
          ⟨(extent.inside node part.1).start, (extent.inside node part.1).stop⟩ :=
        fun part member => ih part member _ (placedParts part member) (siblingParts part member)
      have mapped : ∀ part ∈ (node.mapParts (Node.lower settings)).parts, part.2.Obeys enclosed
          ⟨(extent.inside node part.1).start, (extent.inside node part.1).stop⟩ := by
        rw [Node.parts_mapParts, List.forall_mem_map]
        exact parts
      cases node with
      | @located category start stop item =>
          obtain ⟨begins, filled, ends, _⟩ := holds
          have bounds := And.intro begins (And.intro filled ends)
          have inside : (item.lower settings).Obeys enclosed ⟨start, stop⟩ :=
            parts ⟨_, item⟩ (List.mem_singleton.2 rfl)
          cases category with
          | expression =>
              have ordered : (Node.lower settings item).TargetFirst :=
                (Node.targetFirst_of_apart apart).lower
              exact Node.obeys_enclosed_located.2
                ⟨bounds, obeys_enclosed_lowerExpression filled ordered inside⟩
          | loopHead =>
              cases item with
              | expressionHead expression =>
                  have inside := (Node.obeys_enclosed_one rfl rfl).1 inside
                  have outermost : (Node.expressionHead expression).outer.Pairwise _ := apart
                  rw [Node.outer_expressionHead] at outermost
                  have ordered : (Node.lower settings expression).TargetFirst :=
                    (Node.targetFirst_of_apart outermost).lower
                  have lowered : (lowerExpression settings start _).Obeys enclosed _ :=
                    obeys_enclosed_lowerExpression filled ordered inside
                  exact Node.obeys_enclosed_located.2
                    ⟨bounds, (Node.obeys_enclosed_one rfl rfl).2 lowered⟩
              | _ => exact Node.obeys_enclosed_located.2 ⟨bounds, inside⟩
          | _ => exact Node.obeys_enclosed_located.2 ⟨bounds, inside⟩
      | _ => exact (Node.obeys_enclosed_iff rfl).2 mapped

/-! ## Passes -/

/-- A script lowered once for each settings, one after the other. -/
def Program.lowerAll (passes : List Settings) (program : Program) : Program :=
  passes.foldl (fun program settings => program.lower settings) program

/-- Any number of passes is one pass under what any of them chooses. -/
theorem lowerAll_lower {program : Program} (lowerable : program.body.Everywhere Node.IsLowerable)
    (passes : List Settings) (settings : Settings) :
    (program.lower settings).lowerAll passes =
      program.lower (passes.foldl Settings.union settings) := by
  induction passes generalizing settings with
  | nil => rfl
  | cons first rest ih =>
      have twice : (program.lower settings).lower first = program.lower (settings.union first) :=
        congrArg (fun body => { program with body }) (lower_lower lowerable)
      change ((program.lower settings).lower first).lowerAll rest = _
      rw [twice]
      exact ih (settings.union first)

theorem lower_unchanged {program : Program} (lowerable : program.body.Everywhere Node.IsLowerable) :
    program.lower Settings.unchanged = program := by
  have spares : Settings.unchanged.Spares program.body := lowerable.mono fun _ => rfl
  exact congrArg (fun body => { program with body }) (lower_eq_self spares)

/-- After any passes of lowering, every located phrase of an accepted script lies inside the phrases
around it and inside the script, which spans the source. -/
theorem parse_lowerAll_enclosed {source : String} {program : Program}
    (accepted : parse source = .ok program) (passes : List Settings) :
    (program.lowerAll passes).body.Obeys enclosed
      { start := 0, stop := Text.byteLength source.toList } := by
  obtain ⟨_, _, ts, between, inside⟩ := covers_of_parseWith accepted
  have lowerable : program.body.Everywhere Node.IsLowerable := isLowerable_of_parse accepted
  have placed : program.body.Obeys (positions source.toList)
      { start := 0, stop := Text.byteLength source.toList, isChunk := false } :=
    inside.positions between nofun
  have laid : program.body.Laid _ _ := inside.lays _ _ (Nat.zero_le _) between
  have whole := lowerAll_lower lowerable passes Settings.unchanged
  rw [lower_unchanged lowerable] at whole
  rw [whole]
  exact obeys_enclosed_lower _ program.body _ placed laid.siblings

/-- A power assigned to a target, lowered first for powers only and then for everything. -/
theorem parse_lowerAll_enclosed_power_assignment :
    ∃ script, parse "a**=b**c" = .ok script ∧
      (script.lowerAll [Settings.es2015, Settings.es5]).body.Obeys enclosed
        { start := 0, stop := 8 } := by
  have accepted : (parse "a**=b**c").toOption.isSome = true := by decide +kernel
  cases reading : parse "a**=b**c" with
  | error _ =>
      rw [reading] at accepted
      cases accepted
  | ok script =>
      exact ⟨script, rfl, parse_lowerAll_enclosed reading [Settings.es2015, Settings.es5]⟩

end Ecmascript
