import Ecmascript.Proofs.Lowering.NormalForm

/-!
# Lowering twice

Lowering under some settings and then under others is lowering once under both. A rule that applies
in the first pass leaves a phrase that the second pass lowers part by part, so what has to be shown
is that every rule commutes with lowering the parts of the expression that it applies to.
-/

set_option autoImplicit false

namespace Ecmascript

/-- What either of two settings chooses. -/
def Settings.union (first second : Settings) : Settings :=
  { lowerPower := first.lowerPower || second.lowerPower
    lowerArrow := first.lowerArrow || second.lowerArrow }

variable {first second settings : Settings} {start stop : Nat} {category : Category}
  {node : Node category} {expression : Node .expression}

/-! ## One expression -/

theorem chooses_union : (first.union second).chooses node =
    (first.chooses node || second.chooses node) := by
  simp only [Settings.chooses, Settings.union]
  cases first.lowerPower <;> cases second.lowerPower <;> cases first.lowerArrow <;>
    cases second.lowerArrow <;> cases node.isPower <;> cases node.isArrow <;> rfl

/-- A rule says how an expression is lowered. -/
theorem Rule.lowers {before after : Node .expression} (rule : Rule settings start before after) :
    lowerExpression settings start before = after := by
  obtain ⟨power, arrow⟩ := settings
  cases rule with
  | power chosen left right =>
      cases chosen
      cases arrow <;> rfl
  | powerAssignment chosen reading right =>
      cases chosen
      cases reading <;> cases arrow <;> rfl
  | arrow chosen isAsync parameters becomes =>
      cases chosen
      cases becomes <;> cases power <;> rfl

theorem Rule.mono {before after : Node .expression} (rule : Rule first start before after)
    (power : first.lowerPower = true → second.lowerPower = true)
    (arrow : first.lowerArrow = true → second.lowerArrow = true) :
    Rule second start before after := by
  cases rule with
  | power chosen left right => exact .power (power chosen) left right
  | powerAssignment chosen reading right => exact .powerAssignment (power chosen) reading right
  | arrow chosen isAsync parameters becomes =>
      exact .arrow (arrow chosen) isAsync parameters becomes

/-- Settings that do not choose an expression do not matter to it. -/
theorem lowerExpression_union (lowerable : expression.IsLowerable)
    (kept : first.chooses expression = false) :
    lowerExpression second start expression =
      lowerExpression (first.union second) start expression := by
  rcases lowerExpression_cases expression with ⟨same, kept'⟩ | rule
  · have neither : (first.union second).chooses expression = false := by
      rw [chooses_union, kept, kept' lowerable]
      rfl
    rw [same, lowerExpression_eq_self neither]
  · have both : Rule (first.union second) start expression _ :=
      rule.mono (fun chosen => by simp [Settings.union, chosen])
        fun chosen => by simp [Settings.union, chosen]
    exact both.lowers.symm

/-- Lowering the parts of an expression does not change of what kind it is. -/
theorem chooses_lower : settings.chooses (expression.lower first) = settings.chooses expression := by
  cases expression with
  | binaryExpression operator _ _ | assignmentExpression operator _ _ => cases operator <;> rfl
  | _ => rfl

theorem mathPow_lower {left right : Located .expression} :
    (mathPow start left right).lower settings =
      mathPow start (left.lower settings) (right.lower settings) := by
  obtain ⟨power, arrow⟩ := settings
  cases power <;> cases arrow <;> rfl

/-! ## Rules and parts -/

theorem start_lower {value : Located .expression} :
    (value.lower settings).start = value.start := by
  cases value
  rfl

theorem stop_lower {value : Located .expression} : (value.lower settings).stop = value.stop := by
  cases value
  rfl

/-- A target that is lowered is read as the lowered expression. -/
theorem ReadAs.lower {target : Located .pattern} {value : Located .expression}
    (reading : ReadAs target value) (readable : target.isReadable = true) :
    ReadAs (target.lower settings) (value.lower settings) := by
  cases reading with
  | name start stop name =>
      rw [lower_located_expression, lowerExpression_eq_self (Settings.chooses_eq_false rfl rfl)]
      exact .name start stop name
  | member start stop expression =>
      have kept : settings.chooses (expression.lower settings) = false := by
        rw [chooses_lower]
        cases expression with
        | memberExpression _ _ | computedMember _ _ => exact Settings.chooses_eq_false rfl rfl
        | _ => cases readable
      rw [lower_located_expression, lowerExpression_eq_self kept]
      exact .member start stop (expression.lower settings)

theorem BecomesBlock.lower {body : Node .arrowBody} {block : Located .block}
    (becomes : BecomesBlock body block) :
    BecomesBlock (body.lower settings) (block.lower settings) := by
  cases becomes with
  | block => exact .block _
  | value start stop expression =>
      exact .value start stop (lowerExpression settings start (expression.lower settings))

/-- A rule applies to the lowered parts as it does to the parts, and what it leaves is not chosen
again. -/
theorem Rule.lower_parts {before after : Node .expression} (rule : Rule first start before after)
    (lowerable : before.IsLowerable) :
    Rule (first.union second) start (before.lower second) (after.lower second) ∧
      second.chooses (after.lower second) = false := by
  have power (chosen : first.lowerPower = true) : (first.union second).lowerPower = true := by
    simp [Settings.union, chosen]
  have arrow (chosen : first.lowerArrow = true) : (first.union second).lowerArrow = true := by
    simp [Settings.union, chosen]
  cases rule with
  | power chosen left right =>
      rw [mathPow_lower]
      exact ⟨.power (power chosen) _ _, Settings.chooses_eq_false rfl rfl⟩
  | @powerAssignment chosen target value reading right =>
      have readable : target.isReadable = true := lowerable.resolve_left nofun
      have call : (Node.located value.start right.stop (mathPow value.start value right)).lower second =
          .located (value.lower second).start (right.lower second).stop
            (mathPow (value.lower second).start (value.lower second) (right.lower second)) := by
        rw [lower_located_expression, mathPow_lower,
          lowerExpression_eq_self (Settings.chooses_eq_false rfl rfl), start_lower, stop_lower]
      have reading : ReadAs (target.lower second) (value.lower second) := reading.lower readable
      have rule : Rule (first.union second) start _ _ :=
        .powerAssignment (power chosen) reading (right.lower second)
      rw [← call] at rule
      exact ⟨rule, Settings.chooses_eq_false rfl rfl⟩
  | @arrow chosen isAsync parameters body block becomes =>
      exact ⟨.arrow (arrow chosen) isAsync (parameters.lower second) becomes.lower,
        Settings.chooses_eq_false rfl rfl⟩

/-- What lowering an expression leaves, lowered part by part and once more, is the expression
lowered once under both settings. -/
theorem lowerExpression_lower (lowerable : expression.IsLowerable) :
    lowerExpression second start ((lowerExpression first start expression).lower second) =
      lowerExpression (first.union second) start (expression.lower second) := by
  rcases lowerExpression_cases expression with ⟨same, kept⟩ | rule
  · rw [same]
    exact lowerExpression_union (isLowerable_lower lowerable)
      (chooses_lower.trans (kept lowerable))
  · obtain ⟨both, kept⟩ := rule.lower_parts lowerable
    rw [lowerExpression_eq_self kept, both.lowers]

/-! ## Trees -/

/-- Lowering twice is lowering once under both settings. -/
theorem lower_lower (lowerable : node.Everywhere Node.IsLowerable) :
    (node.lower first).lower second = node.lower (first.union second) := by
  induction node using Node.induction_on_parts with
  | step node ih =>
      obtain ⟨_, below⟩ := Node.everywhere_iff.1 lowerable
      have same : (node.mapParts (Node.lower first)).mapParts (Node.lower second) =
          node.mapParts (Node.lower (first.union second)) :=
        (Node.mapParts_mapParts _ _).trans
          (Node.mapParts_congr fun part member => ih part member (below part member))
      cases node with
      | @located category start stop item =>
          have lowered := ih ⟨_, item⟩ (List.mem_singleton.2 rfl)
            (below ⟨_, item⟩ (List.mem_singleton.2 rfl))
          obtain ⟨itself, inside⟩ := Node.everywhere_iff.1 (below ⟨_, item⟩ (List.mem_singleton.2 rfl))
          cases category with
          | expression =>
              rw [lower_located_expression, lower_located_expression, lower_located_expression,
                lowerExpression_lower (isLowerable_lower itself), lowered]
          | loopHead =>
              cases item with
              | expressionHead expression =>
                  have itself := (Node.everywhere_iff.1
                    (inside ⟨_, expression⟩ (List.mem_singleton.2 rfl))).1
                  have lowered : (expression.lower first).lower second =
                      expression.lower (first.union second) := by injection lowered
                  rw [lower_located_head, lower_located_head, lower_located_head,
                    lowerExpression_lower (isLowerable_lower itself), lowered]
              | _ => exact same
          | _ => exact same
      | _ => exact same

theorem union_self : settings.union settings = settings := by
  simp [Settings.union]

theorem union_comm : first.union second = second.union first := by
  simp [Settings.union, Bool.or_comm]

/-- Passes of lowering compose: two of them are one under both settings. So a pass is idempotent,
and passes commute. -/
theorem parse_lower_lower {source : String} {program : Program}
    (accepted : parse source = .ok program) (first second : Settings) :
    (program.lower first).lower second = program.lower (first.union second) ∧
      (program.lower first).lower first = program.lower first ∧
      (program.lower first).lower second = (program.lower second).lower first := by
  have lowerable : program.body.Everywhere Node.IsLowerable := isLowerable_of_parse accepted
  have twice (first second : Settings) :
      (program.lower first).lower second = program.lower (first.union second) :=
    congrArg (fun body => { program with body }) (lower_lower lowerable)
  refine ⟨twice first second, ?_, ?_⟩
  · rw [twice, union_self]
  · rw [twice, twice, union_comm]

/-- A power in an arrow function, lowered one after the other. -/
theorem parse_lower_lower_power_in_arrow :
    let power : Node .expression :=
      .binaryExpression .power (.located 3 4 (.identifier "b")) (.located 6 7 (.identifier "c"))
    let parameter : Located .pattern := .located 0 1 (.bindingIdentifier "a")
    let arrow : Node .expression :=
      .arrowFunction false (.single parameter) (.expressionBody (.located 3 7 power))
    let statement : Located .statement :=
      .located 0 7 (.expressionStatement (.located 0 7 arrow))
    let script : Program := { start := 0, stop := 7, body := .single statement }
    parse "a=>b**c" = .ok script ∧
      (script.lower { lowerPower := true, lowerArrow := false }).lower
          { lowerPower := false, lowerArrow := true } = script.lower Settings.es5 := by
  intro power parameter arrow statement script
  have accepted : parse "a=>b**c" = .ok script := by
    decide +kernel
  exact ⟨accepted, (parse_lower_lower accepted _ _).1⟩

end Ecmascript
