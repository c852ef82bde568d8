import Ecmascript.Lowering
import Ecmascript.Proofs.Tree.Grammatical

/-!
# The rules of lowering

What a single rule does to an expression, as a relation, and what it means that a tree comes from
another by applying rules at expression positions and nowhere else.
-/

set_option autoImplicit false

namespace Ecmascript

/-- The expression that reads a simple target. -/
inductive ReadAs : Located .pattern → Located .expression → Prop
  | name (start stop : Nat) (name : String) :
      ReadAs (.located start stop (.bindingIdentifier name)) (.located start stop (.identifier name))
  | member (start stop : Nat) (expression : Node .expression) :
      ReadAs (.located start stop (.expressionPattern expression)) (.located start stop expression)

/-- The block that an arrow function becomes the function with: its own, or one that returns its
value. -/
inductive BecomesBlock : Node .arrowBody → Located .block → Prop
  | block (body : Located .block) : BecomesBlock (.blockBody body) body
  | value (start stop : Nat) (value : Node .expression) :
      BecomesBlock (.expressionBody (.located start stop value))
        (.located start stop (.block (.single (.located start stop
          (.returnStatement (.some (.located start stop value)))))))

/-- What the chosen rules do to an expression that begins at an offset. -/
inductive Rule (settings : Settings) (start : Nat) : Node .expression → Node .expression → Prop
  | power (chosen : settings.lowerPower = true) (left right : Located .expression) :
      Rule settings start (.binaryExpression .power left right) (mathPow start left right)
  | powerAssignment (chosen : settings.lowerPower = true) {target : Located .pattern}
      {value : Located .expression} (reading : ReadAs target value) (right : Located .expression) :
      Rule settings start (.assignmentExpression .power target right)
        (.assignmentExpression .assign target
          (.located value.start right.stop (mathPow value.start value right)))
  | arrow (chosen : settings.lowerArrow = true) (isAsync : Bool)
      (parameters : Many (.located .pattern)) {body : Node .arrowBody} {block : Located .block}
      (becomes : BecomesBlock body block) :
      Rule settings start (.arrowFunction isAsync parameters body)
        (.functionExpression (.function .none false isAsync parameters block))

/-- A tree comes from another by applying rules, from the leaves up, to expressions at positions.
Everything else is kept. -/
inductive Lowers (settings : Settings) :
    {category : Category} → Node category → Node category → Prop
  | parts {category : Category} {node : Node category}
      (f : {category : Category} → Node category → Node category)
      (inside : ∀ part ∈ node.parts, Lowers settings part.2 (f part.2)) :
      Lowers settings node (node.mapParts f)
  | expression {start stop : Nat} {before lowered after : Node .expression}
      (inside : Lowers settings before lowered) (rule : Rule settings start lowered after) :
      Lowers settings (.located start stop before) (.located start stop after)
  | head {start stop : Nat} {before lowered after : Node .expression}
      (inside : Lowers settings (.expressionHead before) (.expressionHead lowered))
      (rule : Rule settings start lowered after) :
      Lowers settings (.located start stop (.expressionHead before))
        (.located start stop (.expressionHead after))

namespace Node

/-- Whether a phrase is a power or a power assignment. -/
def isPower : {category : Category} → Node category → Bool
  | _, .binaryExpression .power _ _ => true
  | _, .assignmentExpression .power _ _ => true
  | _, _ => false

/-- Whether a phrase is an arrow function. -/
def isArrow : {category : Category} → Node category → Bool
  | _, .arrowFunction _ _ _ => true
  | _, _ => false

/-- Whether an expression is a member of an object. -/
def isMember : Node .expression → Bool
  | .memberExpression _ _ | .computedMember _ _ => true
  | _ => false

/-- Whether a target is a name or a member of an object, which can be read. -/
def isReadable : Located .pattern → Bool
  | .located _ _ (.bindingIdentifier _) => true
  | .located _ _ (.expressionPattern expression) => expression.isMember
  | _ => false

/-- What lowering relies on: where an expression is a pattern it is a member of an object, and an
assignment with another operator has a target that can be read. -/
def IsLowerable : {category : Category} → Node category → Prop
  | _, .expressionPattern expression => expression.isMember = true
  | _, .assignmentExpression operator left _ => operator = .assign ∨ left.isReadable = true
  | _, _ => True

end Node

/-- Whether settings choose a phrase to be lowered. -/
def Settings.chooses (settings : Settings) {category : Category} (node : Node category) : Bool :=
  settings.lowerPower && node.isPower || settings.lowerArrow && node.isArrow

variable {settings : Settings} {start stop : Nat} {category : Category}

/-! ## The definition and the rules -/

theorem becomesBlock_arrowBlock (body : Node .arrowBody) : BecomesBlock body (arrowBlock body) := by
  cases body with
  | blockBody body => exact .block body
  | expressionBody value =>
      cases value with
      | located start stop value => exact .value start stop value

/-- A rule lowers an expression, or the expression stays as it is because the settings do not choose
it. -/
theorem lowerExpression_cases (expression : Node .expression) :
    (lowerExpression settings start expression = expression ∧
      (expression.IsLowerable → settings.chooses expression = false)) ∨
      Rule settings start expression (lowerExpression settings start expression) := by
  obtain ⟨lowerPower, lowerArrow⟩ := settings
  cases expression with
  | binaryExpression operator left right =>
      cases operator with
      | power =>
          cases lowerPower with
          | true => cases lowerArrow <;> exact .inr (.power rfl left right)
          | false => cases lowerArrow <;> exact .inl ⟨rfl, fun _ => rfl⟩
      | _ => cases lowerPower <;> cases lowerArrow <;> exact .inl ⟨rfl, fun _ => rfl⟩
  | assignmentExpression operator left right =>
      cases operator with
      | power =>
          cases lowerPower with
          | true =>
              cases left with
              | located first last target =>
                  cases target with
                  | bindingIdentifier name =>
                      have reading := ReadAs.name first last name
                      cases lowerArrow <;> exact .inr (.powerAssignment rfl reading right)
                  | expressionPattern expression =>
                      have reading := ReadAs.member first last expression
                      cases lowerArrow <;> exact .inr (.powerAssignment rfl reading right)
                  | _ => cases lowerArrow <;> exact .inl ⟨rfl, nofun⟩
          | false => cases lowerArrow <;> exact .inl ⟨rfl, fun _ => rfl⟩
      | _ => cases lowerPower <;> cases lowerArrow <;> exact .inl ⟨rfl, fun _ => rfl⟩
  | arrowFunction isAsync parameters body =>
      cases lowerArrow with
      | true =>
          have becomes := becomesBlock_arrowBlock body
          cases lowerPower <;> exact .inr (.arrow rfl isAsync parameters becomes)
      | false => cases lowerPower <;> exact .inl ⟨rfl, fun _ => rfl⟩
  | _ => cases lowerPower <;> cases lowerArrow <;> exact .inl ⟨rfl, fun _ => rfl⟩

/-! ## Lowering at positions -/

/-- A phrase without a position is lowered part by part. -/
theorem lower_eq_mapParts {node : Node category}
    (bare : ∀ inner : Category, category ≠ .located inner) :
    node.lower settings = node.mapParts (Node.lower settings) := by
  cases node with
  | located _ _ _ => exact absurd rfl (bare _)
  | _ => rfl

theorem lower_located_expression {item : Node .expression} :
    (Node.located start stop item).lower settings =
      .located start stop (lowerExpression settings start (item.lower settings)) := rfl

theorem lower_located_head {item : Node .expression} :
    (Node.located start stop (.expressionHead item)).lower settings =
      .located start stop (.expressionHead (lowerExpression settings start (item.lower settings))) :=
  rfl

/-- Lowering is applying rules at expression positions. -/
theorem lowers_lower (node : Node category) : Lowers settings node (node.lower settings) := by
  induction node using Node.induction_on_parts with
  | step node ih =>
      cases node with
      | @located category start stop item =>
          have inside := ih ⟨_, item⟩ (List.mem_singleton.2 rfl)
          cases category with
          | expression =>
              rcases lowerExpression_cases (item.lower settings) with ⟨same, _⟩ | rule
              · rw [lower_located_expression, same]
                exact .parts (Node.lower settings) ih
              · exact .expression inside rule
          | loopHead =>
              cases item with
              | expressionHead expression =>
                  rcases lowerExpression_cases (expression.lower settings) with ⟨same, _⟩ | rule
                  · rw [lower_located_head, same]
                    exact .parts (Node.lower settings) ih
                  · exact .head inside rule
              | _ => exact .parts (Node.lower settings) ih
          | _ => exact .parts (Node.lower settings) ih
      | _ => exact .parts (Node.lower settings) ih

end Ecmascript
