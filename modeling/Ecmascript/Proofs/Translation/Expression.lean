import Ecmascript.Proofs.Cover.Expression
import Ecmascript.Proofs.Translation.Function

/-!
# Expressions behind a text

The productions of assignments and operators, compared on a source and behind another text. The
heads that are attempted leave the first token where it is when they fail.
-/

set_option autoImplicit false

namespace Ecmascript.Parser.Translation

variable {c : Translation} {self : Grammar} {place : Place}

/-! ## Trees that are moved -/

theorem bindingOf_shift (name : Located .word) (distance : Nat) :
    bindingOf (name.shift distance) = (bindingOf name).shift distance := by
  cases name with
  | located start stop item =>
      cases item with
      | word text => rfl

theorem combine_shift (operator : InfixOperator) (left right : Located .expression)
    (distance : Nat) :
    operator.combine (left.shift distance) (right.shift distance) =
      (operator.combine left right).shift distance := by
  cases operator <;> rfl

theorem isSimpleTarget_shift (expression : Node .expression) (distance : Nat) :
    (expression.shift distance).isSimpleTarget = expression.isSimpleTarget := by
  cases expression <;> rfl

/-! ## Parsers without goals -/

namespace Follows

theorem delegateStar : c.Follows .later Parser.delegateStar Parser.delegateStar fun _ => .later :=
  .bind .atNewline fun _ => .ite (.pure _) (.eatMark _)

theorem expectUpdateTarget {argument : Located .expression} (lies : Lies c.source argument) :
    c.Follows place (Parser.expectUpdateTarget argument)
      (Parser.expectUpdateTarget (argument.shift c.distance)) fun _ => place := by
  cases argument with
  | located start stop item =>
      obtain ⟨forward, first, last⟩ := lies
      change c.Follows place _ (if (item.shift c.distance).isSimpleTarget then _ else _) _
      rw [isSimpleTarget_shift]
      exact .ite (.pure _) (.invalid forward first last)

end Follows

namespace Carries

variable (carries : c.Carries self)

include carries

/-! ## Sequences and assignments -/

theorem moreExpressions :
    c.Continues (Parser.moreExpressions self) (Parser.moreExpressions self) :=
  .bind (.eatMark _) fun _ => .ite
    (.bind (carries.goals .assignment) fun _ => .bind (carries.goals .moreExpressions) fun _ =>
      .pure _)
    (.pure _)

theorem expression : c.Begins (Parser.expression self) :=
  .bind .position fun _ => .bind (carries.goals .assignment) fun _ => .bind (.atMark _) fun _ =>
    .ite (.bind (carries.goals .moreExpressions) fun _ => .finish _ _) (.pure _)

theorem yieldExpression : c.Begins (Parser.yieldExpression self) :=
  .bind .position fun _ => .bind .advance fun _ => .bind .delegateStar fun _ =>
    .bind .continuesYield fun _ => .ite
      (.bind (carries.goals .assignment) fun _ => .finish _ _) (.finish _ _)

theorem arrowParameters : c.Begins (Parser.arrowParameters self) := by
  refine .bind (.atMark _) fun _ => .ite carries.formalParameters (.bind .bindingName fun name => ?_)
  dsimp only [Shifts.shift]
  rw [bindingOf_shift]
  exact .pure (Node.single (bindingOf name))

theorem arrowHead : c.Begins (Parser.arrowHead self) :=
  .bind carries.arrowParameters fun _ => .laterToken fun _ => .ite
    (.bind .advance fun _ => .pure _) .unexpected

theorem asyncArrowHead :
    c.Follows place (Parser.asyncArrowHead self) (Parser.asyncArrowHead self) fun _ => .later :=
  .bind .advance fun _ => .bind carries.arrowHead fun _ => .pure _

theorem wordArrowHead? :
    c.Follows place (Parser.wordArrowHead? self) (Parser.wordArrowHead? self) place.attempted := by
  refine .bind .peek fun next => .ite ?_ ?_
  · refine .bind .bindingName fun name => .bind .advance fun _ => ?_
    dsimp only [Shifts.shift]
    rw [bindingOf_shift]
    exact .answer place.attempted (some (false, Node.single (bindingOf name)))
  · exact .bind (.atName _) fun _ => .ite (.attempt _ carries.asyncArrowHead)
      (.answer place.attempted none)

theorem arrowHead? :
    c.Follows place (Parser.arrowHead? self) (Parser.arrowHead? self) place.attempted := by
  refine .kind fun kind => ?_
  split
  · refine .bind (.attempt _ carries.arrowHead) fun parameters => ?_
    cases parameters with
    | none => exact .answer place.attempted none
    | some parameters => exact .answer place.attempted (some (false, parameters))
  · exact carries.wordArrowHead?
  · exact .answer place.attempted none

theorem arrowBody : c.Begins (Parser.arrowBody self) :=
  .bind (.atMark _) fun _ => .ite (.bind (.withIn _ carries.block) fun _ => .pure _)
    (.bind (carries.goals .assignment) fun _ => .pure _)

theorem arrowRest (start : Nat) (isAsync : Bool) (parameters : Many (.located .pattern)) :
    c.Continues (Parser.arrowRest self start isAsync parameters)
      (Parser.arrowRest self (start + c.distance) isAsync (parameters.shift c.distance)) :=
  .bind .context fun _ => .bind (.withContext _ carries.arrowBody) fun _ => .finish _ _

theorem destructuringTarget : c.Begins (Parser.destructuringTarget self) :=
  .bind (carries.goals (.target .assignment)) fun _ => .bind (.atMark _) fun _ =>
    .ite (.pure _) .unexpected

theorem destructuringTarget? :
    c.Follows place (Parser.destructuringTarget? self) (Parser.destructuringTarget? self)
      place.attempted := by
  refine .kind fun kind => ?_
  split
  · exact .attempt _ carries.destructuringTarget
  · exact .attempt _ carries.destructuringTarget
  · exact .answer place.attempted none

theorem conditional : c.Begins (Parser.conditional self) :=
  .bind .position fun _ => .bind (carries.goals (.binary 0)) fun _ => .bind (.eatMark _) fun _ =>
    .ite
      (.bind (.withIn _ (carries.goals .assignment)) fun _ => .bind (.expectMark _) fun _ =>
        .bind (carries.goals .assignment) fun _ => .finish _ _)
      (.pure _)

theorem simpleAssignment (start : Nat) :
    c.Follows place (Parser.simpleAssignment self start)
      (Parser.simpleAssignment self (start + c.distance)) fun _ => .later := by
  refine .bindYielded carries.conditional fun left yielded => .kind fun kind => ?_
  cases kind.assignmentOperator? with
  | none => exact .pure _
  | some operator =>
      have lies := yielded.lies fun _ _ _ _ stands => stands.conditional carries.keeps
      exact .bind (.targetOf lies) fun _ => .bind .advance fun _ =>
        .bind (carries.goals .assignment) fun _ => .finish _ _

theorem arrowOrAssignment : c.Begins (Parser.arrowOrAssignment self) := by
  refine .bind .position fun start => .bind carries.arrowHead? fun head => ?_
  cases head with
  | some head => exact carries.arrowRest start head.1 head.2
  | none =>
      refine .bind carries.destructuringTarget? fun target => ?_
      cases target with
      | some target =>
          exact .bind .advance fun _ => .bind (carries.goals .assignment) fun _ => .finish _ _
      | none => exact carries.simpleAssignment start

theorem assignment : c.Begins (Parser.assignment self) :=
  .nested <| .bind (.atName _) fun _ => .bind .context fun _ =>
    .ite carries.yieldExpression carries.arrowOrAssignment

/-! ## Operators -/

theorem binaryRest (minimum start : Nat) (left : Located .expression) :
    c.Continues (Parser.binaryRest self minimum start left)
      (Parser.binaryRest self minimum (start + c.distance) (left.shift c.distance)) := by
  refine .bind .slashAsDivide fun _ => .kind fun kind => .bind .context fun _ => ?_
  refine .ite (.pure _) ?_
  cases kind.infixOperator? with
  | none => exact .pure _
  | some operator =>
      refine .bind .advance fun _ => .bind (carries.goals (.binary _)) fun right => ?_
      dsimp only [Shifts.shift]
      rw [combine_shift]
      exact .bind (.finish _ _) fun combined =>
        carries.goals (.binaryRest minimum start combined)

theorem binary (minimum : Nat) : c.Begins (Parser.binary self minimum) :=
  .bind .position fun start => .bind (carries.goals .power) fun left =>
    carries.goals (.binaryRest minimum start left)

/-- An error about a base begins where its operand begins, so the states are looked at. -/
theorem powerOf (isUnary : Bool) {s t : State} (related : c.Related place s t) :
    c.Matches (fun _ => .later) (Parser.powerOf self s.current.start isUnary c.setup s)
      (Parser.powerOf self t.current.start isUnary c.setup t) := by
  refine (carries.goals .unary s t related).bind fun left s' t' outcome related' => ?_
  rw [current_bind, current_bind, related'.kind]
  split
  · split
    · obtain ⟨_, reads, _⟩ := carries.keeps.goals .unary related.stands outcome
      have written := related'.written
      have forward := Nat.le_trans reads.forward written.forward
      rw [related.start, related'.stop]
      exact Follows.invalid forward related.written.boundaries.1 written.boundaries.2 s' t' related'
    · rw [related.start]
      refine Follows.bind .advance (fun _ => ?_) s' t' related'
      exact .bind (carries.goals .power) fun right => .finish _ (.binaryExpression .power left right)
  · exact .ok related'

theorem power : c.Begins (Parser.power self) := by
  intro place s t related
  unfold Parser.power
  rw [position_bind, position_bind, atName_bind, atName_bind, currentKind_bind, currentKind_bind,
    context_bind, context_bind, related.kind, related.context]
  exact carries.powerOf _ related

theorem postfixUpdate : c.Begins (Parser.postfixUpdate self) := by
  refine .bind .position fun _ => .bindYielded (carries.goals .leftHandSide) fun argument yielded =>
    .laterToken fun token => ?_
  dsimp only [Token.shift]
  cases token.kind.updateOperator? with
  | none => exact .pure _
  | some operator =>
      have lies := yielded.lies (carries.keeps.goals .leftHandSide)
      exact .ite (.pure _) <| .bind (.expectUpdateTarget lies) fun _ =>
        .bind .advance fun _ => .finish _ _

theorem operand : c.Begins (Parser.nested (self .unary)) :=
  .nested (carries.goals .unary)

/-- The operand of an operator stands a level deeper. -/
theorem operand_lies {argument : Located .expression}
    (yielded : c.Yielded (Parser.nested (self .unary)) argument) : Lies c.source argument := by
  obtain ⟨s, s', stands, source, outcome⟩ := yielded
  obtain ⟨_, ts, reads, inside⟩ := stands.operand carries.keeps outcome
  rw [← source]
  exact lies_of_covers reads inside

theorem unary : c.Begins (Parser.unary self) := by
  refine .bind .position fun _ => .kind fun kind => ?_
  cases kind.unaryOperator? with
  | some operator => exact .bind .advance fun _ => .bind carries.operand fun _ => .finish _ _
  | none =>
      cases kind.updateOperator? with
      | some operator =>
          refine .bind .advance fun _ => .bindYielded carries.operand fun argument yielded => ?_
          exact .bind (.expectUpdateTarget (carries.operand_lies yielded)) fun _ => .finish _ _
      | none =>
          exact .bind .context fun _ => .ite
            (.bind .advance fun _ => .bind carries.operand fun _ => .finish _ _)
            carries.postfixUpdate

end Carries

end Ecmascript.Parser.Translation
