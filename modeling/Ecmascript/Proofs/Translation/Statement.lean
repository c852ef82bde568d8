import Ecmascript.Proofs.Cover.Statement
import Ecmascript.Proofs.Translation.Operand

/-!
# Statements behind a text

The productions of statements, compared on a source and behind another text, and with them every
production.
-/

set_option autoImplicit false

namespace Ecmascript.Parser.Translation

variable {c : Translation} {self : Grammar} {place : Place}

/-! ## Parsers without goals -/

namespace Follows

theorem jumpLabel : c.Continues Parser.jumpLabel Parser.jumpLabel := by
  refine .laterToken fun token => ?_
  dsimp only [Token.shift]
  cases token.kind with
  | identifier name => exact .ite (.pure _) (.bind .bindingName fun _ => .pure _)
  | _ => exact .pure _

theorem jumpStatement {jump : Optional (.located .word) → Node .statement}
    (moves : ∀ label, (jump label).shift c.distance = jump (label.shift c.distance)) :
    c.Begins (Parser.jumpStatement jump) := by
  refine .bind .position fun start => .bind .advance fun _ => .bind .jumpLabel fun label =>
    .bind .expectSemicolon fun _ => ?_
  dsimp only [Shifts.shift]
  rw [← moves]
  exact .finish _ _

theorem debuggerStatement : c.Begins Parser.debuggerStatement :=
  .bind .position fun start => .bind .advance fun _ => .bind .expectSemicolon fun _ =>
    .finish start .debuggerStatement

theorem emptyStatement : c.Begins Parser.emptyStatement :=
  .bind .position fun start => .bind .advance fun _ => .finish start .emptyStatement

theorem atLoopWord :
    c.Follows place Parser.atLoopWord Parser.atLoopWord fun _ => place :=
  .bind (.atKeyword _) fun _ => .bind (.atName _) fun _ => .pure _

theorem loopLeft {head : Located .loopHead} (lies : Lies c.source head) :
    c.Follows place (Parser.loopLeft head) (Parser.loopLeft (head.shift c.distance))
      fun _ => place := by
  obtain ⟨forward, first, last⟩ := lies
  cases head with
  | located start stop head =>
      cases head with
      | expressionHead expression =>
          have target : Lies c.source (.located start stop expression) := ⟨forward, first, last⟩
          refine .bind (.targetOf target) fun pattern => ?_
          cases pattern with
          | located _ _ item => exact .pure (Node.located start stop (.patternHead item))
      | declarationHead kind declarators =>
          rcases declarators with _ | ⟨declarator, _ | ⟨second, rest⟩⟩
          · exact .invalid forward first last
          · exact .pure _
          · exact .invalid forward first last
      | patternHead pattern => exact .pure _

end Follows

namespace Carries

variable (carries : c.Carries self)

include carries

theorem parenthesized : c.Continues (Parser.parenthesized self) (Parser.parenthesized self) :=
  .bind (.expectMark _) fun _ => .bind (carries.goals .expression) fun _ =>
    .bind (.expectMark _) fun _ => .pure _

/-! ## Declarations -/

theorem declarator : c.Begins (Parser.declarator self) :=
  .bind .position fun _ => .bind (carries.goals (.target .binding)) fun _ =>
    .bind (.eatMark _) fun _ => .ite
      (.bind (carries.goals .assignment) fun _ => .finish _ _) (.finish _ _)

theorem declarators : c.Begins (Parser.declarators self) :=
  .bind carries.declarator fun _ => .bind (.eatMark _) fun _ => .ite
    (.bind (carries.goals .declarators) fun _ => .pure _) (.pure _)

theorem declaration : c.Begins (Parser.declaration self) :=
  .bind .advance fun _ => carries.goals .declarators

theorem variableStatement (kind : VariableKind) : c.Begins (Parser.variableStatement self kind) :=
  .bind .position fun _ => .bind carries.declaration fun _ => .bind .expectSemicolon fun _ =>
    .finish _ _

theorem functionStatement (start : Nat) (isAsync : Bool) :
    c.Follows place (Parser.functionStatement self start isAsync)
      (Parser.functionStatement self (start + c.distance) isAsync) fun _ => .later := by
  refine .bind (carries.function _ _ _) fun definition => ?_
  cases definition with
  | located start stop item => exact .pure _

theorem classStatement : c.Begins (Parser.classStatement self) := by
  refine .bind (carries.classDefinition _) fun definition => ?_
  cases definition with
  | located start stop item => exact .pure _

/-! ## Simple statements -/

theorem blockStatement : c.Begins (Parser.blockStatement self) := by
  refine .bind carries.block fun body => ?_
  cases body with
  | located start stop item =>
      cases item with
      | block body => exact .pure _

theorem expressionStatement : c.Begins (Parser.expressionStatement self) :=
  .bind .position fun _ => .bind (carries.goals .expression) fun _ =>
    .bind .expectSemicolon fun _ => .finish _ _

theorem wordStatement : c.Begins (Parser.wordStatement self) := by
  refine .bind .position fun start => .bind .peek fun _ => .bind (.atName _) fun _ => .ite ?_ ?_
  · exact .bind .advance fun _ => carries.functionStatement start true
  · refine .ite ?_ carries.expressionStatement
    exact .bind .bindingName fun _ => .bind .advance fun _ =>
      .bind (carries.goals .statement) fun _ => .finish _ _

theorem returnValue : c.Continues (Parser.returnValue self) (Parser.returnValue self) :=
  .bind .atStatementEnd fun _ => .ite (.pure _)
    (.bind (carries.goals .expression) fun _ => .pure _)

theorem returnStatement : c.Begins (Parser.returnStatement self) :=
  .bind .position fun _ => .bind .context fun _ => .ite
    (.bind .advance fun _ => .bind carries.returnValue fun _ => .bind .expectSemicolon fun _ =>
      .finish _ _)
    .unexpected

theorem throwStatement : c.Begins (Parser.throwStatement self) :=
  .bind .position fun _ => .bind .advance fun _ => .bind .atNewline fun _ => .ite .unexpected <|
    .bind (carries.goals .expression) fun _ => .bind .expectSemicolon fun _ => .finish _ _

/-! ## Conditionals and loops -/

theorem ifStatement : c.Begins (Parser.ifStatement self) :=
  .bind .position fun _ => .bind .advance fun _ => .bind carries.parenthesized fun _ =>
    .bind (carries.goals .statement) fun _ => .bind (.eatKeyword _) fun _ => .ite
      (.bind (carries.goals .statement) fun _ => .finish _ _) (.finish _ _)

theorem whileStatement : c.Begins (Parser.whileStatement self) :=
  .bind .position fun _ => .bind .advance fun _ => .bind carries.parenthesized fun _ =>
    .bind (carries.goals .statement) fun _ => .finish _ _

theorem doStatement : c.Begins (Parser.doStatement self) :=
  .bind .position fun _ => .bind .advance fun _ => .bind (carries.goals .statement) fun _ =>
    .bind (.expectKeyword _) fun _ => .bind carries.parenthesized fun _ =>
      .bind (.eatMark _) fun _ => .finish _ _

theorem loopTarget : c.Begins (Parser.loopTarget self) :=
  .bind (carries.goals (.target .assignment)) fun _ => .bind .atLoopWord fun _ =>
    .ite (.pure _) .unexpected

theorem loopTarget? :
    c.Follows place (Parser.loopTarget? self) (Parser.loopTarget? self) place.attempted := by
  refine .kind fun kind => ?_
  split
  · exact .attempt _ carries.loopTarget
  · exact .attempt _ carries.loopTarget
  · exact .answer place.attempted none

theorem loopHead : c.Begins (Parser.loopHead self) := by
  refine .withIn _ <| .bind .position fun start => .kind fun kind => ?_
  cases variableKind? kind with
  | some kind => exact .bind carries.declaration fun _ => .finish _ _
  | none =>
      refine .bind carries.loopTarget? fun target => ?_
      cases target with
      | some target =>
          cases target with
          | located start stop item => exact .pure (Node.located start stop (.patternHead item))
      | none =>
          refine .bind (carries.goals .expression) fun expression => ?_
          cases expression with
          | located start stop item => exact .pure (Node.located start stop (.expressionHead item))

theorem loopHead_lies {head : Located .loopHead}
    (yielded : c.Yielded (Parser.loopHead self) head) : Lies c.source head := by
  obtain ⟨s, s', stands, source, outcome⟩ := yielded
  obtain ⟨⟨ts, reads, inside⟩, _⟩ := stands.loopHead carries.keeps outcome
  rw [← source]
  exact lies_of_covers reads inside.covers

theorem forInRest (start : Nat) (left : Located .loopHead) :
    c.Continues (Parser.forInRest self start left)
      (Parser.forInRest self (start + c.distance) (left.shift c.distance)) :=
  .bind (carries.goals .expression) fun _ => .bind (.expectMark _) fun _ =>
    .bind (carries.goals .statement) fun _ => .finish _ _

theorem forOfRest (start : Nat) (left : Located .loopHead) :
    c.Continues (Parser.forOfRest self start left)
      (Parser.forOfRest self (start + c.distance) (left.shift c.distance)) :=
  .bind (carries.goals .assignment) fun _ => .bind (.expectMark _) fun _ =>
    .bind (carries.goals .statement) fun _ => .finish _ _

theorem optionalExpression (close : Punctuator) :
    c.Continues (Parser.optionalExpression self close) (Parser.optionalExpression self close) :=
  .bind (.atMark _) fun _ => .ite (.pure _) (.bind (carries.goals .expression) fun _ => .pure _)

theorem forRest (start : Nat) (head : Optional (.located .loopHead)) :
    c.Continues (Parser.forRest self start head)
      (Parser.forRest self (start + c.distance) (head.shift c.distance)) :=
  .bind (.expectMark _) fun _ => .bind (carries.optionalExpression _) fun _ =>
    .bind (.expectMark _) fun _ => .bind (carries.optionalExpression _) fun _ =>
      .bind (.expectMark _) fun _ => .bind (carries.goals .statement) fun _ => .finish _ _

theorem forStatement : c.Begins (Parser.forStatement self) := by
  refine .bind .position fun start => .bind .advance fun _ => .bind (.expectMark _) fun _ => ?_
  refine .bind (.atMark _) fun _ => .ite (carries.forRest start .none) ?_
  refine .bindYielded carries.loopHead fun head yielded => ?_
  have lies := carries.loopHead_lies yielded
  refine .bind (.atKeyword _) fun _ => .ite ?_ <| .bind (.atName _) fun _ => .ite ?_ ?_
  · exact .bind (.loopLeft lies) fun left => .bind .advance fun _ => carries.forInRest start left
  · exact .bind (.loopLeft lies) fun left => .bind .advance fun _ => carries.forOfRest start left
  · exact carries.forRest start (.some head)

/-! ## Clauses -/

theorem handlerParameter :
    c.Continues (Parser.handlerParameter self) (Parser.handlerParameter self) :=
  .bind (.eatMark _) fun _ => .ite
    (.bind (carries.goals (.target .binding)) fun _ => .bind (.expectMark _) fun _ => .pure _)
    (.pure _)

theorem catchClause : c.Continues (Parser.catchClause self) (Parser.catchClause self) :=
  .bind .position fun _ => .bind (.eatKeyword _) fun _ => .ite
    (.bind carries.handlerParameter fun _ => .bind carries.block fun _ =>
      .bind (.finish _ _) fun _ => .pure _)
    (.pure _)

theorem finallyBlock : c.Continues (Parser.finallyBlock self) (Parser.finallyBlock self) :=
  .bind (.eatKeyword _) fun _ => .ite (.bind carries.block fun _ => .pure _) (.pure _)

theorem tryStatement : c.Begins (Parser.tryStatement self) := by
  refine .bind .position fun _ => .bind .advance fun _ => .bind carries.block fun _ => ?_
  refine .bind carries.catchClause fun clause => .bind carries.finallyBlock fun finalizer => ?_
  cases clause with
  | none =>
      cases finalizer with
      | none => exact .unexpected
      | some finalizer => exact .finish _ _
  | some clause => exact .finish _ _

theorem caseTest : c.Continues (Parser.caseTest self) (Parser.caseTest self) :=
  .bind (.eatKeyword _) fun _ => .ite (.bind (carries.goals .expression) fun _ => .pure _) <|
    .bind (.eatKeyword _) fun _ => .ite (.pure _) .unexpected

theorem switchCase : c.Continues (Parser.switchCase self) (Parser.switchCase self) :=
  .bind .position fun _ => .bind carries.caseTest fun _ => .bind (.expectMark _) fun _ =>
    .bind (carries.goals (.statements .clause)) fun _ => .finish _ _

theorem switchCases : c.Continues (Parser.switchCases self) (Parser.switchCases self) :=
  .bind (.atMark _) fun _ => .ite (.pure _) <|
    .bind carries.switchCase fun _ => .bind (carries.goals .switchCases) fun _ => .pure _

theorem switchStatement : c.Begins (Parser.switchStatement self) :=
  .bind .position fun _ => .bind .advance fun _ => .bind carries.parenthesized fun _ =>
    .bind (.expectMark _) fun _ => .bind (carries.goals .switchCases) fun _ =>
      .bind (.expectMark _) fun _ => .finish _ _

/-! ## Statements of any kind -/

theorem keywordStatement (word : Keyword) : c.Begins (Parser.keywordStatement self word) := by
  intro place
  unfold Parser.keywordStatement
  split
  · exact carries.variableStatement _
  · exact carries.variableStatement _
  · exact carries.variableStatement _
  · exact .bind .position fun start => carries.functionStatement start false
  · exact carries.classStatement
  · exact carries.ifStatement
  · exact carries.whileStatement
  · exact carries.doStatement
  · exact carries.forStatement
  · exact carries.returnStatement
  · exact .jumpStatement fun _ => rfl
  · exact .jumpStatement fun _ => rfl
  · exact carries.throwStatement
  · exact carries.tryStatement
  · exact carries.switchStatement
  · exact .debuggerStatement
  · exact carries.expressionStatement

theorem statement : c.Begins (Parser.statement self) := by
  refine .nested <| .kind fun kind => ?_
  split
  · exact carries.blockStatement
  · exact .emptyStatement
  · exact carries.keywordStatement _
  · exact carries.wordStatement
  · exact carries.expressionStatement

theorem statements (stop : StatementsEnd) :
    c.Follows place (Parser.statements self stop) (Parser.statements self stop) fun _ => place := by
  refine .kind fun _ => .ite (.pure _) <| .anywhere ?_
  exact .bind (carries.goals .statement) fun _ =>
    .bind (carries.goals (.statements stop)) fun _ => .pure _

/-! ## Productions -/

/-- Every production runs behind the text in front like on the source, when all goals do. -/
theorem production : (goal : Goal) → c.Compares (Parser.production self) goal
  | .statement => carries.statement
  | .statements stop => carries.statements stop
  | .declarators => carries.declarators
  | .switchCases => carries.switchCases
  | .classMembers => carries.classMembers
  | .expression => carries.expression
  | .moreExpressions => carries.moreExpressions
  | .assignment => carries.assignment
  | .binary minimum => carries.binary minimum
  | .binaryRest minimum start left => carries.binaryRest minimum start left
  | .power => carries.power
  | .unary => carries.unary
  | .leftHandSide => carries.leftHandSide
  | .newExpression => carries.newExpression
  | .memberRest start object allowCall => carries.memberRest start object allowCall
  | .arguments => carries.argumentList
  | .arrayElements => carries.arrayElements
  | .objectMembers => carries.objectMembers
  | .templateRest => carries.templateRest
  | .target use => carries.target use
  | .targetElements use => carries.targetElements use
  | .targetProperties use => carries.targetProperties use
  | .parameters => carries.parameters

end Carries

end Ecmascript.Parser.Translation
