import Ecmascript.Proofs.Parallel.Expression

/-!
# How statements are put together

The productions of statements, and with them every production, over two grammars.
-/

set_option autoImplicit false

namespace Ecmascript.Parser.Parallel

variable {self self' : Grammar}

theorem parenthesized :
    Parallel self self' (Parser.parenthesized self) (Parser.parenthesized self') :=
  .bind (.expectMark _) fun _ => .bind (.goal _) fun _ => .bind (.expectMark _) fun _ => .pure _

/-! ## Declarations -/

theorem declarator : Parallel self self' (Parser.declarator self) (Parser.declarator self') :=
  .bind .position fun _ => .bind (.goal _) fun _ => .bind (.eatMark _) fun _ => .ite
    (.bind (.goal _) fun _ => .finish _ _) (.finish _ _)

theorem declarators : Parallel self self' (Parser.declarators self) (Parser.declarators self') :=
  .bind .declarator fun _ => .bind (.eatMark _) fun _ => .ite
    (.bind (.goal _) fun _ => .pure _) (.pure _)

theorem declaration : Parallel self self' (Parser.declaration self) (Parser.declaration self') :=
  .bind .advance fun _ => .goal _

theorem variableStatement (kind : VariableKind) :
    Parallel self self' (Parser.variableStatement self kind)
      (Parser.variableStatement self' kind) :=
  .bind .position fun _ => .bind .declaration fun _ => .bind .expectSemicolon fun _ => .finish _ _

theorem functionStatement (start : Nat) (isAsync : Bool) :
    Parallel self self' (Parser.functionStatement self start isAsync)
      (Parser.functionStatement self' start isAsync) :=
  .bind (.function _ _ _) fun _ => .pure _

theorem classStatement :
    Parallel self self' (Parser.classStatement self) (Parser.classStatement self') :=
  .bind (.classDefinition _) fun _ => .pure _

/-! ## Simple statements -/

theorem blockStatement :
    Parallel self self' (Parser.blockStatement self) (Parser.blockStatement self') := by
  refine .bind .block fun body => ?_
  split
  exact .pure _

theorem expressionStatement :
    Parallel self self' (Parser.expressionStatement self) (Parser.expressionStatement self') :=
  .bind .position fun _ => .bind (.goal _) fun _ => .bind .expectSemicolon fun _ => .finish _ _

theorem wordStatement :
    Parallel self self' (Parser.wordStatement self) (Parser.wordStatement self') := by
  refine .bind .position fun _ => .bind .peek fun _ => .bind (.atName _) fun _ => .ite ?_ ?_
  · exact .bind .advance fun _ => .functionStatement _ _
  · refine .ite ?_ .expressionStatement
    exact .bind .bindingName fun _ => .bind .advance fun _ => .bind (.goal _) fun _ => .finish _ _

theorem returnValue : Parallel self self' (Parser.returnValue self) (Parser.returnValue self') :=
  .bind .atStatementEnd fun _ => .ite (.pure _) (.bind (.goal _) fun _ => .pure _)

theorem returnStatement :
    Parallel self self' (Parser.returnStatement self) (Parser.returnStatement self') :=
  .bind .position fun _ => .bind .context fun _ => .ite
    (.bind .advance fun _ => .bind .returnValue fun _ => .bind .expectSemicolon fun _ =>
      .finish _ _)
    .unexpected

theorem jumpLabel : Parallel self self' Parser.jumpLabel Parser.jumpLabel := by
  refine .bind .current fun token => ?_
  cases token.kind with
  | identifier name => exact .ite (.pure _) (.bind .bindingName fun _ => .pure _)
  | _ => exact .pure _

theorem jumpStatement (jump : Optional (.located .word) → Node .statement) :
    Parallel self self' (Parser.jumpStatement jump) (Parser.jumpStatement jump) :=
  .bind .position fun _ => .bind .advance fun _ => .bind .jumpLabel fun _ =>
    .bind .expectSemicolon fun _ => .finish _ _

theorem throwStatement :
    Parallel self self' (Parser.throwStatement self) (Parser.throwStatement self') :=
  .bind .position fun _ => .bind .advance fun _ => .bind .atNewline fun _ => .ite .unexpected <|
    .bind (.goal _) fun _ => .bind .expectSemicolon fun _ => .finish _ _

theorem debuggerStatement :
    Parallel self self' Parser.debuggerStatement Parser.debuggerStatement :=
  .bind .position fun _ => .bind .advance fun _ => .bind .expectSemicolon fun _ => .finish _ _

theorem emptyStatement : Parallel self self' Parser.emptyStatement Parser.emptyStatement :=
  .bind .position fun _ => .bind .advance fun _ => .finish _ _

/-! ## Conditionals and loops -/

theorem ifStatement : Parallel self self' (Parser.ifStatement self) (Parser.ifStatement self') :=
  .bind .position fun _ => .bind .advance fun _ => .bind .parenthesized fun _ =>
    .bind (.goal _) fun _ => .bind (.eatKeyword _) fun _ => .ite
      (.bind (.goal _) fun _ => .finish _ _) (.finish _ _)

theorem whileStatement :
    Parallel self self' (Parser.whileStatement self) (Parser.whileStatement self') :=
  .bind .position fun _ => .bind .advance fun _ => .bind .parenthesized fun _ =>
    .bind (.goal _) fun _ => .finish _ _

theorem doStatement : Parallel self self' (Parser.doStatement self) (Parser.doStatement self') :=
  .bind .position fun _ => .bind .advance fun _ => .bind (.goal _) fun _ =>
    .bind (.expectKeyword _) fun _ => .bind .parenthesized fun _ =>
      .bind (.eatMark _) fun _ => .finish _ _

theorem atLoopWord : Parallel self self' Parser.atLoopWord Parser.atLoopWord :=
  .bind (.atKeyword _) fun _ => .bind (.atName _) fun _ => .pure _

theorem loopTarget : Parallel self self' (Parser.loopTarget self) (Parser.loopTarget self') :=
  .bind (.goal _) fun _ => .bind .atLoopWord fun _ => .ite (.pure _) .unexpected

theorem loopTarget? : Parallel self self' (Parser.loopTarget? self) (Parser.loopTarget? self') := by
  refine .bind .currentKind fun kind => ?_
  split
  · exact .attempt _ .loopTarget
  · exact .attempt _ .loopTarget
  · exact .pure _

theorem loopHead : Parallel self self' (Parser.loopHead self) (Parser.loopHead self') := by
  refine .withIn _ <| .bind .position fun _ => .bind .currentKind fun kind => ?_
  cases variableKind? kind with
  | some kind => exact .bind .declaration fun _ => .finish _ _
  | none =>
      refine .bind .loopTarget? fun target => ?_
      cases target with
      | some target => exact .pure _
      | none => exact .bind (.goal _) fun _ => .pure _

theorem loopLeft (head : Located .loopHead) :
    Parallel self self' (Parser.loopLeft head) (Parser.loopLeft head) := by
  cases head with
  | located start stop head =>
      cases head with
      | expressionHead expression => exact .bind (.targetOf _) fun _ => .pure _
      | declarationHead kind declarators =>
          rcases declarators with _ | ⟨first, _ | ⟨second, rest⟩⟩
          · exact .fail _
          · exact .pure _
          · exact .fail _
      | patternHead pattern => exact .pure _

theorem forInRest (start : Nat) (left : Located .loopHead) :
    Parallel self self' (Parser.forInRest self start left) (Parser.forInRest self' start left) :=
  .bind (.goal _) fun _ => .bind (.expectMark _) fun _ => .bind (.goal _) fun _ => .finish _ _

theorem forOfRest (start : Nat) (left : Located .loopHead) :
    Parallel self self' (Parser.forOfRest self start left) (Parser.forOfRest self' start left) :=
  .bind (.goal _) fun _ => .bind (.expectMark _) fun _ => .bind (.goal _) fun _ => .finish _ _

theorem optionalExpression (close : Punctuator) :
    Parallel self self' (Parser.optionalExpression self close)
      (Parser.optionalExpression self' close) :=
  .bind (.atMark _) fun _ => .ite (.pure _) (.bind (.goal _) fun _ => .pure _)

theorem forRest (start : Nat) (head : Optional (.located .loopHead)) :
    Parallel self self' (Parser.forRest self start head) (Parser.forRest self' start head) :=
  .bind (.expectMark _) fun _ => .bind (.optionalExpression _) fun _ =>
    .bind (.expectMark _) fun _ => .bind (.optionalExpression _) fun _ =>
      .bind (.expectMark _) fun _ => .bind (.goal _) fun _ => .finish _ _

theorem forStatement : Parallel self self' (Parser.forStatement self) (Parser.forStatement self') :=
  .bind .position fun _ => .bind .advance fun _ => .bind (.expectMark _) fun _ =>
    .bind (.atMark _) fun _ => .ite (.forRest _ _) <| .bind .loopHead fun head =>
      .bind (.atKeyword _) fun _ => .ite
        (.bind (.loopLeft head) fun _ => .bind .advance fun _ => .forInRest _ _) <|
          .bind (.atName _) fun _ => .ite
            (.bind (.loopLeft head) fun _ => .bind .advance fun _ => .forOfRest _ _)
            (.forRest _ _)

/-! ## Clauses -/

theorem handlerParameter :
    Parallel self self' (Parser.handlerParameter self) (Parser.handlerParameter self') :=
  .bind (.eatMark _) fun _ => .ite
    (.bind (.goal _) fun _ => .bind (.expectMark _) fun _ => .pure _) (.pure _)

theorem catchClause : Parallel self self' (Parser.catchClause self) (Parser.catchClause self') :=
  .bind .position fun _ => .bind (.eatKeyword _) fun _ => .ite
    (.bind .handlerParameter fun _ => .bind .block fun _ => .bind (.finish _ _) fun _ => .pure _)
    (.pure _)

theorem finallyBlock : Parallel self self' (Parser.finallyBlock self) (Parser.finallyBlock self') :=
  .bind (.eatKeyword _) fun _ => .ite (.bind .block fun _ => .pure _) (.pure _)

theorem tryStatement :
    Parallel self self' (Parser.tryStatement self) (Parser.tryStatement self') := by
  refine .bind .position fun _ => .bind .advance fun _ => .bind .block fun _ => ?_
  refine .bind .catchClause fun clause => .bind .finallyBlock fun finalizer => ?_
  cases clause with
  | none =>
      cases finalizer with
      | none => exact .unexpected
      | some finalizer => exact .finish _ _
  | some clause => exact .finish _ _

theorem caseTest : Parallel self self' (Parser.caseTest self) (Parser.caseTest self') :=
  .bind (.eatKeyword _) fun _ => .ite (.bind (.goal _) fun _ => .pure _) <|
    .bind (.eatKeyword _) fun _ => .ite (.pure _) .unexpected

theorem switchCase : Parallel self self' (Parser.switchCase self) (Parser.switchCase self') :=
  .bind .position fun _ => .bind .caseTest fun _ => .bind (.expectMark _) fun _ =>
    .bind (.goal _) fun _ => .finish _ _

theorem switchCases : Parallel self self' (Parser.switchCases self) (Parser.switchCases self') :=
  .bind (.atMark _) fun _ => .ite (.pure _) <|
    .bind .switchCase fun _ => .bind (.goal _) fun _ => .pure _

theorem switchStatement :
    Parallel self self' (Parser.switchStatement self) (Parser.switchStatement self') :=
  .bind .position fun _ => .bind .advance fun _ => .bind .parenthesized fun _ =>
    .bind (.expectMark _) fun _ => .bind (.goal _) fun _ => .bind (.expectMark _) fun _ =>
      .finish _ _

/-! ## Statements of any kind -/

theorem keywordStatement (word : Keyword) :
    Parallel self self' (Parser.keywordStatement self word)
      (Parser.keywordStatement self' word) := by
  unfold Parser.keywordStatement
  split
  · exact .variableStatement _
  · exact .variableStatement _
  · exact .variableStatement _
  · exact .bind .position fun _ => .functionStatement _ _
  · exact .classStatement
  · exact .ifStatement
  · exact .whileStatement
  · exact .doStatement
  · exact .forStatement
  · exact .returnStatement
  · exact .jumpStatement _
  · exact .jumpStatement _
  · exact .throwStatement
  · exact .tryStatement
  · exact .switchStatement
  · exact .debuggerStatement
  · exact .expressionStatement

theorem statement : Parallel self self' (Parser.statement self) (Parser.statement self') := by
  refine .nested <| .bind .currentKind fun kind => ?_
  split
  · exact .blockStatement
  · exact .emptyStatement
  · exact .keywordStatement _
  · exact .wordStatement
  · exact .expressionStatement

theorem statements (stop : StatementsEnd) :
    Parallel self self' (Parser.statements self stop) (Parser.statements self' stop) :=
  .bind .currentKind fun _ => .ite (.pure _) <|
    .bind (.goal _) fun _ => .bind (.goal _) fun _ => .pure _

/-! ## Productions -/

/-- Every production is put together from the goals that it calls. -/
theorem production : (goal : Goal) →
    Parallel self self' (Parser.production self goal) (Parser.production self' goal)
  | .statement => statement
  | .statements stop => statements stop
  | .declarators => declarators
  | .switchCases => switchCases
  | .classMembers => classMembers
  | .expression => expression
  | .moreExpressions => moreExpressions
  | .assignment => assignment
  | .binary minimum => binary minimum
  | .binaryRest minimum start left => binaryRest minimum start left
  | .power => power
  | .unary => unary
  | .leftHandSide => leftHandSide
  | .newExpression => newExpression
  | .memberRest start object allowCall => memberRest start object allowCall
  | .arguments => argumentList
  | .arrayElements => arrayElements
  | .objectMembers => objectMembers
  | .templateRest => templateRest
  | .target use => target use
  | .targetElements use => targetElements use
  | .targetProperties use => targetProperties use
  | .parameters => parameters

end Ecmascript.Parser.Parallel
