import Ecmascript.Proofs.Parallel.Basic

/-!
# How patterns, functions and expressions are put together

The productions of patterns, functions, classes and expressions, over two grammars.
-/

set_option autoImplicit false

namespace Ecmascript.Parser.Parallel

variable {self self' : Grammar}

/-! ## Patterns -/

theorem targetOf (expression : Located .expression) :
    Parallel self self' (Parser.targetOf expression) (Parser.targetOf expression) := by
  cases expression with
  | located start stop item =>
      cases item with
      | identifier _ | memberExpression _ _ | computedMember _ _ => exact .pure _
      | _ => exact .fail _

theorem propertyKey : Parallel self self' (Parser.propertyKey self) (Parser.propertyKey self') := by
  refine .bind .position fun start => .bind (.eatMark _) fun _ => .ite ?_ ?_
  · exact .bind (.withIn _ (.goal _)) fun _ => .bind (.expectMark _) fun _ => .finish _ _
  · refine .bind .currentKind fun kind => ?_
    cases plainKey? kind with
    | some key => exact .bind .advance fun _ => .finish _ _
    | none => exact .unexpected

theorem targetElement (use : PatternUse) :
    Parallel self self' (Parser.targetElement self use) (Parser.targetElement self' use) :=
  .bind .position fun _ => .bind (.goal _) fun _ => .bind (.eatMark _) fun _ => .ite
    (.bind (.withIn _ (.goal _)) fun _ => .finish _ _) (.pure _)

theorem targetRest (use : PatternUse) :
    Parallel self self' (Parser.targetRest self use) (Parser.targetRest self' use) :=
  .bind .position fun _ => .bind (.expectMark _) fun _ => .bind (.goal _) fun _ => .finish _ _

theorem separator (close : Punctuator) :
    Parallel self self' (Parser.separator close) (Parser.separator close) :=
  .bind (.atMark _) fun _ => .ite (.pure _) (.expectMark _)

theorem targetElements (use : PatternUse) :
    Parallel self self' (Parser.targetElements self use) (Parser.targetElements self' use) := by
  refine .bind (.atMark _) fun _ => .ite (.pure _) ?_
  refine .bind (.eatMark _) fun _ => .ite (.bind (.goal _) fun _ => .pure _) ?_
  refine .bind (.atMark _) fun _ => .ite (.bind (.targetRest use) fun _ => .pure _) ?_
  exact .bind (.targetElement use) fun _ => .bind (.separator _) fun _ =>
    .bind (.goal _) fun _ => .pure _

theorem arrayPattern (use : PatternUse) :
    Parallel self self' (Parser.arrayPattern self use) (Parser.arrayPattern self' use) :=
  .bind .position fun _ => .bind (.expectMark _) fun _ => .bind (.goal _) fun _ =>
    .bind (.expectMark _) fun _ => .finish _ _

theorem shorthandTarget (key : Located .key) (name : String) :
    Parallel self self' (Parser.shorthandTarget self key name)
      (Parser.shorthandTarget self' key name) :=
  .bind (.eatMark _) fun _ => .ite (.bind (.withIn _ (.goal _)) fun _ => .finish _ _) (.pure _)

theorem targetProperty (use : PatternUse) :
    Parallel self self' (Parser.targetProperty self use) (Parser.targetProperty self' use) := by
  refine .bind .position fun _ => .bind .currentName? fun shorthand => ?_
  refine .bind .propertyKey fun _ => .bind (.eatMark _) fun _ => .ite ?_ ?_
  · exact .bind (.targetElement use) fun _ => .finish _ _
  · cases shorthand with
    | some name => exact .bind (.shorthandTarget _ _) fun _ => .finish _ _
    | none => exact .unexpected

theorem targetProperties (use : PatternUse) :
    Parallel self self' (Parser.targetProperties self use)
      (Parser.targetProperties self' use) := by
  refine .bind .position fun _ => .bind (.atMark _) fun _ => .ite (.pure _) ?_
  refine .bind (.eatMark _) fun _ => .ite ?_ ?_
  · exact .bind (.goal _) fun _ => .bind (.finish _ _) fun _ => .pure _
  · exact .bind (.targetProperty use) fun _ => .bind (.separator _) fun _ =>
      .bind (.goal _) fun _ => .pure _

theorem objectPattern (use : PatternUse) :
    Parallel self self' (Parser.objectPattern self use) (Parser.objectPattern self' use) :=
  .bind .position fun _ => .bind (.expectMark _) fun _ => .bind (.goal _) fun _ =>
    .bind (.expectMark _) fun _ => .finish _ _

theorem target (use : PatternUse) :
    Parallel self self' (Parser.target self use) (Parser.target self' use) := by
  refine .bind .currentKind fun kind => ?_
  split
  · exact .nested (.arrayPattern use)
  · exact .nested (.objectPattern use)
  · cases use with
    | binding => exact .bind .bindingName fun _ => .pure _
    | assignment => exact .bind (.goal _) fun expression => .targetOf expression

theorem parameters : Parallel self self' (Parser.parameters self) (Parser.parameters self') := by
  refine .bind (.atMark _) fun _ => .ite (.pure _) ?_
  refine .bind (.atMark _) fun _ => .ite (.bind (.targetRest _) fun _ => .pure _) ?_
  exact .bind (.targetElement _) fun _ => .bind (.separator _) fun _ =>
    .bind (.goal _) fun _ => .pure _

theorem formalParameters :
    Parallel self self' (Parser.formalParameters self) (Parser.formalParameters self') :=
  .bind (.expectMark _) fun _ => .bind (.goal _) fun _ => .bind (.expectMark _) fun _ => .pure _

/-! ## Functions and classes -/

theorem block : Parallel self self' (Parser.block self) (Parser.block self') :=
  .bind .position fun _ => .bind (.expectMark _) fun _ => .bind (.goal _) fun _ =>
    .bind (.expectMark _) fun _ => .finish _ _

theorem functionRest (isAsync isGenerator : Bool) :
    Parallel self self' (Parser.functionRest self isAsync isGenerator)
      (Parser.functionRest self' isAsync isGenerator) :=
  .withContext _ <| .bind .formalParameters fun _ => .bind .block fun _ => .pure _

theorem functionName (isDeclaration : Bool) :
    Parallel self self' (Parser.functionName isDeclaration)
      (Parser.functionName isDeclaration) :=
  .bind (.atMark _) fun _ => .ite (.bind .bindingName fun _ => .pure _) (.pure _)

theorem function (start : Nat) (isAsync isDeclaration : Bool) :
    Parallel self self' (Parser.function self start isAsync isDeclaration)
      (Parser.function self' start isAsync isDeclaration) :=
  .bind (.expectKeyword _) fun _ => .bind (.eatMark _) fun _ =>
    .bind (.functionName _) fun _ => .bind (.functionRest _ _) fun _ => .finish _ _

theorem method (isAsync isGenerator : Bool) :
    Parallel self self' (Parser.method self isAsync isGenerator)
      (Parser.method self' isAsync isGenerator) :=
  .bind .position fun _ => .bind (.functionRest _ _) fun _ => .finish _ _

theorem asyncModifier : Parallel self self' Parser.asyncModifier Parser.asyncModifier :=
  .bind .peek fun _ => .ite (.bind .advance fun _ => .pure _) (.pure _)

theorem accessorModifier (kind : MethodKind) :
    Parallel self self' (Parser.accessorModifier kind) (Parser.accessorModifier kind) :=
  .bind .peek fun _ => .ite (.bind .advance fun _ => .pure _) (.pure _)

theorem modifiers : Parallel self self' Parser.modifiers Parser.modifiers := by
  have starred (rest : Bool → Modifiers) :
      Parallel self self' (Parser.eatMark .star >>= fun isGenerator => Pure.pure (rest isGenerator))
        (Parser.eatMark .star >>= fun isGenerator => Pure.pure (rest isGenerator)) :=
    .bind (.eatMark _) fun _ => .pure _
  refine .bind (.atName _) fun _ => .ite (.bind .asyncModifier fun _ => starred _) ?_
  refine .bind (.atName _) fun _ => .ite (.bind (.accessorModifier _) fun _ => starred _) ?_
  exact .bind (.atName _) fun _ => .ite (.bind (.accessorModifier _) fun _ => starred _) (starred _)

theorem staticModifier : Parallel self self' Parser.staticModifier Parser.staticModifier := by
  refine .bind (.atName _) fun _ => .ite (.bind .peek fun next => ?_) (.pure _)
  split
  · exact .pure _
  · exact .pure _
  · exact .pure _
  · exact .pure _
  · exact .bind .advance fun _ => .pure _

theorem fieldValue : Parallel self self' (Parser.fieldValue self) (Parser.fieldValue self') :=
  .bind (.eatMark _) fun _ => .ite (.bind (.withContext _ (.goal _)) fun _ => .pure _) (.pure _)

theorem classMember : Parallel self self' (Parser.classMember self) (Parser.classMember self') := by
  refine .bind .position fun _ => .bind .staticModifier fun _ => .bind .modifiers fun _ => ?_
  refine .bind .propertyKey fun _ => .bind (.atMark _) fun _ => .ite ?_ ?_
  · exact .bind (.method _ _) fun _ => .finish _ _
  · exact .bind .fieldValue fun _ => .bind .expectSemicolon fun _ => .finish _ _

theorem classMembers :
    Parallel self self' (Parser.classMembers self) (Parser.classMembers self') :=
  .bind (.atMark _) fun _ => .ite (.pure _) <| .bind (.eatMark _) fun _ => .ite (.goal _) <|
    .bind .classMember fun _ => .bind (.goal _) fun _ => .pure _

theorem className (isDeclaration : Bool) :
    Parallel self self' (Parser.className isDeclaration) (Parser.className isDeclaration) :=
  .bind .currentName? fun _ => .ite (.bind .bindingName fun _ => .pure _) (.pure _)

theorem classBody : Parallel self self' (Parser.classBody self) (Parser.classBody self') :=
  .bind .position fun _ => .bind (.expectMark _) fun _ => .bind (.withIn _ (.goal _)) fun _ =>
    .bind (.expectMark _) fun _ => .finish _ _

theorem classParent : Parallel self self' (Parser.classParent self) (Parser.classParent self') :=
  .bind (.eatKeyword _) fun _ => .ite (.bind (.goal _) fun _ => .pure _) (.pure _)

theorem classDefinition (isDeclaration : Bool) :
    Parallel self self' (Parser.classDefinition self isDeclaration)
      (Parser.classDefinition self' isDeclaration) :=
  .bind .position fun _ => .bind (.expectKeyword _) fun _ => .bind (.className _) fun _ =>
    .bind .classParent fun _ => .bind .classBody fun _ => .finish _ _

/-! ## Sequences and assignments -/

theorem moreExpressions :
    Parallel self self' (Parser.moreExpressions self) (Parser.moreExpressions self') :=
  .bind (.eatMark _) fun _ => .ite
    (.bind (.goal _) fun _ => .bind (.goal _) fun _ => .pure _) (.pure _)

theorem expression : Parallel self self' (Parser.expression self) (Parser.expression self') :=
  .bind .position fun _ => .bind (.goal _) fun _ => .bind (.atMark _) fun _ => .ite
    (.bind (.goal _) fun _ => .finish _ _) (.pure _)

theorem delegateStar : Parallel self self' Parser.delegateStar Parser.delegateStar :=
  .bind .atNewline fun _ => .ite (.pure _) (.eatMark _)

theorem continuesYield : Parallel self self' Parser.continuesYield Parser.continuesYield :=
  .bind .current fun _ => .pure _

theorem yieldExpression :
    Parallel self self' (Parser.yieldExpression self) (Parser.yieldExpression self') :=
  .bind .position fun _ => .bind .advance fun _ => .bind .delegateStar fun _ =>
    .bind .continuesYield fun _ => .ite (.bind (.goal _) fun _ => .finish _ _) (.finish _ _)

theorem arrowParameters :
    Parallel self self' (Parser.arrowParameters self) (Parser.arrowParameters self') :=
  .bind (.atMark _) fun _ => .ite .formalParameters (.bind .bindingName fun _ => .pure _)

theorem arrowHead : Parallel self self' (Parser.arrowHead self) (Parser.arrowHead self') :=
  .bind .arrowParameters fun _ => .bind .current fun _ => .ite
    (.bind .advance fun _ => .pure _) .unexpected

theorem asyncArrowHead :
    Parallel self self' (Parser.asyncArrowHead self) (Parser.asyncArrowHead self') :=
  .bind .advance fun _ => .bind .arrowHead fun _ => .pure _

theorem wordArrowHead? :
    Parallel self self' (Parser.wordArrowHead? self) (Parser.wordArrowHead? self') := by
  refine .bind .peek fun next => .ite ?_ ?_
  · exact .bind .bindingName fun _ => .bind .advance fun _ => .pure _
  · exact .bind (.atName _) fun _ => .ite (.attempt _ .asyncArrowHead) (.pure _)

theorem arrowHead? : Parallel self self' (Parser.arrowHead? self) (Parser.arrowHead? self') := by
  refine .bind .currentKind fun kind => ?_
  split
  · exact .bind (.attempt _ .arrowHead) fun _ => .pure _
  · exact .wordArrowHead?
  · exact .pure _

theorem arrowBody : Parallel self self' (Parser.arrowBody self) (Parser.arrowBody self') :=
  .bind (.atMark _) fun _ => .ite (.bind (.withIn _ .block) fun _ => .pure _)
    (.bind (.goal _) fun _ => .pure _)

theorem arrowRest (start : Nat) (isAsync : Bool) (parameters : Many (.located .pattern)) :
    Parallel self self' (Parser.arrowRest self start isAsync parameters)
      (Parser.arrowRest self' start isAsync parameters) :=
  .bind .context fun _ => .bind (.withContext _ .arrowBody) fun _ => .finish _ _

theorem destructuringTarget :
    Parallel self self' (Parser.destructuringTarget self) (Parser.destructuringTarget self') :=
  .bind (.goal _) fun _ => .bind (.atMark _) fun _ => .ite (.pure _) .unexpected

theorem destructuringTarget? :
    Parallel self self' (Parser.destructuringTarget? self)
      (Parser.destructuringTarget? self') := by
  refine .bind .currentKind fun kind => ?_
  split
  · exact .attempt _ .destructuringTarget
  · exact .attempt _ .destructuringTarget
  · exact .pure _

theorem conditional : Parallel self self' (Parser.conditional self) (Parser.conditional self') :=
  .bind .position fun _ => .bind (.goal _) fun _ => .bind (.eatMark _) fun _ => .ite
    (.bind (.withIn _ (.goal _)) fun _ => .bind (.expectMark _) fun _ =>
      .bind (.goal _) fun _ => .finish _ _)
    (.pure _)

theorem simpleAssignment (start : Nat) :
    Parallel self self' (Parser.simpleAssignment self start)
      (Parser.simpleAssignment self' start) := by
  refine .bind .conditional fun left => .bind .currentKind fun kind => ?_
  cases kind.assignmentOperator? with
  | none => exact .pure _
  | some operator =>
      exact .bind (.targetOf left) fun _ => .bind .advance fun _ =>
        .bind (.goal _) fun _ => .finish _ _

theorem arrowOrAssignment :
    Parallel self self' (Parser.arrowOrAssignment self) (Parser.arrowOrAssignment self') := by
  refine .bind .position fun start => .bind .arrowHead? fun head => ?_
  cases head with
  | some head => exact .arrowRest _ _ _
  | none =>
      refine .bind .destructuringTarget? fun target => ?_
      cases target with
      | some target => exact .bind .advance fun _ => .bind (.goal _) fun _ => .finish _ _
      | none => exact .simpleAssignment start

theorem assignment : Parallel self self' (Parser.assignment self) (Parser.assignment self') :=
  .nested <| .bind (.atName _) fun _ => .bind .context fun _ =>
    .ite .yieldExpression .arrowOrAssignment

/-! ## Operators -/

theorem binaryRest (minimum start : Nat) (left : Located .expression) :
    Parallel self self' (Parser.binaryRest self minimum start left)
      (Parser.binaryRest self' minimum start left) := by
  refine .bind .slashAsDivide fun _ => .bind .currentKind fun kind => .bind .context fun _ => ?_
  refine .ite (.pure _) ?_
  cases kind.infixOperator? with
  | none => exact .pure _
  | some operator =>
      exact .bind .advance fun _ => .bind (.goal _) fun _ => .bind (.finish _ _) fun _ => .goal _

theorem binary (minimum : Nat) :
    Parallel self self' (Parser.binary self minimum) (Parser.binary self' minimum) :=
  .bind .position fun _ => .bind (.goal _) fun _ => .goal _

theorem powerOf (start : Nat) (isUnary : Bool) :
    Parallel self self' (Parser.powerOf self start isUnary)
      (Parser.powerOf self' start isUnary) :=
  .bind (.goal _) fun _ => .bind .current fun _ => .ite
    (.ite (.fail _) (.bind .advance fun _ => .bind (.goal _) fun _ => .finish _ _)) (.pure _)

theorem power : Parallel self self' (Parser.power self) (Parser.power self') :=
  .bind .position fun _ => .bind (.atName _) fun _ => .bind .currentKind fun _ =>
    .bind .context fun _ => .powerOf _ _

theorem expectUpdateTarget (argument : Located .expression) :
    Parallel self self' (Parser.expectUpdateTarget argument)
      (Parser.expectUpdateTarget argument) := by
  cases argument with
  | located start stop item => exact .ite (.pure _) (.fail _)

theorem postfixUpdate :
    Parallel self self' (Parser.postfixUpdate self) (Parser.postfixUpdate self') := by
  refine .bind .position fun _ => .bind (.goal _) fun argument => .bind .current fun token => ?_
  cases token.kind.updateOperator? with
  | none => exact .pure _
  | some operator =>
      exact .ite (.pure _) <| .bind (.expectUpdateTarget argument) fun _ =>
        .bind .advance fun _ => .finish _ _

theorem unary : Parallel self self' (Parser.unary self) (Parser.unary self') := by
  refine .bind .position fun _ => .bind .currentKind fun kind => ?_
  cases kind.unaryOperator? with
  | some operator => exact .bind .advance fun _ => .bind (.nested (.goal _)) fun _ => .finish _ _
  | none =>
      cases kind.updateOperator? with
      | some operator =>
          exact .bind .advance fun _ => .bind (.nested (.goal _)) fun argument =>
            .bind (.expectUpdateTarget argument) fun _ => .finish _ _
      | none =>
          exact .bind .context fun _ => .ite
            (.bind .advance fun _ => .bind (.nested (.goal _)) fun _ => .finish _ _)
            .postfixUpdate

/-! ## Literals with parts -/

theorem spread : Parallel self self' (Parser.spread self) (Parser.spread self') :=
  .bind .position fun _ => .bind (.expectMark _) fun _ => .bind (.goal _) fun _ => .finish _ _

theorem spreadOrAssignment :
    Parallel self self' (Parser.spreadOrAssignment self) (Parser.spreadOrAssignment self') :=
  .bind (.atMark _) fun _ => .ite .spread (.goal _)

theorem argumentList : Parallel self self' (Parser.argumentList self) (Parser.argumentList self') :=
  .bind (.atMark _) fun _ => .ite (.pure _) <| .bind .spreadOrAssignment fun _ =>
    .bind (.separator _) fun _ => .bind (.goal _) fun _ => .pure _

theorem callArguments :
    Parallel self self' (Parser.callArguments self) (Parser.callArguments self') :=
  .bind (.expectMark _) fun _ => .bind (.withIn _ (.goal _)) fun _ =>
    .bind (.expectMark _) fun _ => .pure _

theorem arrayElements :
    Parallel self self' (Parser.arrayElements self) (Parser.arrayElements self') :=
  .bind (.atMark _) fun _ => .ite (.pure _) <| .bind (.eatMark _) fun _ =>
    .ite (.bind (.goal _) fun _ => .pure _) <| .bind .spreadOrAssignment fun _ =>
      .bind (.separator _) fun _ => .bind (.goal _) fun _ => .pure _

theorem arrayLiteral : Parallel self self' (Parser.arrayLiteral self) (Parser.arrayLiteral self') :=
  .bind .position fun _ => .bind (.expectMark _) fun _ => .bind (.withIn _ (.goal _)) fun _ =>
    .bind (.expectMark _) fun _ => .finish _ _

theorem namedMember (start : Nat) :
    Parallel self self' (Parser.namedMember self start) (Parser.namedMember self' start) := by
  refine .bind .modifiers fun _ => .bind .currentName? fun shorthand => ?_
  refine .bind .propertyKey fun _ => .bind (.atMark _) fun _ => .ite ?_ ?_
  · exact .bind (.method _ _) fun _ => .finish _ _
  · refine .bind (.eatMark _) fun _ => .ite (.bind (.goal _) fun _ => .finish _ _) ?_
    cases shorthand with
    | some name => exact .finish _ _
    | none => exact .unexpected

theorem objectMember : Parallel self self' (Parser.objectMember self) (Parser.objectMember self') :=
  .bind .position fun _ => .bind (.eatMark _) fun _ => .ite
    (.bind (.goal _) fun _ => .finish _ _) (.namedMember _)

theorem objectMembers :
    Parallel self self' (Parser.objectMembers self) (Parser.objectMembers self') :=
  .bind (.atMark _) fun _ => .ite (.pure _) <| .bind .objectMember fun _ =>
    .bind (.separator _) fun _ => .bind (.goal _) fun _ => .pure _

theorem objectLiteral :
    Parallel self self' (Parser.objectLiteral self) (Parser.objectLiteral self') :=
  .bind .position fun _ => .bind (.expectMark _) fun _ => .bind (.withIn _ (.goal _)) fun _ =>
    .bind (.expectMark _) fun _ => .finish _ _

theorem templateRest :
    Parallel self self' (Parser.templateRest self) (Parser.templateRest self') := by
  refine .bind (.withIn _ (.goal _)) fun _ => .bind .current fun token => ?_
  split
  · exact .bind .advance fun _ => .bind (.goal _) fun _ => .pure _
  · exact .bind .advance fun _ => .pure _
  · exact .unexpected

theorem templateLiteral :
    Parallel self self' (Parser.templateLiteral self) (Parser.templateLiteral self') := by
  refine .bind .position fun _ => .bind .current fun token => ?_
  split
  · exact .bind .advance fun _ => .finish _ _
  · exact .bind .advance fun _ => .bind (.goal _) fun _ => .finish _ _
  · exact .unexpected

/-! ## Operands -/

theorem plainExpression : Parallel self self' Parser.plainExpression Parser.plainExpression := by
  refine .bind .position fun _ => .bind .currentKind fun kind => ?_
  cases plainExpression? kind with
  | some item => exact .bind .advance fun _ => .finish _ _
  | none => exact .unexpected

theorem functionExpression (start : Nat) (isAsync : Bool) :
    Parallel self self' (Parser.functionExpression self start isAsync)
      (Parser.functionExpression self' start isAsync) :=
  .bind (.function _ _ _) fun _ => .pure _

theorem asyncOperand : Parallel self self' (Parser.asyncOperand self) (Parser.asyncOperand self') :=
  .bind .position fun _ => .bind .peek fun _ => .ite
    (.bind .advance fun _ => .functionExpression _ _) .plainExpression

theorem primary : Parallel self self' (Parser.primary self) (Parser.primary self') := by
  refine .bind .slashAsRegex fun _ => .bind .position fun start => .bind .currentKind fun kind => ?_
  split
  · exact .bind .advance fun _ => .bind (.withIn _ (.goal _)) fun _ =>
      .bind (.expectMark _) fun _ => .pure _
  · exact .arrayLiteral
  · exact .objectLiteral
  · exact .functionExpression start false
  · exact .bind (.classDefinition _) fun _ => .pure _
  · exact .bind .templateLiteral fun _ => .pure _
  · exact .bind .templateLiteral fun _ => .pure _
  · exact .ite .asyncOperand .plainExpression
  · exact .plainExpression

theorem memberRest (start : Nat) (object : Located .expression) (allowCall : Bool) :
    Parallel self self' (Parser.memberRest self start object allowCall)
      (Parser.memberRest self' start object allowCall) := by
  refine .bind .currentKind fun kind => ?_
  split
  · exact .bind .advance fun _ => .bind .propertyName fun _ =>
      .bind (.finish _ _) fun _ => .goal _
  · exact .bind .advance fun _ => .bind (.withIn _ (.goal _)) fun _ =>
      .bind (.expectMark _) fun _ => .bind (.finish _ _) fun _ => .goal _
  · exact .ite (.bind .callArguments fun _ => .bind (.finish _ _) fun _ => .goal _) (.pure _)
  · exact .bind .templateLiteral fun _ => .bind (.finish _ _) fun _ => .goal _
  · exact .bind .templateLiteral fun _ => .bind (.finish _ _) fun _ => .goal _
  · exact .pure _

theorem newOperand : Parallel self self' (Parser.newOperand self) (Parser.newOperand self') :=
  .bind (.atKeyword _) fun _ => .ite (.nested (.goal _)) .primary

theorem newArguments : Parallel self self' (Parser.newArguments self) (Parser.newArguments self') :=
  .bind (.atMark _) fun _ => .ite .callArguments (.pure _)

theorem newExpression :
    Parallel self self' (Parser.newExpression self) (Parser.newExpression self') :=
  .bind .position fun _ => .bind (.expectKeyword _) fun _ => .bind .position fun _ =>
    .bind .newOperand fun _ => .bind (.goal _) fun _ => .bind .newArguments fun _ => .finish _ _

theorem leftmostOperand :
    Parallel self self' (Parser.leftmostOperand self) (Parser.leftmostOperand self') :=
  .bind (.atKeyword _) fun _ => .ite (.goal _) .primary

theorem leftHandSide : Parallel self self' (Parser.leftHandSide self) (Parser.leftHandSide self') :=
  .bind .position fun _ => .bind .leftmostOperand fun _ => .goal _

end Ecmascript.Parser.Parallel
