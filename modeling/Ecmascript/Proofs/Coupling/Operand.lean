import Ecmascript.Proofs.Coupling.Expression

/-!
# Coupled runs of operators and operands

Infix operators are read behind `slashAsDivide` and operands behind `slashAsRegex`, so both find
the same token in either run.
-/

set_option autoImplicit false

namespace Ecmascript.Parser.Coupling

variable {c : Coupling} {self self' : Grammar}

namespace Agree

/-! ## Operators -/

theorem binaryRest (laws : c.Lawful) (agree : c.Agree self self') (minimum start : Nat)
    (left : Located .expression) :
    c.Links c.loose (Parser.binaryRest self minimum start left)
      (Parser.binaryRest self' minimum start left) (fun _ => c.firm) := by
  refine laws.slashAsDivide.bind fun _ => ?_
  refine Links.firmKind laws fun kind => ?_
  refine (Links.context laws fun _ _ => laws.loose_of_before).bind fun context => ?_
  refine .ite (fun _ => .pure fun _ _ holds => holds.1) fun _ => ?_
  cases kind.infixOperator? with
  | none => exact .pure fun _ _ holds => holds.1
  | some operator =>
      refine (Links.advance laws).bind fun _ => ?_
      refine (agree (.binary kind.precedence)).bind fun right => ?_
      refine (Links.finish laws fun _ _ => laws.loosen).bind fun combined => ?_
      exact (agree (.binaryRest minimum start combined)).strengthen fun _ _ => laws.loosen

theorem binary (laws : c.Lawful) (agree : c.Agree self self') (minimum : Nat) :
    c.Links c.loose (Parser.binary self minimum) (Parser.binary self' minimum)
      (fun _ => c.firm) := by
  refine (Links.position laws fun _ _ holds => holds).bind fun start => ?_
  exact (agree .power).bind fun left => agree (.binaryRest minimum start left)

theorem powerOf (laws : c.Lawful) (agree : c.Agree self self') (start : Nat) (isUnary : Bool) :
    c.Links c.loose (Parser.powerOf self start isUnary) (Parser.powerOf self' start isUnary)
      (fun _ => c.loose) := by
  refine (agree .unary).bind fun left => ?_
  refine Links.token laws (fun token => ?_) fun a b left right newline => ?_
  · by_cases power : token.kind = .punctuator .power
    · simp only [if_pos power]
      refine .ite (fun _ => Links.fail laws fun _ _ => laws.loose_of_before) fun _ => ?_
      refine (Links.advance laws).bind fun _ => ?_
      exact (agree .power).bind fun right => Links.finish laws fun _ _ holds => holds
    · simp only [if_neg power]
      exact .pure fun _ _ => laws.loose_of_before
  · rcases TokenKind.isSlash_cases left with left | left | ⟨raw, left⟩ <;>
    rcases TokenKind.isSlash_cases right with right | right | ⟨raw', right⟩ <;>
    simp only [left, right, reduceCtorEq, TokenKind.punctuator.injEq, if_false] <;>
    exact .pure fun _ _ holds => holds

theorem power (laws : c.Lawful) (agree : c.Agree self self') :
    c.Links c.loose (Parser.power self) (Parser.power self') (fun _ => c.loose) := by
  refine (Links.position laws fun _ _ holds => holds).bind fun start => ?_
  refine (Links.ask laws rfl).bind fun isAwait => ?_
  refine Links.kind laws (fun kind => ?_) fun a b left right => ?_
  · refine (Links.context laws fun _ _ => laws.loose_of_before).bind fun context => ?_
    exact (agree.powerOf laws start _).fromBefore laws
  · refine (Links.context laws fun _ _ holds => holds).bind fun context => ?_
    rcases TokenKind.isSlash_cases left with rfl | rfl | ⟨raw, rfl⟩ <;>
    rcases TokenKind.isSlash_cases right with rfl | rfl | ⟨raw', rfl⟩ <;>
    exact agree.powerOf laws start (false || (context.inAsync && isAwait))

theorem expectUpdateTarget (laws : c.Lawful) (expression : Located .expression)
    {pre : State → State → Prop} (related : ∀ s t, pre s t → c.loose s t) :
    c.Links pre (Parser.expectUpdateTarget expression) (Parser.expectUpdateTarget expression)
      (fun _ => pre) := by
  cases expression with
  | located start stop item =>
      exact .ite (fun _ => .pure fun _ _ holds => holds) fun _ => Links.fail laws related

theorem postfixUpdate (laws : c.Lawful) (agree : c.Agree self self') :
    c.Links c.loose (Parser.postfixUpdate self) (Parser.postfixUpdate self')
      (fun _ => c.loose) := by
  refine (Links.position laws fun _ _ holds => holds).bind fun start => ?_
  refine (agree .leftHandSide).bind fun argument => ?_
  refine Links.token laws (fun token => ?_) fun a b left right newline => ?_
  · cases token.kind.updateOperator? with
    | none => exact .pure fun _ _ => laws.loose_of_before
    | some operator =>
        refine .ite (fun _ => .pure fun _ _ => laws.loose_of_before) fun _ => ?_
        refine (expectUpdateTarget laws argument fun _ _ => laws.loose_of_before).bind fun _ => ?_
        exact (Links.advance laws).bind fun _ => Links.finish laws fun _ _ holds => holds
  · rcases TokenKind.isSlash_cases left with left | left | ⟨raw, left⟩ <;>
    rcases TokenKind.isSlash_cases right with right | right | ⟨raw', right⟩ <;>
    simp only [left, right] <;>
    exact .pure fun _ _ holds => holds

theorem unary (laws : c.Lawful) (agree : c.Agree self self') :
    c.Links c.loose (Parser.unary self) (Parser.unary self') (fun _ => c.loose) := by
  have operand : c.Links c.loose (nested (self .unary)) (nested (self' .unary))
      (fun _ => c.loose) :=
    laws.nested (agree .unary)
  refine (Links.position laws fun _ _ holds => holds).bind fun start => ?_
  refine Links.kind laws (fun kind => ?_) fun a b left right => ?_
  · cases kind.unaryOperator? with
    | some operator =>
        refine (Links.advance laws).bind fun _ => ?_
        exact operand.bind fun argument => Links.finish laws fun _ _ holds => holds
    | none =>
        cases kind.updateOperator? with
        | some operator =>
            refine (Links.advance laws).bind fun _ => ?_
            refine operand.bind fun argument => ?_
            refine (expectUpdateTarget laws argument fun _ _ holds => holds).bind fun _ => ?_
            exact Links.finish laws fun _ _ holds => holds
        | none =>
            refine (Links.context laws fun _ _ => laws.loose_of_before).bind fun context => ?_
            refine .ite (fun _ => ?_) fun _ => (agree.postfixUpdate laws).fromBefore laws
            refine (Links.advance laws).bind fun _ => ?_
            exact operand.bind fun argument => Links.finish laws fun _ _ holds => holds
  · have plain : c.Links c.loose
        (do let _ ← context; Parser.postfixUpdate self)
        (do let _ ← context; Parser.postfixUpdate self') (fun _ => c.loose) :=
      (Links.context laws fun _ _ holds => holds).bind fun _ => agree.postfixUpdate laws
    rcases TokenKind.isSlash_cases left with rfl | rfl | ⟨raw, rfl⟩ <;>
    rcases TokenKind.isSlash_cases right with rfl | rfl | ⟨raw', rfl⟩ <;>
    simpa only [TokenKind.unaryOperator?, TokenKind.updateOperator?, reduceCtorEq, decide_false,
      Bool.and_false, Bool.false_eq_true, if_false] using plain

/-! ## Literals with parts -/

theorem spread (laws : c.Lawful) (agree : c.Agree self self') :
    c.Links c.loose (Parser.spread self) (Parser.spread self') (fun _ => c.firm) := by
  refine (Links.position laws fun _ _ holds => holds).bind fun start => ?_
  refine (Links.expectMark laws .ellipsis rfl).bind fun _ => ?_
  exact (agree .assignment).bind fun argument => Links.finish laws fun _ _ => laws.loosen

theorem spreadOrAssignment (laws : c.Lawful) (agree : c.Agree self self') :
    c.Links c.loose (Parser.spreadOrAssignment self) (Parser.spreadOrAssignment self')
      (fun _ => c.firm) :=
  Links.ifMark laws .ellipsis rfl ((agree.spread laws).fromBefore laws) (agree .assignment)

theorem argumentList (laws : c.Lawful) (agree : c.Agree self self') :
    c.Links c.loose (Parser.argumentList self) (Parser.argumentList self')
      (fun _ => c.loose) := by
  refine Links.ifMark laws .rightParen rfl (.pure fun _ _ => laws.loose_of_before) ?_
  refine (agree.spreadOrAssignment laws).bind fun argument => ?_
  refine ((Links.separator laws .rightParen rfl).fromFirm laws).bind fun _ => ?_
  exact (agree .arguments).bind fun rest => .pure fun _ _ holds => holds

theorem callArguments (laws : c.Lawful) (agree : c.Agree self self') :
    c.Links c.loose (Parser.callArguments self) (Parser.callArguments self')
      (fun _ => c.loose) := by
  refine (Links.expectMark laws .leftParen rfl).bind fun _ => ?_
  refine (Links.withIn laws (agree .arguments)).bind fun arguments => ?_
  refine (Links.expectMark laws .rightParen rfl).bind fun _ => ?_
  exact .pure fun _ _ holds => holds

theorem arrayElements (laws : c.Lawful) (agree : c.Agree self self') :
    c.Links c.loose (Parser.arrayElements self) (Parser.arrayElements self')
      (fun _ => c.loose) := by
  refine Links.ifMark laws .rightBracket rfl (.pure fun _ _ => laws.loose_of_before) ?_
  refine Links.ifEatMark laws .comma rfl ?_ ?_
  · exact (agree .arrayElements).bind fun rest => .pure fun _ _ holds => holds
  · refine (agree.spreadOrAssignment laws).bind fun element => ?_
    refine ((Links.separator laws .rightBracket rfl).fromFirm laws).bind fun _ => ?_
    exact (agree .arrayElements).bind fun rest => .pure fun _ _ holds => holds

theorem arrayLiteral (laws : c.Lawful) (agree : c.Agree self self') :
    c.Links c.loose (Parser.arrayLiteral self) (Parser.arrayLiteral self')
      (fun _ => c.loose) := by
  refine (Links.position laws fun _ _ holds => holds).bind fun start => ?_
  refine (Links.expectMark laws .leftBracket rfl).bind fun _ => ?_
  refine (Links.withIn laws (agree .arrayElements)).bind fun elements => ?_
  refine (Links.expectMark laws .rightBracket rfl).bind fun _ => ?_
  exact Links.finish laws fun _ _ holds => holds

theorem namedMember (laws : c.Lawful) (agree : c.Agree self self') (start : Nat) :
    c.Links c.loose (Parser.namedMember self start) (Parser.namedMember self' start)
      (fun _ => c.loose) := by
  refine (Links.modifiers laws).bind fun modifiers => ?_
  refine (Links.currentName? laws).bind fun shorthand => ?_
  refine (agree.propertyKey laws).bind fun key => ?_
  refine (Links.ask laws rfl).bind fun callable => ?_
  refine .ite (fun _ => ?_) fun _ => Links.ifEatMark laws .colon rfl ?_ ?_
  · refine (agree.method laws modifiers.isAsync modifiers.isGenerator).bind fun value => ?_
    exact (Links.finish laws fun _ _ => laws.loosen).loosely laws
  · refine (agree .assignment).bind fun value => ?_
    exact (Links.finish laws fun _ _ => laws.loosen).loosely laws
  · cases shorthand with
    | some name => exact Links.finish laws fun _ _ holds => holds
    | none => exact Links.unexpected laws fun _ _ holds => holds

theorem objectMember (laws : c.Lawful) (agree : c.Agree self self') :
    c.Links c.loose (Parser.objectMember self) (Parser.objectMember self')
      (fun _ => c.loose) := by
  refine (Links.position laws fun _ _ holds => holds).bind fun start => ?_
  refine Links.ifEatMark laws .ellipsis rfl ?_ (agree.namedMember laws start)
  refine (agree .assignment).bind fun argument => ?_
  exact (Links.finish laws fun _ _ => laws.loosen).loosely laws

theorem objectMembers (laws : c.Lawful) (agree : c.Agree self self') :
    c.Links c.loose (Parser.objectMembers self) (Parser.objectMembers self')
      (fun _ => c.loose) := by
  refine Links.ifMark laws .rightBrace rfl (.pure fun _ _ => laws.loose_of_before) ?_
  refine (agree.objectMember laws).bind fun property => ?_
  refine (Links.separator laws .rightBrace rfl).bind fun _ => ?_
  exact (agree .objectMembers).bind fun rest => .pure fun _ _ holds => holds

theorem objectLiteral (laws : c.Lawful) (agree : c.Agree self self') :
    c.Links c.loose (Parser.objectLiteral self) (Parser.objectLiteral self')
      (fun _ => c.loose) := by
  refine (Links.position laws fun _ _ holds => holds).bind fun start => ?_
  refine (Links.expectMark laws .leftBrace rfl).bind fun _ => ?_
  refine (Links.withIn laws (agree .objectMembers)).bind fun properties => ?_
  refine (Links.expectMark laws .rightBrace rfl).bind fun _ => ?_
  exact Links.finish laws fun _ _ holds => holds

theorem templateRest (laws : c.Lawful) (agree : c.Agree self self') :
    c.Links c.loose (Parser.templateRest self) (Parser.templateRest self')
      (fun _ => c.loose) := by
  refine (Links.withIn laws (agree .expression)).bind fun expression => ?_
  refine Links.token laws (fun token => ?_) fun a b left right newline => ?_
  · cases token.kind with
    | template part raw =>
        cases part with
        | middle =>
            refine (Links.advance laws).bind fun _ => ?_
            exact (agree .templateRest).bind fun rest => .pure fun _ _ holds => holds
        | tail => exact (Links.advance laws).bind fun _ => .pure fun _ _ holds => holds
        | _ => exact Links.unexpected laws fun _ _ => laws.loose_of_before
    | _ => exact Links.unexpected laws fun _ _ => laws.loose_of_before
  · rcases TokenKind.isSlash_cases left with left | left | ⟨raw, left⟩ <;>
    rcases TokenKind.isSlash_cases right with right | right | ⟨raw', right⟩ <;>
    simp only [left, right] <;>
    exact Links.unexpected laws fun _ _ holds => holds

theorem templateLiteral (laws : c.Lawful) (agree : c.Agree self self') :
    c.Links c.loose (Parser.templateLiteral self) (Parser.templateLiteral self')
      (fun _ => c.loose) := by
  refine (Links.position laws fun _ _ holds => holds).bind fun start => ?_
  refine Links.token laws (fun token => ?_) fun a b left right newline => ?_
  · cases token.kind with
    | template part raw =>
        cases part with
        | whole => exact (Links.advance laws).bind fun _ => Links.finish laws fun _ _ holds => holds
        | head =>
            refine (Links.advance laws).bind fun _ => ?_
            exact (agree .templateRest).bind fun rest => Links.finish laws fun _ _ holds => holds
        | _ => exact Links.unexpected laws fun _ _ => laws.loose_of_before
    | _ => exact Links.unexpected laws fun _ _ => laws.loose_of_before
  · rcases TokenKind.isSlash_cases left with left | left | ⟨raw, left⟩ <;>
    rcases TokenKind.isSlash_cases right with right | right | ⟨raw', right⟩ <;>
    simp only [left, right] <;>
    exact Links.unexpected laws fun _ _ holds => holds

/-! ## Operands -/

theorem plainExpression (laws : c.Lawful) :
    c.Links c.firm Parser.plainExpression Parser.plainExpression (fun _ => c.loose) := by
  refine (Links.position laws fun _ _ => laws.loosen).bind fun start => ?_
  refine Links.firmKind laws fun kind => ?_
  cases plainExpression? kind with
  | some item => exact (Links.advance laws).bind fun _ => Links.finish laws fun _ _ holds => holds
  | none => exact Links.unexpected laws fun _ _ => laws.loose_of_before

theorem functionExpression (laws : c.Lawful) (agree : c.Agree self self') (start : Nat)
    (isAsync : Bool) :
    c.Links c.loose (Parser.functionExpression self start isAsync)
      (Parser.functionExpression self' start isAsync) (fun _ => c.loose) :=
  (agree.function laws start isAsync false).bind fun _ => .pure fun _ _ => laws.loosen

theorem asyncOperand (laws : c.Lawful) (agree : c.Agree self self') {kind : TokenKind} :
    c.Links (c.before kind) (Parser.asyncOperand self) (Parser.asyncOperand self')
      (fun _ => c.loose) := by
  refine (Links.position laws fun _ _ => laws.loose_of_before).bind fun start => ?_
  refine Links.peek laws (fun _ _ holds => holds.1) (fun next => ?_) fun a b left right => ?_
  · refine .ite (fun _ => ?_) fun _ => (plainExpression laws).strengthen fun _ _ holds => holds.1.1
    refine ((Links.advance laws).strengthen fun _ _ holds => holds.1).bind fun _ => ?_
    exact agree.functionExpression laws start true
  · have word_ne_of_slash (kind : TokenKind) (slash : kind.isSlash = true) :
        decide (kind = .keyword .functionWord) = false := by
      rcases TokenKind.isSlash_cases slash with rfl | rfl | ⟨raw, rfl⟩ <;> rfl
    simp only [word_ne_of_slash _ left, word_ne_of_slash _ right, Bool.false_and]
    exact (plainExpression laws).strengthen fun _ _ holds => holds.1

theorem primary (laws : c.Lawful) (agree : c.Agree self self') :
    c.Links c.loose (Parser.primary self) (Parser.primary self') (fun _ => c.loose) := by
  refine laws.slashAsRegex.bind fun _ => ?_
  refine (Links.position laws fun _ _ => laws.loosen).bind fun start => ?_
  refine Links.firmKind laws fun kind => ?_
  have plain : c.Links (c.before kind) Parser.plainExpression Parser.plainExpression
      (fun _ => c.loose) :=
    (plainExpression laws).strengthen fun _ _ holds => holds.1
  have quoted : c.Links (c.before kind)
      (do
        let content ← Parser.templateLiteral self
        return Node.located content.start content.stop (.templateExpression content.item))
      (do
        let content ← Parser.templateLiteral self'
        return Node.located content.start content.stop (.templateExpression content.item))
      (fun _ => c.loose) :=
    ((agree.templateLiteral laws).fromBefore laws).bind fun content => .pure fun _ _ holds => holds
  cases kind with
  | punctuator mark =>
      cases mark with
      | leftParen =>
          refine (Links.advance laws).bind fun _ => ?_
          refine (Links.withIn laws (agree .expression)).bind fun inner => ?_
          refine (Links.expectMark laws .rightParen rfl).bind fun _ => ?_
          exact .pure fun _ _ holds => holds
      | leftBracket => exact (agree.arrayLiteral laws).fromBefore laws
      | leftBrace => exact (agree.objectLiteral laws).fromBefore laws
      | _ => exact plain
  | keyword word =>
      cases word with
      | functionWord => exact (agree.functionExpression laws start false).fromBefore laws
      | classWord =>
          exact ((agree.classDefinition laws false).fromBefore laws).bind fun definition =>
            .pure fun _ _ holds => holds
      | _ => exact plain
  | template part raw =>
      cases part with
      | whole => exact quoted
      | head => exact quoted
      | _ => exact plain
  | identifier name =>
      by_cases isAsync : name = "async"
      · simp only [if_pos isAsync]
        exact agree.asyncOperand laws
      · simp only [if_neg isAsync]
        exact plain
  | _ => exact plain

theorem memberRest (laws : c.Lawful) (agree : c.Agree self self') (start : Nat)
    (object : Located .expression) (allowCall : Bool) :
    c.Links c.loose (Parser.memberRest self start object allowCall)
      (Parser.memberRest self' start object allowCall) (fun _ => c.loose) := by
  refine Links.kind laws (fun kind => ?_) fun a b left right => ?_
  · have ends : c.Links (c.before kind) (pure object) (pure object) (fun _ => c.loose) :=
      .pure fun _ _ => laws.loose_of_before
    have tagged : c.Links (c.before kind)
        (do
          let quasi ← Parser.templateLiteral self
          let tagged ← finish start (.taggedTemplate object quasi)
          self (.memberRest start tagged allowCall))
        (do
          let quasi ← Parser.templateLiteral self'
          let tagged ← finish start (.taggedTemplate object quasi)
          self' (.memberRest start tagged allowCall)) (fun _ => c.loose) := by
      refine ((agree.templateLiteral laws).fromBefore laws).bind fun quasi => ?_
      refine (Links.finish laws fun _ _ holds => holds).bind fun tagged => ?_
      exact agree (.memberRest start tagged allowCall)
    cases kind with
    | punctuator mark =>
        cases mark with
        | dot =>
            refine (Links.advance laws).bind fun _ => ?_
            refine (Links.propertyName laws).bind fun property => ?_
            refine (Links.finish laws fun _ _ holds => holds).bind fun member => ?_
            exact agree (.memberRest start member allowCall)
        | leftBracket =>
            refine (Links.advance laws).bind fun _ => ?_
            refine (Links.withIn laws (agree .expression)).bind fun property => ?_
            refine (Links.expectMark laws .rightBracket rfl).bind fun _ => ?_
            refine (Links.finish laws fun _ _ holds => holds).bind fun member => ?_
            exact agree (.memberRest start member allowCall)
        | leftParen =>
            refine .ite (fun _ => ?_) fun _ => ends
            refine ((agree.callArguments laws).fromBefore laws).bind fun arguments => ?_
            refine (Links.finish laws fun _ _ holds => holds).bind fun call => ?_
            exact agree (.memberRest start call allowCall)
        | _ => exact ends
    | template part raw =>
        cases part with
        | whole => exact tagged
        | head => exact tagged
        | _ => exact ends
    | _ => exact ends
  · rcases TokenKind.isSlash_cases left with rfl | rfl | ⟨raw, rfl⟩ <;>
    rcases TokenKind.isSlash_cases right with rfl | rfl | ⟨raw', rfl⟩ <;>
    exact .pure fun _ _ holds => holds

theorem newOperand (laws : c.Lawful) (agree : c.Agree self self') :
    c.Links c.loose (Parser.newOperand self) (Parser.newOperand self') (fun _ => c.loose) := by
  refine Links.ifKeyword laws .newWord ?_ (agree.primary laws)
  exact Links.fromBefore laws (laws.nested (agree .newExpression))

theorem newArguments (laws : c.Lawful) (agree : c.Agree self self') :
    c.Links c.loose (Parser.newArguments self) (Parser.newArguments self')
      (fun _ => c.loose) :=
  Links.ifMark laws .leftParen rfl ((agree.callArguments laws).fromBefore laws)
    (.pure fun _ _ holds => holds)

theorem newExpression (laws : c.Lawful) (agree : c.Agree self self') :
    c.Links c.loose (Parser.newExpression self) (Parser.newExpression self')
      (fun _ => c.loose) := by
  refine (Links.position laws fun _ _ holds => holds).bind fun start => ?_
  refine (Links.expectKeyword laws .newWord).bind fun _ => ?_
  refine (Links.position laws fun _ _ holds => holds).bind fun calleeStart => ?_
  refine (agree.newOperand laws).bind fun operand => ?_
  refine (agree (.memberRest calleeStart operand false)).bind fun callee => ?_
  refine (agree.newArguments laws).bind fun arguments => ?_
  exact Links.finish laws fun _ _ holds => holds

theorem leftmostOperand (laws : c.Lawful) (agree : c.Agree self self') :
    c.Links c.loose (Parser.leftmostOperand self) (Parser.leftmostOperand self')
      (fun _ => c.loose) :=
  Links.ifKeyword laws .newWord (Links.fromBefore laws (agree .newExpression)) (agree.primary laws)

theorem leftHandSide (laws : c.Lawful) (agree : c.Agree self self') :
    c.Links c.loose (Parser.leftHandSide self) (Parser.leftHandSide self')
      (fun _ => c.loose) := by
  refine (Links.position laws fun _ _ holds => holds).bind fun start => ?_
  exact (agree.leftmostOperand laws).bind fun operand => agree (.memberRest start operand true)

end Agree

end Ecmascript.Parser.Coupling
