import Ecmascript.Proofs.Coupling.Operand

/-!
# Coupled runs of statements

Statements and lists of them, and the productions tied together. Two runs with the same bound on
their steps stay coupled, because each step of one is a step of the other.
-/

set_option autoImplicit false

namespace Ecmascript.Parser.Coupling

variable {c : Coupling} {self self' : Grammar}

namespace Agree

theorem parenthesized (laws : c.Lawful) (agree : c.Agree self self') :
    c.Links c.loose (Parser.parenthesized self) (Parser.parenthesized self')
      (fun _ => c.loose) := by
  refine (Links.expectMark laws .leftParen rfl).bind fun _ => ?_
  refine (agree .expression).bind fun inner => ?_
  refine (Links.expectMark laws .rightParen rfl).bind fun _ => ?_
  exact .pure fun _ _ holds => holds

/-! ## Declarations -/

theorem declarator (laws : c.Lawful) (agree : c.Agree self self') :
    c.Links c.loose (Parser.declarator self) (Parser.declarator self') (fun _ => c.loose) := by
  refine (Links.position laws fun _ _ holds => holds).bind fun start => ?_
  refine (agree (.target .binding)).bind fun id => ?_
  refine Links.ifEatMark laws .assign rfl ?_ (Links.finish laws fun _ _ holds => holds)
  refine (agree .assignment).bind fun value => ?_
  exact (Links.finish laws fun _ _ => laws.loosen).loosely laws

theorem declarators (laws : c.Lawful) (agree : c.Agree self self') :
    c.Links c.loose (Parser.declarators self) (Parser.declarators self')
      (fun _ => c.loose) := by
  refine (agree.declarator laws).bind fun first => ?_
  refine Links.ifEatMark laws .comma rfl ?_ (.pure fun _ _ holds => holds)
  exact (agree .declarators).bind fun rest => .pure fun _ _ holds => holds

theorem declaration (laws : c.Lawful) (agree : c.Agree self self') {kind : TokenKind} :
    c.Links (c.before kind) (Parser.declaration self) (Parser.declaration self')
      (fun _ => c.loose) :=
  (Links.advance laws).bind fun _ => agree .declarators

theorem variableStatement (laws : c.Lawful) (agree : c.Agree self self') {kind : TokenKind}
    (word : VariableKind) :
    c.Links (c.before kind) (Parser.variableStatement self word)
      (Parser.variableStatement self' word) (fun _ => c.loose) := by
  refine (Links.position laws fun _ _ => laws.loose_of_before).bind fun start => ?_
  refine (agree.declaration laws).bind fun declarators => ?_
  refine (Links.expectSemicolon laws).bind fun _ => ?_
  exact Links.finish laws fun _ _ holds => holds

theorem functionStatement (laws : c.Lawful) (agree : c.Agree self self') (start : Nat)
    (isAsync : Bool) :
    c.Links c.loose (Parser.functionStatement self start isAsync)
      (Parser.functionStatement self' start isAsync) (fun _ => c.loose) :=
  (agree.function laws start isAsync true).bind fun _ => .pure fun _ _ => laws.loosen

theorem classStatement (laws : c.Lawful) (agree : c.Agree self self') :
    c.Links c.loose (Parser.classStatement self) (Parser.classStatement self')
      (fun _ => c.loose) :=
  (agree.classDefinition laws true).bind fun _ => .pure fun _ _ holds => holds

/-! ## Simple statements -/

theorem blockStatement (laws : c.Lawful) (agree : c.Agree self self') :
    c.Links c.loose (Parser.blockStatement self) (Parser.blockStatement self')
      (fun _ => c.loose) := by
  refine (agree.block laws).bind fun body => ?_
  cases body with
  | located start stop body =>
      cases body with
      | block body => exact .pure fun _ _ => laws.loosen

theorem expressionStatement (laws : c.Lawful) (agree : c.Agree self self') :
    c.Links c.loose (Parser.expressionStatement self) (Parser.expressionStatement self')
      (fun _ => c.loose) := by
  refine (Links.position laws fun _ _ holds => holds).bind fun start => ?_
  refine (agree .expression).bind fun expression => ?_
  refine (Links.expectSemicolon laws).bind fun _ => ?_
  exact Links.finish laws fun _ _ holds => holds

theorem wordStatement (laws : c.Lawful) (agree : c.Agree self self') {name : String} :
    c.Links (c.before (.identifier name)) (Parser.wordStatement self)
      (Parser.wordStatement self') (fun _ => c.loose) := by
  have loose (s t : State) (holds : c.before (.identifier name) s t) : c.loose s t :=
    laws.loose_of_before holds
  refine (Links.position laws loose).bind fun start => ?_
  refine Links.peek laws (fun _ _ holds => holds.1) (fun next => ?_) fun a b left right => ?_
  · refine (Links.askKind laws rfl fun s t holds => loose s t holds.1).bind fun isAsync => ?_
    refine .ite (fun _ => ?_) fun _ => ?_
    · refine ((Links.advance laws).strengthen fun _ _ holds => holds.1.1).bind fun _ => ?_
      exact agree.functionStatement laws start true
    by_cases colon : next.kind = .punctuator .colon
    · simp only [if_pos colon]
      refine ((Links.bindingNameForeseen laws (by rw [colon]; rfl)).strengthen
        fun _ _ holds => holds.1).bind fun label => ?_
      refine (Links.advance laws).bind fun _ => ?_
      exact (agree .statement).bind fun body => Links.finish laws fun _ _ holds => holds
    · simp only [if_neg colon]
      exact (agree.expressionStatement laws).strengthen fun s t holds => loose s t holds.1.1
  · have other_of_slash (kind : TokenKind) (slash : kind.isSlash = true) :
        decide (kind = .keyword .functionWord) = false ∧ kind ≠ .punctuator .colon := by
      rcases TokenKind.isSlash_cases slash with rfl | rfl | ⟨raw, rfl⟩ <;> exact ⟨rfl, nofun⟩
    simp only [other_of_slash _ left, other_of_slash _ right, Bool.false_and, Bool.and_false,
      Bool.false_eq_true, if_false]
    refine (Links.askKind laws rfl loose).bind fun isAsync => ?_
    exact (agree.expressionStatement laws).strengthen fun s t holds => loose s t holds.1

theorem returnValue (laws : c.Lawful) (agree : c.Agree self self') :
    c.Links c.loose (Parser.returnValue self) (Parser.returnValue self')
      (fun _ => c.loose) := by
  refine (Links.atStatementEnd laws).bind fun ends => ?_
  refine .ite (fun _ => .pure fun _ _ holds => holds) fun _ => ?_
  exact (agree .expression).bind fun value => .pure fun _ _ holds => holds

theorem returnStatement (laws : c.Lawful) (agree : c.Agree self self') {kind : TokenKind} :
    c.Links (c.before kind) (Parser.returnStatement self) (Parser.returnStatement self')
      (fun _ => c.loose) := by
  refine (Links.position laws fun _ _ => laws.loose_of_before).bind fun start => ?_
  refine (Links.context laws fun _ _ => laws.loose_of_before).bind fun context => ?_
  refine .ite (fun _ => ?_) fun _ => Links.unexpected laws fun _ _ => laws.loose_of_before
  refine (Links.advance laws).bind fun _ => ?_
  refine (agree.returnValue laws).bind fun value => ?_
  refine (Links.expectSemicolon laws).bind fun _ => ?_
  exact Links.finish laws fun _ _ holds => holds

theorem jumpLabel (laws : c.Lawful) :
    c.Links c.loose Parser.jumpLabel Parser.jumpLabel (fun _ => c.loose) := by
  refine Links.token laws (fun token => ?_) fun a b left right newline => ?_
  · have missing : c.Links (c.before token.kind) (pure Node.none) (pure Node.none)
        (fun (_ : Optional (.located .word)) => c.loose) :=
      .pure fun _ _ => laws.loose_of_before
    generalize token.kind = kind at missing ⊢
    cases kind with
    | identifier name =>
        refine .ite (fun _ => missing) fun _ => ?_
        exact ((Links.bindingName laws).fromBefore laws).bind fun label =>
          .pure fun _ _ holds => holds
    | _ => exact missing
  · rcases TokenKind.isSlash_cases left with left | left | ⟨raw, left⟩ <;>
    rcases TokenKind.isSlash_cases right with right | right | ⟨raw', right⟩ <;>
    simp only [left, right] <;>
    exact .pure fun _ _ holds => holds

theorem jumpStatement (laws : c.Lawful) (jump : Optional (.located .word) → Node .statement)
    {kind : TokenKind} :
    c.Links (c.before kind) (Parser.jumpStatement jump) (Parser.jumpStatement jump)
      (fun _ => c.loose) := by
  refine (Links.position laws fun _ _ => laws.loose_of_before).bind fun start => ?_
  refine (Links.advance laws).bind fun _ => ?_
  refine (jumpLabel laws).bind fun label => ?_
  refine (Links.expectSemicolon laws).bind fun _ => ?_
  exact Links.finish laws fun _ _ holds => holds

theorem throwStatement (laws : c.Lawful) (agree : c.Agree self self') {kind : TokenKind} :
    c.Links (c.before kind) (Parser.throwStatement self) (Parser.throwStatement self')
      (fun _ => c.loose) := by
  refine (Links.position laws fun _ _ => laws.loose_of_before).bind fun start => ?_
  refine (Links.advance laws).bind fun _ => ?_
  refine (Links.atNewline laws fun _ _ holds => holds).bind fun newline => ?_
  refine .ite (fun _ => Links.unexpected laws fun _ _ holds => holds) fun _ => ?_
  refine (agree .expression).bind fun value => ?_
  refine (Links.expectSemicolon laws).bind fun _ => ?_
  exact Links.finish laws fun _ _ holds => holds

theorem debuggerStatement (laws : c.Lawful) {kind : TokenKind} :
    c.Links (c.before kind) Parser.debuggerStatement Parser.debuggerStatement
      (fun _ => c.loose) := by
  refine (Links.position laws fun _ _ => laws.loose_of_before).bind fun start => ?_
  refine (Links.advance laws).bind fun _ => ?_
  refine (Links.expectSemicolon laws).bind fun _ => ?_
  exact Links.finish laws fun _ _ holds => holds

theorem emptyStatement (laws : c.Lawful) {kind : TokenKind} :
    c.Links (c.before kind) Parser.emptyStatement Parser.emptyStatement (fun _ => c.loose) := by
  refine (Links.position laws fun _ _ => laws.loose_of_before).bind fun start => ?_
  exact (Links.advance laws).bind fun _ => Links.finish laws fun _ _ holds => holds

/-! ## Conditionals and loops -/

theorem ifStatement (laws : c.Lawful) (agree : c.Agree self self') {kind : TokenKind} :
    c.Links (c.before kind) (Parser.ifStatement self) (Parser.ifStatement self')
      (fun _ => c.loose) := by
  refine (Links.position laws fun _ _ => laws.loose_of_before).bind fun start => ?_
  refine (Links.advance laws).bind fun _ => ?_
  refine (agree.parenthesized laws).bind fun test => ?_
  refine (agree .statement).bind fun consequent => ?_
  refine Links.ifEatKeyword laws .elseWord ?_ (Links.finish laws fun _ _ holds => holds)
  exact (agree .statement).bind fun alternate => Links.finish laws fun _ _ holds => holds

theorem whileStatement (laws : c.Lawful) (agree : c.Agree self self') {kind : TokenKind} :
    c.Links (c.before kind) (Parser.whileStatement self) (Parser.whileStatement self')
      (fun _ => c.loose) := by
  refine (Links.position laws fun _ _ => laws.loose_of_before).bind fun start => ?_
  refine (Links.advance laws).bind fun _ => ?_
  refine (agree.parenthesized laws).bind fun test => ?_
  exact (agree .statement).bind fun body => Links.finish laws fun _ _ holds => holds

theorem doStatement (laws : c.Lawful) (agree : c.Agree self self') {kind : TokenKind} :
    c.Links (c.before kind) (Parser.doStatement self) (Parser.doStatement self')
      (fun _ => c.loose) := by
  refine (Links.position laws fun _ _ => laws.loose_of_before).bind fun start => ?_
  refine (Links.advance laws).bind fun _ => ?_
  refine (agree .statement).bind fun body => ?_
  refine (Links.expectKeyword laws .whileWord).bind fun _ => ?_
  refine (agree.parenthesized laws).bind fun test => ?_
  refine (Links.eatMark laws .semicolon rfl).bind fun _ => ?_
  exact Links.finish laws fun _ _ holds => holds

theorem loopTarget (laws : c.Lawful) (agree : c.Agree self self') :
    c.Links c.loose (Parser.loopTarget self) (Parser.loopTarget self') (fun _ => c.loose) := by
  refine (agree (.target .assignment)).bind fun left => ?_
  have asks : c.Links c.loose Parser.atLoopWord Parser.atLoopWord (fun _ => c.loose) := by
    refine (Links.askKind laws rfl fun _ _ holds => holds).bind fun isIn => ?_
    refine (Links.askKind laws rfl fun _ _ holds => holds.1).bind fun isOf => ?_
    exact .pure fun _ _ holds => holds.1.1
  refine asks.bind fun found => ?_
  exact .ite (fun _ => .pure fun _ _ holds => holds)
    fun _ => Links.unexpected laws fun _ _ holds => holds

theorem loopTarget? (laws : c.Lawful) (attempts : c.Attempts self self') :
    c.Links c.loose (Parser.loopTarget? self) (Parser.loopTarget? self')
      (fun _ => c.loose) := by
  refine Links.kind laws (fun kind => ?_) fun a b left right => ?_
  · cases kind with
    | punctuator mark =>
        cases mark with
        | leftBracket => exact attempts.loopTarget _ (.inl rfl)
        | leftBrace => exact attempts.loopTarget _ (.inr rfl)
        | _ => exact .pure fun _ _ => laws.loose_of_before
    | _ => exact .pure fun _ _ => laws.loose_of_before
  · rcases TokenKind.isSlash_cases left with rfl | rfl | ⟨raw, rfl⟩ <;>
    rcases TokenKind.isSlash_cases right with rfl | rfl | ⟨raw', rfl⟩ <;>
    exact .pure fun _ _ holds => holds

/-- A loop head that declares nothing. -/
def targetHead (self : Grammar) : Parser (Located .loopHead) := do
  match ← Parser.loopTarget? self with
  | some pattern => return .located pattern.start pattern.stop (.patternHead pattern.item)
  | none =>
      let expression ← self .expression
      return .located expression.start expression.stop (.expressionHead expression.item)

theorem linked_targetHead (laws : c.Lawful) (agree : c.Agree self self')
    (attempts : c.Attempts self self') :
    c.Links c.loose (targetHead self) (targetHead self') (fun _ => c.loose) := by
  refine (loopTarget? laws attempts).bind fun target => ?_
  cases target with
  | some pattern => exact .pure fun _ _ holds => holds
  | none => exact (agree .expression).bind fun expression => .pure fun _ _ holds => holds

theorem loopHead (laws : c.Lawful) (agree : c.Agree self self')
    (attempts : c.Attempts self self') :
    c.Links c.loose (Parser.loopHead self) (Parser.loopHead self') (fun _ => c.loose) := by
  have target := linked_targetHead laws agree attempts
  refine Links.withIn laws ?_
  refine (Links.position laws fun _ _ holds => holds).bind fun start => ?_
  refine Links.kind laws (fun kind => ?_) fun a b left right => ?_
  · cases variableKind? kind with
    | some word =>
        refine (agree.declaration laws).bind fun declarators => ?_
        exact Links.finish laws fun _ _ holds => holds
    | none => exact target.fromBefore laws
  · rcases TokenKind.isSlash_cases left with rfl | rfl | ⟨raw, rfl⟩ <;>
    rcases TokenKind.isSlash_cases right with rfl | rfl | ⟨raw', rfl⟩ <;>
    exact target

theorem loopLeft (laws : c.Lawful) (head : Located .loopHead) {pre : State → State → Prop}
    (related : ∀ s t, pre s t → c.loose s t) :
    c.Links pre (Parser.loopLeft head) (Parser.loopLeft head) (fun _ => pre) := by
  cases head with
  | located start stop head =>
      cases head with
      | expressionHead expression =>
          refine (Links.targetOf laws _ related).bind fun target => ?_
          exact .pure fun _ _ holds => holds
      | patternHead pattern => exact .pure fun _ _ holds => holds
      | declarationHead kind declarators =>
          cases declarators with
          | nil => exact Links.fail laws related
          | cons declarator rest =>
              cases rest with
              | nil => exact .pure fun _ _ holds => holds
              | cons _ _ => exact Links.fail laws related

theorem forInRest (laws : c.Lawful) (agree : c.Agree self self') (start : Nat)
    (left : Located .loopHead) :
    c.Links c.loose (Parser.forInRest self start left) (Parser.forInRest self' start left)
      (fun _ => c.loose) := by
  refine (agree .expression).bind fun right => ?_
  refine (Links.expectMark laws .rightParen rfl).bind fun _ => ?_
  exact (agree .statement).bind fun body => Links.finish laws fun _ _ holds => holds

theorem forOfRest (laws : c.Lawful) (agree : c.Agree self self') (start : Nat)
    (left : Located .loopHead) :
    c.Links c.loose (Parser.forOfRest self start left) (Parser.forOfRest self' start left)
      (fun _ => c.loose) := by
  refine (agree .assignment).bind fun right => ?_
  refine ((Links.expectMark laws .rightParen rfl).fromFirm laws).bind fun _ => ?_
  exact (agree .statement).bind fun body => Links.finish laws fun _ _ holds => holds

theorem optionalExpression (laws : c.Lawful) (agree : c.Agree self self') (close : Punctuator)
    (plain : (TokenKind.punctuator close).isSlash = false) :
    c.Links c.loose (Parser.optionalExpression self close) (Parser.optionalExpression self' close)
      (fun _ => c.loose) := by
  refine Links.ifMark laws close plain (.pure fun _ _ => laws.loose_of_before) ?_
  exact (agree .expression).bind fun expression => .pure fun _ _ holds => holds

theorem forRest (laws : c.Lawful) (agree : c.Agree self self') (start : Nat)
    (head : Optional (.located .loopHead)) :
    c.Links c.loose (Parser.forRest self start head) (Parser.forRest self' start head)
      (fun _ => c.loose) := by
  refine (Links.expectMark laws .semicolon rfl).bind fun _ => ?_
  refine (agree.optionalExpression laws .semicolon rfl).bind fun test => ?_
  refine (Links.expectMark laws .semicolon rfl).bind fun _ => ?_
  refine (agree.optionalExpression laws .rightParen rfl).bind fun update => ?_
  refine (Links.expectMark laws .rightParen rfl).bind fun _ => ?_
  exact (agree .statement).bind fun body => Links.finish laws fun _ _ holds => holds

theorem forStatement (laws : c.Lawful) (agree : c.Agree self self')
    (attempts : c.Attempts self self') {kind : TokenKind} :
    c.Links (c.before kind) (Parser.forStatement self) (Parser.forStatement self')
      (fun _ => c.loose) := by
  refine (Links.position laws fun _ _ => laws.loose_of_before).bind fun start => ?_
  refine (Links.advance laws).bind fun _ => ?_
  refine (Links.expectMark laws .leftParen rfl).bind fun _ => ?_
  refine Links.ifMark laws .semicolon rfl ((agree.forRest laws start .none).fromBefore laws) ?_
  refine (agree.loopHead laws attempts).bind fun head => ?_
  refine Links.ifKeyword laws .inWord ?_ (Links.ifName laws "of" ?_ ?_)
  · refine (loopLeft laws head fun _ _ => laws.loose_of_before).bind fun left => ?_
    exact (Links.advance laws).bind fun _ => agree.forInRest laws start left
  · refine (loopLeft laws head fun _ _ => laws.loose_of_before).bind fun left => ?_
    exact (Links.advance laws).bind fun _ => agree.forOfRest laws start left
  · exact agree.forRest laws start (.some head)

/-! ## Clauses -/

theorem handlerParameter (laws : c.Lawful) (agree : c.Agree self self') :
    c.Links c.loose (Parser.handlerParameter self) (Parser.handlerParameter self')
      (fun _ => c.loose) := by
  refine Links.ifEatMark laws .leftParen rfl ?_ (.pure fun _ _ holds => holds)
  refine (agree (.target .binding)).bind fun parameter => ?_
  exact (Links.expectMark laws .rightParen rfl).bind fun _ => .pure fun _ _ holds => holds

theorem catchClause (laws : c.Lawful) (agree : c.Agree self self') :
    c.Links c.loose (Parser.catchClause self) (Parser.catchClause self')
      (fun _ => c.loose) := by
  refine (Links.position laws fun _ _ holds => holds).bind fun start => ?_
  refine Links.ifEatKeyword laws .catchWord ?_ (.pure fun _ _ holds => holds)
  refine (agree.handlerParameter laws).bind fun parameter => ?_
  refine (agree.block laws).bind fun body => ?_
  exact (Links.finish laws fun _ _ => laws.loosen).bind fun clause => .pure fun _ _ => laws.loosen

theorem finallyBlock (laws : c.Lawful) (agree : c.Agree self self') :
    c.Links c.loose (Parser.finallyBlock self) (Parser.finallyBlock self')
      (fun _ => c.loose) := by
  refine Links.ifEatKeyword laws .finallyWord ?_ (.pure fun _ _ holds => holds)
  exact (agree.block laws).bind fun body => .pure fun _ _ => laws.loosen

theorem tryStatement (laws : c.Lawful) (agree : c.Agree self self') {kind : TokenKind} :
    c.Links (c.before kind) (Parser.tryStatement self) (Parser.tryStatement self')
      (fun _ => c.loose) := by
  refine (Links.position laws fun _ _ => laws.loose_of_before).bind fun start => ?_
  refine (Links.advance laws).bind fun _ => ?_
  refine (agree.block laws).bind fun body => ?_
  refine ((agree.catchClause laws).fromFirm laws).bind fun clause => ?_
  refine (agree.finallyBlock laws).bind fun finalizer => ?_
  cases clause with
  | some clause => exact Links.finish laws fun _ _ holds => holds
  | none =>
      cases finalizer with
      | some finalizer => exact Links.finish laws fun _ _ holds => holds
      | none => exact Links.unexpected laws fun _ _ holds => holds

theorem caseTest (laws : c.Lawful) (agree : c.Agree self self') :
    c.Links c.loose (Parser.caseTest self) (Parser.caseTest self') (fun _ => c.loose) := by
  refine Links.ifEatKeyword laws .caseWord ?_ (Links.ifEatKeyword laws .defaultWord ?_ ?_)
  · exact (agree .expression).bind fun test => .pure fun _ _ holds => holds
  · exact .pure fun _ _ holds => holds
  · exact Links.unexpected laws fun _ _ holds => holds

theorem switchCase (laws : c.Lawful) (agree : c.Agree self self') :
    c.Links c.loose (Parser.switchCase self) (Parser.switchCase self') (fun _ => c.loose) := by
  refine (Links.position laws fun _ _ holds => holds).bind fun start => ?_
  refine (agree.caseTest laws).bind fun test => ?_
  refine (Links.expectMark laws .colon rfl).bind fun _ => ?_
  exact (agree (.statements .clause)).bind fun consequent =>
    Links.finish laws fun _ _ holds => holds

theorem switchCases (laws : c.Lawful) (agree : c.Agree self self') :
    c.Links c.loose (Parser.switchCases self) (Parser.switchCases self')
      (fun _ => c.loose) := by
  refine Links.ifMark laws .rightBrace rfl (.pure fun _ _ => laws.loose_of_before) ?_
  refine (agree.switchCase laws).bind fun first => ?_
  exact (agree .switchCases).bind fun rest => .pure fun _ _ holds => holds

theorem switchStatement (laws : c.Lawful) (agree : c.Agree self self') {kind : TokenKind} :
    c.Links (c.before kind) (Parser.switchStatement self) (Parser.switchStatement self')
      (fun _ => c.loose) := by
  refine (Links.position laws fun _ _ => laws.loose_of_before).bind fun start => ?_
  refine (Links.advance laws).bind fun _ => ?_
  refine (agree.parenthesized laws).bind fun discriminant => ?_
  refine (Links.expectMark laws .leftBrace rfl).bind fun _ => ?_
  refine (agree .switchCases).bind fun cases => ?_
  refine (Links.expectMark laws .rightBrace rfl).bind fun _ => ?_
  exact Links.finish laws fun _ _ holds => holds

/-! ## Statements of any kind -/

theorem keywordStatement (laws : c.Lawful) (agree : c.Agree self self')
    (attempts : c.Attempts self self') (word : Keyword) :
    c.Links (c.before (.keyword word)) (Parser.keywordStatement self word)
      (Parser.keywordStatement self' word) (fun _ => c.loose) := by
  cases word with
  | varWord => exact agree.variableStatement laws .var
  | letWord => exact agree.variableStatement laws .let'
  | constWord => exact agree.variableStatement laws .const
  | functionWord =>
      refine (Links.position laws fun _ _ => laws.loose_of_before).bind fun start => ?_
      exact (agree.functionStatement laws start false).fromBefore laws
  | classWord => exact (agree.classStatement laws).fromBefore laws
  | ifWord => exact agree.ifStatement laws
  | whileWord => exact agree.whileStatement laws
  | doWord => exact agree.doStatement laws
  | forWord => exact agree.forStatement laws attempts
  | returnWord => exact agree.returnStatement laws
  | breakWord => exact jumpStatement laws .breakStatement
  | continueWord => exact jumpStatement laws .continueStatement
  | throwWord => exact agree.throwStatement laws
  | tryWord => exact agree.tryStatement laws
  | switchWord => exact agree.switchStatement laws
  | debuggerWord => exact debuggerStatement laws
  | _ => exact (agree.expressionStatement laws).fromBefore laws

theorem statement (laws : c.Lawful) (agree : c.Agree self self')
    (attempts : c.Attempts self self') :
    c.Links c.loose (Parser.statement self) (Parser.statement self') (fun _ => c.loose) := by
  refine laws.nested ?_
  refine Links.kind laws (fun kind => ?_) fun a b left right => ?_
  · have plain : c.Links (c.before kind) (Parser.expressionStatement self)
        (Parser.expressionStatement self') (fun _ => c.loose) :=
      (agree.expressionStatement laws).fromBefore laws
    cases kind with
    | punctuator mark =>
        cases mark with
        | leftBrace => exact (agree.blockStatement laws).fromBefore laws
        | semicolon => exact emptyStatement laws
        | _ => exact plain
    | keyword word => exact agree.keywordStatement laws attempts word
    | identifier name => exact agree.wordStatement laws
    | _ => exact plain
  · rcases TokenKind.isSlash_cases left with rfl | rfl | ⟨raw, rfl⟩ <;>
    rcases TokenKind.isSlash_cases right with rfl | rfl | ⟨raw', rfl⟩ <;>
    exact agree.expressionStatement laws

theorem statements (laws : c.Lawful) (agree : c.Agree self self') (stop : StatementsEnd) :
    c.Links c.loose (Parser.statements self stop) (Parser.statements self' stop)
      (fun _ => c.loose) := by
  have more : c.Links c.loose
      (do
        let first ← self .statement
        let rest ← self (.statements stop)
        return Node.cons first rest)
      (do
        let first ← self' .statement
        let rest ← self' (.statements stop)
        return Node.cons first rest) (fun _ => c.loose) := by
    refine (agree .statement).bind fun first => ?_
    exact (agree (.statements stop)).bind fun rest => .pure fun _ _ holds => holds
  refine Links.kind laws (fun kind => ?_) fun a b left right => ?_
  · exact .ite (fun _ => .pure fun _ _ => laws.loose_of_before) fun _ => more.fromBefore laws
  · have goes_on (kind : TokenKind) (slash : kind.isSlash = true) :
        stop.accepts kind = false := by
      rcases TokenKind.isSlash_cases slash with rfl | rfl | ⟨raw, rfl⟩ <;> cases stop <;> rfl
    simp only [goes_on a left, goes_on b right, Bool.false_eq_true, if_false]
    exact more

/-! ## Runs -/

theorem production (laws : c.Lawful) (agree : c.Agree self self')
    (attempts : c.Attempts self self') :
    c.Agree (Parser.production self) (Parser.production self') := by
  intro goal
  cases goal with
  | statement => exact agree.statement laws attempts
  | statements stop => exact agree.statements laws stop
  | declarators => exact agree.declarators laws
  | switchCases => exact agree.switchCases laws
  | classMembers => exact agree.classMembers laws
  | expression => exact agree.expression laws
  | moreExpressions => exact agree.moreExpressions laws
  | assignment => exact agree.assignment laws attempts
  | binary minimum => exact agree.binary laws minimum
  | binaryRest minimum start left => exact agree.binaryRest laws minimum start left
  | power => exact agree.power laws
  | unary => exact agree.unary laws
  | leftHandSide => exact agree.leftHandSide laws
  | newExpression => exact agree.newExpression laws
  | memberRest start object allowCall => exact agree.memberRest laws start object allowCall
  | arguments => exact agree.argumentList laws
  | arrayElements => exact agree.arrayElements laws
  | objectMembers => exact agree.objectMembers laws
  | templateRest => exact agree.templateRest laws
  | target use => exact agree.target laws use
  | targetElements use => exact agree.targetElements laws use
  | targetProperties use => exact agree.targetProperties laws use
  | parameters => exact agree.parameters laws

end Agree

end Ecmascript.Parser.Coupling
