import Ecmascript.Proofs.Progress.Operand

/-!
# Progress in statements

What the productions of statements read.
-/

set_option autoImplicit false

namespace Ecmascript.Parser.Eats

variable {setup : Setup} {self : Grammar} {pre : State → Prop} {bound : Nat}

theorem parenthesized (later : Later setup self bound) :
    Eats setup pre bound (fun _ => 1) (Parser.parenthesized self) := by
  refine (expectMark .leftParen).bind fun _ rest less => ?_
  refine (later rest less .expression).bind fun inner _ _ => ?_
  exact (expectMark .rightParen).bind fun _ _ _ => pure rfl

/-! ## Declarations -/

theorem declarator (later : Later setup self bound)
    (target : Eats setup Anywhere bound (fun _ => 1) (self (.target .binding))) :
    Eats setup pre bound (fun _ => 1) (Parser.declarator self) := by
  refine position fun start => (target.within (Nat.le_refl _)).bind fun id rest less => ?_
  refine ifEatMark .assign (fun rest' less' => ?_) (finish fun _ => rfl)
  exact (later rest' (by omega) .assignment).bind fun value _ _ => finish fun _ => rfl

theorem declarators (later : Later setup self bound)
    (target : Eats setup Anywhere bound (fun _ => 1) (self (.target .binding))) :
    Eats setup pre bound (fun _ => 1) (Parser.declarators self) := by
  refine (declarator later target).bind fun first rest less => ?_
  refine ifEatMark .comma (fun rest' less' => ?_) (pure rfl)
  exact (later rest' (by omega) .declarators).bind fun declarators _ _ => pure rfl

theorem declaration (later : Later setup self bound) {kind : TokenKind}
    (goes_on : kind ≠ .endOfInput) :
    Eats setup (Next kind) bound (fun _ => 1) (Parser.declaration self) := by
  refine (advanceFrom goes_on).bind fun _ rest less => ?_
  exact (later rest less .declarators).atMost (Nat.le_refl _) (by simp)

theorem variableStatement (later : Later setup self bound) {word : Keyword}
    {kind : VariableKind} :
    Eats setup (Next (.keyword word)) bound (fun _ => 1) (Parser.variableStatement self kind) :=
  position fun start => (declaration later (by nofun)).bind fun declarators _ _ =>
    expectSemicolon.bind fun _ _ _ => finish fun _ => rfl

theorem functionStatement (later : Later setup self bound) {start : Nat} {isAsync : Bool} :
    Eats setup pre bound (fun _ => 1) (Parser.functionStatement self start isAsync) :=
  (function later).bind fun _ _ _ => pure rfl

theorem classStatement (later : Later setup self bound) :
    Eats setup pre bound (fun _ => 1) (Parser.classStatement self) :=
  (classDefinition later).bind fun _ _ _ => pure rfl

/-! ## Simple statements -/

theorem blockStatement (later : Later setup self bound) :
    Eats setup pre bound (fun _ => 1) (Parser.blockStatement self) := by
  refine (block later).bind fun body rest less => ?_
  match body with
  | .located start stop (.block body) => exact pure rfl

theorem expressionStatement
    (expression : Eats setup Anywhere bound (fun _ => 1) (self .expression)) :
    Eats setup pre bound (fun _ => 1) (Parser.expressionStatement self) := by
  refine position fun start => (expression.within (Nat.le_refl _)).bind fun expression _ _ => ?_
  exact expectSemicolon.bind fun _ _ _ => finish fun _ => rfl

theorem wordStatement (later : Later setup self bound)
    (expression : Eats setup Anywhere bound (fun _ => 1) (self .expression)) :
    Eats setup pre bound (fun _ => 1) (Parser.wordStatement self) := by
  refine position fun start => peek fun next => ask fun isAsync => ?_
  refine ite (fun _ => ?_) fun _ => ifDecided (fun _ => ?_) fun _ => expressionStatement expression
  · refine step.bind fun _ rest le => ?_
    exact (functionStatement (later.within le)).atMost (Nat.le_refl _) (by simp)
  · refine bindingName.bind fun label rest less => step.bind fun _ rest' le => ?_
    exact (later rest' (by omega) .statement).bind fun body _ _ => finish fun _ => rfl

theorem returnValue (expression : Eats setup Anywhere bound (fun _ => 1) (self .expression)) :
    Eats setup pre bound (fun _ => 0) (Parser.returnValue self) :=
  glance _ (fun _ => rfl) fun _ => ite (fun _ => pure rfl) fun _ =>
    (expression.within (Nat.le_refl _)).bind fun _ _ _ => pure rfl

theorem returnStatement (later : Later setup self bound) :
    Eats setup (Next (.keyword .returnWord)) bound (fun _ => 1)
      (Parser.returnStatement self) := by
  refine position fun start => context fun context => ite (fun _ => ?_) fun _ => unexpected
  refine (advanceFrom (by nofun)).bind fun _ rest less => ?_
  refine (returnValue (later rest less .expression)).bind fun value _ _ => ?_
  exact expectSemicolon.bind fun _ _ _ => finish fun _ => rfl

theorem jumpLabel : Eats setup pre bound (fun _ => 0) Parser.jumpLabel := by
  refine token fun token => ?_
  split
  · exact ite (fun _ => pure rfl) fun _ => bindingName.bind fun label _ _ => pure rfl
  · exact pure rfl

theorem jumpStatement {word : Keyword} {jump : Optional (.located .word) → Node .statement} :
    Eats setup (Next (.keyword word)) bound (fun _ => 1) (Parser.jumpStatement jump) :=
  position fun start => (advanceFrom (by nofun)).bind fun _ _ _ =>
    jumpLabel.bind fun label _ _ => expectSemicolon.bind fun _ _ _ => finish fun _ => rfl

theorem throwStatement (later : Later setup self bound) :
    Eats setup (Next (.keyword .throwWord)) bound (fun _ => 1) (Parser.throwStatement self) := by
  refine position fun start => (advanceFrom (by nofun)).bind fun _ rest less => ?_
  refine glance _ (fun _ => rfl) fun newline => ite (fun _ => unexpected) fun _ => ?_
  refine ((later rest less .expression).within (Nat.le_refl _)).bind fun value _ _ => ?_
  exact expectSemicolon.bind fun _ _ _ => finish fun _ => rfl

theorem debuggerStatement :
    Eats setup (Next (.keyword .debuggerWord)) bound (fun _ => 1) Parser.debuggerStatement :=
  position fun start => (advanceFrom (by nofun)).bind fun _ _ _ =>
    expectSemicolon.bind fun _ _ _ => finish fun _ => rfl

theorem emptyStatement :
    Eats setup (Next (.punctuator .semicolon)) bound (fun _ => 1) Parser.emptyStatement :=
  position fun start => (advanceFrom (by nofun)).bind fun _ _ _ => finish fun _ => rfl

/-! ## Conditionals and loops -/

theorem ifStatement (later : Later setup self bound) :
    Eats setup (Next (.keyword .ifWord)) bound (fun _ => 1) (Parser.ifStatement self) := by
  refine position fun start => (advanceFrom (by nofun)).bind fun _ rest less => ?_
  refine (parenthesized (later.within (by omega))).bind fun test rest' less' => ?_
  refine (later rest' (by omega) .statement).bind fun consequent rest'' le => ?_
  have below : rest'' < bound := by simp only [Goal.eats] at le; omega
  refine ifEatKeyword .elseWord (fun left less'' => ?_) (finish fun _ => rfl)
  exact (later left (by omega) .statement).bind fun alternate _ _ => finish fun _ => rfl

theorem whileStatement (later : Later setup self bound) :
    Eats setup (Next (.keyword .whileWord)) bound (fun _ => 1) (Parser.whileStatement self) := by
  refine position fun start => (advanceFrom (by nofun)).bind fun _ rest less => ?_
  refine (parenthesized (later.within (by omega))).bind fun test rest' less' => ?_
  exact (later rest' (by omega) .statement).bind fun body _ _ => finish fun _ => rfl

theorem doStatement (later : Later setup self bound) :
    Eats setup (Next (.keyword .doWord)) bound (fun _ => 1) (Parser.doStatement self) := by
  refine position fun start => (advanceFrom (by nofun)).bind fun _ rest less => ?_
  refine (later rest less .statement).bind fun body rest' le => ?_
  have within : rest' ≤ bound := by simp only [Goal.eats] at le; omega
  refine (expectKeyword .whileWord).bind fun _ rest'' less' => ?_
  refine (parenthesized (later.within (by omega))).bind fun test _ _ => ?_
  exact (eatMark .semicolon).bind fun _ _ _ => finish fun _ => rfl

theorem loopTarget
    (target : Eats setup Anywhere bound (fun _ => 1) (self (.target .assignment))) :
    Eats setup pre bound (fun _ => 1) (Parser.loopTarget self) := by
  refine (target.within (Nat.le_refl _)).bind fun left rest less => ?_
  exact glance _ (fun _ => rfl) fun word => ite (fun _ => pure rfl) fun _ => unexpected

theorem loopTarget?
    (target : Eats setup Anywhere bound (fun _ => 1) (self (.target .assignment))) :
    Eats setup pre bound (fun _ => 0) (Parser.loopTarget? self) := by
  refine kind fun kind => ?_
  split
  · exact (attempt (loopTarget target)).atMost (Nat.le_refl _) (by simp)
  · exact (attempt (loopTarget target)).atMost (Nat.le_refl _) (by simp)
  · exact pure rfl

theorem loopHead (fed : Fed setup self bound) (later : Later setup self bound) :
    Eats setup pre bound (fun _ => 0) (Parser.loopHead self) := by
  refine withIn (position fun start => kind fun kind => ?_)
  cases found : variableKind? kind with
  | some variableKind =>
      have goes_on : kind ≠ .endOfInput := by
        intro ends
        rw [ends] at found
        cases found
      exact (declaration later goes_on).bind fun declarators _ _ => finish fun _ => rfl
  | none =>
      refine (loopTarget? (fed (.target .assignment))).bind fun pattern rest le => ?_
      cases pattern with
      | some pattern => exact pure rfl
      | none =>
          exact ((fed .expression).within le).bind fun expression _ _ => pure rfl

theorem loopLeft {head : Located .loopHead} :
    Eats setup pre bound (fun _ => 0) (Parser.loopLeft head) := by
  cases head with
  | located start stop head =>
      cases head with
      | expressionHead expression => exact targetOf.bind fun target _ _ => pure rfl
      | patternHead pattern => exact pure rfl
      | declarationHead kind declarators =>
          cases declarators with
          | nil => exact fail
          | cons declarator rest =>
              cases rest with
              | nil => exact pure rfl
              | cons _ _ => exact fail

theorem forInRest (fed : Fed setup self bound) (later : Later setup self bound) {start : Nat}
    {left : Located .loopHead} :
    Eats setup pre bound (fun _ => 0) (Parser.forInRest self start left) := by
  refine ((fed .expression).within (Nat.le_refl _)).bind fun right rest less => ?_
  refine (expectMark .rightParen).bind fun _ rest' less' => ?_
  have below : rest' < bound := by simp only [Goal.eats] at less; omega
  exact (later rest' below .statement).bind fun body _ _ => finish fun _ => rfl

theorem forOfRest (fed : Fed setup self bound) (later : Later setup self bound) {start : Nat}
    {left : Located .loopHead} :
    Eats setup pre bound (fun _ => 0) (Parser.forOfRest self start left) := by
  refine ((fed .assignment).within (Nat.le_refl _)).bind fun right rest less => ?_
  refine (expectMark .rightParen).bind fun _ rest' less' => ?_
  have below : rest' < bound := by simp only [Goal.eats] at less; omega
  exact (later rest' below .statement).bind fun body _ _ => finish fun _ => rfl

theorem optionalExpression {close : Punctuator}
    (expression : Eats setup Anywhere bound (fun _ => 1) (self .expression)) :
    Eats setup pre bound (fun _ => 0) (Parser.optionalExpression self close) :=
  ifMark close (pure rfl) ((expression.within (Nat.le_refl _)).bind fun _ _ _ => pure rfl)

theorem forRest (later : Later setup self bound) {start : Nat}
    {head : Optional (.located .loopHead)} :
    Eats setup pre bound (fun _ => 0) (Parser.forRest self start head) := by
  refine (expectMark .semicolon).bind fun _ rest less => ?_
  refine (optionalExpression (later rest less .expression)).bind fun test rest' le => ?_
  refine (expectMark .semicolon).bind fun _ left less' => ?_
  refine (optionalExpression (later left (by omega) .expression)).bind fun update left' le' => ?_
  refine (expectMark .rightParen).bind fun _ left'' less'' => ?_
  exact (later left'' (by omega) .statement).bind fun body _ _ => finish fun _ => rfl

theorem forStatement (later : Later setup self bound) :
    Eats setup (Next (.keyword .forWord)) bound (fun _ => 1) (Parser.forStatement self) := by
  refine position fun start => (advanceFrom (by nofun)).bind fun _ rest less => ?_
  refine (expectMark .leftParen).bind fun _ left less' => ?_
  have fed (left' : Nat) (le : left' ≤ left) : Fed setup self left' := later left' (by omega)
  have later : Later setup self left := later.within (by omega)
  refine ifMark .semicolon ((forRest later).atMost (Nat.le_refl _) (by simp)) ?_
  refine (loopHead (fed left (Nat.le_refl _)) later).bind fun head left' le => ?_
  refine ifKeyword .inWord ?_ (ifName "of" ?_ ?_)
  · refine loopLeft.bind fun target left'' le' => step.bind fun _ last le'' => ?_
    exact (forInRest (fed last (by omega)) (later.within (by omega))).atMost (Nat.le_refl _)
      (by simp)
  · refine loopLeft.bind fun target left'' le' => step.bind fun _ last le'' => ?_
    exact (forOfRest (fed last (by omega)) (later.within (by omega))).atMost (Nat.le_refl _)
      (by simp)
  · exact (forRest (later.within (by omega))).atMost (Nat.le_refl _) (by simp)

/-! ## Clauses -/

theorem handlerParameter (later : Later setup self bound) :
    Eats setup pre bound (fun _ => 0) (Parser.handlerParameter self) := by
  refine ifEatMark .leftParen (fun rest less => ?_) (pure rfl)
  refine (later rest less (.target .binding)).bind fun parameter _ _ => ?_
  exact (expectMark .rightParen).bind fun _ _ _ => pure rfl

theorem catchClause (later : Later setup self bound) :
    Eats setup pre bound (fun _ => 0) (Parser.catchClause self) := by
  refine position fun start => ifEatKeyword .catchWord (fun rest less => ?_) (pure rfl)
  refine (handlerParameter (later.within (by omega))).bind fun parameter rest' le => ?_
  refine (block (later.within (by omega))).bind fun body _ _ => ?_
  exact (finish (fun _ => rfl)).bind fun clause _ _ => pure rfl

theorem finallyBlock (later : Later setup self bound) :
    Eats setup pre bound (fun _ => 0) (Parser.finallyBlock self) :=
  ifEatKeyword .finallyWord
    (fun _ less => (block (later.within (Nat.le_of_lt less))).bind fun _ _ _ => pure rfl) (pure rfl)

theorem tryStatement (later : Later setup self bound) :
    Eats setup (Next (.keyword .tryWord)) bound (fun _ => 1) (Parser.tryStatement self) := by
  refine position fun start => (advanceFrom (by nofun)).bind fun _ rest less => ?_
  refine (block (later.within (by omega))).bind fun body rest' le => ?_
  refine (catchClause (later.within (by omega))).bind fun clause rest'' le' => ?_
  refine (finallyBlock (later.within (by omega))).bind fun finalizer _ _ => ?_
  cases clause with
  | some clause => exact finish fun _ => rfl
  | none =>
      cases finalizer with
      | some finalizer => exact finish fun _ => rfl
      | none => exact unexpected

theorem caseTest (later : Later setup self bound) :
    Eats setup pre bound (fun _ => 1) (Parser.caseTest self) := by
  refine ifEatKeyword .caseWord (fun rest less => ?_) ?_
  · exact (later rest less .expression).bind fun test _ _ => pure rfl
  · exact ifEatKeyword .defaultWord (fun _ _ => pure rfl) unexpected

theorem switchCase (later : Later setup self bound) :
    Eats setup pre bound (fun _ => 1) (Parser.switchCase self) := by
  refine position fun start => (caseTest later).bind fun test rest less => ?_
  refine (expectMark .colon).bind fun _ rest' less' => ?_
  exact (later rest' (by omega) (.statements .clause)).bind fun consequent _ _ =>
    finish fun _ => rfl

theorem switchCases (later : Later setup self bound) :
    Eats setup pre bound (fun _ => 0) (Parser.switchCases self) := by
  refine ifMark .rightBrace (pure rfl) ((switchCase later).bind fun first rest less => ?_)
  exact (later rest less .switchCases).bind fun cases _ _ => pure rfl

theorem switchStatement (later : Later setup self bound) :
    Eats setup (Next (.keyword .switchWord)) bound (fun _ => 1)
      (Parser.switchStatement self) := by
  refine position fun start => (advanceFrom (by nofun)).bind fun _ rest less => ?_
  refine (parenthesized (later.within (by omega))).bind fun discriminant rest' le => ?_
  refine (expectMark .leftBrace).bind fun _ rest'' less' => ?_
  refine (later rest'' (by omega) .switchCases).bind fun cases _ _ => ?_
  exact (expectMark .rightBrace).bind fun _ _ _ => finish fun _ => rfl

/-! ## Statements of any kind -/

theorem keywordStatement (later : Later setup self bound)
    (expression : Eats setup Anywhere bound (fun _ => 1) (self .expression)) {word : Keyword} :
    Eats setup (Next (.keyword word)) bound (fun _ => 1) (Parser.keywordStatement self word) := by
  unfold Parser.keywordStatement
  split
  · exact variableStatement later
  · exact variableStatement later
  · exact variableStatement later
  · exact position fun start => functionStatement later
  · exact classStatement later
  · exact ifStatement later
  · exact whileStatement later
  · exact doStatement later
  · exact forStatement later
  · exact returnStatement later
  · exact jumpStatement
  · exact jumpStatement
  · exact throwStatement later
  · exact tryStatement later
  · exact switchStatement later
  · exact debuggerStatement
  · exact expressionStatement expression

theorem statement (later : Later setup self bound)
    (expression : Eats setup Anywhere bound (fun _ => 1) (self .expression)) :
    Eats setup pre bound (fun _ => 1) (Parser.statement self) := by
  refine nested (kind fun kind => ?_)
  split
  · exact blockStatement later
  · exact emptyStatement
  · exact keywordStatement later expression
  · exact wordStatement later expression
  · exact expressionStatement expression

theorem statements (later : Later setup self bound)
    (statement : Eats setup Anywhere bound (fun _ => 1) (self .statement)) {stop : StatementsEnd} :
    Eats setup pre bound (fun _ => 0) (Parser.statements self stop) := by
  refine kind fun kind => ite (fun _ => pure rfl) fun _ => ?_
  refine (statement.within (Nat.le_refl _)).bind fun first rest less => ?_
  exact ((later rest less (.statements stop)).within (Nat.le_refl _)).bind fun others _ _ =>
    pure rfl

end Ecmascript.Parser.Eats
