import Ecmascript.Parser.Expression

/-!
# Statements

Statements and declarations. The head of a loop is read with the word `in` kept back from being an
operator, because that word may be what makes the loop a `for`-`in` loop.
-/

set_option autoImplicit false

namespace Ecmascript.Parser

/-- An expression in parentheses, as in the head of a statement. -/
def parenthesized (self : Grammar) : Parser (Located .expression) := do
  expectMark .leftParen
  let inner ← self .expression
  expectMark .rightParen
  return inner

/-! ## Declarations -/

/-- The kind of declaration that a token begins. -/
def variableKind? : TokenKind → Option VariableKind
  | .keyword .varWord => some .var
  | .keyword .letWord => some .let'
  | .keyword .constWord => some .const
  | _ => none

/-- A target with an optional initial value. -/
def declarator (self : Grammar) : Parser (Located .declarator) := do
  let start ← position
  let id ← self (.target .binding)
  if ← eatMark .assign then
    let value ← self .assignment
    finish start (.declarator id (.some value))
  else finish start (.declarator id .none)

/-- One declarator or more, with commas between them. -/
def declarators (self : Grammar) : Parser (Many (.located .declarator)) := do
  let first ← declarator self
  if ← eatMark .comma then
    let rest ← self .declarators
    return .cons first rest
  else return .single first

/-- The declarators of a declaration, behind its first word. -/
def declaration (self : Grammar) : Parser (Many (.located .declarator)) := do
  advance
  self .declarators

/-- A declaration of variables. -/
def variableStatement (self : Grammar) (kind : VariableKind) : Parser (Located .statement) := do
  let start ← position
  let declarators ← declaration self
  expectSemicolon
  finish start (.variableStatement kind declarators)

/-- A function as a statement, with its position. -/
def functionStatement (self : Grammar) (start : Nat) (isAsync : Bool) :
    Parser (Located .statement) := do
  let definition ← function self start isAsync true
  return .located definition.start definition.stop (.functionDeclaration definition.item)

/-- A class as a statement, with its position. -/
def classStatement (self : Grammar) : Parser (Located .statement) := do
  let definition ← classDefinition self true
  return .located definition.start definition.stop (.classDeclaration definition.item)

/-! ## Simple statements -/

/-- A block as a statement, with its position. -/
def blockStatement (self : Grammar) : Parser (Located .statement) := do
  match ← block self with
  | .located start stop (.block body) => return .located start stop (.blockStatement body)

/-- An expression as a statement. -/
def expressionStatement (self : Grammar) : Parser (Located .statement) := do
  let start ← position
  let expression ← self .expression
  expectSemicolon
  finish start (.expressionStatement expression)

/-- A statement that begins with an identifier: an asynchronous function, a label, or an
expression. -/
def wordStatement (self : Grammar) : Parser (Located .statement) := do
  let start ← position
  let next ← peek
  let isAsync ← atName "async"
  if isAsync && next.kind = .keyword .functionWord && !next.newlineBefore then
    advance
    functionStatement self start true
  else if next.kind = .punctuator .colon then
    let label ← bindingName
    advance
    let body ← self .statement
    finish start (.labeledStatement label body)
  else expressionStatement self

/-- The value of a `return` statement, which may be left out. -/
def returnValue (self : Grammar) : Parser (Optional (.located .expression)) := do
  if ← atStatementEnd then return .none
  else
    let value ← self .expression
    return .some value

/-- A `return` statement, which stands in functions only. -/
def returnStatement (self : Grammar) : Parser (Located .statement) := do
  let start ← position
  if (← context).inFunction then
    advance
    let value ← returnValue self
    expectSemicolon
    finish start (.returnStatement value)
  else unexpected

/-- The label of a jump, which stands on the same line. -/
def jumpLabel : Parser (Optional (.located .word)) := do
  let token ← current
  match token.kind with
  | .identifier _ =>
      if token.newlineBefore then return .none
      else
        let label ← bindingName
        return .some label
  | _ => return .none

/-- A `break` or `continue` statement. -/
def jumpStatement (jump : Optional (.located .word) → Node .statement) :
    Parser (Located .statement) := do
  let start ← position
  advance
  let label ← jumpLabel
  expectSemicolon
  finish start (jump label)

/-- A `throw` statement, whose value begins on the same line. -/
def throwStatement (self : Grammar) : Parser (Located .statement) := do
  let start ← position
  advance
  if ← atNewline then unexpected
  else
    let value ← self .expression
    expectSemicolon
    finish start (.throwStatement value)

/-- A `debugger` statement. -/
def debuggerStatement : Parser (Located .statement) := do
  let start ← position
  advance
  expectSemicolon
  finish start .debuggerStatement

/-- A semicolon by itself. -/
def emptyStatement : Parser (Located .statement) := do
  let start ← position
  advance
  finish start .emptyStatement

/-! ## Conditionals and loops -/

/-- An `if` statement. -/
def ifStatement (self : Grammar) : Parser (Located .statement) := do
  let start ← position
  advance
  let test ← parenthesized self
  let consequent ← self .statement
  if ← eatKeyword .elseWord then
    let alternate ← self .statement
    finish start (.ifStatement test consequent (.some alternate))
  else finish start (.ifStatement test consequent .none)

/-- A `while` loop. -/
def whileStatement (self : Grammar) : Parser (Located .statement) := do
  let start ← position
  advance
  let test ← parenthesized self
  let body ← self .statement
  finish start (.whileStatement test body)

/-- A `do` loop. The semicolon behind it may always be left out. -/
def doStatement (self : Grammar) : Parser (Located .statement) := do
  let start ← position
  advance
  let body ← self .statement
  expectKeyword .whileWord
  let test ← parenthesized self
  let _ ← eatMark .semicolon
  finish start (.doStatement body test)

/-- Whether the next token is the word between the two sides of a `for`-`in` or `for`-`of`
head. -/
def atLoopWord : Parser Bool := do
  let isIn ← atKeyword .inWord
  let isOf ← atName "of"
  return isIn || isOf

/-- A destructuring target of a loop. -/
def loopTarget (self : Grammar) : Parser (Located .pattern) := do
  let left ← self (.target .assignment)
  if ← atLoopWord then return left else unexpected

/-- A destructuring target of a loop, if one begins here. -/
def loopTarget? (self : Grammar) : Parser (Option (Located .pattern)) := do
  match ← currentKind with
  | .punctuator .leftBracket | .punctuator .leftBrace => attempt .loopTarget (loopTarget self)
  | _ => return none

/-- The first part of a loop head: a declaration, a destructuring target, or an expression. -/
def loopHead (self : Grammar) : Parser (Located .loopHead) :=
  withIn false do
    let start ← position
    match variableKind? (← currentKind) with
    | some kind =>
        let declarators ← declaration self
        finish start (.declarationHead kind declarators)
    | none =>
        match ← loopTarget? self with
        | some pattern => return .located pattern.start pattern.stop (.patternHead pattern.item)
        | none =>
            let expression ← self .expression
            return .located expression.start expression.stop (.expressionHead expression.item)

/-- The left side of a `for`-`in` or `for`-`of` head: a single declarator, or a target. -/
def loopLeft : Located .loopHead → Parser (Located .loopHead)
  | .located start stop (.expressionHead expression) => do
      let target ← targetOf (.located start stop expression)
      return .located start stop (.patternHead target.item)
  | .located start stop (.declarationHead kind (.cons declarator .nil)) =>
      return .located start stop (.declarationHead kind (.cons declarator .nil))
  | .located start stop (.declarationHead _ _) => fail (.invalid start stop .severalBindings)
  | .located start stop (.patternHead pattern) => return .located start stop (.patternHead pattern)

/-- The rest of a `for`-`in` loop, behind the word `in`. -/
def forInRest (self : Grammar) (start : Nat) (left : Located .loopHead) :
    Parser (Located .statement) := do
  let right ← self .expression
  expectMark .rightParen
  let body ← self .statement
  finish start (.forInStatement left right body)

/-- The rest of a `for`-`of` loop, behind the word `of`. -/
def forOfRest (self : Grammar) (start : Nat) (left : Located .loopHead) :
    Parser (Located .statement) := do
  let right ← self .assignment
  expectMark .rightParen
  let body ← self .statement
  finish start (.forOfStatement left right body)

/-- An expression that may be left out before a closing punctuator. -/
def optionalExpression (self : Grammar) (close : Punctuator) :
    Parser (Optional (.located .expression)) := do
  if ← atMark close then return .none
  else
    let expression ← self .expression
    return .some expression

/-- The rest of a loop with three parts, behind the first of them. -/
def forRest (self : Grammar) (start : Nat) (head : Optional (.located .loopHead)) :
    Parser (Located .statement) := do
  expectMark .semicolon
  let test ← optionalExpression self .semicolon
  expectMark .semicolon
  let update ← optionalExpression self .rightParen
  expectMark .rightParen
  let body ← self .statement
  finish start (.forStatement head test update body)

/-- A `for` loop of any form. -/
def forStatement (self : Grammar) : Parser (Located .statement) := do
  let start ← position
  advance
  expectMark .leftParen
  if ← atMark .semicolon then forRest self start .none
  else
    let head ← loopHead self
    if ← atKeyword .inWord then
      let left ← loopLeft head
      advance
      forInRest self start left
    else if ← atName "of" then
      let left ← loopLeft head
      advance
      forOfRest self start left
    else forRest self start (.some head)

/-! ## Clauses -/

/-- The parameter of a `catch` clause, which may be left out. -/
def handlerParameter (self : Grammar) : Parser (Optional (.located .pattern)) := do
  if ← eatMark .leftParen then
    let parameter ← self (.target .binding)
    expectMark .rightParen
    return .some parameter
  else return .none

/-- The `catch` clause of a `try` statement, if there is one. -/
def catchClause (self : Grammar) : Parser (Optional (.located .handler)) := do
  let start ← position
  if ← eatKeyword .catchWord then
    let parameter ← handlerParameter self
    let body ← block self
    let clause ← finish start (.handler parameter body)
    return .some clause
  else return .none

/-- The `finally` block of a `try` statement, if there is one. -/
def finallyBlock (self : Grammar) : Parser (Optional (.located .block)) := do
  if ← eatKeyword .finallyWord then
    let body ← block self
    return .some body
  else return .none

/-- A `try` statement, which has a `catch` clause or a `finally` block. -/
def tryStatement (self : Grammar) : Parser (Located .statement) := do
  let start ← position
  advance
  let body ← block self
  let clause ← catchClause self
  let finalizer ← finallyBlock self
  match clause, finalizer with
  | .none, .none => unexpected
  | clause, finalizer => finish start (.tryStatement body clause finalizer)

/-- The test of a `case`, or nothing for `default`. -/
def caseTest (self : Grammar) : Parser (Optional (.located .expression)) := do
  if ← eatKeyword .caseWord then
    let test ← self .expression
    return .some test
  else if ← eatKeyword .defaultWord then return .none
  else unexpected

/-- A clause of a `switch` statement. -/
def switchCase (self : Grammar) : Parser (Located .switchCase) := do
  let start ← position
  let test ← caseTest self
  expectMark .colon
  let consequent ← self (.statements .clause)
  finish start (.switchCase test consequent)

/-- The clauses of a `switch` statement up to the closing brace. -/
def switchCases (self : Grammar) : Parser (Many (.located .switchCase)) := do
  if ← atMark .rightBrace then return .nil
  else
    let first ← switchCase self
    let rest ← self .switchCases
    return .cons first rest

/-- A `switch` statement. -/
def switchStatement (self : Grammar) : Parser (Located .statement) := do
  let start ← position
  advance
  let discriminant ← parenthesized self
  expectMark .leftBrace
  let cases ← self .switchCases
  expectMark .rightBrace
  finish start (.switchStatement discriminant cases)

/-! ## Statements of any kind -/

/-- A statement that begins with a keyword. -/
def keywordStatement (self : Grammar) (word : Keyword) : Parser (Located .statement) := do
  match word with
  | .varWord => variableStatement self .var
  | .letWord => variableStatement self .let'
  | .constWord => variableStatement self .const
  | .functionWord => functionStatement self (← position) false
  | .classWord => classStatement self
  | .ifWord => ifStatement self
  | .whileWord => whileStatement self
  | .doWord => doStatement self
  | .forWord => forStatement self
  | .returnWord => returnStatement self
  | .breakWord => jumpStatement .breakStatement
  | .continueWord => jumpStatement .continueStatement
  | .throwWord => throwStatement self
  | .tryWord => tryStatement self
  | .switchWord => switchStatement self
  | .debuggerWord => debuggerStatement
  | _ => expressionStatement self

/-- A statement. -/
def statement (self : Grammar) : Parser (Located .statement) :=
  nested do
    match ← currentKind with
    | .punctuator .leftBrace => blockStatement self
    | .punctuator .semicolon => emptyStatement
    | .keyword word => keywordStatement self word
    | .identifier _ => wordStatement self
    | _ => expressionStatement self

/-- Whether a token ends a list of statements. -/
def StatementsEnd.accepts : StatementsEnd → TokenKind → Bool
  | _, .endOfInput => true
  | .script, _ => false
  | .block, .punctuator .rightBrace => true
  | .block, _ => false
  | .clause, .punctuator .rightBrace => true
  | .clause, .keyword .caseWord => true
  | .clause, .keyword .defaultWord => true
  | .clause, _ => false

/-- The statements of a list up to its end. -/
def statements (self : Grammar) (stop : StatementsEnd) :
    Parser (Many (.located .statement)) := do
  if stop.accepts (← currentKind) then return .nil
  else
    let first ← self .statement
    let rest ← self (.statements stop)
    return .cons first rest

end Ecmascript.Parser
