import Ecmascript.Parser.Function

/-!
# Expressions

Binary operators are read by precedence climbing, everything else by recursive descent. Arrow
functions and destructuring assignments begin like other expressions, so their heads are attempted
first.
-/

set_option autoImplicit false

namespace Ecmascript

/-! ## Operators of tokens -/

/-- An infix operator, evaluating both operands or maybe only one. -/
inductive InfixOperator where
  | binary (operator : BinaryOperator)
  | logical (operator : LogicalOperator)
  deriving DecidableEq

/-- The expression of an infix operator and its operands. -/
def InfixOperator.combine (left right : Located .expression) :
    InfixOperator → Node .expression
  | binary operator => .binaryExpression operator left right
  | logical operator => .logicalExpression operator left right

namespace TokenKind

/-- The infix operator that a token is. -/
def infixOperator? : TokenKind → Option InfixOperator
  | punctuator .logicalOr => some (.logical .or)
  | punctuator .logicalAnd => some (.logical .and)
  | punctuator .nullish => some (.logical .nullish)
  | punctuator .plus => some (.binary .add)
  | punctuator .minus => some (.binary .subtract)
  | punctuator .star => some (.binary .multiply)
  | punctuator .slash => some (.binary .divide)
  | punctuator .percent => some (.binary .remainder)
  | punctuator .less => some (.binary .less)
  | punctuator .lessEqual => some (.binary .lessEqual)
  | punctuator .greater => some (.binary .greater)
  | punctuator .greaterEqual => some (.binary .greaterEqual)
  | punctuator .equal => some (.binary .equal)
  | punctuator .notEqual => some (.binary .notEqual)
  | punctuator .strictEqual => some (.binary .strictEqual)
  | punctuator .strictNotEqual => some (.binary .strictNotEqual)
  | punctuator .leftShift => some (.binary .leftShift)
  | punctuator .rightShift => some (.binary .rightShift)
  | punctuator .unsignedRightShift => some (.binary .unsignedRightShift)
  | punctuator .ampersand => some (.binary .bitwiseAnd)
  | punctuator .pipe => some (.binary .bitwiseOr)
  | punctuator .caret => some (.binary .bitwiseXor)
  | keyword .inWord => some (.binary .in')
  | keyword .instanceofWord => some (.binary .instanceof)
  | _ => none

/-- The assignment operator that a token is. -/
def assignmentOperator? : TokenKind → Option AssignmentOperator
  | punctuator .assign => some .assign
  | punctuator .plusAssign => some .add
  | punctuator .minusAssign => some .subtract
  | punctuator .starAssign => some .multiply
  | punctuator .slashAssign => some .divide
  | punctuator .percentAssign => some .remainder
  | punctuator .powerAssign => some .power
  | punctuator .leftShiftAssign => some .leftShift
  | punctuator .rightShiftAssign => some .rightShift
  | punctuator .unsignedRightShiftAssign => some .unsignedRightShift
  | punctuator .ampersandAssign => some .bitwiseAnd
  | punctuator .pipeAssign => some .bitwiseOr
  | punctuator .caretAssign => some .bitwiseXor
  | punctuator .logicalAndAssign => some .and
  | punctuator .logicalOrAssign => some .or
  | punctuator .nullishAssign => some .nullish
  | _ => none

/-- The unary operator that a token is. -/
def unaryOperator? : TokenKind → Option UnaryOperator
  | punctuator .minus => some .minus
  | punctuator .plus => some .plus
  | punctuator .bang => some .not
  | punctuator .tilde => some .bitwiseNot
  | keyword .typeofWord => some .typeof
  | keyword .voidWord => some .void
  | keyword .deleteWord => some .delete
  | _ => none

/-- The update operator that a token is. -/
def updateOperator? : TokenKind → Option UpdateOperator
  | punctuator .increment => some .increment
  | punctuator .decrement => some .decrement
  | _ => none

end TokenKind

namespace Parser

/-! ## Sequences and assignments -/

/-- The expressions of a sequence that are left, each behind a comma. -/
def moreExpressions (self : Grammar) : Parser (Many (.located .expression)) := do
  if ← eatMark .comma then
    let next ← self .assignment
    let rest ← self .moreExpressions
    return .cons next rest
  else return .nil

/-- An expression, or several with commas between them. -/
def expression (self : Grammar) : Parser (Located .expression) := do
  let start ← position
  let first ← self .assignment
  if ← atMark .comma then
    let rest ← self .moreExpressions
    finish start (.sequenceExpression (.cons first rest))
  else return first

/-- Tokens before which `yield` has no argument. -/
def endsYield : TokenKind → Bool
  | .punctuator .rightParen | .punctuator .rightBracket | .punctuator .rightBrace => true
  | .punctuator .comma | .punctuator .semicolon | .punctuator .colon => true
  | .endOfInput => true
  | .template .middle _ | .template .tail _ => true
  | _ => false

/-- Reads the star of a `yield` that hands over to another generator. A line break ends the
`yield`. -/
def delegateStar : Parser Bool := do
  if ← atNewline then return false else eatMark .star

/-- Whether the next token belongs to the `yield` before it. A line break ends it. -/
def continuesYield : Parser Bool := do
  let token ← current
  return !(token.newlineBefore || endsYield token.kind)

/-- A `yield` expression. -/
def yieldExpression (self : Grammar) : Parser (Located .expression) := do
  let start ← position
  advance
  let isDelegate ← delegateStar
  let continues ← continuesYield
  if isDelegate || continues then
    let argument ← self .assignment
    finish start (.yieldExpression (.some argument) isDelegate)
  else finish start (.yieldExpression .none isDelegate)

/-- The parameters of an arrow function: a list in parentheses, or a single name. -/
def arrowParameters (self : Grammar) : Parser (Many (.located .pattern)) := do
  if ← atMark .leftParen then formalParameters self
  else
    let name ← bindingName
    return .single (bindingOf name)

/-- The parameters of an arrow function and the arrow, which stands on the same line. -/
def arrowHead (self : Grammar) : Parser (Many (.located .pattern)) := do
  let parameters ← arrowParameters self
  let token ← current
  if token.kind = .punctuator .arrow && !token.newlineBefore then
    advance
    return parameters
  else unexpected

/-- Whether a token may stand behind `async` at the beginning of the head of an arrow function. -/
def startsArrowHead : TokenKind → Bool
  | .identifier _ | .punctuator .leftParen => true
  | _ => false

/-- The head of an asynchronous arrow function. -/
def asyncArrowHead (self : Grammar) : Parser (Bool × Many (.located .pattern)) := do
  advance
  let parameters ← arrowHead self
  return (true, parameters)

/-- The head of an arrow function that begins with an identifier: a single parameter, or the word
`async` before a head. Whether it is asynchronous comes with its parameters. -/
def wordArrowHead? (self : Grammar) : Parser (Option (Bool × Many (.located .pattern))) := do
  let next ← peek
  if next.kind = .punctuator .arrow && !next.newlineBefore then
    let name ← bindingName
    advance
    return some (false, .single (bindingOf name))
  else
    let isAsync ← atName "async"
    if isAsync && !next.newlineBefore && startsArrowHead next.kind then
      attempt .asyncArrowHead (asyncArrowHead self)
    else return none

/-- The head of an arrow function, if one begins here. -/
def arrowHead? (self : Grammar) : Parser (Option (Bool × Many (.located .pattern))) := do
  match ← currentKind with
  | .punctuator .leftParen =>
      let parameters ← attempt .arrowHead (arrowHead self)
      return parameters.map fun parameters => (false, parameters)
  | .identifier _ => wordArrowHead? self
  | _ => return none

/-- The context of the body of an arrow function. -/
def arrowContext (isAsync : Bool) (outer : Context) : Context :=
  { inFunction := true, inGenerator := false, inAsync := isAsync, allowIn := outer.allowIn }

/-- The body of an arrow function: a block, or an expression. -/
def arrowBody (self : Grammar) : Parser (Node .arrowBody) := do
  if ← atMark .leftBrace then
    let body ← withIn true (block self)
    return .blockBody body
  else
    let body ← self .assignment
    return .expressionBody body

/-- The rest of an arrow function that begins at an offset. -/
def arrowRest (self : Grammar) (start : Nat) (isAsync : Bool)
    (parameters : Many (.located .pattern)) : Parser (Located .expression) := do
  let body ← withContext (arrowContext isAsync (← context)) (arrowBody self)
  finish start (.arrowFunction isAsync parameters body)

/-- A destructuring target before an assignment sign. -/
def destructuringTarget (self : Grammar) : Parser (Located .pattern) := do
  let left ← self (.target .assignment)
  if ← atMark .assign then return left else unexpected

/-- A destructuring target before an assignment sign, if one begins here. -/
def destructuringTarget? (self : Grammar) : Parser (Option (Located .pattern)) := do
  match ← currentKind with
  | .punctuator .leftBracket | .punctuator .leftBrace =>
      attempt .assignmentTarget (destructuringTarget self)
  | _ => return none

/-- A conditional expression, or what stands before its question mark. -/
def conditional (self : Grammar) : Parser (Located .expression) := do
  let start ← position
  let test ← self (.binary 0)
  if ← eatMark .question then
    let consequent ← withIn true (self .assignment)
    expectMark .colon
    let alternate ← self .assignment
    finish start (.conditionalExpression test consequent alternate)
  else return test

/-- An assignment to a simple target, or a conditional expression. -/
def simpleAssignment (self : Grammar) (start : Nat) : Parser (Located .expression) := do
  let left ← conditional self
  match (← currentKind).assignmentOperator? with
  | none => return left
  | some operator =>
      let target ← targetOf left
      advance
      let right ← self .assignment
      finish start (.assignmentExpression operator target right)

/-- An arrow function, an assignment, or a conditional expression. -/
def arrowOrAssignment (self : Grammar) : Parser (Located .expression) := do
  let start ← position
  match ← arrowHead? self with
  | some (isAsync, parameters) => arrowRest self start isAsync parameters
  | none =>
      match ← destructuringTarget? self with
      | some target =>
          advance
          let right ← self .assignment
          finish start (.assignmentExpression .assign target right)
      | none => simpleAssignment self start

/-- An expression without a comma of its own. -/
def assignment (self : Grammar) : Parser (Located .expression) :=
  nested do
    let isYield ← atName "yield"
    if (← context).inGenerator && isYield then yieldExpression self
    else arrowOrAssignment self

/-! ## Operators -/

/-- The infix operators behind a left operand that begins at an offset, as long as they bind
tighter than a minimum. -/
def binaryRest (self : Grammar) (minimum start : Nat) (left : Located .expression) :
    Parser (Located .expression) := do
  slashAsDivide
  let kind ← currentKind
  let allowIn := (← context).allowIn
  let precedence := kind.precedence
  if precedence ≤ minimum || (!allowIn && kind = .keyword .inWord) then return left
  else
    match kind.infixOperator? with
    | none => return left
    | some operator =>
        advance
        let right ← self (.binary precedence)
        let combined ← finish start (operator.combine left right)
        self (.binaryRest minimum start combined)

/-- Operands joined by infix operators that bind tighter than a minimum. -/
def binary (self : Grammar) (minimum : Nat) : Parser (Located .expression) := do
  let start ← position
  let left ← self .power
  self (.binaryRest minimum start left)

/-- A base and its exponent, if there is one. A base that is a unary expression without parentheses
has none. -/
def powerOf (self : Grammar) (start : Nat) (isUnary : Bool) : Parser (Located .expression) := do
  let left ← self .unary
  let token ← current
  if token.kind = .punctuator .power then
    if isUnary then fail (.invalid start token.stop .unaryBase)
    else
      advance
      let right ← self .power
      finish start (.binaryExpression .power left right)
  else return left

/-- Powers, which group to the right. Their base is not a unary expression without
parentheses. -/
def power (self : Grammar) : Parser (Located .expression) := do
  let start ← position
  let isAwait ← atName "await"
  let isUnary := (← currentKind).unaryOperator?.isSome || ((← context).inAsync && isAwait)
  powerOf self start isUnary

/-- Fails unless an expression can be updated. -/
def expectUpdateTarget : Located .expression → Parser Unit
  | .located start stop item =>
      if item.isSimpleTarget then return () else fail (.invalid start stop .updateTarget)

/-- An operand with an optional update operator behind it on the same line. -/
def postfixUpdate (self : Grammar) : Parser (Located .expression) := do
  let start ← position
  let argument ← self .leftHandSide
  let token ← current
  match token.kind.updateOperator? with
  | none => return argument
  | some operator =>
      if token.newlineBefore then return argument
      else
        expectUpdateTarget argument
        advance
        finish start (.updateExpression operator false argument)

/-- An operand with any unary and update operators in front of it. -/
def unary (self : Grammar) : Parser (Located .expression) := do
  let start ← position
  let kind ← currentKind
  match kind.unaryOperator? with
  | some operator =>
      advance
      let argument ← nested (self .unary)
      finish start (.unaryExpression operator argument)
  | none =>
      match kind.updateOperator? with
      | some operator =>
          advance
          let argument ← nested (self .unary)
          expectUpdateTarget argument
          finish start (.updateExpression operator true argument)
      | none =>
          if (← context).inAsync && kind = .identifier "await" then
            advance
            let argument ← nested (self .unary)
            finish start (.awaitExpression argument)
          else postfixUpdate self

/-! ## Literals with parts -/

/-- A spread argument or element. -/
def spread (self : Grammar) : Parser (Located .expression) := do
  let start ← position
  expectMark .ellipsis
  let argument ← self .assignment
  finish start (.spreadExpression argument)

/-- An argument or element, spread or not. -/
def spreadOrAssignment (self : Grammar) : Parser (Located .expression) := do
  if ← atMark .ellipsis then spread self else self .assignment

/-- The arguments of a call up to the closing parenthesis. -/
def argumentList (self : Grammar) : Parser (Many (.located .expression)) := do
  if ← atMark .rightParen then return .nil
  else
    let argument ← spreadOrAssignment self
    separator .rightParen
    let rest ← self .arguments
    return .cons argument rest

/-- The arguments of a call in parentheses. -/
def callArguments (self : Grammar) : Parser (Many (.located .expression)) := do
  expectMark .leftParen
  let arguments ← withIn true (self .arguments)
  expectMark .rightParen
  return arguments

/-- The elements of an array up to the closing bracket. A comma by itself is a hole. -/
def arrayElements (self : Grammar) : Parser (Many (.option (.located .expression))) := do
  if ← atMark .rightBracket then return .nil
  else if ← eatMark .comma then
    let rest ← self .arrayElements
    return .cons .none rest
  else
    let element ← spreadOrAssignment self
    separator .rightBracket
    let rest ← self .arrayElements
    return .cons (.some element) rest

/-- An array. -/
def arrayLiteral (self : Grammar) : Parser (Located .expression) := do
  let start ← position
  expectMark .leftBracket
  let elements ← withIn true (self .arrayElements)
  expectMark .rightBracket
  finish start (.arrayExpression elements)

/-- A member of an object that is not spread. -/
def namedMember (self : Grammar) (start : Nat) : Parser (Located .property) := do
  let modifiers ← modifiers
  let shorthand ← currentName?
  let key ← propertyKey self
  let callable ← atMark .leftParen
  if modifiers.any || callable then
    let value ← method self modifiers.isAsync modifiers.isGenerator
    finish start (.methodProperty key (modifiers.accessor.getD .method) value)
  else if ← eatMark .colon then
    let value ← self .assignment
    finish start (.valueProperty key value)
  else
    match shorthand with
    | some name => finish start (.shorthandProperty name)
    | none => unexpected

/-- A member of an object. -/
def objectMember (self : Grammar) : Parser (Located .property) := do
  let start ← position
  if ← eatMark .ellipsis then
    let argument ← self .assignment
    finish start (.spreadProperty argument)
  else namedMember self start

/-- The members of an object up to the closing brace. -/
def objectMembers (self : Grammar) : Parser (Many (.located .property)) := do
  if ← atMark .rightBrace then return .nil
  else
    let property ← objectMember self
    separator .rightBrace
    let rest ← self .objectMembers
    return .cons property rest

/-- An object. -/
def objectLiteral (self : Grammar) : Parser (Located .expression) := do
  let start ← position
  expectMark .leftBrace
  let properties ← withIn true (self .objectMembers)
  expectMark .rightBrace
  finish start (.objectExpression properties)

/-- A chunk of template text: the token without its delimiters, of which the opening one is one
byte long and the closing one as long as given. -/
def chunkOf (token : Token) (closing : Nat) (raw : String) : Located .word :=
  .located (token.start + 1) (token.stop - closing) (.word raw)

/-- The substitutions of a template and the chunks behind them, up to the last chunk. -/
def templateRest (self : Grammar) :
    Parser (Many (.located .word) × Many (.located .expression)) := do
  let expression ← withIn true (self .expression)
  let token ← current
  match token.kind with
  | .template .middle raw =>
      advance
      let (chunks, expressions) ← self .templateRest
      return (.cons (chunkOf token 2 raw) chunks, .cons expression expressions)
  | .template .tail raw =>
      advance
      return (.single (chunkOf token 1 raw), .single expression)
  | _ => unexpected

/-- A template. -/
def templateLiteral (self : Grammar) : Parser (Located .template) := do
  let start ← position
  let token ← current
  match token.kind with
  | .template .whole raw =>
      advance
      finish start (.template (.single (chunkOf token 1 raw)) .nil)
  | .template .head raw =>
      advance
      let (chunks, expressions) ← self .templateRest
      finish start (.template (.cons (chunkOf token 2 raw) chunks) expressions)
  | _ => unexpected

/-! ## Operands -/

/-- The expression that a token is by itself. -/
def plainExpression? : TokenKind → Option (Node .expression)
  | .keyword .thisWord => some .thisExpression
  | .keyword .superWord => some .superExpression
  | .identifier name => some (.identifier name)
  | .number raw => some (.literal (.number raw))
  | .string raw => some (.literal (.string raw))
  | .regex raw => some (.literal (.regex raw))
  | .keyword .trueWord => some (.literal (.boolean true))
  | .keyword .falseWord => some (.literal (.boolean false))
  | .keyword .nullWord => some (.literal .null)
  | _ => none

/-- A single token that is an expression. -/
def plainExpression : Parser (Located .expression) := do
  let start ← position
  match plainExpression? (← currentKind) with
  | some item =>
      advance
      finish start item
  | none => unexpected

/-- A function as an expression, with its position. -/
def functionExpression (self : Grammar) (start : Nat) (isAsync : Bool) :
    Parser (Located .expression) := do
  let definition ← function self start isAsync false
  return .located definition.start definition.stop (.functionExpression definition.item)

/-- An operand that begins with the word `async`: an asynchronous function, or the name. -/
def asyncOperand (self : Grammar) : Parser (Located .expression) := do
  let start ← position
  let next ← peek
  if next.kind = .keyword .functionWord && !next.newlineBefore then
    advance
    functionExpression self start true
  else plainExpression

/-- An expression that no operator divides. -/
def primary (self : Grammar) : Parser (Located .expression) := do
  slashAsRegex
  let start ← position
  match ← currentKind with
  | .punctuator .leftParen =>
      advance
      let inner ← withIn true (self .expression)
      expectMark .rightParen
      return inner
  | .punctuator .leftBracket => arrayLiteral self
  | .punctuator .leftBrace => objectLiteral self
  | .keyword .functionWord => functionExpression self start false
  | .keyword .classWord =>
      let definition ← classDefinition self false
      return .located definition.start definition.stop (.classExpression definition.item)
  | .template .whole _ | .template .head _ =>
      let content ← templateLiteral self
      return .located content.start content.stop (.templateExpression content.item)
  | .identifier name => if name = "async" then asyncOperand self else plainExpression
  | _ => plainExpression

/-- The members, calls and templates behind an operand that begins at an offset. -/
def memberRest (self : Grammar) (start : Nat) (object : Located .expression)
    (allowCall : Bool) : Parser (Located .expression) := do
  match ← currentKind with
  | .punctuator .dot =>
      advance
      let property ← propertyName
      let member ← finish start (.memberExpression object property)
      self (.memberRest start member allowCall)
  | .punctuator .leftBracket =>
      advance
      let property ← withIn true (self .expression)
      expectMark .rightBracket
      let member ← finish start (.computedMember object property)
      self (.memberRest start member allowCall)
  | .punctuator .leftParen =>
      if allowCall then
        let arguments ← callArguments self
        let call ← finish start (.callExpression object arguments)
        self (.memberRest start call allowCall)
      else return object
  | .template .whole _ | .template .head _ =>
      let quasi ← templateLiteral self
      let tagged ← finish start (.taggedTemplate object quasi)
      self (.memberRest start tagged allowCall)
  | _ => return object

/-- What the callee of `new` begins with: another `new` expression, or an operand. -/
def newOperand (self : Grammar) : Parser (Located .expression) := do
  if ← atKeyword .newWord then nested (self .newExpression) else primary self

/-- The arguments of `new`, which may be left out. -/
def newArguments (self : Grammar) : Parser (Many (.located .expression)) := do
  if ← atMark .leftParen then callArguments self else return .nil

/-- A `new` expression. Its callee holds no call. -/
def newExpression (self : Grammar) : Parser (Located .expression) := do
  let start ← position
  expectKeyword .newWord
  let calleeStart ← position
  let operand ← newOperand self
  let callee ← self (.memberRest calleeStart operand false)
  let arguments ← newArguments self
  finish start (.newExpression callee arguments)

/-- What an operand with members and calls begins with. -/
def leftmostOperand (self : Grammar) : Parser (Located .expression) := do
  if ← atKeyword .newWord then self .newExpression else primary self

/-- An operand with its members and calls. -/
def leftHandSide (self : Grammar) : Parser (Located .expression) := do
  let start ← position
  let operand ← leftmostOperand self
  self (.memberRest start operand true)

end Parser

end Ecmascript
