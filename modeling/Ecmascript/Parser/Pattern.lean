import Ecmascript.Parser.Goal

/-!
# Patterns

Bindings of declarations, parameters and handlers, and the targets of destructuring assignments.
The productions share their shape; only the innermost targets differ.
-/

set_option autoImplicit false

namespace Ecmascript

/-- Whether an expression can be updated or assigned to by a compound operator. -/
def Node.isSimpleTarget : Node .expression → Bool
  | .identifier _ => true
  | .memberExpression _ _ => true
  | .computedMember _ _ => true
  | _ => false

namespace Parser

/-- The pattern that binds a name. -/
def bindingOf : Located .word → Located .pattern
  | .located start stop (.word name) => .located start stop (.bindingIdentifier name)

/-- Reads an expression as the target of an assignment. -/
def targetOf : Located .expression → Parser (Located .pattern)
  | .located start stop (.identifier name) => return .located start stop (.bindingIdentifier name)
  | .located start stop (.memberExpression object property) =>
      return .located start stop (.expressionPattern (.memberExpression object property))
  | .located start stop (.computedMember object property) =>
      return .located start stop (.expressionPattern (.computedMember object property))
  | .located start stop _ => fail (.invalid start stop .assignmentTarget)

/-- The key of a member that a token is by itself. -/
def plainKey? : TokenKind → Option (Node .key)
  | .string raw => some (.literalKey (.string raw))
  | .number raw => some (.literalKey (.number raw))
  | kind => (propertyName? kind).map .nameKey

/-- The key of a class or object member. -/
def propertyKey (self : Grammar) : Parser (Located .key) := do
  let start ← position
  if ← eatMark .leftBracket then
    let expression ← withIn true (self .assignment)
    expectMark .rightBracket
    finish start (.computedKey expression)
  else
    match plainKey? (← currentKind) with
    | some key =>
        advance
        finish start key
    | none => unexpected

/-- The name of the next token, if it is an identifier. -/
def currentName? : Parser (Option String) := do
  match ← currentKind with
  | .identifier name => return some name
  | _ => return none

/-- A target with an optional default value. -/
def targetElement (self : Grammar) (use : PatternUse) : Parser (Located .pattern) := do
  let start ← position
  let left ← self (.target use)
  if ← eatMark .assign then
    let right ← withIn true (self .assignment)
    finish start (.defaultPattern left right)
  else return left

/-- A rest element. -/
def targetRest (self : Grammar) (use : PatternUse) : Parser (Located .pattern) := do
  let start ← position
  expectMark .ellipsis
  let argument ← self (.target use)
  finish start (.restPattern argument)

/-- Reads a comma unless the closing punctuator is next. -/
def separator (close : Punctuator) : Parser Unit := do
  if ← atMark close then return () else expectMark .comma

/-- The elements of an array pattern up to its closing bracket. A comma by itself is a hole, and a
rest element is the last one. -/
def targetElements (self : Grammar) (use : PatternUse) :
    Parser (Many (.option (.located .pattern))) := do
  if ← atMark .rightBracket then return .nil
  else if ← eatMark .comma then
    let rest ← self (.targetElements use)
    return .cons .none rest
  else if ← atMark .ellipsis then
    let last ← targetRest self use
    return .single (.some last)
  else
    let element ← targetElement self use
    separator .rightBracket
    let rest ← self (.targetElements use)
    return .cons (.some element) rest

/-- An array pattern. -/
def arrayPattern (self : Grammar) (use : PatternUse) : Parser (Located .pattern) := do
  let start ← position
  expectMark .leftBracket
  let elements ← self (.targetElements use)
  expectMark .rightBracket
  finish start (.arrayPattern elements)

/-- The value of a shorthand property: its name, with an optional default value. -/
def shorthandTarget (self : Grammar) (key : Located .key) (name : String) :
    Parser (Located .pattern) := do
  let left : Located .pattern := .located key.start key.stop (.bindingIdentifier name)
  if ← eatMark .assign then
    let right ← withIn true (self .assignment)
    finish key.start (.defaultPattern left right)
  else return left

/-- A property of an object pattern that is not a rest element. -/
def targetProperty (self : Grammar) (use : PatternUse) :
    Parser (Located .patternProperty) := do
  let start ← position
  let shorthand ← currentName?
  let key ← propertyKey self
  if ← eatMark .colon then
    let value ← targetElement self use
    finish start (.bindingProperty key value false)
  else
    match shorthand with
    | some name =>
        let value ← shorthandTarget self key name
        finish start (.bindingProperty key value true)
    | none => unexpected

/-- The properties of an object pattern up to its closing brace. A rest element is the last
one. -/
def targetProperties (self : Grammar) (use : PatternUse) :
    Parser (Many (.located .patternProperty)) := do
  let start ← position
  if ← atMark .rightBrace then return .nil
  else if ← eatMark .ellipsis then
    let argument ← self (.target use)
    let last ← finish start (.restProperty argument)
    return .single last
  else
    let property ← targetProperty self use
    separator .rightBrace
    let rest ← self (.targetProperties use)
    return .cons property rest

/-- An object pattern. -/
def objectPattern (self : Grammar) (use : PatternUse) : Parser (Located .pattern) := do
  let start ← position
  expectMark .leftBrace
  let properties ← self (.targetProperties use)
  expectMark .rightBrace
  finish start (.objectPattern properties)

/-- A binding or assignment target. -/
def target (self : Grammar) (use : PatternUse) : Parser (Located .pattern) := do
  match ← currentKind with
  | .punctuator .leftBracket => nested (arrayPattern self use)
  | .punctuator .leftBrace => nested (objectPattern self use)
  | _ =>
      match use with
      | .binding => return bindingOf (← bindingName)
      | .assignment =>
          let expression ← self .leftHandSide
          targetOf expression

/-- The parameters of a function up to the closing parenthesis. A rest parameter is the last
one. -/
def parameters (self : Grammar) : Parser (Many (.located .pattern)) := do
  if ← atMark .rightParen then return .nil
  else if ← atMark .ellipsis then
    let last ← targetRest self .binding
    return .single last
  else
    let parameter ← targetElement self .binding
    separator .rightParen
    let rest ← self .parameters
    return .cons parameter rest

/-- The parameters of a function in parentheses. -/
def formalParameters (self : Grammar) : Parser (Many (.located .pattern)) := do
  expectMark .leftParen
  let parameters ← self .parameters
  expectMark .rightParen
  return parameters

end Parser

end Ecmascript
