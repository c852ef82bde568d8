import Ecmascript.Parser.Pattern

/-!
# Functions and classes

Everything with a body of its own: blocks, functions, methods, and classes with their members. A
function changes the grammar parameters for its parameters and its body.
-/

set_option autoImplicit false

namespace Ecmascript.Parser

/-- A block of statements in braces. -/
def block (self : Grammar) : Parser (Located .block) := do
  let start ← position
  expectMark .leftBrace
  let body ← self (.statements .block)
  expectMark .rightBrace
  finish start (.block body)

/-- The context of the parameters and body of a function. -/
def functionContext (isAsync isGenerator : Bool) : Context :=
  { inFunction := true, inGenerator := isGenerator, inAsync := isAsync, allowIn := true }

/-- The parameters and body of a function. -/
def functionRest (self : Grammar) (isAsync isGenerator : Bool) :
    Parser (Many (.located .pattern) × Located .block) :=
  withContext (functionContext isAsync isGenerator) do
    let parameters ← formalParameters self
    let body ← block self
    return (parameters, body)

/-- The name of a function, which may be left out unless the function is a declaration. -/
def functionName (isDeclaration : Bool) : Parser (Optional (.located .word)) := do
  let nameless ← atMark .leftParen
  if isDeclaration || !nameless then
    let name ← bindingName
    return .some name
  else return .none

/-- A function from the word `function` on. It begins at `start`, which is before a leading
`async`. -/
def function (self : Grammar) (start : Nat) (isAsync isDeclaration : Bool) :
    Parser (Located .function) := do
  expectKeyword .functionWord
  let isGenerator ← eatMark .star
  let name ← functionName isDeclaration
  let (parameters, body) ← functionRest self isAsync isGenerator
  finish start (.function name isGenerator isAsync parameters body)

/-- The function of a method: it has no name, and begins at its parameters. -/
def method (self : Grammar) (isAsync isGenerator : Bool) : Parser (Located .function) := do
  let start ← position
  let (parameters, body) ← functionRest self isAsync isGenerator
  finish start (.function .none isGenerator isAsync parameters body)

/-- What may stand in front of the key of a method. -/
structure Modifiers where
  isAsync : Bool
  isGenerator : Bool
  accessor : Option MethodKind
  deriving DecidableEq

/-- Whether any modifier is there. -/
def Modifiers.any (modifiers : Modifiers) : Bool :=
  modifiers.isAsync || modifiers.isGenerator || modifiers.accessor.isSome

/-- Whether a token shows that the word before it is a modifier and not the key itself. -/
def startsKey : TokenKind → Bool
  | .keyword _ | .identifier _ | .string _ | .number _ => true
  | .punctuator .leftBracket | .punctuator .star => true
  | _ => false

/-- Reads a leading `async`, if it is a modifier. A line break makes it a key. -/
def asyncModifier : Parser Bool := do
  let next ← peek
  if startsKey next.kind && !next.newlineBefore then
    advance
    return true
  else return false

/-- Reads a leading `get` or `set`, if it is a modifier. -/
def accessorModifier (kind : MethodKind) : Parser (Option MethodKind) := do
  let next ← peek
  if startsKey next.kind && next.kind ≠ .punctuator .star then
    advance
    return some kind
  else return none

/-- Reads the modifiers of a method: `async`, `get` or `set`, and the star of a generator. -/
def modifiers : Parser Modifiers := do
  if ← atName "async" then
    let isAsync ← asyncModifier
    let isGenerator ← eatMark .star
    return { isAsync, isGenerator, accessor := none }
  else if ← atName "get" then
    let accessor ← accessorModifier .get
    let isGenerator ← eatMark .star
    return { isAsync := false, isGenerator, accessor }
  else if ← atName "set" then
    let accessor ← accessorModifier .set
    let isGenerator ← eatMark .star
    return { isAsync := false, isGenerator, accessor }
  else
    let isGenerator ← eatMark .star
    return { isAsync := false, isGenerator, accessor := none }

/-- Whether a key names the constructor of a class: as a word or as a string. -/
def isConstructorKey : Located .key → Bool
  | .located _ _ (.nameKey name) => name = "constructor"
  | .located _ _ (.literalKey (.string raw)) =>
      (raw.toList.drop 1).dropLast = "constructor".toList
  | _ => false

/-- Reads a leading `static`, if it is not the name of the member. -/
def staticModifier : Parser Bool := do
  if ← atName "static" then
    let next ← peek
    match next.kind with
    | .punctuator .leftParen | .punctuator .assign => return false
    | .punctuator .semicolon | .punctuator .rightBrace => return false
    | _ =>
        advance
        return true
  else return false

/-- The kind of a method of a class. A plain method with the right key is the constructor. -/
def classMethodKind (isStatic : Bool) (modifiers : Modifiers) (key : Located .key) : MethodKind :=
  match modifiers.accessor with
  | some kind => kind
  | none =>
      if !isStatic && !modifiers.any && isConstructorKey key then .constructor else .method

/-- The context of the value of a field: outside of all functions. -/
def fieldContext : Context :=
  Context.script

/-- The value of a field, which may be left out. -/
def fieldValue (self : Grammar) : Parser (Optional (.located .expression)) := do
  if ← eatMark .assign then
    let value ← withContext fieldContext (self .assignment)
    return .some value
  else return .none

/-- A method or field of a class. -/
def classMember (self : Grammar) : Parser (Located .member) := do
  let start ← position
  let isStatic ← staticModifier
  let modifiers ← modifiers
  let key ← propertyKey self
  let callable ← atMark .leftParen
  if modifiers.any || callable then
    let value ← method self modifiers.isAsync modifiers.isGenerator
    finish start (.methodMember isStatic key (classMethodKind isStatic modifiers key) value)
  else
    let value ← fieldValue self
    expectSemicolon
    finish start (.fieldMember isStatic key value)

/-- The members of a class up to the closing brace. Semicolons between them are skipped. -/
def classMembers (self : Grammar) : Parser (Many (.located .member)) := do
  if ← atMark .rightBrace then return .nil
  else if ← eatMark .semicolon then self .classMembers
  else
    let member ← classMember self
    let rest ← self .classMembers
    return .cons member rest

/-- The name of a class, which an expression may leave out. -/
def className (isDeclaration : Bool) : Parser (Optional (.located .word)) := do
  let named := (← currentName?).isSome
  if isDeclaration || named then
    let name ← bindingName
    return .some name
  else return .none

/-- The members of a class in braces. -/
def classBody (self : Grammar) : Parser (Located (.list (.located .member))) := do
  let start ← position
  expectMark .leftBrace
  let members ← withIn true (self .classMembers)
  expectMark .rightBrace
  finish start members

/-- The class that a class extends, if there is one. -/
def classParent (self : Grammar) : Parser (Optional (.located .expression)) := do
  if ← eatKeyword .extendsWord then
    let parent ← self .leftHandSide
    return .some parent
  else return .none

/-- A class. -/
def classDefinition (self : Grammar) (isDeclaration : Bool) :
    Parser (Located .classDefinition) := do
  let start ← position
  expectKeyword .classWord
  let name ← className isDeclaration
  let parent ← classParent self
  let body ← classBody self
  finish start (.classDefinition name parent body)

end Ecmascript.Parser
