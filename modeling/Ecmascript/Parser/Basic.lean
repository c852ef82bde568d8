import Ecmascript.Error.Basic
import Ecmascript.Lexer.Basic
import Ecmascript.Tree.Basic

/-!
# Parsers

A parser is a function on an explicit state: the lexer, the current and the previous token, the
grammar parameters of the place, the depth of nesting, and the attempts that have failed. A
reply is a value or an error, each with the state that is left, or the answer that the bound on
the steps was too small; `Ecmascript.parse` gives a bound under which the last never happens.

An attempt runs from a copy of the lexer, the tokens and the context. When it fails, these are as
before, and the failure is remembered. The depth is not copied: every parser leaves it as it was,
also when it fails. The memory is a matter of speed: `Setup.remember` turns it off.
-/

set_option autoImplicit false

namespace Ecmascript

/-- Grammar parameters that change inside functions and loop heads. When `allowIn` is false, the
word `in` is not an operator. -/
structure Context where
  inFunction : Bool
  inGenerator : Bool
  inAsync : Bool
  allowIn : Bool
  deriving DecidableEq

/-- The context of a script. -/
def Context.script : Context :=
  { inFunction := false, inGenerator := false, inAsync := false, allowIn := true }

/-- Whether a name is reserved by the context: `yield` in generators and `await` in asynchronous
functions. -/
def Context.reserves (context : Context) (name : String) : Bool :=
  (context.inGenerator && name = "yield") || (context.inAsync && name = "await")

/-- What an attempt tries to read: a destructuring target before an assignment sign, a
destructuring target of a loop, the head of an arrow function, or the head of an asynchronous
one. -/
inductive AttemptKind where
  | assignmentTarget | loopTarget | arrowHead | asyncArrowHead
  deriving DecidableEq

/-- An attempt, by the offset at which it begins, its kind, and its context. -/
structure Attempt where
  start : Nat
  kind : AttemptKind
  context : Context
  deriving DecidableEq

/-- What stays fixed while a script is parsed: after which tokens a slash is taken for a division,
and whether failed attempts are remembered. -/
structure Setup where
  endsOperand : TokenKind → Bool
  remember : Bool

/-- The setup that parsing uses. -/
def Setup.standard : Setup :=
  { endsOperand := TokenKind.endsOperand, remember := true }

namespace Parser

/-- The state of a parser. Failed attempts are kept with the error that ended each. -/
structure State where
  lexer : Lexer
  current : Token
  previous : Token
  context : Context
  failed : List (Attempt × SyntaxError)
  depth : Nat
  deriving DecidableEq

/-- The reply of a parser. -/
inductive Reply (α : Type) where
  | ok (value : α) (state : State)
  | reject (error : SyntaxError) (state : State)
  | exhausted

end Parser

/-- A parser of values of a type. -/
def Parser (α : Type) : Type :=
  Setup → Parser.State → Parser.Reply α

namespace Parser

/-- The parser that reads nothing. -/
def succeed {α : Type} (value : α) : Parser α :=
  fun _ state => .ok value state

/-- One parser after another. -/
def andThen {α β : Type} (first : Parser α) (next : α → Parser β) : Parser β :=
  fun setup state =>
    match first setup state with
    | .ok value state => next value setup state
    | .reject error state => .reject error state
    | .exhausted => .exhausted

instance : Monad Parser where
  pure := succeed
  bind := andThen

/-- The parser that fails. -/
def fail {α : Type} (error : SyntaxError) : Parser α :=
  fun _ state => .reject error state

/-- The parser that had too few steps. -/
def exhaust {α : Type} : Parser α :=
  fun _ _ => .exhausted

/-- The state of the parser. -/
def getState : Parser State :=
  fun _ state => .ok state state

/-! ## Tokens -/

/-- The token that is read next. -/
def current : Parser Token := do
  return (← getState).current

/-- The kind of the token that is read next. -/
def currentKind : Parser TokenKind := do
  return (← current).kind

/-- The grammar parameters of the place. -/
def context : Parser Context := do
  return (← getState).context

/-- Where the next token begins. -/
def position : Parser Nat := do
  return (← current).start

/-- Whether a line break stands before the next token. -/
def atNewline : Parser Bool := do
  return (← current).newlineBefore

/-- Whether the next token has a kind. -/
def at? (kind : TokenKind) : Parser Bool := do
  return (← currentKind) = kind

/-- Whether the next token is a punctuator. -/
def atMark (mark : Punctuator) : Parser Bool :=
  at? (.punctuator mark)

/-- Whether the next token is a keyword. -/
def atKeyword (word : Keyword) : Parser Bool :=
  at? (.keyword word)

/-- Whether the next token is an identifier with a name. -/
def atName (name : String) : Parser Bool :=
  at? (.identifier name)

/-- Goes on to the next token. -/
def advance : Parser Unit :=
  fun setup state =>
    match state.lexer.nextWith setup.endsOperand with
    | (.ok token, lexer) =>
        .ok () { state with lexer, current := token, previous := state.current }
    | (.error error, lexer) => .reject (.lexical error) { state with lexer }

/-- The token behind the next one. Nothing is read. -/
def peek : Parser Token :=
  fun setup state =>
    match state.lexer.nextWith setup.endsOperand with
    | (.ok token, _) => .ok token state
    | (.error error, _) => .reject (.lexical error) state

/-- The source text of a token. -/
def textOf (token : Token) : Parser String := do
  return String.ofList ((← getState).lexer.source.slice token.start token.stop)

/-- Fails at the next token. -/
def unexpected {α : Type} : Parser α := do
  let token ← current
  fail (.unexpected token (← textOf token))

/-- Fails at the next token, which is reserved. -/
def reservedWord {α : Type} : Parser α := do
  let token ← current
  fail (.reserved token (← textOf token))

/-- Reads a punctuator if it is next. -/
def eatMark (mark : Punctuator) : Parser Bool := do
  if ← atMark mark then
    advance
    return true
  else return false

/-- Reads a keyword if it is next. -/
def eatKeyword (word : Keyword) : Parser Bool := do
  if ← atKeyword word then
    advance
    return true
  else return false

/-- Reads a punctuator. -/
def expectMark (mark : Punctuator) : Parser Unit := do
  if ← atMark mark then advance else unexpected

/-- Reads a keyword. -/
def expectKeyword (word : Keyword) : Parser Unit := do
  if ← atKeyword word then advance else unexpected

/-- A phrase that reaches from an offset to the end of the token read last. -/
def finish {category : Category} (start : Nat) (item : Node category) :
    Parser (Located category) := do
  return .located start (← getState).previous.stop item

/-- Whether a statement may end here without a semicolon. -/
def atStatementEnd : Parser Bool := do
  let token ← current
  return token.newlineBefore ||
    token.kind = .punctuator .semicolon || token.kind = .punctuator .rightBrace ||
    token.kind = .endOfInput

/-- Reads the end of a statement: a semicolon, or nothing where it may be left out. -/
def expectSemicolon : Parser Unit := do
  if ← eatMark .semicolon then return ()
  else if ← atStatementEnd then return ()
  else unexpected

/-- Where an operand is expected, a slash begins a regular expression. -/
def slashAsRegex : Parser Unit :=
  fun _ state =>
    match state.current.kind with
    | .punctuator .slash | .punctuator .slashAssign =>
        match state.lexer.rescanRegex state.current with
        | (.ok token, lexer) => .ok () { state with lexer, current := token }
        | (.error error, lexer) => .reject (.lexical error) { state with lexer }
    | _ => .ok () state

/-- Where an operator is expected, a slash is a division. -/
def slashAsDivide : Parser Unit :=
  fun _ state =>
    match state.current.kind with
    | .regex _ =>
        let (token, lexer) := state.lexer.rescanDivide state.current
        .ok () { state with lexer, current := token }
    | _ => .ok () state

/-! ## Scopes -/

/-- Runs a parser in another context. -/
def withContext {α : Type} (context : Context) (parser : Parser α) : Parser α :=
  fun setup state =>
    match parser setup { state with context } with
    | .ok value after => .ok value { after with context := state.context }
    | .reject error after => .reject error { after with context := state.context }
    | .exhausted => .exhausted

/-- Runs a parser with or without the operator `in`. -/
def withIn {α : Type} (allowIn : Bool) (parser : Parser α) : Parser α := do
  withContext { ← context with allowIn } parser

/-- The deepest nesting that is allowed. -/
def maxNesting : Nat := 256

/-- Runs a parser one level of nesting deeper. -/
def nested {α : Type} (parser : Parser α) : Parser α :=
  fun setup state =>
    if maxNesting ≤ state.depth then
      .reject (.invalid state.current.start state.current.stop .nestingTooDeep) state
    else
      match parser setup { state with depth := state.depth + 1 } with
      | .ok value after => .ok value { after with depth := after.depth - 1 }
      | .reject error after => .reject error { after with depth := after.depth - 1 }
      | .exhausted => .exhausted

/-- Runs a parser as an attempt: when it fails, the lexer, the tokens and the context are put back,
and the failure is remembered. An attempt that is known to fail is not made again. -/
def attempt {α : Type} (kind : AttemptKind) (parser : Parser α) : Parser (Option α) :=
  fun setup state =>
    let key : Attempt := { start := state.current.start, kind, context := state.context }
    if setup.remember && state.failed.any (fun failure => failure.1 = key) then .ok none state
    else
      match parser setup state with
      | .ok value after => .ok (some value) after
      | .reject error after =>
          .ok none { state with failed := (key, error) :: after.failed, depth := after.depth }
      | .exhausted => .exhausted

/-! ## Names -/

/-- A phrase that is a token by itself. -/
def locate {category : Category} (token : Token) (item : Node category) : Located category :=
  .located token.start token.stop item

/-- Reads the name of a binding or label. -/
def bindingName : Parser (Located .word) := do
  let token ← current
  match token.kind with
  | .identifier name =>
      if (← context).reserves name then reservedWord
      else
        advance
        return locate token (.word name)
  | .keyword _ => reservedWord
  | _ => unexpected

/-- The name that a token is where reserved words are names too. -/
def propertyName? : TokenKind → Option String
  | .identifier name => some name
  | .keyword word => some word.spelling
  | _ => none

/-- Reads the name of a property after a dot. -/
def propertyName : Parser (Located .word) := do
  let token ← current
  match propertyName? token.kind with
  | some name =>
      advance
      return locate token (.word name)
  | none => unexpected

end Parser

end Ecmascript
