import Ecmascript.Lexer.Error
import Ecmascript.Lexer.Literal
import Ecmascript.Lexer.Trivia
import Ecmascript.Token.Basic

/-!
# The lexer

A lexer is a place in a source text together with the two facts that the text before it leaves
behind: whether a slash begins a regular expression, and how many braces are open in each template
substitution around it. A lexer is a plain value, so going back to an earlier place is keeping the
earlier value.

Reading a token answers with the lexer to go on from, also when no token could be read: that lexer
stands where reading stopped.

A slash is a guess, made from the token before it. `Lexer.rescanRegex` and `Lexer.rescanDivide`
read the same slash again the other way.
-/

set_option autoImplicit false

namespace Ecmascript

open Character

/-- A place in a source text. `rest` is what follows `position`; `templates` counts the open braces
of each enclosing template substitution, the innermost first. -/
structure Lexer where
  source : Text
  position : Nat
  rest : Text
  regexAllowed : Bool
  templates : List Nat
  deriving DecidableEq

namespace Lexer

/-- The lexer at the beginning of a text. -/
def ofText (source : Text) : Lexer :=
  { source, position := 0, rest := source, regexAllowed := true, templates := [] }

/-- The lexer after a part of what follows it. -/
def advance (lexer : Lexer) (lexeme rest : Text) : Lexer :=
  { lexer with position := lexer.position + lexeme.byteLength, rest }

/-- The lexer moved to a byte offset of its source. -/
def seek (lexer : Lexer) (position : Nat) : Lexer :=
  { lexer with position, rest := lexer.source.dropBytes position }

/-! ## Kinds of a lexeme -/

/-- The keyword or identifier that a word is. -/
def wordKind (word : Text) : TokenKind :=
  let name := String.ofList word
  match Keyword.ofSpelling? name with
  | some keyword => .keyword keyword
  | none => .identifier name

/-- The part of a template that a chunk is, by how it begins and ends. -/
def templatePart (isFirst isLast : Bool) : TemplatePart :=
  match isFirst, isLast with
  | true, true => .whole
  | true, false => .head
  | false, true => .tail
  | false, false => .middle

/-- What a lexeme turned out to be, with the lexer after it. -/
abbrev Reading := Except LexError TokenKind × Lexer

/-- Reads a string whose opening quote is the next character. -/
def readString (lexer : Lexer) (quote : Char) (rest : Text) : Reading :=
  let scan := (Literal.scanString quote rest).prepend [quote]
  let after := lexer.advance scan.lexeme scan.rest
  if scan.closed then (.ok (.string (String.ofList scan.lexeme)), after)
  else (.error (.unterminated .string lexer.position), after)

/-- Reads a template chunk behind its opening delimiter, a backquote or the brace that closes a
substitution. A substitution that begins behind the chunk is entered with no open brace. -/
def readTemplate (lexer : Lexer) (isFirst : Bool) (delimiter : Char) (rest : Text) : Reading :=
  let chunk := Literal.scanChunk rest
  let after := lexer.advance (delimiter :: chunk.raw ++ chunk.stop.delimiter) chunk.rest
  let raw := String.ofList chunk.raw
  match chunk.stop with
  | .missing => (.error (.unterminated .template lexer.position), after)
  | .backquote => (.ok (.template (templatePart isFirst true) raw), after)
  | .substitution =>
      (.ok (.template (templatePart isFirst false) raw),
        { after with templates := 0 :: after.templates })

/-- Reads a regular expression whose opening slash is the next character. -/
def readRegex (lexer : Lexer) (rest : Text) : Reading :=
  let scan := (Literal.scanRegex rest).prepend ['/']
  let after := lexer.advance scan.lexeme scan.rest
  if scan.closed then (.ok (.regex (String.ofList scan.lexeme)), after)
  else (.error (.unterminated .regularExpression lexer.position), after)

/-- The open braces of the innermost substitution, after a punctuator inside it. -/
def countBrace (mark : Punctuator) : List Nat → List Nat
  | [] => []
  | depth :: outer =>
      match mark with
      | .leftBrace => (depth + 1) :: outer
      | .rightBrace => (depth - 1) :: outer
      | _ => depth :: outer

/-- Reads the longest punctuator. -/
def readPunctuator (lexer : Lexer) (first : Char) (rest : Text) : Reading :=
  match Punctuator.longest? (first :: rest) with
  | some mark =>
      let spelling := mark.spelling.toList
      let after := lexer.advance spelling ((first :: rest).drop spelling.length)
      (.ok (.punctuator mark), { after with templates := countBrace mark after.templates })
  | none =>
      (.error (.unexpectedCharacter first lexer.position), lexer.advance [first] rest)

/-- Reads the token that begins with a character. A brace that closes a template substitution
leaves it, and goes on with the template. A slash that cannot begin a regular expression after all
is a division. -/
def readKind (lexer : Lexer) (first : Char) (rest : Text) : Reading :=
  if isIdentifierStart first then
    let (word, left) := Literal.scanWord (first :: rest)
    (.ok (wordKind word), lexer.advance word left)
  else if isDecimalDigit first || (first = '.' && rest.head?.any isDecimalDigit) then
    let (digits, left) := Literal.scanNumber (first :: rest)
    (.ok (.number (String.ofList digits)), lexer.advance digits left)
  else if first = '"' || first = '\'' then lexer.readString first rest
  else if first = '\x60' then lexer.readTemplate true first rest
  else if first = '\x7d' && lexer.templates.head? = some 0 then
    { lexer with templates := lexer.templates.tail }.readTemplate false first rest
  else if first = '/' && lexer.regexAllowed then
    match lexer.readRegex rest with
    | (.ok kind, after) => (.ok kind, after)
    | (.error _, _) => lexer.readPunctuator first rest
  else lexer.readPunctuator first rest

/-! ## Reading tokens -/

/-- Reads the next token, taking a slash for a division exactly after the tokens that `endsOperand`
accepts. -/
def nextWith (endsOperand : TokenKind → Bool) (lexer : Lexer) : Except LexError Token × Lexer :=
  match Trivia.skip lexer.position lexer.rest with
  | .unclosed start position =>
      (.error (.unterminated .comment start), { lexer with position, rest := [] })
  | .skipped position rest newline =>
      let lexer := { lexer with position, rest }
      match rest with
      | [] =>
          (.ok { kind := .endOfInput, start := position, stop := position, newlineBefore := true },
            lexer)
      | first :: rest =>
          match lexer.readKind first rest with
          | (.error error, after) => (.error error, after)
          | (.ok kind, after) =>
              (.ok { kind, start := position, stop := after.position, newlineBefore := newline },
                { after with regexAllowed := !endsOperand kind })

/-- Reads the next token. -/
def next (lexer : Lexer) : Except LexError Token × Lexer :=
  lexer.nextWith TokenKind.endsOperand

/-- Reads at most the given number of tokens, up to the end of input. -/
def tokensWithin : Nat → Lexer → Except LexError (List Token) × Lexer
  | 0, lexer => (.ok [], lexer)
  | fuel + 1, lexer =>
      match lexer.next with
      | (.error error, after) => (.error error, after)
      | (.ok token, after) =>
          if token.kind = .endOfInput then (.ok [token], after)
          else
            match tokensWithin fuel after with
            | (.error error, last) => (.error error, last)
            | (.ok tokens, last) => (.ok (token :: tokens), last)

/-- Reads all tokens that are left; the last is the end of input. Every other token takes at least
one character, so one step more than there are characters is enough. -/
def tokens (lexer : Lexer) : Except LexError (List Token) × Lexer :=
  tokensWithin (lexer.rest.length + 1) lexer

/-! ## Correcting the guess -/

/-- Reads a token that begins with a slash again, as a regular expression. -/
def rescanRegex (lexer : Lexer) (token : Token) : Except LexError Token × Lexer :=
  let slash := lexer.seek token.start
  match slash.readRegex (lexer.source.dropBytes (token.start + 1)) with
  | (.error error, after) => (.error error, after)
  | (.ok kind, after) =>
      (.ok { token with kind, stop := after.position }, { after with regexAllowed := false })

/-- Reads a token that begins with a slash again, as a division. -/
def rescanDivide (lexer : Lexer) (token : Token) : Token × Lexer :=
  let mark : Punctuator :=
    if (lexer.source.dropBytes (token.start + 1)).head? = some '=' then .slashAssign else .slash
  let stop := token.start + mark.spelling.length
  ({ token with kind := .punctuator mark, stop }, { lexer.seek stop with regexAllowed := true })

end Lexer

end Ecmascript
