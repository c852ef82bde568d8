import Ecmascript.Parser.Statement

/-!
# Parsing scripts

The productions tied together. Each call of a goal from a production takes one step from a bound;
the bound is chosen from the length of the text, far above what any text of that length needs.
-/

set_option autoImplicit false

namespace Ecmascript

namespace Parser

/-- The production of a goal. -/
def production (self : Grammar) : Grammar
  | .statement => statement self
  | .statements stop => statements self stop
  | .declarators => declarators self
  | .switchCases => switchCases self
  | .classMembers => classMembers self
  | .expression => expression self
  | .moreExpressions => moreExpressions self
  | .assignment => assignment self
  | .binary minimum => binary self minimum
  | .binaryRest minimum start left => binaryRest self minimum start left
  | .power => power self
  | .unary => unary self
  | .leftHandSide => leftHandSide self
  | .newExpression => newExpression self
  | .memberRest start object allowCall => memberRest self start object allowCall
  | .arguments => argumentList self
  | .arrayElements => arrayElements self
  | .objectMembers => objectMembers self
  | .templateRest => templateRest self
  | .target use => target self use
  | .targetElements use => targetElements self use
  | .targetProperties use => targetProperties self use
  | .parameters => parameters self

/-- The parser of every goal with a bound on the calls inside each other. -/
def run : Nat → Grammar
  | 0, _ => exhaust
  | steps + 1, goal => production (run steps) goal

/-- The state at the beginning of a text, with its first token read. -/
def start (setup : Setup) (source : Text) : Except SyntaxError State :=
  match (Lexer.ofText source).nextWith setup.endsOperand with
  | (.error error, _) => .error (.lexical error)
  | (.ok token, lexer) =>
      .ok {
        lexer
        current := token
        previous := { kind := .endOfInput, start := 0, stop := 0, newlineBefore := false }
        context := Context.script
        failed := []
        depth := 0 }

/-- A bound on the calls inside each other that parsing a text needs. -/
def stepBound (source : Text) : Nat :=
  16 * (source.length + 2)

/-- The reply to a text as a list of statements. -/
def replyTo (setup : Setup) (source : Text) :
    Except SyntaxError (Reply (Many (.located .statement))) :=
  (start setup source).map fun state => run (stepBound source) (.statements .script) setup state

end Parser

/-- Parses a text under a setup. The last case does not arise. -/
def parseWith (setup : Setup) (source : Text) : Except SyntaxError Program :=
  match Parser.replyTo setup source with
  | .error error => .error error
  | .ok (.ok body _) => .ok { start := 0, stop := source.byteLength, body }
  | .ok (.reject error _) => .error error
  | .ok .exhausted => .error (.invalid 0 0 .nestingTooDeep)

/-- Parses a script. -/
def parse (source : String) : Except SyntaxError Program :=
  parseWith Setup.standard source.toList

end Ecmascript
