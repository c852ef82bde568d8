import Ecmascript.Parser.Basic

/-!
# Goals

The phrases that the grammar defines through each other are goals. A production is written against
a parser for every goal, which it calls where the grammar refers to another phrase, or to the rest
of the list it is in. Tying the productions together is the only recursion of the parser.
-/

set_option autoImplicit false

namespace Ecmascript.Parser

/-- What ends a list of statements: the end of the script, the closing brace of a block, or the
next clause of a switch. -/
inductive StatementsEnd where
  | script | block | clause
  deriving DecidableEq

/-- Where a pattern stands. A binding names variables only; the target of an assignment may also be
a member of an object. -/
inductive PatternUse where
  | binding | assignment
  deriving DecidableEq

/-- The phrases that are parsed through each other. -/
inductive Goal where
  | statement
  | statements (stop : StatementsEnd)
  | declarators
  | switchCases
  | classMembers
  | expression
  | moreExpressions
  | assignment
  | binary (minimum : Nat)
  | binaryRest (minimum start : Nat) (left : Located .expression)
  | power
  | unary
  | leftHandSide
  | newExpression
  | memberRest (start : Nat) (object : Located .expression) (allowCall : Bool)
  | arguments
  | arrayElements
  | objectMembers
  | templateRest
  | target (use : PatternUse)
  | targetElements (use : PatternUse)
  | targetProperties (use : PatternUse)
  | parameters

/-- What a goal yields. The rest of a template is the chunks and the expressions that are left. -/
abbrev Goal.Result : Goal → Type
  | statement => Located .statement
  | statements _ => Many (.located .statement)
  | declarators => Many (.located .declarator)
  | switchCases => Many (.located .switchCase)
  | classMembers => Many (.located .member)
  | expression => Located .expression
  | moreExpressions => Many (.located .expression)
  | assignment => Located .expression
  | binary _ => Located .expression
  | binaryRest _ _ _ => Located .expression
  | power => Located .expression
  | unary => Located .expression
  | leftHandSide => Located .expression
  | newExpression => Located .expression
  | memberRest _ _ _ => Located .expression
  | arguments => Many (.located .expression)
  | arrayElements => Many (.option (.located .expression))
  | objectMembers => Many (.located .property)
  | templateRest => Many (.located .word) × Many (.located .expression)
  | target _ => Located .pattern
  | targetElements _ => Many (.option (.located .pattern))
  | targetProperties _ => Many (.located .patternProperty)
  | parameters => Many (.located .pattern)

/-- A parser for every goal. -/
abbrev Grammar := (goal : Goal) → Parser goal.Result

end Ecmascript.Parser
