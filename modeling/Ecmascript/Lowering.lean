import Ecmascript.Options.Basic
import Ecmascript.Tree.Rebuild

/-!
# Lowering

Newer constructs are replaced by older ones of the same meaning. A power becomes a call of
`Math.pow`, a power assignment becomes a plain assignment of such a call, and an arrow function
becomes a function expression. Rules apply at expression positions, from the leaves up, so that a
rule sees its operands already lowered.

New nodes get a position too: a call of `Math.pow` puts its callee at the place where it begins,
with no width, and the block and the `return` around the value of an arrow function have the
position of that value.
-/

set_option autoImplicit false

namespace Ecmascript

/-- A call of `Math.pow` that begins at an offset. -/
def mathPow (start : Nat) (left right : Located .expression) : Node .expression :=
  .callExpression
    (.located start start
      (.memberExpression (.located start start (.identifier "Math"))
        (.located start start (.word "pow"))))
    (.cons left (.single right))

/-- The expression that reads the target of an assignment, if the target is a simple one. -/
def Node.targetExpression? : Located .pattern → Option (Located .expression)
  | .located start stop (.bindingIdentifier name) =>
      Option.some (.located start stop (.identifier name))
  | .located start stop (.expressionPattern expression) =>
      Option.some (.located start stop expression)
  | _ => Option.none

/-- Lowers a power or a power assignment that begins at an offset. -/
def lowerPower (start : Nat) : Node .expression → Node .expression
  | .binaryExpression .power left right => mathPow start left right
  | .assignmentExpression .power left right =>
      match left.targetExpression? with
      | some target =>
          .assignmentExpression .assign left
            (.located target.start right.stop (mathPow target.start target right))
      | none => .assignmentExpression .power left right
  | expression => expression

/-- The body of an arrow function as a block. -/
def arrowBlock : Node .arrowBody → Located .block
  | .blockBody body => body
  | .expressionBody (.located start stop value) =>
      .located start stop
        (.block (.single
          (.located start stop (.returnStatement (.some (.located start stop value))))))

/-- Lowers an arrow function. -/
def lowerArrow : Node .expression → Node .expression
  | .arrowFunction isAsync parameters body =>
      .functionExpression (.function .none false isAsync parameters (arrowBlock body))
  | expression => expression

/-- Applies the chosen rules to an expression that begins at an offset. -/
def lowerExpression (settings : Settings) (start : Nat) (expression : Node .expression) :
    Node .expression :=
  let powered := if settings.lowerPower then lowerPower start expression else expression
  if settings.lowerArrow then lowerArrow powered else powered

/-- Applies the chosen rules at a position: to an expression, and to an expression that is the head
of a loop. -/
def lowerAt (settings : Settings) : {category : Category} → Nat → Nat → Node category →
    Located category
  | .expression, start, stop, expression =>
      .located start stop (lowerExpression settings start expression)
  | .loopHead, start, stop, .expressionHead expression =>
      .located start stop (.expressionHead (lowerExpression settings start expression))
  | _, start, stop, item => .located start stop item

/-- Lowers all constructs that the settings choose. -/
def Node.lower {category : Category} (settings : Settings) (node : Node category) :
    Node category :=
  node.rebuild (lowerAt settings)

/-- Lowers a script. -/
def Program.lower (settings : Settings) (program : Program) : Program :=
  { program with body := program.body.lower settings }

end Ecmascript
