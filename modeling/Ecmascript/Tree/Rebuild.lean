import Ecmascript.Tree.Basic

/-!
# Rebuilding trees

A tree is rebuilt from the leaves up by deciding, at every position, what stands there. What is
decided at a position sees the phrase below it already rebuilt. Forgetting positions and moving
them are the simplest uses.
-/

set_option autoImplicit false

namespace Ecmascript

namespace Node

/-- Rebuilds a tree from the leaves up. At each position, `visit` receives the two offsets and the
rebuilt phrase. -/
def rebuild (visit : {category : Category} → Nat → Nat → Node category → Located category) :
    {category : Category} → Node category → Node category
  | _, .nil => .nil
  | _, .cons head tail => .cons (head.rebuild visit) (tail.rebuild visit)
  | _, .none => .none
  | _, .some value => .some (value.rebuild visit)
  | _, .located start stop item => visit start stop (item.rebuild visit)
  | _, .word raw => .word raw
  | _, .emptyStatement => .emptyStatement
  | _, .debuggerStatement => .debuggerStatement
  | _, .expressionStatement expression => .expressionStatement (expression.rebuild visit)
  | _, .variableStatement kind declarators => .variableStatement kind (declarators.rebuild visit)
  | _, .functionDeclaration definition => .functionDeclaration (definition.rebuild visit)
  | _, .classDeclaration definition => .classDeclaration (definition.rebuild visit)
  | _, .returnStatement value => .returnStatement (value.rebuild visit)
  | _, .breakStatement label => .breakStatement (label.rebuild visit)
  | _, .continueStatement label => .continueStatement (label.rebuild visit)
  | _, .throwStatement value => .throwStatement (value.rebuild visit)
  | _, .ifStatement test consequent alternate =>
      .ifStatement (test.rebuild visit) (consequent.rebuild visit) (alternate.rebuild visit)
  | _, .whileStatement test body => .whileStatement (test.rebuild visit) (body.rebuild visit)
  | _, .doStatement body test => .doStatement (body.rebuild visit) (test.rebuild visit)
  | _, .forStatement head test update body =>
      .forStatement (head.rebuild visit) (test.rebuild visit) (update.rebuild visit)
        (body.rebuild visit)
  | _, .forInStatement left right body =>
      .forInStatement (left.rebuild visit) (right.rebuild visit) (body.rebuild visit)
  | _, .forOfStatement left right body =>
      .forOfStatement (left.rebuild visit) (right.rebuild visit) (body.rebuild visit)
  | _, .switchStatement discriminant cases =>
      .switchStatement (discriminant.rebuild visit) (cases.rebuild visit)
  | _, .tryStatement body clause finalizer =>
      .tryStatement (body.rebuild visit) (clause.rebuild visit) (finalizer.rebuild visit)
  | _, .blockStatement body => .blockStatement (body.rebuild visit)
  | _, .labeledStatement label body =>
      .labeledStatement (label.rebuild visit) (body.rebuild visit)
  | _, .declarator id value => .declarator (id.rebuild visit) (value.rebuild visit)
  | _, .declarationHead kind declarators => .declarationHead kind (declarators.rebuild visit)
  | _, .expressionHead expression => .expressionHead (expression.rebuild visit)
  | _, .patternHead pattern => .patternHead (pattern.rebuild visit)
  | _, .block body => .block (body.rebuild visit)
  | _, .handler parameter body => .handler (parameter.rebuild visit) (body.rebuild visit)
  | _, .switchCase test consequent => .switchCase (test.rebuild visit) (consequent.rebuild visit)
  | _, .function name isGenerator isAsync parameters body =>
      .function (name.rebuild visit) isGenerator isAsync (parameters.rebuild visit)
        (body.rebuild visit)
  | _, .classDefinition name parent body =>
      .classDefinition (name.rebuild visit) (parent.rebuild visit) (body.rebuild visit)
  | _, .methodMember isStatic key kind value =>
      .methodMember isStatic (key.rebuild visit) kind (value.rebuild visit)
  | _, .fieldMember isStatic key value =>
      .fieldMember isStatic (key.rebuild visit) (value.rebuild visit)
  | _, .nameKey name => .nameKey name
  | _, .literalKey value => .literalKey value
  | _, .computedKey expression => .computedKey (expression.rebuild visit)
  | _, .thisExpression => .thisExpression
  | _, .superExpression => .superExpression
  | _, .identifier name => .identifier name
  | _, .literal value => .literal value
  | _, .templateExpression content => .templateExpression (content.rebuild visit)
  | _, .taggedTemplate tag quasi => .taggedTemplate (tag.rebuild visit) (quasi.rebuild visit)
  | _, .arrayExpression elements => .arrayExpression (elements.rebuild visit)
  | _, .objectExpression properties => .objectExpression (properties.rebuild visit)
  | _, .memberExpression object property =>
      .memberExpression (object.rebuild visit) (property.rebuild visit)
  | _, .computedMember object property =>
      .computedMember (object.rebuild visit) (property.rebuild visit)
  | _, .callExpression callee arguments =>
      .callExpression (callee.rebuild visit) (arguments.rebuild visit)
  | _, .newExpression callee arguments =>
      .newExpression (callee.rebuild visit) (arguments.rebuild visit)
  | _, .unaryExpression operator argument => .unaryExpression operator (argument.rebuild visit)
  | _, .updateExpression operator isPrefix argument =>
      .updateExpression operator isPrefix (argument.rebuild visit)
  | _, .binaryExpression operator left right =>
      .binaryExpression operator (left.rebuild visit) (right.rebuild visit)
  | _, .logicalExpression operator left right =>
      .logicalExpression operator (left.rebuild visit) (right.rebuild visit)
  | _, .assignmentExpression operator left right =>
      .assignmentExpression operator (left.rebuild visit) (right.rebuild visit)
  | _, .conditionalExpression test consequent alternate =>
      .conditionalExpression (test.rebuild visit) (consequent.rebuild visit)
        (alternate.rebuild visit)
  | _, .sequenceExpression expressions => .sequenceExpression (expressions.rebuild visit)
  | _, .spreadExpression argument => .spreadExpression (argument.rebuild visit)
  | _, .arrowFunction isAsync parameters body =>
      .arrowFunction isAsync (parameters.rebuild visit) (body.rebuild visit)
  | _, .functionExpression definition => .functionExpression (definition.rebuild visit)
  | _, .classExpression definition => .classExpression (definition.rebuild visit)
  | _, .yieldExpression argument isDelegate =>
      .yieldExpression (argument.rebuild visit) isDelegate
  | _, .awaitExpression argument => .awaitExpression (argument.rebuild visit)
  | _, .template chunks expressions =>
      .template (chunks.rebuild visit) (expressions.rebuild visit)
  | _, .expressionBody expression => .expressionBody (expression.rebuild visit)
  | _, .blockBody body => .blockBody (body.rebuild visit)
  | _, .shorthandProperty name => .shorthandProperty name
  | _, .valueProperty key value => .valueProperty (key.rebuild visit) (value.rebuild visit)
  | _, .methodProperty key kind value =>
      .methodProperty (key.rebuild visit) kind (value.rebuild visit)
  | _, .spreadProperty argument => .spreadProperty (argument.rebuild visit)
  | _, .bindingIdentifier name => .bindingIdentifier name
  | _, .expressionPattern expression => .expressionPattern (expression.rebuild visit)
  | _, .arrayPattern elements => .arrayPattern (elements.rebuild visit)
  | _, .objectPattern properties => .objectPattern (properties.rebuild visit)
  | _, .defaultPattern left right => .defaultPattern (left.rebuild visit) (right.rebuild visit)
  | _, .restPattern argument => .restPattern (argument.rebuild visit)
  | _, .bindingProperty key value isShorthand =>
      .bindingProperty (key.rebuild visit) (value.rebuild visit) isShorthand
  | _, .restProperty argument => .restProperty (argument.rebuild visit)

/-- The tree with every position set to zero: its shape alone. -/
def erase {category : Category} (node : Node category) : Node category :=
  node.rebuild fun _ _ item => .located 0 0 item

/-- The tree with every position moved by a distance. -/
def shift {category : Category} (distance : Nat) (node : Node category) : Node category :=
  node.rebuild fun start stop item => .located (start + distance) (stop + distance) item

end Node

end Ecmascript
