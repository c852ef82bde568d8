import Ecmascript.Record.Printer
import Ecmascript.Tree.Rebuild

/-!
# Describing trees

The canonical description of a tree as a record: every node with its name and its fields in a
fixed order, positions included. Two trees are the same up to positions when their descriptions
agree once all positions are forgotten.
-/

set_option autoImplicit false

namespace Ecmascript

/-- The name of a variable kind. -/
def VariableKind.describe : VariableKind → Record .value
  | var => .word "Var"
  | let' => .word "Let"
  | const => .word "Const"

/-- The name of a method kind. -/
def MethodKind.describe : MethodKind → Record .value
  | constructor => .word "Constructor"
  | method => .word "Method"
  | get => .word "Get"
  | set => .word "Set"

/-- The name of a unary operator. -/
def UnaryOperator.describe : UnaryOperator → Record .value
  | minus => .word "Minus"
  | plus => .word "Plus"
  | not => .word "Not"
  | bitwiseNot => .word "BitwiseNot"
  | typeof => .word "Typeof"
  | void => .word "Void"
  | delete => .word "Delete"

/-- The name of an update operator. -/
def UpdateOperator.describe : UpdateOperator → Record .value
  | increment => .word "Increment"
  | decrement => .word "Decrement"

/-- The name of a binary operator. -/
def BinaryOperator.describe : BinaryOperator → Record .value
  | add => .word "Add"
  | subtract => .word "Sub"
  | multiply => .word "Mul"
  | divide => .word "Div"
  | remainder => .word "Mod"
  | power => .word "Pow"
  | less => .word "LessThan"
  | lessEqual => .word "LessThanEq"
  | greater => .word "GreaterThan"
  | greaterEqual => .word "GreaterThanEq"
  | equal => .word "Equal"
  | notEqual => .word "NotEqual"
  | strictEqual => .word "StrictEqual"
  | strictNotEqual => .word "StrictNotEqual"
  | leftShift => .word "LeftShift"
  | rightShift => .word "RightShift"
  | unsignedRightShift => .word "UnsignedRightShift"
  | bitwiseAnd => .word "BitwiseAnd"
  | bitwiseOr => .word "BitwiseOr"
  | bitwiseXor => .word "BitwiseXor"
  | in' => .word "In"
  | instanceof => .word "Instanceof"

/-- The name of a logical operator. -/
def LogicalOperator.describe : LogicalOperator → Record .value
  | and => .word "And"
  | or => .word "Or"
  | nullish => .word "NullishCoalescing"

/-- The name of an assignment operator. -/
def AssignmentOperator.describe : AssignmentOperator → Record .value
  | assign => .word "Assign"
  | add => .word "AddAssign"
  | subtract => .word "SubAssign"
  | multiply => .word "MulAssign"
  | divide => .word "DivAssign"
  | remainder => .word "ModAssign"
  | power => .word "PowAssign"
  | leftShift => .word "LeftShiftAssign"
  | rightShift => .word "RightShiftAssign"
  | unsignedRightShift => .word "UnsignedRightShiftAssign"
  | bitwiseAnd => .word "BitwiseAndAssign"
  | bitwiseOr => .word "BitwiseOrAssign"
  | bitwiseXor => .word "BitwiseXorAssign"
  | and => .word "AndAssign"
  | or => .word "OrAssign"
  | nullish => .word "NullishAssign"

/-- The record of a literal value. -/
def LiteralValue.describe : LiteralValue → Record .value
  | null => .word "Null"
  | boolean value => .tagged "Boolean" (.boolean value)
  | number raw => .tagged "Number" (.quoted raw)
  | string raw => .tagged "String" (.quoted raw)
  | regex raw => .tagged "RegEx" (.quoted raw)

/-- The kind of record that describes a category: a list is described by its items. -/
abbrev Category.recordSort : Category → Record.Sort
  | .list _ => .items
  | _ => .value

/-- A node described by a name and its fields in order. -/
def Record.node (name : String) (fields : List (String × Record .value)) : Record .value :=
  .struct name (.ofFields fields)

/-- The record of a phrase. -/
def Node.describe : {category : Category} → Node category → Record category.recordSort
  | _, .nil => .noItems
  | _, .cons head tail => .item head.describe.whole tail.describe
  | _, .none => .word "None"
  | _, .some value => .tagged "Some" value.describe.whole
  | _, .located start stop item =>
      .node "Loc" [("start", .nat start), ("end", .nat stop), ("item", item.describe.whole)]
  | _, .word raw => .quoted raw
  | _, .emptyStatement => .word "Empty"
  | _, .debuggerStatement => .word "Debugger"
  | _, .expressionStatement expression => .node "Expression" [("expression", expression.describe)]
  | _, .variableStatement kind declarators =>
      .node "Declaration" [("kind", kind.describe), ("declarators", .list declarators.describe)]
  | _, .functionDeclaration definition => .node "Function" [("function", definition.describe)]
  | _, .classDeclaration definition => .node "Class" [("class", definition.describe)]
  | _, .returnStatement value => .node "Return" [("value", value.describe)]
  | _, .breakStatement label => .node "Break" [("label", label.describe)]
  | _, .continueStatement label => .node "Continue" [("label", label.describe)]
  | _, .throwStatement value => .node "Throw" [("value", value.describe)]
  | _, .ifStatement test consequent alternate =>
      .node "If" [("test", test.describe), ("consequent", consequent.describe),
        ("alternate", alternate.describe)]
  | _, .whileStatement test body =>
      .node "While" [("test", test.describe), ("body", body.describe)]
  | _, .doStatement body test => .node "Do" [("body", body.describe), ("test", test.describe)]
  | _, .forStatement head test update body =>
      .node "For" [("init", head.describe), ("test", test.describe), ("update", update.describe),
        ("body", body.describe)]
  | _, .forInStatement left right body =>
      .node "ForIn" [("left", left.describe), ("right", right.describe), ("body", body.describe)]
  | _, .forOfStatement left right body =>
      .node "ForOf" [("left", left.describe), ("right", right.describe), ("body", body.describe)]
  | _, .switchStatement discriminant cases =>
      .node "Switch" [("discriminant", discriminant.describe), ("cases", .list cases.describe)]
  | _, .tryStatement body clause finalizer =>
      .node "Try" [("block", body.describe), ("handler", clause.describe),
        ("finalizer", finalizer.describe)]
  | _, .blockStatement body => .node "Block" [("body", .list body.describe)]
  | _, .labeledStatement label body =>
      .node "Labeled" [("label", label.describe), ("body", body.describe)]
  | _, .declarator id value => .node "Declarator" [("id", id.describe), ("init", value.describe)]
  | _, .declarationHead kind declarators =>
      .node "Declaration" [("kind", kind.describe), ("declarators", .list declarators.describe)]
  | _, .expressionHead expression => .tagged "Expression" expression.describe
  | _, .patternHead pattern => .tagged "Pattern" pattern.describe
  | _, .block body => .node "Block" [("body", .list body.describe)]
  | _, .handler parameter body =>
      .node "CatchClause" [("param", parameter.describe), ("body", body.describe)]
  | _, .switchCase test consequent =>
      .node "SwitchCase" [("test", test.describe), ("consequent", .list consequent.describe)]
  | _, .function name isGenerator isAsync parameters body =>
      .node "Function" [("name", name.describe), ("is_generator", .boolean isGenerator),
        ("is_async", .boolean isAsync), ("params", .list parameters.describe),
        ("body", body.describe)]
  | _, .classDefinition name parent body =>
      .node "Class" [("name", name.describe), ("extends", parent.describe),
        ("body", body.describe)]
  | _, .methodMember isStatic key kind value =>
      .node "Method" [("is_static", .boolean isStatic), ("key", key.describe),
        ("kind", kind.describe), ("value", value.describe)]
  | _, .fieldMember isStatic key value =>
      .node "Field" [("is_static", .boolean isStatic), ("key", key.describe),
        ("value", value.describe)]
  | _, .nameKey name => .tagged "Identifier" (.quoted name)
  | _, .literalKey value => .tagged "Literal" value.describe
  | _, .computedKey expression => .tagged "Computed" expression.describe
  | _, .thisExpression => .word "This"
  | _, .superExpression => .word "Super"
  | _, .identifier name => .tagged "Identifier" (.quoted name)
  | _, .literal value => .tagged "Value" value.describe
  | _, .templateExpression content => .tagged "Template" content.describe
  | _, .taggedTemplate tag quasi =>
      .node "TaggedTemplate" [("tag", tag.describe), ("quasi", quasi.describe)]
  | _, .arrayExpression elements => .node "Array" [("body", .list elements.describe)]
  | _, .objectExpression properties => .node "Object" [("body", .list properties.describe)]
  | _, .memberExpression object property =>
      .node "Member" [("object", object.describe), ("property", property.describe)]
  | _, .computedMember object property =>
      .node "ComputedMember" [("object", object.describe), ("property", property.describe)]
  | _, .callExpression callee arguments =>
      .node "Call" [("callee", callee.describe), ("arguments", .list arguments.describe)]
  | _, .newExpression callee arguments =>
      .node "New" [("callee", callee.describe), ("arguments", .list arguments.describe)]
  | _, .unaryExpression operator argument =>
      .node "Unary" [("operator", operator.describe), ("argument", argument.describe)]
  | _, .updateExpression operator isPrefix argument =>
      .node "Update" [("operator", operator.describe), ("prefix", .boolean isPrefix),
        ("argument", argument.describe)]
  | _, .binaryExpression operator left right =>
      .node "Binary" [("operator", operator.describe), ("left", left.describe),
        ("right", right.describe)]
  | _, .logicalExpression operator left right =>
      .node "Logical" [("operator", operator.describe), ("left", left.describe),
        ("right", right.describe)]
  | _, .assignmentExpression operator left right =>
      .node "Assignment" [("operator", operator.describe), ("left", left.describe),
        ("right", right.describe)]
  | _, .conditionalExpression test consequent alternate =>
      .node "Conditional" [("test", test.describe), ("consequent", consequent.describe),
        ("alternate", alternate.describe)]
  | _, .sequenceExpression expressions => .node "Sequence" [("body", .list expressions.describe)]
  | _, .spreadExpression argument => .node "Spread" [("argument", argument.describe)]
  | _, .arrowFunction isAsync parameters body =>
      .node "Arrow" [("is_async", .boolean isAsync), ("params", .list parameters.describe),
        ("body", body.describe)]
  | _, .functionExpression definition => .node "Function" [("function", definition.describe)]
  | _, .classExpression definition => .node "Class" [("class", definition.describe)]
  | _, .yieldExpression argument isDelegate =>
      .node "Yield" [("argument", argument.describe), ("delegate", .boolean isDelegate)]
  | _, .awaitExpression argument => .node "Await" [("argument", argument.describe)]
  | _, .template chunks expressions =>
      .node "TemplateLiteral" [("quasis", .list chunks.describe),
        ("expressions", .list expressions.describe)]
  | _, .expressionBody expression => .tagged "Expression" expression.describe
  | _, .blockBody body => .tagged "Block" body.describe
  | _, .shorthandProperty name => .tagged "Shorthand" (.quoted name)
  | _, .valueProperty key value =>
      .node "Literal" [("key", key.describe), ("value", value.describe)]
  | _, .methodProperty key kind value =>
      .node "Method" [("key", key.describe), ("kind", kind.describe), ("value", value.describe)]
  | _, .spreadProperty argument => .node "Spread" [("argument", argument.describe)]
  | _, .bindingIdentifier name => .tagged "Identifier" (.quoted name)
  | _, .expressionPattern expression => .tagged "Expression" expression.describe
  | _, .arrayPattern elements => .node "Array" [("elements", .list elements.describe)]
  | _, .objectPattern properties => .node "Object" [("properties", .list properties.describe)]
  | _, .defaultPattern left right =>
      .node "Assignment" [("left", left.describe), ("right", right.describe)]
  | _, .restPattern argument => .node "Rest" [("argument", argument.describe)]
  | _, .bindingProperty key value isShorthand =>
      .node "Property" [("key", key.describe), ("value", value.describe),
        ("shorthand", .boolean isShorthand)]
  | _, .restProperty argument => .node "Rest" [("argument", argument.describe)]

namespace Program

/-- The description of a script: the list of its statements. -/
def describe (program : Program) : Record .value :=
  .list program.body.describe

/-- The canonical text of a script on one line. -/
def dump (program : Program) : String :=
  program.describe.compact

/-- The canonical text of a script over several lines. -/
def dumpIndented (program : Program) : String :=
  program.describe.indented

/-- The script with all positions of its statements forgotten. -/
def erase (program : Program) : Program :=
  { start := 0, stop := 0, body := program.body.erase }

/-- Whether two scripts are the same up to positions. -/
def sameShape (left right : Program) : Bool :=
  left.erase.describe = right.erase.describe

end Program

end Ecmascript
