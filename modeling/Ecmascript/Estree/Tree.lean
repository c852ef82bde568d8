import Ecmascript.Estree.Node
import Ecmascript.Json.Printer
import Ecmascript.Options.Basic
import Ecmascript.Tree.Basic

/-!
# Exporting trees

A tree as an ESTree document. The shape of the document follows the tree; several kinds of nodes
share one ESTree type and are told apart by their flags.
-/

set_option autoImplicit false

namespace Ecmascript

/-- Whether a category is one of lists. -/
abbrev Category.isList : Category → Bool
  | .list _ => true
  | _ => false

/-- What a phrase is exported to: a list of values for a list, a value otherwise. -/
abbrev Exported : Bool → Type
  | true => List Json
  | false => Json

/-- An export as one value. -/
def Exported.whole : {isList : Bool} → Exported isList → Json
  | true, items => .array items
  | false, value => value

namespace Node

/-- Whether a key is computed. -/
def isComputedKey : Located .key → Bool
  | .located _ _ (.computedKey _) => true
  | _ => false

/-- Whether the body of an arrow function is an expression. -/
def isExpressionBody : Node .arrowBody → Bool
  | .expressionBody _ => true
  | _ => false

/-- The words of a list with their offsets. -/
def chunks : {category : Category} → Node category → List (Nat × Nat × String)
  | _, .cons head tail => head.chunks ++ tail.chunks
  | _, .located start stop (.word raw) => [(start, stop, raw)]
  | _, _ => []

/-- Exports a phrase that lies between two offsets. -/
def toEstree (legacy : Bool) : {category : Category} → Node category → Nat → Nat →
    Exported category.isList
  | _, .nil => fun _ _ => []
  | _, .cons head tail => fun start stop =>
      (head.toEstree legacy start stop).whole :: tail.toEstree legacy start stop
  | _, .none => fun _ _ => .null
  | _, .some value => fun start stop => (value.toEstree legacy start stop).whole
  | _, .located start stop item => fun _ _ => (item.toEstree legacy start stop).whole
  | _, .word name => fun start stop => Estree.identifier legacy start stop name
  -- statements
  | _, .emptyStatement => fun start stop => Estree.node legacy "EmptyStatement" start stop []
  | _, .debuggerStatement => fun start stop =>
      Estree.node legacy "DebuggerStatement" start stop []
  | _, .expressionStatement expression => fun start stop =>
      Estree.node legacy "ExpressionStatement" start stop
        [("expression", expression.toEstree legacy start stop)]
  | _, .variableStatement kind declarators => fun start stop =>
      Estree.variableDeclaration legacy start stop kind (declarators.toEstree legacy start stop)
  | _, .functionDeclaration (.function name isGenerator isAsync parameters body) =>
      fun start stop =>
        Estree.function legacy "FunctionDeclaration" start stop (name.toEstree legacy start stop)
          isGenerator isAsync (parameters.toEstree legacy start stop)
          (body.toEstree legacy start stop)
  | _, .classDeclaration (.classDefinition name parent (.located bodyStart bodyStop members)) =>
      fun start stop =>
        Estree.classOf legacy "ClassDeclaration" start stop (name.toEstree legacy start stop)
          (parent.toEstree legacy start stop) bodyStart bodyStop
          (members.toEstree legacy start stop)
  | _, .returnStatement value => fun start stop =>
      Estree.node legacy "ReturnStatement" start stop
        [("argument", value.toEstree legacy start stop)]
  | _, .breakStatement label => fun start stop =>
      Estree.node legacy "BreakStatement" start stop [("label", label.toEstree legacy start stop)]
  | _, .continueStatement label => fun start stop =>
      Estree.node legacy "ContinueStatement" start stop
        [("label", label.toEstree legacy start stop)]
  | _, .throwStatement value => fun start stop =>
      Estree.node legacy "ThrowStatement" start stop
        [("argument", value.toEstree legacy start stop)]
  | _, .ifStatement test consequent alternate => fun start stop =>
      Estree.node legacy "IfStatement" start stop
        [("test", test.toEstree legacy start stop),
          ("consequent", consequent.toEstree legacy start stop),
          ("alternate", alternate.toEstree legacy start stop)]
  | _, .whileStatement test body => fun start stop =>
      Estree.node legacy "WhileStatement" start stop
        [("test", test.toEstree legacy start stop), ("body", body.toEstree legacy start stop)]
  | _, .doStatement body test => fun start stop =>
      Estree.node legacy "DoWhileStatement" start stop
        [("body", body.toEstree legacy start stop), ("test", test.toEstree legacy start stop)]
  | _, .forStatement head test update body => fun start stop =>
      Estree.node legacy "ForStatement" start stop
        [("init", head.toEstree legacy start stop), ("test", test.toEstree legacy start stop),
          ("update", update.toEstree legacy start stop),
          ("body", body.toEstree legacy start stop)]
  | _, .forInStatement left right body => fun start stop =>
      Estree.node legacy "ForInStatement" start stop
        [("left", left.toEstree legacy start stop), ("right", right.toEstree legacy start stop),
          ("body", body.toEstree legacy start stop)]
  | _, .forOfStatement left right body => fun start stop =>
      Estree.node legacy "ForOfStatement" start stop
        [("await", .boolean false), ("left", left.toEstree legacy start stop),
          ("right", right.toEstree legacy start stop), ("body", body.toEstree legacy start stop)]
  | _, .switchStatement discriminant cases => fun start stop =>
      Estree.node legacy "SwitchStatement" start stop
        [("discriminant", discriminant.toEstree legacy start stop),
          ("cases", .array (cases.toEstree legacy start stop))]
  | _, .tryStatement body clause finalizer => fun start stop =>
      Estree.node legacy "TryStatement" start stop
        [("block", body.toEstree legacy start stop),
          ("handler", clause.toEstree legacy start stop),
          ("finalizer", finalizer.toEstree legacy start stop)]
  | _, .blockStatement statements => fun start stop =>
      Estree.block legacy start stop (statements.toEstree legacy start stop)
  | _, .labeledStatement label body => fun start stop =>
      Estree.node legacy "LabeledStatement" start stop
        [("label", label.toEstree legacy start stop), ("body", body.toEstree legacy start stop)]
  -- parts of statements
  | _, .declarator id value => fun start stop =>
      Estree.node legacy "VariableDeclarator" start stop
        [("id", id.toEstree legacy start stop), ("init", value.toEstree legacy start stop)]
  | _, .declarationHead kind declarators => fun start stop =>
      Estree.variableDeclaration legacy start stop kind (declarators.toEstree legacy start stop)
  | _, .expressionHead expression => fun start stop => expression.toEstree legacy start stop
  | _, .patternHead pattern => fun start stop => pattern.toEstree legacy start stop
  | _, .block statements => fun start stop =>
      Estree.block legacy start stop (statements.toEstree legacy start stop)
  | _, .handler parameter body => fun start stop =>
      Estree.node legacy "CatchClause" start stop
        [("param", parameter.toEstree legacy start stop),
          ("body", body.toEstree legacy start stop)]
  | _, .switchCase test consequent => fun start stop =>
      Estree.node legacy "SwitchCase" start stop
        [("test", test.toEstree legacy start stop),
          ("consequent", .array (consequent.toEstree legacy start stop))]
  -- functions and classes
  | _, .function name isGenerator isAsync parameters body => fun start stop =>
      Estree.function legacy "FunctionExpression" start stop (name.toEstree legacy start stop)
        isGenerator isAsync (parameters.toEstree legacy start stop)
        (body.toEstree legacy start stop)
  | _, .classDefinition name parent (.located bodyStart bodyStop members) => fun start stop =>
      Estree.classOf legacy "ClassExpression" start stop (name.toEstree legacy start stop)
        (parent.toEstree legacy start stop) bodyStart bodyStop
        (members.toEstree legacy start stop)
  | _, .methodMember isStatic key kind value => fun start stop =>
      Estree.node legacy "MethodDefinition" start stop
        [("static", .boolean isStatic), ("computed", .boolean key.isComputedKey),
          ("key", key.toEstree legacy start stop), ("kind", .text (Estree.classMethodKind kind)),
          ("value", value.toEstree legacy start stop)]
  | _, .fieldMember isStatic key value => fun start stop =>
      Estree.node legacy "PropertyDefinition" start stop
        [("static", .boolean isStatic), ("computed", .boolean key.isComputedKey),
          ("key", key.toEstree legacy start stop), ("value", value.toEstree legacy start stop)]
  | _, .nameKey name => fun start stop => Estree.identifier legacy start stop name
  | _, .literalKey value => fun start stop => Estree.literal legacy start stop value
  | _, .computedKey expression => fun start stop => expression.toEstree legacy start stop
  -- expressions
  | _, .thisExpression => fun start stop => Estree.node legacy "ThisExpression" start stop []
  | _, .superExpression => fun start stop => Estree.node legacy "Super" start stop []
  | _, .identifier name => fun start stop => Estree.identifier legacy start stop name
  | _, .literal value => fun start stop => Estree.literal legacy start stop value
  | _, .templateExpression content => fun start stop => content.toEstree legacy start stop
  | _, .taggedTemplate tag quasi => fun start stop =>
      Estree.node legacy "TaggedTemplateExpression" start stop
        [("tag", tag.toEstree legacy start stop), ("quasi", quasi.toEstree legacy start stop)]
  | _, .arrayExpression elements => fun start stop =>
      Estree.node legacy "ArrayExpression" start stop
        [("elements", .array (elements.toEstree legacy start stop))]
  | _, .objectExpression properties => fun start stop =>
      Estree.node legacy "ObjectExpression" start stop
        [("properties", .array (properties.toEstree legacy start stop))]
  | _, .memberExpression object property => fun start stop =>
      Estree.node legacy "MemberExpression" start stop
        [("object", object.toEstree legacy start stop),
          ("property", property.toEstree legacy start stop), ("computed", .boolean false),
          ("optional", .boolean false)]
  | _, .computedMember object property => fun start stop =>
      Estree.node legacy "MemberExpression" start stop
        [("object", object.toEstree legacy start stop),
          ("property", property.toEstree legacy start stop), ("computed", .boolean true),
          ("optional", .boolean false)]
  | _, .callExpression callee arguments => fun start stop =>
      Estree.node legacy "CallExpression" start stop
        [("callee", callee.toEstree legacy start stop),
          ("arguments", .array (arguments.toEstree legacy start stop)),
          ("optional", .boolean false)]
  | _, .newExpression callee arguments => fun start stop =>
      Estree.node legacy "NewExpression" start stop
        [("callee", callee.toEstree legacy start stop),
          ("arguments", .array (arguments.toEstree legacy start stop))]
  | _, .unaryExpression operator argument => fun start stop =>
      Estree.node legacy "UnaryExpression" start stop
        [("operator", .text operator.spelling), ("prefix", .boolean true),
          ("argument", argument.toEstree legacy start stop)]
  | _, .updateExpression operator isPrefix argument => fun start stop =>
      Estree.node legacy "UpdateExpression" start stop
        [("operator", .text operator.spelling), ("prefix", .boolean isPrefix),
          ("argument", argument.toEstree legacy start stop)]
  | _, .binaryExpression operator left right => fun start stop =>
      Estree.node legacy "BinaryExpression" start stop
        [("left", left.toEstree legacy start stop), ("operator", .text operator.spelling),
          ("right", right.toEstree legacy start stop)]
  | _, .logicalExpression operator left right => fun start stop =>
      Estree.node legacy "LogicalExpression" start stop
        [("left", left.toEstree legacy start stop), ("operator", .text operator.spelling),
          ("right", right.toEstree legacy start stop)]
  | _, .assignmentExpression operator left right => fun start stop =>
      Estree.node legacy "AssignmentExpression" start stop
        [("operator", .text operator.spelling), ("left", left.toEstree legacy start stop),
          ("right", right.toEstree legacy start stop)]
  | _, .conditionalExpression test consequent alternate => fun start stop =>
      Estree.node legacy "ConditionalExpression" start stop
        [("test", test.toEstree legacy start stop),
          ("consequent", consequent.toEstree legacy start stop),
          ("alternate", alternate.toEstree legacy start stop)]
  | _, .sequenceExpression expressions => fun start stop =>
      Estree.node legacy "SequenceExpression" start stop
        [("expressions", .array (expressions.toEstree legacy start stop))]
  | _, .spreadExpression argument => fun start stop =>
      Estree.node legacy "SpreadElement" start stop
        [("argument", argument.toEstree legacy start stop)]
  | _, .arrowFunction isAsync parameters body => fun start stop =>
      Estree.node legacy "ArrowFunctionExpression" start stop
        [("id", .null), ("expression", .boolean body.isExpressionBody),
          ("generator", .boolean false), ("async", .boolean isAsync),
          ("params", .array (parameters.toEstree legacy start stop)),
          ("body", body.toEstree legacy start stop)]
  | _, .functionExpression definition => fun start stop => definition.toEstree legacy start stop
  | _, .classExpression definition => fun start stop => definition.toEstree legacy start stop
  | _, .yieldExpression argument isDelegate => fun start stop =>
      Estree.node legacy "YieldExpression" start stop
        [("delegate", .boolean isDelegate), ("argument", argument.toEstree legacy start stop)]
  | _, .awaitExpression argument => fun start stop =>
      Estree.node legacy "AwaitExpression" start stop
        [("argument", argument.toEstree legacy start stop)]
  -- parts of expressions
  | _, .template chunks expressions => fun start stop =>
      Estree.node legacy "TemplateLiteral" start stop
        [("expressions", .array (expressions.toEstree legacy start stop)),
          ("quasis", .array (Estree.templateElements legacy chunks.chunks))]
  | _, .expressionBody expression => fun start stop => expression.toEstree legacy start stop
  | _, .blockBody body => fun start stop => body.toEstree legacy start stop
  | _, .shorthandProperty name => fun start stop =>
      Estree.property legacy start stop (Estree.identifier legacy start stop name)
        (Estree.identifier legacy start stop name) "init" false true false
  | _, .valueProperty key value => fun start stop =>
      Estree.property legacy start stop (key.toEstree legacy start stop)
        (value.toEstree legacy start stop) "init" false false key.isComputedKey
  | _, .methodProperty key kind value => fun start stop =>
      let (name, isMethod) := Estree.objectMethodKind kind
      Estree.property legacy start stop (key.toEstree legacy start stop)
        (value.toEstree legacy start stop) name isMethod false key.isComputedKey
  | _, .spreadProperty argument => fun start stop =>
      Estree.node legacy "SpreadElement" start stop
        [("argument", argument.toEstree legacy start stop)]
  -- patterns
  | _, .bindingIdentifier name => fun start stop => Estree.identifier legacy start stop name
  | _, .expressionPattern expression => fun start stop => expression.toEstree legacy start stop
  | _, .arrayPattern elements => fun start stop =>
      Estree.node legacy "ArrayPattern" start stop
        [("elements", .array (elements.toEstree legacy start stop))]
  | _, .objectPattern properties => fun start stop =>
      Estree.node legacy "ObjectPattern" start stop
        [("properties", .array (properties.toEstree legacy start stop))]
  | _, .defaultPattern left right => fun start stop =>
      Estree.node legacy "AssignmentPattern" start stop
        [("left", left.toEstree legacy start stop), ("right", right.toEstree legacy start stop)]
  | _, .restPattern argument => fun start stop =>
      Estree.node legacy "RestElement" start stop
        [("argument", argument.toEstree legacy start stop)]
  | _, .bindingProperty key value isShorthand => fun start stop =>
      Estree.property legacy start stop (key.toEstree legacy start stop)
        (value.toEstree legacy start stop) "init" false isShorthand key.isComputedKey
  | _, .restProperty argument => fun start stop =>
      Estree.node legacy "RestElement" start stop
        [("argument", argument.toEstree legacy start stop)]

end Node

namespace Program

/-- The ESTree document of a script. -/
def toEstree (legacy : Bool) (program : Program) : Json :=
  Estree.node legacy "Program" program.start program.stop
    [("body", .array (program.body.toEstree legacy program.start program.stop)),
      ("sourceType", .text "script")]

/-- The text of the ESTree document of a script. -/
def exportText (options : ExportOptions) (program : Program) : String :=
  let document := program.toEstree options.legacyContainerSpans
  if options.pretty then document.indented else document.compact

end Program

end Ecmascript
