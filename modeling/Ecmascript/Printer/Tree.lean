import Ecmascript.Printer.Level
import Ecmascript.Printer.Writer

/-!
# Printing trees

A tree is printed as source text. Parentheses follow from how tightly expressions bind, and from
where an expression would be taken for something else; nothing about the layout of the source is
remembered. Reading printed text gives the tree back in most cases, though not in all.
-/

set_option autoImplicit false

namespace Ecmascript

open Print

/-- Where a phrase is printed: where an expression must bind at least as tightly as a level, or in
the holes of a template, with the chunks of text that stand behind the holes. -/
inductive Place where
  | operand (minimum : Nat)
  | holes (chunks : List String)

namespace Place

/-- Any expression may stand here. -/
def sequence : Place := .operand Level.sequence

/-- Any expression without a comma of its own may stand here. -/
def assignment : Place := .operand Level.assignment

/-- Calls, members and tighter expressions may stand here. -/
def call : Place := .operand Level.call

/-- The chunks of text that are left when there is no further hole. -/
def leftover : Place → Print
  | .operand _ => nothing
  | .holes chunks => all (chunks.map raw)

end Place

/-- What stands between the items of a list: line breaks for statements, clauses and members, and
commas otherwise. -/
def Category.separator : Category → Print
  | .located .statement => newline
  | .located .switchCase => newline
  | .located .member => newline
  | _ => comma

namespace Node

/-- Encloses a phrase in parentheses where its place asks for them. -/
def enclose {category : Category} (node : Node category) (place : Place) (piece : Print) :
    Print :=
  fun writer =>
    match place with
    | .holes _ => piece writer
    | .operand minimum =>
        if node.level < minimum || (writer.noIn && node.isInOperator) then
          parenthesized piece writer
        else piece writer

/-- Whether a statement is a block. -/
def isBlock : Located .statement → Bool
  | .located _ _ (.blockStatement _) => true
  | _ => false

/-- Whether a statement is empty. -/
def isEmpty : Located .statement → Bool
  | .located _ _ .emptyStatement => true
  | _ => false

/-- Whether a statement is an `if` statement. -/
def isIf : Located .statement → Bool
  | .located _ _ (.ifStatement _ _ _) => true
  | _ => false

end Node

namespace Print

/-- An expression in the head of a statement. -/
def condition (test : Print) : Print :=
  all [space, token "(", test, token ")"]

/-- The body of a compound statement: a block on the same line, an empty statement at once, and any
other on a line of its own. -/
def body (statement : Located .statement) (piece : Print) : Print :=
  if statement.isBlock then all [space, piece]
  else if statement.isEmpty then piece
  else indented (all [newline, piece])

/-- The other branch of an `if` statement. -/
def otherwise (consequent alternate : Located .statement) (piece : Print) : Print :=
  all [
    if consequent.isBlock then space else newline,
    token "else",
    if alternate.isIf then all [space, piece] else body alternate piece]

/-- A jump with its label. -/
def jump (word : String) (label : Print) : Print :=
  all [token word, label, token ";"]

/-- A literal value. -/
def literal : LiteralValue → Print
  | .null => token "null"
  | .boolean true => token "true"
  | .boolean false => token "false"
  | .number text => token text
  | .string text => token text
  | .regex text => regex text

/-- The word in front of an accessor. -/
def accessor : MethodKind → Print
  | .get => all [token "get", raw " "]
  | .set => all [token "set", raw " "]
  | .method => nothing
  | .constructor => nothing

/-- What stands in front of the key of a method. -/
def modifiers (kind : MethodKind) (isAsync isGenerator : Bool) : Print :=
  all [accessor kind, when isAsync (all [token "async", raw " "]), when isGenerator (token "*")]

/-- The word in front of a static member. -/
def staticWord (isStatic : Bool) : Print :=
  when isStatic (all [token "static", raw " "])

/-- Parameters and the body of a function. -/
def functionRest (parameters body : Print) : Print :=
  all [token "(", parameters, token ")", space, body]

/-- Items between braces on one line. -/
def inlineBraces (isEmpty : Bool) (items : Print) : Print :=
  if isEmpty then all [token "\x7b", token "\x7d"]
  else all [token "\x7b", space, items, space, token "\x7d"]

/-- Items between brackets. A hole at the end needs a comma of its own. -/
def brackets (endsWithHole : Bool) (items : Print) : Print :=
  all [token "[", items, when endsWithHole (token ","), token "]"]

/-- A unary operator. A word is set apart from its operand in the pretty style. -/
def unary (operator : UnaryOperator) : Print :=
  match operator with
  | .typeof | .void | .delete => all [token operator.spelling, space]
  | _ => token operator.spelling

/-- An operand of a logical operator, which has parentheses if it mixes with it. -/
def logicalOperand (operator : LogicalOperator) (operand : Located .expression)
    (piece : Place → Print) (minimum : Nat) : Print :=
  if operand.mixesWith operator then parenthesized (piece .sequence)
  else piece (.operand minimum)

/-- The object of a member, which has parentheses if it is a number. -/
def memberObject (object : Located .expression) (piece : Place → Print) : Print :=
  if object.isNumber then parenthesized (piece .sequence) else piece .call

/-- The callee of `new`, which has parentheses if it contains a call. -/
def newCallee (callee : Located .expression) (piece : Print) : Print :=
  if callee.containsCall then parenthesized piece else piece

/-- An expression that begins a statement or the body of an arrow function, which has parentheses
if it begins like a declaration. -/
def opening (expression : Located .expression) (piece : Print) : Print :=
  if expression.opensDeclaration then parenthesized piece else piece

/-- A hole of a template. -/
def hole (piece : Print) : Print :=
  all [raw "$\x7b", allowingIn piece, raw "\x7d"]

end Print

namespace Node

/-- Prints a phrase. A list is printed with its separators, or hole by hole. -/
def print : {category : Category} → Node category → Place → Print
  | _, .nil => fun place => place.leftover
  | .list item, .cons head tail => fun place =>
      match place with
      | .operand minimum =>
          all [head.print (.operand minimum), when (!tail.isNil) item.separator,
            tail.print (.operand minimum)]
      | .holes [] => hole (head.print .sequence)
      | .holes (chunk :: chunks) =>
          all [hole (head.print .sequence), raw chunk, tail.print (.holes chunks)]
  | _, .none => fun _ => nothing
  | _, .some value => fun place => value.print place
  | _, .located _ _ item => fun place => item.enclose place (item.print place)
  | _, .word text => fun _ => token text
  -- statements
  | _, .emptyStatement => fun _ => token ";"
  | _, .debuggerStatement => fun _ => token "debugger;"
  | _, .expressionStatement expression => fun _ =>
      all [opening expression (expression.print .sequence), token ";"]
  | _, .variableStatement kind declarators => fun _ =>
      all [token kind.spelling, raw " ", declarators.print .assignment, token ";"]
  | _, .functionDeclaration definition => fun _ => definition.print .sequence
  | _, .classDeclaration definition => fun _ => definition.print .sequence
  | _, .returnStatement .none => fun _ => all [token "return", token ";"]
  | _, .returnStatement (.some value) => fun _ =>
      all [token "return", space, value.print .sequence, token ";"]
  | _, .breakStatement .none => fun _ => jump "break" nothing
  | _, .breakStatement (.some label) => fun _ =>
      jump "break" (all [raw " ", label.print .sequence])
  | _, .continueStatement .none => fun _ => jump "continue" nothing
  | _, .continueStatement (.some label) => fun _ =>
      jump "continue" (all [raw " ", label.print .sequence])
  | _, .throwStatement value => fun _ =>
      all [token "throw", space, value.print .sequence, token ";"]
  | _, .ifStatement test consequent .none => fun _ =>
      all [token "if", condition (test.print .sequence),
        body consequent (consequent.print .sequence)]
  | _, .ifStatement test consequent (.some alternate) => fun _ =>
      all [token "if", condition (test.print .sequence),
        body consequent (consequent.print .sequence),
        otherwise consequent alternate (alternate.print .sequence)]
  | _, .whileStatement test statement => fun _ =>
      all [token "while", condition (test.print .sequence),
        body statement (statement.print .sequence)]
  | _, .doStatement statement test => fun _ =>
      all [token "do", body statement (statement.print .sequence), space, token "while",
        condition (test.print .sequence), token ";"]
  | _, .forStatement head test update statement => fun _ =>
      all [token "for", space, token "(",
        when (!head.isAbsent) (loopHead (head.print .sequence)), token ";",
        when (!test.isAbsent) (all [space, test.print .sequence]), token ";",
        when (!update.isAbsent) (all [space, update.print .sequence]), token ")",
        body statement (statement.print .sequence)]
  | _, .forInStatement left right statement => fun _ =>
      all [token "for", space, token "(", left.print .sequence, token " in", space,
        right.print .sequence, token ")", body statement (statement.print .sequence)]
  | _, .forOfStatement left right statement => fun _ =>
      all [token "for", space, token "(", left.print .sequence, token " of", space,
        right.print .assignment, token ")", body statement (statement.print .sequence)]
  | _, .switchStatement discriminant cases => fun _ =>
      all [token "switch", condition (discriminant.print .sequence), space,
        braces cases.isNil (cases.print .sequence)]
  | _, .tryStatement content clause finalizer => fun _ =>
      all [token "try", space, content.print .sequence, clause.print .sequence,
        when (!finalizer.isAbsent) (all [space, token "finally", space, finalizer.print .sequence])]
  | _, .blockStatement statements => fun _ =>
      braces statements.isNil (statements.print .sequence)
  | _, .labeledStatement label statement => fun _ =>
      all [label.print .sequence, token ":", space, statement.print .sequence]
  -- parts of statements
  | _, .declarator id .none => fun _ => id.print .sequence
  | _, .declarator id (.some value) => fun _ =>
      all [id.print .sequence, operator "=", value.print .assignment]
  | _, .declarationHead kind declarators => fun _ =>
      all [token kind.spelling, raw " ", declarators.print .assignment]
  | _, .expressionHead expression => fun _ =>
      expression.enclose .sequence (expression.print .sequence)
  | _, .patternHead pattern => fun _ => pattern.print .sequence
  | _, .block statements => fun _ => braces statements.isNil (statements.print .sequence)
  | _, .handler .none content => fun _ =>
      all [space, token "catch", space, content.print .sequence]
  | _, .handler (.some parameter) content => fun _ =>
      all [space, token "catch", space, token "(", parameter.print .sequence, token ")", space,
        content.print .sequence]
  | _, .switchCase test consequent => fun _ =>
      all [
        if test.isAbsent then token "default"
        else all [token "case", space, test.print .sequence],
        token ":",
        indented (when (!consequent.isNil) (all [newline, consequent.print .sequence]))]
  -- functions and classes
  | _, .function name isGenerator isAsync parameters content => fun _ =>
      all [when isAsync (token "async"), token "function", when isGenerator (token "*"),
        when (isGenerator || name.isAbsent) space, name.print .sequence,
        functionRest (parameters.print .assignment) (content.print .sequence)]
  | _, .classDefinition name parent (.located _ _ members) => fun _ =>
      all [token "class", name.print .sequence,
        when (!parent.isAbsent) (all [token "extends", raw " ", parent.print .call]),
        space, braces members.isNil (members.print .sequence)]
  | _, .methodMember isStatic key kind (.located _ _ (.function _ isGenerator isAsync parameters
      content)) => fun _ =>
      all [staticWord isStatic, modifiers kind isAsync isGenerator, key.print .sequence,
        functionRest (parameters.print .assignment) (content.print .sequence)]
  | _, .fieldMember isStatic key value => fun _ =>
      all [staticWord isStatic, key.print .sequence,
        when (!value.isAbsent) (all [operator "=", value.print .assignment]), token ";"]
  | _, .nameKey name => fun _ => token name
  | _, .literalKey value => fun _ => Print.literal value
  | _, .computedKey expression => fun _ =>
      all [token "[", expression.print .assignment, token "]"]
  -- expressions
  | _, .thisExpression => fun _ => token "this"
  | _, .superExpression => fun _ => token "super"
  | _, .identifier name => fun _ => token name
  | _, .literal value => fun _ => Print.literal value
  | _, .templateExpression content => fun _ => content.print .sequence
  | _, .taggedTemplate tag quasi => fun _ => all [tag.print .call, quasi.print .sequence]
  | _, .arrayExpression elements => fun _ =>
      brackets elements.endsWithHole (elements.print .assignment)
  | _, .objectExpression properties => fun _ =>
      inlineBraces properties.isNil (properties.print .assignment)
  | _, .memberExpression object property => fun _ =>
      all [memberObject object object.print, token ".", property.print .sequence]
  | _, .computedMember object property => fun _ =>
      all [memberObject object object.print, token "[", property.print .sequence, token "]"]
  | _, .callExpression callee arguments => fun _ =>
      all [callee.print .call, token "(", arguments.print .assignment, token ")"]
  | _, .newExpression callee arguments => fun _ =>
      all [token "new", raw " ", newCallee callee (callee.print .call), token "(",
        arguments.print .assignment, token ")"]
  | _, .unaryExpression operator argument => fun _ =>
      all [Print.unary operator, argument.print (.operand Level.unary)]
  | _, .updateExpression operator true argument => fun _ =>
      all [token operator.spelling, argument.print (.operand Level.postfixUpdate)]
  | _, .updateExpression operator false argument => fun _ =>
      all [argument.print .call, token operator.spelling]
  | _, .binaryExpression .power left right => fun _ =>
      all [left.print (.operand Level.postfixUpdate), operator "**",
        right.print (.operand Level.power)]
  | _, .binaryExpression op left right => fun _ =>
      all [left.print (.operand op.level), operator op.spelling,
        right.print (.operand (op.level + 1))]
  | _, .logicalExpression op left right => fun _ =>
      all [logicalOperand op left left.print op.level, operator op.spelling,
        logicalOperand op right right.print (op.level + 1)]
  | _, .assignmentExpression op left right => fun _ =>
      all [left.print .sequence, operator op.spelling, right.print .assignment]
  | _, .conditionalExpression test consequent alternate => fun _ =>
      all [test.print (.operand Level.logicalOr), operator "?", consequent.print .assignment,
        operator ":", alternate.print .assignment]
  | _, .sequenceExpression expressions => fun _ => expressions.print .assignment
  | _, .spreadExpression argument => fun _ => all [token "...", argument.print .assignment]
  | _, .arrowFunction isAsync parameters body => fun _ =>
      all [when isAsync (all [token "async", space]), token "(", parameters.print .assignment,
        token ")", operator "=>", body.print .sequence]
  | _, .functionExpression definition => fun _ => definition.print .sequence
  | _, .classExpression definition => fun _ => definition.print .sequence
  | _, .yieldExpression argument isDelegate => fun _ =>
      all [token "yield", when isDelegate (token "*"),
        when (!argument.isAbsent) (all [space, argument.print .assignment])]
  | _, .awaitExpression argument => fun _ =>
      all [token "await", space, argument.print (.operand Level.unary)]
  -- parts of expressions
  | _, .template chunks expressions => fun _ =>
      match chunks.rawTexts with
      | [] => all [raw "`", raw "`"]
      | chunk :: chunks => all [raw "`", raw chunk, expressions.print (.holes chunks), raw "`"]
  | _, .expressionBody expression => fun _ => opening expression (expression.print .assignment)
  | _, .blockBody content => fun _ => content.print .sequence
  | _, .shorthandProperty name => fun _ => token name
  | _, .valueProperty key value => fun _ =>
      all [key.print .sequence, token ":", space, value.print .assignment]
  | _, .methodProperty key kind (.located _ _ (.function _ isGenerator isAsync parameters
      content)) => fun _ =>
      all [modifiers kind isAsync isGenerator, key.print .sequence,
        functionRest (parameters.print .assignment) (content.print .sequence)]
  | _, .spreadProperty argument => fun _ => all [token "...", argument.print .assignment]
  -- patterns
  | _, .bindingIdentifier name => fun _ => token name
  | _, .expressionPattern expression => fun _ =>
      expression.enclose .call (expression.print .sequence)
  | _, .arrayPattern elements => fun _ =>
      brackets elements.endsWithHole (elements.print .assignment)
  | _, .objectPattern properties => fun _ =>
      inlineBraces properties.isNil (properties.print .assignment)
  | _, .defaultPattern left right => fun _ =>
      all [left.print .sequence, operator "=", right.print .assignment]
  | _, .restPattern argument => fun _ => all [token "...", argument.print .sequence]
  | _, .bindingProperty _ value true => fun _ => value.print .sequence
  | _, .bindingProperty key value false => fun _ =>
      all [key.print .sequence, token ":", space, value.print .sequence]
  | _, .restProperty argument => fun _ => all [token "...", argument.print .sequence]

end Node

/-- The source text of a script in a style. -/
def Program.print (style : Style) (program : Program) : String :=
  String.ofList (program.body.print .sequence (Writer.empty style)).text

end Ecmascript
