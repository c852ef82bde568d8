import Ecmascript.Tree.Operator

/-!
# Syntax trees

One family holds all syntax trees: `Node category` is the type of phrases of a syntactic category,
such as statements, expressions or patterns. Lists, optional phrases and phrases with a position
are categories too, so that a function on trees is one recursion and a proof about trees one
induction.

A position is a pair of byte offsets and belongs to a `located` node; no other constructor holds
offsets. Parentheses leave no trace in a tree.
-/

set_option autoImplicit false

namespace Ecmascript

/-- Syntactic categories. `word` is a bare word or a raw chunk of template text. -/
inductive Category where
  | statement | declarator | loopHead | block | handler | switchCase
  | function | classDefinition | member | key
  | expression | template | arrowBody | property
  | pattern | patternProperty | word
  | list (item : Category)
  | option (item : Category)
  | located (item : Category)
  deriving DecidableEq

open Category in
/-- Phrases of a category. -/
inductive Node : Category → Type where
  | nil {item : Category} : Node (list item)
  | cons {item : Category} (head : Node item) (tail : Node (list item)) : Node (list item)
  | none {item : Category} : Node (option item)
  | some {item : Category} (value : Node item) : Node (option item)
  | located {category : Category} (start stop : Nat) (item : Node category) :
      Node (located category)
  | word (raw : String) : Node word
  | emptyStatement : Node statement
  | debuggerStatement : Node statement
  | expressionStatement (expression : Node (located expression)) : Node statement
  | variableStatement (kind : VariableKind) (declarators : Node (list (located declarator)))
      : Node statement
  | functionDeclaration (definition : Node function) : Node statement
  | classDeclaration (definition : Node classDefinition) : Node statement
  | returnStatement (value : Node (option (located expression))) : Node statement
  | breakStatement (label : Node (option (located word))) : Node statement
  | continueStatement (label : Node (option (located word))) : Node statement
  | throwStatement (value : Node (located expression)) : Node statement
  | ifStatement (test : Node (located expression)) (consequent : Node (located statement))
      (alternate : Node (option (located statement))) : Node statement
  | whileStatement (test : Node (located expression)) (body : Node (located statement))
      : Node statement
  | doStatement (body : Node (located statement)) (test : Node (located expression))
      : Node statement
  | forStatement (head : Node (option (located loopHead)))
      (test update : Node (option (located expression))) (body : Node (located statement))
      : Node statement
  | forInStatement (left : Node (located loopHead)) (right : Node (located expression))
      (body : Node (located statement)) : Node statement
  | forOfStatement (left : Node (located loopHead)) (right : Node (located expression))
      (body : Node (located statement)) : Node statement
  | switchStatement (discriminant : Node (located expression))
      (cases : Node (list (located switchCase))) : Node statement
  | tryStatement (body : Node (located block)) (clause : Node (option (located handler)))
      (finalizer : Node (option (located block))) : Node statement
  | blockStatement (body : Node (list (located statement))) : Node statement
  | labeledStatement (label : Node (located word)) (body : Node (located statement))
      : Node statement
  | declarator (id : Node (located pattern)) (value : Node (option (located expression)))
      : Node declarator
  | declarationHead (kind : VariableKind) (declarators : Node (list (located declarator)))
      : Node loopHead
  | expressionHead (expression : Node expression) : Node loopHead
  | patternHead (pattern : Node pattern) : Node loopHead
  | block (body : Node (list (located statement))) : Node block
  | handler (parameter : Node (option (located pattern))) (body : Node (located block))
      : Node handler
  | switchCase (test : Node (option (located expression)))
      (consequent : Node (list (located statement))) : Node switchCase
  | function (name : Node (option (located word))) (isGenerator isAsync : Bool)
      (parameters : Node (list (located pattern))) (body : Node (located block)) : Node function
  | classDefinition (name : Node (option (located word)))
      (parent : Node (option (located expression)))
      (body : Node (located (list (located member)))) : Node classDefinition
  | methodMember (isStatic : Bool) (key : Node (located key)) (kind : MethodKind)
      (value : Node (located function)) : Node member
  | fieldMember (isStatic : Bool) (key : Node (located key))
      (value : Node (option (located expression))) : Node member
  | nameKey (name : String) : Node key
  | literalKey (value : LiteralValue) : Node key
  | computedKey (expression : Node (located expression)) : Node key
  | thisExpression : Node expression
  | superExpression : Node expression
  | identifier (name : String) : Node expression
  | literal (value : LiteralValue) : Node expression
  | templateExpression (content : Node template) : Node expression
  | taggedTemplate (tag : Node (located expression)) (quasi : Node (located template))
      : Node expression
  | arrayExpression (elements : Node (list (option (located expression)))) : Node expression
  | objectExpression (properties : Node (list (located property))) : Node expression
  | memberExpression (object : Node (located expression)) (property : Node (located word))
      : Node expression
  | computedMember (object property : Node (located expression)) : Node expression
  | callExpression (callee : Node (located expression))
      (arguments : Node (list (located expression))) : Node expression
  | newExpression (callee : Node (located expression))
      (arguments : Node (list (located expression))) : Node expression
  | unaryExpression (operator : UnaryOperator) (argument : Node (located expression))
      : Node expression
  | updateExpression (operator : UpdateOperator) (isPrefix : Bool)
      (argument : Node (located expression)) : Node expression
  | binaryExpression (operator : BinaryOperator) (left right : Node (located expression))
      : Node expression
  | logicalExpression (operator : LogicalOperator) (left right : Node (located expression))
      : Node expression
  | assignmentExpression (operator : AssignmentOperator) (left : Node (located pattern))
      (right : Node (located expression)) : Node expression
  | conditionalExpression (test consequent alternate : Node (located expression))
      : Node expression
  | sequenceExpression (expressions : Node (list (located expression))) : Node expression
  | spreadExpression (argument : Node (located expression)) : Node expression
  | arrowFunction (isAsync : Bool) (parameters : Node (list (located pattern)))
      (body : Node arrowBody) : Node expression
  | functionExpression (definition : Node function) : Node expression
  | classExpression (definition : Node classDefinition) : Node expression
  | yieldExpression (argument : Node (option (located expression))) (isDelegate : Bool)
      : Node expression
  | awaitExpression (argument : Node (located expression)) : Node expression
  | template (chunks : Node (list (located word)))
      (expressions : Node (list (located expression))) : Node template
  | expressionBody (expression : Node (located expression)) : Node arrowBody
  | blockBody (body : Node (located block)) : Node arrowBody
  | shorthandProperty (name : String) : Node property
  | valueProperty (key : Node (located key)) (value : Node (located expression)) : Node property
  | methodProperty (key : Node (located key)) (kind : MethodKind)
      (value : Node (located function)) : Node property
  | spreadProperty (argument : Node (located expression)) : Node property
  | bindingIdentifier (name : String) : Node pattern
  | expressionPattern (expression : Node expression) : Node pattern
  | arrayPattern (elements : Node (list (option (located pattern)))) : Node pattern
  | objectPattern (properties : Node (list (located patternProperty))) : Node pattern
  | defaultPattern (left : Node (located pattern)) (right : Node (located expression))
      : Node pattern
  | restPattern (argument : Node (located pattern)) : Node pattern
  | bindingProperty (key : Node (located key)) (value : Node (located pattern))
      (isShorthand : Bool) : Node patternProperty
  | restProperty (argument : Node (located pattern)) : Node patternProperty
  deriving DecidableEq

/-- Phrases with a position. -/
abbrev Located (category : Category) := Node (.located category)

/-- Lists of phrases. -/
abbrev Many (category : Category) := Node (.list category)

/-- Phrases that may be absent. -/
abbrev Optional (category : Category) := Node (.option category)

namespace Node

/-- The list of phrases with one item. -/
def single {category : Category} (item : Node category) : Many category :=
  .cons item .nil

/-- The number of phrases of a list. -/
def count : {category : Category} → Node category → Nat
  | _, .cons _ tail => tail.count + 1
  | _, _ => 0

/-- Where a located phrase begins. -/
def start {category : Category} : Located category → Nat
  | .located start _ _ => start

/-- Where a located phrase ends. -/
def stop {category : Category} : Located category → Nat
  | .located _ stop _ => stop

/-- The phrase without its position. -/
def item {category : Category} : Located category → Node category
  | .located _ _ item => item

end Node

/-- A script: a list of statements, and the offsets of the text that holds it. -/
structure Program where
  start : Nat
  stop : Nat
  body : Many (.located .statement)
  deriving DecidableEq

end Ecmascript
