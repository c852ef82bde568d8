import Ecmascript.Tree.Basic

/-!
# Levels of binding

How tightly an expression binds decides where it needs parentheses, and what it begins with decides
whether a statement can begin with it.
-/

set_option autoImplicit false

namespace Ecmascript

/-! ## Levels, the loosest first -/

namespace Level

/-- Expressions with commas between them. -/
def sequence : Nat := 1

/-- Assignments, arrow functions and `yield`. -/
def assignment : Nat := 2

/-- Conditional expressions. -/
def conditional : Nat := 3

/-- The loosest logical operators. -/
def logicalOr : Nat := 4

/-- Powers. -/
def power : Nat := 14

/-- Unary operators. -/
def unary : Nat := 15

/-- Update operators behind their operand. -/
def postfixUpdate : Nat := 16

/-- Calls and members. -/
def call : Nat := 17

/-- Expressions that nothing divides. -/
def primary : Nat := 18

end Level

/-- The level of a binary operator. -/
def BinaryOperator.level : BinaryOperator → Nat
  | bitwiseOr => 6
  | bitwiseXor => 7
  | bitwiseAnd => 8
  | equal | notEqual | strictEqual | strictNotEqual => 9
  | less | lessEqual | greater | greaterEqual | in' | instanceof => 10
  | leftShift | rightShift | unsignedRightShift => 11
  | add | subtract => 12
  | multiply | divide | remainder => 13
  | power => Level.power

/-- The level of a logical operator. -/
def LogicalOperator.level : LogicalOperator → Nat
  | and => 5
  | or | nullish => Level.logicalOr

namespace Node

/-- The level of an expression. Other phrases bind as tightly as possible. -/
def level : {category : Category} → Node category → Nat
  | _, .sequenceExpression _ => Level.sequence
  | _, .assignmentExpression _ _ _ => Level.assignment
  | _, .arrowFunction _ _ _ => Level.assignment
  | _, .yieldExpression _ _ => Level.assignment
  | _, .spreadExpression _ => Level.assignment
  | _, .conditionalExpression _ _ _ => Level.conditional
  | _, .logicalExpression operator _ _ => operator.level
  | _, .binaryExpression operator _ _ => operator.level
  | _, .unaryExpression _ _ => Level.unary
  | _, .awaitExpression _ => Level.unary
  | _, .updateExpression _ true _ => Level.unary
  | _, .updateExpression _ false _ => Level.postfixUpdate
  | _, .callExpression _ _ => Level.call
  | _, .newExpression _ _ => Level.call
  | _, .memberExpression _ _ => Level.call
  | _, .computedMember _ _ => Level.call
  | _, .taggedTemplate _ _ => Level.call
  | _, _ => Level.primary

/-- Whether an expression is an application of the operator `in`. -/
def isInOperator : {category : Category} → Node category → Bool
  | _, .binaryExpression .in' _ _ => true
  | _, _ => false

/-- Whether a phrase begins like a block, a function or a class, so that it cannot begin a
statement or the body of an arrow function. -/
def opensDeclaration : {category : Category} → Node category → Bool
  | _, .located _ _ item => item.opensDeclaration
  | _, .cons head _ => head.opensDeclaration
  | _, .objectExpression _ => true
  | _, .functionExpression _ => true
  | _, .classExpression _ => true
  | _, .memberExpression object _ => object.opensDeclaration
  | _, .computedMember object _ => object.opensDeclaration
  | _, .callExpression callee _ => callee.opensDeclaration
  | _, .taggedTemplate tag _ => tag.opensDeclaration
  | _, .binaryExpression _ left _ => left.opensDeclaration
  | _, .logicalExpression _ left _ => left.opensDeclaration
  | _, .conditionalExpression test _ _ => test.opensDeclaration
  | _, .sequenceExpression expressions => expressions.opensDeclaration
  | _, .updateExpression _ false argument => argument.opensDeclaration
  | _, .assignmentExpression _ left _ => left.opensDeclaration
  | _, .objectPattern _ => true
  | _, .expressionPattern expression => expression.opensDeclaration
  | _, _ => false

/-- Whether a phrase has a call in the chain of its members, so that it cannot be the callee of
`new`. -/
def containsCall : {category : Category} → Node category → Bool
  | _, .located _ _ item => item.containsCall
  | _, .callExpression _ _ => true
  | _, .memberExpression object _ => object.containsCall
  | _, .computedMember object _ => object.containsCall
  | _, .taggedTemplate tag _ => tag.containsCall
  | _, _ => false

/-- Whether a logical operand mixes with a logical operator around it, one of the two being the
nullish operator and the other not. -/
def mixesWith (operator : LogicalOperator) : Located .expression → Bool
  | .located _ _ (.logicalExpression inner _ _) =>
      decide (operator = .nullish) != decide (inner = .nullish)
  | _ => false

/-- Whether an expression is a number. A dot behind its digits would belong to them. -/
def isNumber : Located .expression → Bool
  | .located _ _ (.literal (.number _)) => true
  | _ => false

/-- Whether a phrase is an empty list. -/
def isNil : {category : Category} → Node category → Bool
  | _, .nil => true
  | _, _ => false

/-- Whether a phrase is an absent one. -/
def isAbsent : {category : Category} → Node category → Bool
  | _, .none => true
  | _, _ => false

/-- Whether the last item of a list is a hole. -/
def endsWithHole : {category : Category} → Node category → Bool
  | _, .cons head tail => if tail.isNil then head.isAbsent else tail.endsWithHole
  | _, _ => false

/-- The raw texts of the words of a list. -/
def rawTexts : {category : Category} → Node category → List String
  | _, .cons head tail => head.rawTexts ++ tail.rawTexts
  | _, .located _ _ item => item.rawTexts
  | _, .word raw => [raw]
  | _, _ => []

end Node

end Ecmascript
