import Ecmascript.Printer.Tree
import Ecmascript.Proofs.Lexer.Lexeme
import Ecmascript.Parser.Expression

/-!
# Formulas

Expressions built from names and literals by operators, members, calls and sequences, in any shape.
The tokens with which a formula is printed are given by a function of their own, which sets
parentheses as printing does and leaves out the blanks.
-/

set_option autoImplicit false

namespace Ecmascript

/-! ## Lists of phrases -/

namespace Node

/-- The phrases of a list. -/
def items {item : Category} : Many item → List (Node item)
  | .nil => []
  | .cons head tail => head :: tail.items

@[simp]
theorem items_nil {item : Category} : (.nil : Many item).items = [] := by
  rw [items]

@[simp]
theorem items_cons {item : Category} (head : Node item) (tail : Many item) :
    (Node.cons head tail).items = head :: tail.items := by
  rw [items]

/-- Induction over a list of phrases. -/
@[elab_as_elim]
theorem listInduction {item : Category} {motive : Many item → Prop} (nil : motive .nil)
    (cons : ∀ head tail, motive tail → motive (.cons head tail)) : ∀ list, motive list
  | .nil => nil
  | .cons head tail => cons head tail (listInduction nil cons tail)

end Node

/-! ## The class of formulas -/

/-- A name of a property behind a dot: an identifier or a keyword. -/
def IsPropertyName (name : String) : Prop :=
  Lexer.ReadsAs name.toList (.identifier name) ∨ ∃ word : Keyword, name = word.spelling

/-- Expressions of names, literals, operators, members, calls and sequences. A name or literal is
one whose text is read as this token by itself. -/
inductive Formula : Located .expression → Prop
  | this {start stop : Nat} : Formula (.located start stop .thisExpression)
  | identifier {start stop : Nat} {name : String}
      (reads : Lexer.ReadsAs name.toList (.identifier name)) :
      Formula (.located start stop (.identifier name))
  | null {start stop : Nat} : Formula (.located start stop (.literal .null))
  | boolean {start stop : Nat} (value : Bool) :
      Formula (.located start stop (.literal (.boolean value)))
  | number {start stop : Nat} {raw : String} (reads : Lexer.ReadsAs raw.toList (.number raw)) :
      Formula (.located start stop (.literal (.number raw)))
  | string {start stop : Nat} {raw : String} (reads : Lexer.ReadsAs raw.toList (.string raw)) :
      Formula (.located start stop (.literal (.string raw)))
  | regex {start stop : Nat} {raw : String} (reads : Lexer.ReadsAs raw.toList (.regex raw)) :
      Formula (.located start stop (.literal (.regex raw)))
  | unary {start stop : Nat} (operator : UnaryOperator) {argument : Located .expression}
      (inner : Formula argument) :
      Formula (.located start stop (.unaryExpression operator argument))
  | binary {start stop : Nat} (operator : BinaryOperator) {left right : Located .expression}
      (first : Formula left) (second : Formula right) :
      Formula (.located start stop (.binaryExpression operator left right))
  | logical {start stop : Nat} (operator : LogicalOperator) {left right : Located .expression}
      (first : Formula left) (second : Formula right) :
      Formula (.located start stop (.logicalExpression operator left right))
  | conditional {start stop : Nat} {test consequent alternate : Located .expression}
      (first : Formula test) (second : Formula consequent) (third : Formula alternate) :
      Formula (.located start stop (.conditionalExpression test consequent alternate))
  | sequence {start stop : Nat} {expressions : Many (.located .expression)}
      (several : 2 ≤ expressions.items.length)
      (each : ∀ expression ∈ expressions.items, Formula expression) :
      Formula (.located start stop (.sequenceExpression expressions))
  | member {start stop wordStart wordStop : Nat} {object : Located .expression} {name : String}
      (inner : Formula object) (named : IsPropertyName name) :
      Formula (.located start stop
        (.memberExpression object (.located wordStart wordStop (.word name))))
  | computed {start stop : Nat} {object property : Located .expression}
      (first : Formula object) (second : Formula property) :
      Formula (.located start stop (.computedMember object property))
  | call {start stop : Nat} {callee : Located .expression}
      {arguments : Many (.located .expression)} (inner : Formula callee)
      (each : ∀ argument ∈ arguments.items, Formula argument) :
      Formula (.located start stop (.callExpression callee arguments))
  | new {start stop : Nat} {callee : Located .expression}
      {arguments : Many (.located .expression)} (inner : Formula callee)
      (each : ∀ argument ∈ arguments.items, Formula argument) :
      Formula (.located start stop (.newExpression callee arguments))

/-! ## The tokens of formulas -/

namespace LiteralValue

/-- The token of a literal value. -/
def kind : LiteralValue → TokenKind
  | null => .keyword .nullWord
  | boolean true => .keyword .trueWord
  | boolean false => .keyword .falseWord
  | number raw => .number raw
  | string raw => .string raw
  | regex raw => .regex raw

end LiteralValue

/-- The token of a unary operator. -/
def UnaryOperator.kind : UnaryOperator → TokenKind
  | minus => .punctuator .minus
  | plus => .punctuator .plus
  | not => .punctuator .bang
  | bitwiseNot => .punctuator .tilde
  | typeof => .keyword .typeofWord
  | void => .keyword .voidWord
  | delete => .keyword .deleteWord

/-- The token of a binary operator. -/
def BinaryOperator.kind : BinaryOperator → TokenKind
  | add => .punctuator .plus
  | subtract => .punctuator .minus
  | multiply => .punctuator .star
  | divide => .punctuator .slash
  | remainder => .punctuator .percent
  | power => .punctuator .power
  | less => .punctuator .less
  | lessEqual => .punctuator .lessEqual
  | greater => .punctuator .greater
  | greaterEqual => .punctuator .greaterEqual
  | equal => .punctuator .equal
  | notEqual => .punctuator .notEqual
  | strictEqual => .punctuator .strictEqual
  | strictNotEqual => .punctuator .strictNotEqual
  | leftShift => .punctuator .leftShift
  | rightShift => .punctuator .rightShift
  | unsignedRightShift => .punctuator .unsignedRightShift
  | bitwiseAnd => .punctuator .ampersand
  | bitwiseOr => .punctuator .pipe
  | bitwiseXor => .punctuator .caret
  | in' => .keyword .inWord
  | instanceof => .keyword .instanceofWord

/-- The level that the left operand of a binary operator has at least. -/
def BinaryOperator.leftLevel : BinaryOperator → Nat
  | power => Level.postfixUpdate
  | operator => operator.level

/-- The level that the right operand of a binary operator has at least. -/
def BinaryOperator.rightLevel : BinaryOperator → Nat
  | power => Level.power
  | operator => operator.level + 1

/-- The token of a logical operator. -/
def LogicalOperator.kind : LogicalOperator → TokenKind
  | and => .punctuator .logicalAnd
  | or => .punctuator .logicalOr
  | nullish => .punctuator .nullish

/-- Tokens in parentheses. -/
def inParens (kinds : List TokenKind) : List TokenKind :=
  .punctuator .leftParen :: (kinds ++ [.punctuator .rightParen])

/-- Tokens in parentheses, or others without. -/
def parensIf (condition : Bool) (inner bare : List TokenKind) : List TokenKind :=
  if condition then inParens inner else bare

namespace Node

/-- The tokens of a phrase where it must bind at least as tightly as a level. -/
def lexemes : {category : Category} → Node category → Nat → List TokenKind
  | _, .located _ _ item => fun minimum =>
      parensIf (item.level < minimum) (item.lexemes minimum) (item.lexemes minimum)
  | _, .cons head tail => fun minimum =>
      head.lexemes minimum ++
        if tail.isNil then [] else .punctuator .comma :: tail.lexemes minimum
  | _, .word name => fun _ => [Lexer.wordKind name.toList]
  | _, .thisExpression => fun _ => [.keyword .thisWord]
  | _, .identifier name => fun _ => [.identifier name]
  | _, .literal value => fun _ => [value.kind]
  | _, .unaryExpression operator argument => fun _ =>
      operator.kind :: argument.lexemes Level.unary
  | _, .binaryExpression operator left right => fun _ =>
      left.lexemes operator.leftLevel ++ operator.kind :: right.lexemes operator.rightLevel
  | _, .logicalExpression operator left right => fun _ =>
      parensIf (left.mixesWith operator) (left.lexemes Level.sequence)
        (left.lexemes operator.level) ++
      operator.kind :: parensIf (right.mixesWith operator) (right.lexemes Level.sequence)
        (right.lexemes (operator.level + 1))
  | _, .conditionalExpression test consequent alternate => fun _ =>
      test.lexemes Level.logicalOr ++ .punctuator .question ::
        (consequent.lexemes Level.assignment ++ .punctuator .colon ::
          alternate.lexemes Level.assignment)
  | _, .sequenceExpression expressions => fun _ => expressions.lexemes Level.assignment
  | _, .memberExpression object property => fun _ =>
      parensIf object.isNumber (object.lexemes Level.sequence) (object.lexemes Level.call) ++
      .punctuator .dot :: property.lexemes Level.sequence
  | _, .computedMember object property => fun _ =>
      parensIf object.isNumber (object.lexemes Level.sequence) (object.lexemes Level.call) ++
      .punctuator .leftBracket :: (property.lexemes Level.sequence ++ [.punctuator .rightBracket])
  | _, .callExpression callee arguments => fun _ =>
      callee.lexemes Level.call ++ inParens (arguments.lexemes Level.assignment)
  | _, .newExpression callee arguments => fun _ =>
      .keyword .newWord ::
        (parensIf callee.containsCall (callee.lexemes Level.call) (callee.lexemes Level.call) ++
        inParens (arguments.lexemes Level.assignment))
  | _, _ => fun _ => []

end Node

end Ecmascript
