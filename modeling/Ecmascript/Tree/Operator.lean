/-!
# Operators and small kinds

The enumerations that label syntax trees, with their spellings in source text.
-/

set_option autoImplicit false

namespace Ecmascript

/-- The kinds of variable declarations. -/
inductive VariableKind where
  | var | let' | const
  deriving DecidableEq

/-- How a variable kind is written. -/
def VariableKind.spelling : VariableKind → String
  | var => "var"
  | let' => "let"
  | const => "const"

/-- The kinds of methods in classes and object literals. -/
inductive MethodKind where
  | constructor | method | get | set
  deriving DecidableEq

/-- Operators in front of an operand. -/
inductive UnaryOperator where
  | minus | plus | not | bitwiseNot | typeof | void | delete
  deriving DecidableEq

/-- How a unary operator is written. -/
def UnaryOperator.spelling : UnaryOperator → String
  | minus => "-"
  | plus => "+"
  | not => "!"
  | bitwiseNot => "~"
  | typeof => "typeof"
  | void => "void"
  | delete => "delete"

/-- Increment and decrement. -/
inductive UpdateOperator where
  | increment | decrement
  deriving DecidableEq

/-- How an update operator is written. -/
def UpdateOperator.spelling : UpdateOperator → String
  | increment => "++"
  | decrement => "--"

/-- Binary operators that evaluate both operands. -/
inductive BinaryOperator where
  | add | subtract | multiply | divide | remainder | power | less | lessEqual | greater
  | greaterEqual | equal | notEqual | strictEqual | strictNotEqual | leftShift | rightShift
  | unsignedRightShift | bitwiseAnd | bitwiseOr | bitwiseXor | in' | instanceof
  deriving DecidableEq

/-- How a binary operator is written. -/
def BinaryOperator.spelling : BinaryOperator → String
  | add => "+"
  | subtract => "-"
  | multiply => "*"
  | divide => "/"
  | remainder => "%"
  | power => "**"
  | less => "<"
  | lessEqual => "<="
  | greater => ">"
  | greaterEqual => ">="
  | equal => "=="
  | notEqual => "!="
  | strictEqual => "==="
  | strictNotEqual => "!=="
  | leftShift => "<<"
  | rightShift => ">>"
  | unsignedRightShift => ">>>"
  | bitwiseAnd => "&"
  | bitwiseOr => "|"
  | bitwiseXor => "^"
  | in' => "in"
  | instanceof => "instanceof"

/-- Binary operators that may leave their right operand unevaluated. -/
inductive LogicalOperator where
  | and | or | nullish
  deriving DecidableEq

/-- How a logical operator is written. -/
def LogicalOperator.spelling : LogicalOperator → String
  | and => "&&"
  | or => "||"
  | nullish => "??"

/-- Assignment, plain or combined with a binary or logical operator. -/
inductive AssignmentOperator where
  | assign | add | subtract | multiply | divide | remainder | power | leftShift | rightShift
  | unsignedRightShift | bitwiseAnd | bitwiseOr | bitwiseXor | and | or | nullish
  deriving DecidableEq

/-- How an assignment operator is written. -/
def AssignmentOperator.spelling : AssignmentOperator → String
  | assign => "="
  | add => "+="
  | subtract => "-="
  | multiply => "*="
  | divide => "/="
  | remainder => "%="
  | power => "**="
  | leftShift => "<<="
  | rightShift => ">>="
  | unsignedRightShift => ">>>="
  | bitwiseAnd => "&="
  | bitwiseOr => "|="
  | bitwiseXor => "^="
  | and => "&&="
  | or => "||="
  | nullish => "??="

/-- A literal value. Numbers, strings and regular expressions keep their source text, strings with
their quotes and regular expressions with slashes and flags. -/
inductive LiteralValue where
  | null
  | boolean (value : Bool)
  | number (raw : String)
  | string (raw : String)
  | regex (raw : String)
  deriving DecidableEq

end Ecmascript
