import Ecmascript.Proofs.Operators.Adjacent

/-!
# Reading formulas from tokens

The grammar of formulas as a relation between tokens and trees. Each rule is a step of the parser
that concerns formulas, and a rule ends where the next token tells the parser to stop.
-/

set_option autoImplicit false

namespace Ecmascript

/-- What is read from tokens. The rest of a chain of operators or members carries what has been
read before it. -/
inductive Reading : Category → Type
  | expression : Reading (.located .expression)
  | moreExpressions : Reading (.list (.located .expression))
  | assignment : Reading (.located .expression)
  | binary (minimum : Nat) : Reading (.located .expression)
  | binaryRest (minimum : Nat) (left : Located .expression) : Reading (.located .expression)
  | power : Reading (.located .expression)
  | unary : Reading (.located .expression)
  | leftHandSide : Reading (.located .expression)
  | head : Reading (.located .expression)
  | memberRest (object : Located .expression) (allowCall : Bool) :
      Reading (.located .expression)
  | newExpression : Reading (.located .expression)
  | callArguments : Reading (.list (.located .expression))
  | arguments : Reading (.list (.located .expression))

/-- Reading takes a tree from the tokens in front and leaves the rest. -/
inductive Reads : {category : Category} → Reading category → List TokenKind → Node category →
    List TokenKind → Prop
  | single {kinds rest : List TokenKind} {kind : TokenKind} {first : Located .expression}
      (reads : Reads .assignment kinds first (kind :: rest))
      (ends : kind ≠ .punctuator .comma) :
      Reads .expression kinds first (kind :: rest)
  | sequence {kinds more rest : List TokenKind} {start stop : Nat} {first : Located .expression}
      {others : Many (.located .expression)}
      (reads : Reads .assignment kinds first (.punctuator .comma :: more))
      (follows : Reads .moreExpressions (.punctuator .comma :: more) others rest) :
      Reads .expression kinds (.located start stop (.sequenceExpression (.cons first others))) rest
  | noMore {rest : List TokenKind} {kind : TokenKind} (ends : kind ≠ .punctuator .comma) :
      Reads .moreExpressions (kind :: rest) .nil (kind :: rest)
  | more {kinds between rest : List TokenKind} {next : Located .expression}
      {others : Many (.located .expression)} (reads : Reads .assignment kinds next between)
      (follows : Reads .moreExpressions between others rest) :
      Reads .moreExpressions (.punctuator .comma :: kinds) (.cons next others) rest
  | test {kinds rest : List TokenKind} {kind : TokenKind} {expression : Located .expression}
      (reads : Reads (.binary 0) kinds expression (kind :: rest))
      (follows : kind.followsOperand = true) (ends : kind ≠ .punctuator .question) :
      Reads .assignment kinds expression (kind :: rest)
  | conditional {kinds kinds' kinds'' rest : List TokenKind} {kind : TokenKind} {start stop : Nat}
      {test consequent alternate : Located .expression}
      (first : Reads (.binary 0) kinds test (.punctuator .question :: kinds'))
      (second : Reads .assignment kinds' consequent (.punctuator .colon :: kinds''))
      (third : Reads .assignment kinds'' alternate (kind :: rest))
      (follows : kind.followsOperand = true) :
      Reads .assignment kinds
        (.located start stop (.conditionalExpression test consequent alternate)) (kind :: rest)
  | climb {kinds between rest : List TokenKind} {minimum : Nat}
      {left expression : Located .expression} (reads : Reads .power kinds left between)
      (follows : Reads (.binaryRest minimum left) between expression rest) :
      Reads (.binary minimum) kinds expression rest
  | loose {rest : List TokenKind} {kind : TokenKind} {minimum : Nat} {left : Located .expression}
      (follows : kind.followsOperand = true) (ends : kind.precedence ≤ minimum) :
      Reads (.binaryRest minimum left) (kind :: rest) left (kind :: rest)
  | tight {kinds between rest : List TokenKind} {kind : TokenKind} {minimum start stop : Nat}
      {operator : InfixOperator} {left right expression : Located .expression}
      (goes : minimum < kind.precedence) (named : kind.infixOperator? = some operator)
      (reads : Reads (.binary kind.precedence) kinds right between)
      (follows : Reads (.binaryRest minimum (.located start stop (operator.combine left right)))
        between expression rest) :
      Reads (.binaryRest minimum left) (kind :: kinds) expression rest
  | base {kinds rest : List TokenKind} {kind : TokenKind} {expression : Located .expression}
      (reads : Reads .unary kinds expression (kind :: rest))
      (ends : kind ≠ .punctuator .power) : Reads .power kinds expression (kind :: rest)
  | power {kinds between rest : List TokenKind} {start stop : Nat}
      {left right : Located .expression}
      (reads : Reads .leftHandSide kinds left (.punctuator .power :: between))
      (follows : Reads .power between right rest) :
      Reads .power kinds (.located start stop (.binaryExpression .power left right)) rest
  | unary {kinds rest : List TokenKind} {kind : TokenKind} {start stop : Nat}
      {operator : UnaryOperator} {argument : Located .expression}
      (named : kind.unaryOperator? = some operator) (reads : Reads .unary kinds argument rest) :
      Reads .unary (kind :: kinds) (.located start stop (.unaryExpression operator argument)) rest
  | operand {kinds rest : List TokenKind} {kind : TokenKind} {expression : Located .expression}
      (reads : Reads .leftHandSide kinds expression (kind :: rest))
      (follows : kind.followsOperand = true) : Reads .unary kinds expression (kind :: rest)
  | leftHandSide {kinds between rest : List TokenKind} {operand expression : Located .expression}
      (reads : Reads .head kinds operand between)
      (follows : Reads (.memberRest operand true) between expression rest) :
      Reads .leftHandSide kinds expression rest
  | plain {rest : List TokenKind} {kind : TokenKind} {start stop : Nat} {item : Node .expression}
      (starts : kind.startsOperand = true) (named : Parser.plainExpression? kind = some item) :
      Reads .head (kind :: rest) (.located start stop item) rest
  | parens {kinds rest : List TokenKind} {expression : Located .expression}
      (reads : Reads .expression kinds expression (.punctuator .rightParen :: rest)) :
      Reads .head (.punctuator .leftParen :: kinds) expression rest
  | newHead {kinds rest : List TokenKind} {expression : Located .expression}
      (reads : Reads .newExpression kinds expression rest) : Reads .head kinds expression rest
  | newExpression {kinds between between' rest : List TokenKind} {start stop : Nat}
      {operand callee : Located .expression} {arguments : Many (.located .expression)}
      (reads : Reads .head kinds operand between)
      (follows : Reads (.memberRest operand false) between callee between')
      (last : Reads .callArguments between' arguments rest) :
      Reads .newExpression (.keyword .newWord :: kinds)
        (.located start stop (.newExpression callee arguments)) rest
  | noMember {rest : List TokenKind} {kind : TokenKind} {object : Located .expression}
      {allowCall : Bool} (follows : kind.followsOperand = true) (undotted : kind ≠ .punctuator .dot)
      (unbracketed : kind ≠ .punctuator .leftBracket)
      (uncalled : kind = .punctuator .leftParen → allowCall = false) :
      Reads (.memberRest object allowCall) (kind :: rest) object (kind :: rest)
  | member {kinds rest : List TokenKind} {kind : TokenKind} {name : String}
      {start stop start' stop' : Nat} {object expression : Located .expression} {allowCall : Bool}
      (named : Parser.propertyName? kind = some name)
      (follows : Reads (.memberRest (.located start stop
        (.memberExpression object (.located start' stop' (.word name)))) allowCall) kinds
          expression rest) :
      Reads (.memberRest object allowCall) (.punctuator .dot :: kind :: kinds) expression rest
  | computed {kinds between rest : List TokenKind} {start stop : Nat}
      {object property expression : Located .expression} {allowCall : Bool}
      (reads : Reads .expression kinds property (.punctuator .rightBracket :: between))
      (follows : Reads (.memberRest (.located start stop (.computedMember object property))
        allowCall) between expression rest) :
      Reads (.memberRest object allowCall) (.punctuator .leftBracket :: kinds) expression rest
  | call {kinds between rest : List TokenKind} {start stop : Nat}
      {object expression : Located .expression} {arguments : Many (.located .expression)}
      (reads : Reads .callArguments (.punctuator .leftParen :: kinds) arguments between)
      (follows : Reads (.memberRest (.located start stop (.callExpression object arguments)) true)
        between expression rest) :
      Reads (.memberRest object true) (.punctuator .leftParen :: kinds) expression rest
  | callArguments {kinds rest : List TokenKind} {arguments : Many (.located .expression)}
      (reads : Reads .arguments kinds arguments (.punctuator .rightParen :: rest)) :
      Reads .callArguments (.punctuator .leftParen :: kinds) arguments rest
  | noArguments {rest : List TokenKind} :
      Reads .arguments (.punctuator .rightParen :: rest) .nil (.punctuator .rightParen :: rest)
  | lastArgument {kinds rest : List TokenKind} {argument : Located .expression}
      (reads : Reads .assignment kinds argument (.punctuator .rightParen :: rest)) :
      Reads .arguments kinds (.cons argument .nil) (.punctuator .rightParen :: rest)
  | argument {kinds between rest : List TokenKind} {argument : Located .expression}
      {arguments : Many (.located .expression)}
      (reads : Reads .assignment kinds argument (.punctuator .comma :: between))
      (follows : Reads .arguments between arguments rest) :
      Reads .arguments kinds (.cons argument arguments) rest

/-! ## What a phrase begins with -/

namespace Reading

/-- What tells the tokens with which a phrase begins. -/
def Begins : {category : Category} → Reading category → TokenKind → Prop
  | _, .expression, kind | _, .assignment, kind | _, .binary _, kind | _, .power, kind
  | _, .unary, kind => kind.startsOperand = true
  | _, .leftHandSide, kind | _, .head, kind =>
      kind.startsOperand = true ∧ kind.unaryOperator? = none
  | _, .newExpression, kind => kind = .keyword .newWord
  | _, .callArguments, kind => kind = .punctuator .leftParen
  | _, _, _ => True

end Reading

theorem unaryOperator_of_plain {kind : TokenKind} {item : Node .expression}
    (named : Parser.plainExpression? kind = some item) : kind.unaryOperator? = none := by
  cases kind with
  | keyword word =>
      revert named
      cases word <;> intro named <;> first | rfl | cases named
  | punctuator mark => cases named
  | _ => rfl

theorem startsOperand_of_unary {kind : TokenKind} {operator : UnaryOperator}
    (named : kind.unaryOperator? = some operator) : kind.startsOperand = true := by
  unfold TokenKind.startsOperand
  rw [named]
  rfl

theorem Reads.begins {category : Category} {reading : Reading category}
    {kinds rest : List TokenKind} {node : Node category} (reads : Reads reading kinds node rest) :
    ∃ first more, kinds = first :: more ∧ reading.Begins first := by
  induction reads with
  | single _ _ ih => exact ih
  | sequence _ _ ih _ => exact ih
  | noMore _ => exact ⟨_, _, rfl, trivial⟩
  | more _ _ _ _ => exact ⟨_, _, rfl, trivial⟩
  | test _ _ _ ih => exact ih
  | conditional _ _ _ _ ih _ _ => exact ih
  | climb _ _ ih _ => exact ih
  | loose _ _ => exact ⟨_, _, rfl, trivial⟩
  | tight _ _ _ _ _ _ => exact ⟨_, _, rfl, trivial⟩
  | base _ _ ih => exact ih
  | power _ _ ih _ =>
      obtain ⟨first, more, split, starts, _⟩ := ih
      exact ⟨first, more, split, starts⟩
  | unary named _ _ => exact ⟨_, _, rfl, startsOperand_of_unary named⟩
  | operand _ _ ih =>
      obtain ⟨first, more, split, starts, _⟩ := ih
      exact ⟨first, more, split, starts⟩
  | leftHandSide _ _ ih _ => exact ih
  | plain starts named => exact ⟨_, _, rfl, starts, unaryOperator_of_plain named⟩
  | parens _ _ => exact ⟨_, _, rfl, rfl, rfl⟩
  | newHead _ ih =>
      obtain ⟨first, more, split, rfl⟩ := ih
      exact ⟨_, more, split, rfl, rfl⟩
  | newExpression _ _ _ _ _ _ => exact ⟨_, _, rfl, rfl⟩
  | noMember _ _ _ _ => exact ⟨_, _, rfl, trivial⟩
  | member _ _ _ => exact ⟨_, _, rfl, trivial⟩
  | computed _ _ _ _ => exact ⟨_, _, rfl, trivial⟩
  | call _ _ _ _ => exact ⟨_, _, rfl, trivial⟩
  | callArguments _ _ => exact ⟨_, _, rfl, rfl⟩
  | noArguments => exact ⟨_, _, rfl, trivial⟩
  | lastArgument _ ih =>
      obtain ⟨first, more, split, _⟩ := ih
      exact ⟨first, more, split, trivial⟩
  | argument _ _ ih _ =>
      obtain ⟨first, more, split, _⟩ := ih
      exact ⟨first, more, split, trivial⟩

end Ecmascript
