import Ecmascript.Proofs.Operators.Basic

/-!
# Tokens side by side

Which tokens stand next to each other in a formula. Operators and opening marks are followed by an
operand, and an operand is followed by an operator or a closing mark.
-/

set_option autoImplicit false

namespace Ecmascript

namespace TokenKind

/-- Whether an operand follows a token. -/
def opensOperand (kind : TokenKind) : Bool :=
  kind.infixOperator?.isSome || kind.unaryOperator?.isSome ||
    match kind with
    | .punctuator .power | .punctuator .leftParen | .punctuator .leftBracket => true
    | .punctuator .comma | .punctuator .question | .punctuator .colon => true
    | .keyword .newWord => true
    | _ => false

/-- Whether an operand begins with a token. -/
def startsOperand (kind : TokenKind) : Bool :=
  kind.unaryOperator?.isSome ||
    match kind with
    | .identifier _ | .number _ | .string _ | .regex _ => true
    | .keyword .thisWord | .keyword .nullWord | .keyword .trueWord | .keyword .falseWord => true
    | .keyword .newWord | .punctuator .leftParen => true
    | _ => false

/-- Whether an operand ends with a token. A keyword may be the name of a property. -/
def endsPhrase : TokenKind → Bool
  | .identifier _ | .number _ | .string _ | .regex _ | .keyword _ => true
  | .punctuator .rightParen | .punctuator .rightBracket => true
  | _ => false

/-- Whether a token follows an operand. -/
def followsOperand (kind : TokenKind) : Bool :=
  kind.infixOperator?.isSome ||
    match kind with
    | .punctuator .power | .punctuator .semicolon | .punctuator .comma => true
    | .punctuator .rightParen | .punctuator .rightBracket => true
    | .punctuator .leftParen | .punctuator .leftBracket | .punctuator .dot => true
    | .punctuator .question | .punctuator .colon => true
    | _ => false

/-- Whether a token is a word. -/
def isWord : TokenKind → Bool
  | .identifier _ | .keyword _ => true
  | _ => false

/-- Whether a token is a number. -/
def isNumber : TokenKind → Bool
  | .number _ => true
  | _ => false

end TokenKind

/-- A token may stand next to another in a formula, or in the statement around it. -/
inductive Adjacent : TokenKind → TokenKind → Prop
  | operand {first second : TokenKind} (opens : first.opensOperand = true)
      (starts : second.startsOperand = true) : Adjacent first second
  | follower {first second : TokenKind} (ends : first.endsPhrase = true)
      (follows : second.followsOperand = true)
      (undotted : first.isNumber = true → second ≠ .punctuator .dot) : Adjacent first second
  | empty : Adjacent (.punctuator .leftParen) (.punctuator .rightParen)
  | property {second : TokenKind} (word : second.isWord = true) :
      Adjacent (.punctuator .dot) second
  | finish : Adjacent (.punctuator .semicolon) .endOfInput

/-- Tokens that make up an operand: they fit between any token that opens an operand and any that
follows one, a dot only if the operand is not a number. -/
def Phrase (dotted : Bool) (kinds : List TokenKind) : Prop :=
  ∀ first second rest, first.opensOperand = true → second.followsOperand = true →
    (dotted = false → second ≠ .punctuator .dot) → (second :: rest).IsChain Adjacent →
      (first :: (kinds ++ second :: rest)).IsChain Adjacent

namespace Phrase

variable {dotted : Bool} {kinds kinds' : List TokenKind}

theorem atom {kind : TokenKind} (starts : kind.startsOperand = true)
    (ends : kind.endsPhrase = true) (number : dotted = true → kind.isNumber = false) :
    Phrase dotted [kind] := by
  intro first second rest opens follows undotted chain
  refine .cons_cons (.operand opens starts) (.cons_cons (.follower ends follows ?_) chain)
  intro isNumber
  cases dotted with
  | true => exact absurd ((number rfl).symm.trans isNumber) nofun
  | false => exact undotted rfl

theorem weaken (phrase : Phrase dotted kinds) : Phrase false kinds :=
  fun first second rest opens follows undotted chain =>
    phrase first second rest opens follows (fun _ => undotted rfl) chain

theorem parens (phrase : Phrase dotted kinds) : Phrase true (inParens kinds) := by
  intro first second rest opens follows undotted chain
  have inner := phrase (.punctuator .leftParen) (.punctuator .rightParen) (second :: rest) rfl rfl
    (fun _ => nofun) (.cons_cons (.follower rfl follows nofun) chain)
  simp only [inParens, List.cons_append, List.append_assoc, List.nil_append]
  exact .cons_cons (.operand opens rfl) inner

theorem parensIf {condition : Bool} (closed : Phrase false kinds)
    (bare : condition = false → Phrase dotted kinds') :
    Phrase dotted (parensIf condition kinds kinds') := by
  cases condition with
  | true => exact fun first second rest opens follows undotted chain =>
      closed.parens first second rest opens follows (fun absurd => nomatch absurd) chain
  | false => exact bare rfl

/-- An operator between two operands. -/
theorem between (left : Phrase false kinds) {kind : TokenKind}
    (follows : kind.followsOperand = true) (opens : kind.opensOperand = true)
    (right : Phrase dotted kinds') : Phrase dotted (kinds ++ kind :: kinds') := by
  intro first second rest opens' follows' undotted chain
  rw [List.append_assoc, List.cons_append]
  refine left first kind _ opens' follows (fun _ same => ?_)
    (right kind second rest opens follows' undotted chain)
  rw [same] at opens
  cases opens

/-- An operator in front of an operand. -/
theorem behind {kind : TokenKind} (starts : kind.startsOperand = true)
    (opens : kind.opensOperand = true) (right : Phrase dotted kinds) :
    Phrase dotted (kind :: kinds) :=
  fun _ second rest opens' follows undotted chain =>
    .cons_cons (.operand opens' starts) (right kind second rest opens follows undotted chain)

end Phrase

/-! ## The tokens of formulas -/

theorem phrase_located {category : Category} {start stop minimum : Nat} {item : Node category}
    {dotted : Bool} (inner : Phrase dotted (item.lexemes minimum))
    (tight : Level.call ≤ item.level → dotted = true) :
    Phrase (decide (Level.call ≤ minimum)) ((Node.located start stop item).lexemes minimum) := by
  refine Phrase.parensIf inner.weaken fun bare => ?_
  have above : minimum ≤ item.level := by simpa using bare
  by_cases high : Level.call ≤ minimum
  · rw [decide_eq_true high, ← tight (Nat.le_trans high above)]
    exact inner
  · rw [decide_eq_false high]
    exact inner.weaken

theorem phrase_list {minimum : Nat} {list : Many (.located .expression)}
    (each : ∀ expression ∈ list.items, Phrase false (expression.lexemes minimum))
    (nonempty : list.items ≠ []) : Phrase false (list.lexemes minimum) := by
  induction list using Node.listInduction with
  | nil => exact absurd Node.items_nil nonempty
  | cons head tail ih =>
      rw [Node.items_cons] at each
      have first := each head List.mem_cons_self
      have rest := ih fun expression listed => each expression (List.mem_cons_of_mem _ listed)
      change Phrase false (head.lexemes minimum ++
        if tail.isNil then [] else .punctuator .comma :: tail.lexemes minimum)
      cases last : tail.isNil with
      | true => simpa using first
      | false =>
          have more : tail.items ≠ [] := by
            cases tail with
            | nil => cases last
            | cons _ _ => simp
          exact first.between rfl rfl (rest more)

/-- Arguments in parentheses, of which there may be none. -/
theorem chain_arguments {minimum : Nat} {list : Many (.located .expression)}
    (each : ∀ expression ∈ list.items, Phrase false (expression.lexemes minimum))
    {rest : List TokenKind} (chain : (.punctuator .rightParen :: rest).IsChain Adjacent) :
    (.punctuator .leftParen :: (list.lexemes minimum ++ .punctuator .rightParen :: rest)).IsChain
      Adjacent := by
  cases list with
  | nil => exact .cons_cons .empty chain
  | cons head tail =>
      exact phrase_list each (by simp) _ _ rest rfl rfl (fun _ => nofun) chain

/-- Arguments behind a callee. -/
theorem Phrase.arguments {minimum : Nat} {kinds : List TokenKind} {dotted : Bool}
    (callee : Phrase dotted kinds) {list : Many (.located .expression)}
    (each : ∀ expression ∈ list.items, Phrase false (expression.lexemes minimum)) :
    Phrase true (kinds ++ inParens (list.lexemes minimum)) := by
  intro first second rest opens follows undotted chain
  have inner := chain_arguments each (.cons_cons (.follower rfl follows nofun) chain)
  have whole := callee first (.punctuator .leftParen) _ opens rfl (fun _ => nofun) inner
  simpa [inParens] using whole

theorem isWord_wordKind (word : Text) :
    (Lexer.wordKind word).isWord = true ∧ (Lexer.wordKind word).endsPhrase = true ∧
      (Lexer.wordKind word).isNumber = false := by
  rcases Lexer.wordKind_cases word with ⟨keyword, named, _⟩ | named <;> rw [named] <;>
    exact ⟨rfl, rfl, rfl⟩

/-- A property behind an object. -/
theorem Phrase.property {kinds : List TokenKind} (object : Phrase true kinds) (word : Text) :
    Phrase true (kinds ++ [.punctuator .dot, Lexer.wordKind word]) := by
  intro first second rest opens follows undotted chain
  obtain ⟨isWord, ends, number⟩ := isWord_wordKind word
  have behind : Adjacent (Lexer.wordKind word) second :=
    .follower ends follows fun isNumber => absurd (number.symm.trans isNumber) nofun
  rw [List.append_assoc]
  exact object first (.punctuator .dot) _ opens rfl nofun
    (.cons_cons (.property isWord) (.cons_cons behind chain))

/-- An index behind an object. -/
theorem Phrase.index {kinds kinds' : List TokenKind} (object : Phrase true kinds)
    (index : Phrase false kinds') :
    Phrase true (kinds ++ .punctuator .leftBracket :: (kinds' ++ [.punctuator .rightBracket])) := by
  intro first second rest opens follows undotted chain
  have inner := index (.punctuator .leftBracket) (.punctuator .rightBracket) (second :: rest) rfl
    rfl (fun _ => nofun) (.cons_cons (.follower rfl follows nofun) chain)
  have whole := object first (.punctuator .leftBracket) _ opens rfl nofun inner
  simpa using whole

theorem startsOperand_unary (operator : UnaryOperator) :
    operator.kind.startsOperand = true ∧ operator.kind.opensOperand = true := by
  cases operator <;> exact ⟨rfl, rfl⟩

theorem followsOperand_binary (operator : BinaryOperator) :
    operator.kind.followsOperand = true ∧ operator.kind.opensOperand = true := by
  cases operator <;> exact ⟨rfl, rfl⟩

theorem followsOperand_logical (operator : LogicalOperator) :
    operator.kind.followsOperand = true ∧ operator.kind.opensOperand = true := by
  cases operator <;> exact ⟨rfl, rfl⟩

theorem level_lt_call (operator : BinaryOperator) : operator.level < Level.call := by
  cases operator <;> decide

theorem logical_level_lt_call (operator : LogicalOperator) : operator.level < Level.call := by
  cases operator <;> decide

/-- The tokens of the object of a member, which has parentheses if it is a number. -/
theorem phrase_object {object : Located .expression}
    (phrase : ∀ minimum, Phrase (!object.isNumber && decide (Level.call ≤ minimum))
      (object.lexemes minimum)) :
    Phrase true (parensIf object.isNumber (object.lexemes Level.sequence)
      (object.lexemes Level.call)) := by
  refine (phrase Level.sequence).weaken.parensIf fun plain => ?_
  have tight := phrase Level.call
  rw [plain] at tight
  exact tight

/-- The tokens of a formula make up an operand. A dot may follow where a member may. -/
theorem phrase_lexemes {expression : Located .expression} (formula : Formula expression)
    (minimum : Nat) :
    Phrase (!expression.isNumber && decide (Level.call ≤ minimum))
      (expression.lexemes minimum) := by
  induction formula generalizing minimum with
  | this => exact phrase_located (.atom rfl rfl fun _ => rfl) fun _ => rfl
  | identifier reads => exact phrase_located (.atom rfl rfl fun _ => rfl) fun _ => rfl
  | null => exact phrase_located (.atom rfl rfl fun _ => rfl) fun _ => rfl
  | boolean value =>
      cases value <;> exact phrase_located (.atom rfl rfl fun _ => rfl) fun _ => rfl
  | @number start stop raw reads =>
      have bare : Phrase false [TokenKind.number raw] := .atom rfl rfl nofun
      exact Phrase.parensIf bare fun _ => bare
  | string reads => exact phrase_located (.atom rfl rfl fun _ => rfl) fun _ => rfl
  | regex reads => exact phrase_located (.atom rfl rfl fun _ => rfl) fun _ => rfl
  | unary operator inner ih =>
      obtain ⟨starts, opens⟩ := startsOperand_unary operator
      exact phrase_located (.behind starts opens (ih Level.unary).weaken)
        fun tight => absurd tight (show ¬Level.call ≤ Level.unary by decide)
  | binary operator first second left right =>
      obtain ⟨follows, opens⟩ := followsOperand_binary operator
      exact phrase_located ((left operator.leftLevel).weaken.between follows opens
        (right operator.rightLevel).weaken)
        fun tight => absurd tight (Nat.not_le.2 (level_lt_call operator))
  | @logical start stop operator first second _ _ left right =>
      obtain ⟨follows, opens⟩ := followsOperand_logical operator
      have inside : Phrase false (Ecmascript.parensIf (first.mixesWith operator) _ _) :=
        (left Level.sequence).weaken.parensIf fun _ => (left operator.level).weaken
      have inside' : Phrase false (Ecmascript.parensIf (second.mixesWith operator) _ _) :=
        (right Level.sequence).weaken.parensIf fun _ => (right (operator.level + 1)).weaken
      exact phrase_located (inside.between follows opens inside')
        fun tight => absurd tight (Nat.not_le.2 (logical_level_lt_call operator))
  | conditional first second third test consequent alternate =>
      exact phrase_located ((test Level.logicalOr).weaken.between rfl rfl
        ((consequent Level.assignment).weaken.between rfl rfl
          (alternate Level.assignment).weaken))
        fun tight => absurd tight (show ¬Level.call ≤ Level.conditional by decide)
  | sequence several each ih =>
      refine phrase_located (phrase_list (fun expression listed =>
        (ih expression listed Level.assignment).weaken) fun empty => ?_)
        fun tight => absurd tight (show ¬Level.call ≤ Level.sequence by decide)
      rw [empty] at several
      exact absurd several (by decide)
  | @member start stop wordStart wordStop object name inner named ih =>
      exact phrase_located ((phrase_object ih).property name.toList) fun _ => rfl
  | computed first second object property =>
      exact phrase_located ((phrase_object object).index (property Level.sequence).weaken)
        fun _ => rfl
  | call inner each callee arguments =>
      exact phrase_located ((callee Level.call).weaken.arguments fun expression listed =>
        (arguments expression listed Level.assignment).weaken) fun _ => rfl
  | @new start stop callee list _ _ inner arguments =>
      have inside : Phrase false (Ecmascript.parensIf callee.containsCall _ _) :=
        (inner Level.call).weaken.parensIf fun _ => (inner Level.call).weaken
      exact phrase_located (.behind rfl rfl (inside.arguments fun expression listed =>
        (arguments expression listed Level.assignment).weaken)) fun _ => rfl

end Ecmascript
