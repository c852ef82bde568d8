import Ecmascript.Proofs.Operators.Reading

/-!
# Formulas are read back

The tokens of a formula are read as the formula, wherever the token behind them does not hold on to
their last operand. How tightly a formula binds says which token may stand behind it without
parentheses.
-/

set_option autoImplicit false

namespace Ecmascript

/-! ## What holds on to an operand -/

/-- How tightly a token holds on to the operand before it. -/
def TokenKind.hold : TokenKind → Nat
  | .punctuator .comma => Level.assignment
  | .punctuator .question => Level.logicalOr
  | .punctuator .power => Level.postfixUpdate
  | .punctuator .dot | .punctuator .leftBracket | .punctuator .leftParen => Level.call
  | kind => kind.precedence

/-- A token may stand behind an operand of a level: it holds on to it no tighter than it binds. -/
structure TokenKind.Behind (kind : TokenKind) (level : Nat) : Prop where
  follows : kind.followsOperand = true
  loose : kind.hold ≤ level

namespace TokenKind

variable {kind : TokenKind} {level level' : Nat}

theorem Behind.mono (behind : kind.Behind level) (le : level ≤ level') : kind.Behind level' :=
  ⟨behind.follows, Nat.le_trans behind.loose le⟩

theorem precedence_le_hold (kind : TokenKind) : kind.precedence ≤ kind.hold := by
  cases kind with
  | punctuator mark => cases mark <;> decide
  | _ => exact Nat.le_refl _

/-- What holds on looser than any operator is none. -/
theorem precedence_of_hold (kind : TokenKind) (loose : kind.hold ≤ Level.assignment) :
    kind.precedence ≤ 0 := by
  revert loose
  cases kind with
  | punctuator mark => cases mark <;> decide
  | keyword word => cases word <;> decide
  | _ => exact fun _ => Nat.le_refl 0

theorem hold_of_infix {kind : TokenKind} {operator : InfixOperator}
    (named : kind.infixOperator? = some operator) :
    kind.hold = kind.precedence ∧ 0 < kind.precedence ∧ kind.precedence < Level.power ∧
      kind.followsOperand = true := by
  have follows : kind.followsOperand = true := by
    unfold followsOperand
    rw [named]
    rfl
  have levels : kind.hold = kind.precedence ∧ 0 < kind.precedence ∧
      kind.precedence < Level.power := by
    revert named
    clear follows
    cases kind with
    | punctuator mark => cases mark <;> intro named <;> first | decide | cases named
    | keyword word => cases word <;> intro named <;> first | decide | cases named
    | _ => exact fun named => nomatch named
  exact ⟨levels.1, levels.2.1, levels.2.2, follows⟩

end TokenKind

/-! ## Operands -/

/-- Tokens are read as an operand, with any members and calls behind it. An operand that contains
calls is read only where calls are. -/
def Chains (kinds : List TokenKind) (operand : Located .expression) (calls : Bool) : Prop :=
  ∀ allowCall more expression rest, (calls = true → allowCall = true) →
    Reads (.memberRest operand allowCall) more expression rest →
      ∃ first between, Reads .head (kinds ++ more) first between ∧
        Reads (.memberRest first allowCall) between expression rest

/-- Tokens are read as an expression in front of every token that may stand behind a level. -/
def ReadsBefore (reading : Reading (.located .expression)) (kinds : List TokenKind)
    (expression : Located .expression) (level : Nat) : Prop :=
  ∀ kind rest, kind.Behind level → Reads reading (kinds ++ kind :: rest) expression (kind :: rest)

/-- Tokens are read as the left end of a chain of operators that bind tighter than a minimum. -/
def Climbs (kinds : List TokenKind) (expression : Located .expression) (level : Nat) : Prop :=
  ∀ minimum kind more whole rest, minimum < level → kind.Behind level → kind.Behind Level.unary →
    Reads (.binaryRest minimum expression) (kind :: more) whole rest →
      Reads (.binary minimum) (kinds ++ kind :: more) whole rest

/-- Tokens are read as an expression in every place that asks for at most a level. -/
structure Fits (kinds : List TokenKind) (expression : Located .expression) (level : Nat) :
    Prop where
  chains : Level.call ≤ level → Chains kinds expression expression.containsCall
  leftHandSide : Level.postfixUpdate ≤ level →
    ReadsBefore .leftHandSide kinds expression Level.postfixUpdate
  unary : Level.unary ≤ level → ReadsBefore .unary kinds expression Level.postfixUpdate
  power : Level.power ≤ level → ReadsBefore .power kinds expression Level.unary
  climbs : Level.logicalOr ≤ level → Climbs kinds expression level
  assignment : Level.assignment ≤ level → ReadsBefore .assignment kinds expression Level.assignment
  whole : ReadsBefore .expression kinds expression Level.sequence

namespace Fits

variable {kinds : List TokenKind} {expression : Located .expression} {level level' : Nat}

/-- What fits a place fits a looser one. -/
theorem mono (fits : Fits kinds expression level) (le : level' ≤ level) :
    Fits kinds expression level' where
  chains high := fits.chains (Nat.le_trans high le)
  leftHandSide high := fits.leftHandSide (Nat.le_trans high le)
  unary high := fits.unary (Nat.le_trans high le)
  power high := fits.power (Nat.le_trans high le)
  climbs high := fun minimum kind more whole rest below behind =>
    fits.climbs (Nat.le_trans high le) minimum kind more whole rest (Nat.lt_of_lt_of_le below le)
      (behind.mono le)
  assignment high := fits.assignment (Nat.le_trans high le)
  whole := fits.whole

/-! ### From the tightest places to the loosest -/

theorem leftHandSide_of_chains {calls : Bool} (chains : Chains kinds expression calls) :
    ReadsBefore .leftHandSide kinds expression Level.postfixUpdate := by
  intro kind rest behind
  have other (mark : Punctuator) (tight : (TokenKind.punctuator mark).hold = Level.call) :
      kind ≠ .punctuator mark := by
    rintro rfl
    have loose := behind.loose
    rw [tight] at loose
    exact absurd loose (by decide)
  obtain ⟨first, between, head, rest'⟩ := chains true (kind :: rest) expression (kind :: rest)
    (fun _ => rfl) (.noMember behind.follows (other .dot rfl) (other .leftBracket rfl)
      fun call => absurd call (other .leftParen rfl))
  exact .leftHandSide head rest'

theorem unary_of_leftHandSide
    (operand : ReadsBefore .leftHandSide kinds expression Level.postfixUpdate) :
    ReadsBefore .unary kinds expression Level.postfixUpdate :=
  fun kind rest behind => .operand (operand kind rest behind) behind.follows

theorem power_of_unary (unary : ReadsBefore .unary kinds expression Level.postfixUpdate) :
    ReadsBefore .power kinds expression Level.unary := by
  intro kind rest behind
  refine .base (unary kind rest (behind.mono (by decide))) ?_
  rintro rfl
  exact absurd behind.loose (by decide)

theorem climbs_of_power (power : ReadsBefore .power kinds expression Level.unary) :
    Climbs kinds expression level :=
  fun _ kind more _ _ _ _ behind follows => .climb (power kind more behind) follows

theorem assignment_of_climbs (climbs : Climbs kinds expression level)
    (high : Level.logicalOr ≤ level) :
    ReadsBefore .assignment kinds expression Level.assignment := by
  intro kind rest behind
  have stops : Reads (.binaryRest 0 expression) (kind :: rest) expression (kind :: rest) :=
    .loose behind.follows (kind.precedence_of_hold behind.loose)
  have below : Level.assignment ≤ level := Nat.le_trans (by decide) high
  have reads := climbs 0 kind rest _ _ (Nat.lt_of_lt_of_le (by decide) high) (behind.mono below)
    (behind.mono (by decide)) stops
  refine .test reads behind.follows ?_
  rintro rfl
  exact absurd behind.loose (by decide)

theorem whole_of_assignment
    (assignment : ReadsBefore .assignment kinds expression Level.assignment) :
    ReadsBefore .expression kinds expression Level.sequence := by
  intro kind rest behind
  refine .single (assignment kind rest (behind.mono (by decide))) ?_
  rintro rfl
  exact absurd behind.loose (by decide)

/-! ### Places by the level -/

theorem ofWhole (whole : ReadsBefore .expression kinds expression Level.sequence) :
    Fits kinds expression Level.sequence where
  chains high := absurd high (by decide)
  leftHandSide high := absurd high (by decide)
  unary high := absurd high (by decide)
  power high := absurd high (by decide)
  climbs high := absurd high (by decide)
  assignment high := absurd high (by decide)
  whole := whole

theorem ofAssignment
    (assignment : ReadsBefore .assignment kinds expression Level.assignment) :
    Fits kinds expression Level.conditional where
  chains high := absurd high (by decide)
  leftHandSide high := absurd high (by decide)
  unary high := absurd high (by decide)
  power high := absurd high (by decide)
  climbs high := absurd high (by decide)
  assignment _ := assignment
  whole := whole_of_assignment assignment

theorem ofClimbs (climbs : Climbs kinds expression level) (high : Level.logicalOr ≤ level)
    (low : level < Level.power) : Fits kinds expression level where
  chains high := absurd (Nat.lt_of_le_of_lt high low) (by decide)
  leftHandSide high := absurd (Nat.lt_of_le_of_lt high low) (by decide)
  unary high := absurd (Nat.lt_of_le_of_lt high low) (by decide)
  power high := absurd (Nat.lt_of_le_of_lt high low) (by decide)
  climbs _ := climbs
  assignment _ := assignment_of_climbs climbs high
  whole := whole_of_assignment (assignment_of_climbs climbs high)

theorem ofPower (power : ReadsBefore .power kinds expression Level.unary) :
    Fits kinds expression Level.power where
  chains high := absurd high (by decide)
  leftHandSide high := absurd high (by decide)
  unary high := absurd high (by decide)
  power _ := power
  climbs _ := climbs_of_power power
  assignment _ := assignment_of_climbs (climbs_of_power power) (Nat.le_refl Level.logicalOr)
  whole := whole_of_assignment
    (assignment_of_climbs (climbs_of_power power) (Nat.le_refl Level.logicalOr))

theorem ofUnary (unary : ReadsBefore .unary kinds expression Level.postfixUpdate) :
    Fits kinds expression Level.unary := by
  have looser := ofPower (power_of_unary unary)
  exact {
    chains := fun high => absurd high (by decide)
    leftHandSide := fun high => absurd high (by decide)
    unary := fun _ => unary
    power := fun _ => power_of_unary unary
    climbs := fun _ => climbs_of_power (power_of_unary unary)
    assignment := fun _ => looser.assignment (by decide)
    whole := looser.whole }

theorem ofChains (chains : Chains kinds expression expression.containsCall) :
    Fits kinds expression level := by
  have leftHandSide := leftHandSide_of_chains chains
  have looser := ofUnary (unary_of_leftHandSide leftHandSide)
  exact {
    chains := fun _ => chains
    leftHandSide := fun _ => leftHandSide
    unary := fun _ => looser.unary (Nat.le_refl _)
    power := fun _ => looser.power (by decide)
    climbs := fun _ => climbs_of_power (looser.power (by decide))
    assignment := fun _ => looser.assignment (by decide)
    whole := looser.whole }

end Fits

/-! ## Operands of each form -/

namespace Chains

variable {kinds : List TokenKind} {expression : Located .expression} {start stop level : Nat}

/-- Parentheses make an operand of any expression. -/
theorem parens (whole : ReadsBefore .expression kinds expression Level.sequence) (calls : Bool) :
    Chains (inParens kinds) expression calls := by
  intro allowCall more result rest _ follows
  refine ⟨expression, more, ?_, follows⟩
  have inner := whole (.punctuator .rightParen) more ⟨rfl, by decide⟩
  simpa [inParens] using Reads.parens inner

theorem plain {kind : TokenKind} {item : Node .expression} {calls : Bool}
    (starts : kind.startsOperand = true) (named : Parser.plainExpression? kind = some item) :
    Chains [kind] (.located start stop item) calls :=
  fun _ more _ _ _ follows => ⟨_, more, .plain starts named, follows⟩

theorem member {kind : TokenKind} {name : String} {start' stop' : Nat} {calls : Bool}
    (object : Chains kinds expression calls) (named : Parser.propertyName? kind = some name) :
    Chains (kinds ++ [.punctuator .dot, kind]) (.located start stop
      (.memberExpression expression (.located start' stop' (.word name)))) calls := by
  intro allowCall more result rest allowed follows
  obtain ⟨first, between, head, chain⟩ := object allowCall (.punctuator .dot :: kind :: more) result
    rest allowed (.member named follows)
  exact ⟨first, between, by simpa using head, chain⟩

theorem computed {kinds' : List TokenKind} {property : Located .expression} {calls : Bool}
    (object : Chains kinds expression calls)
    (whole : ReadsBefore .expression kinds' property Level.sequence) :
    Chains (kinds ++ .punctuator .leftBracket :: (kinds' ++ [.punctuator .rightBracket]))
      (.located start stop (.computedMember expression property)) calls := by
  intro allowCall more result rest allowed follows
  have inner := whole (.punctuator .rightBracket) more ⟨rfl, by decide⟩
  obtain ⟨first, between, head, chain⟩ := object allowCall _ result rest allowed
    (.computed inner follows)
  exact ⟨first, between, by simpa using head, chain⟩

/-- An operand is read with the calls that it contains at most. -/
theorem weaken {calls : Bool} (chains : Chains kinds expression calls) :
    Chains kinds expression true :=
  fun allowCall more result rest allowed => chains allowCall more result rest fun _ => allowed rfl

theorem call {arguments : Many (.located .expression)} {kinds' : List TokenKind}
    (callee : Chains kinds expression true)
    (inner : ∀ rest, Reads .arguments (kinds' ++ .punctuator .rightParen :: rest) arguments
      (.punctuator .rightParen :: rest)) :
    Chains (kinds ++ inParens kinds')
      (.located start stop (.callExpression expression arguments)) true := by
  intro allowCall more result rest allowed follows
  obtain rfl := allowed rfl
  obtain ⟨first, between, head, chain⟩ := callee true _ result rest (fun _ => rfl)
    (.call (.callArguments (inner more)) follows)
  exact ⟨first, between, by simpa [inParens] using head, chain⟩

/-- The callee of `new` ends before the arguments, because it has no calls. -/
theorem new {arguments : Many (.located .expression)} {kinds' : List TokenKind} {calls : Bool}
    (callee : Chains kinds expression false)
    (inner : ∀ rest, Reads .arguments (kinds' ++ .punctuator .rightParen :: rest) arguments
      (.punctuator .rightParen :: rest)) :
    Chains (.keyword .newWord :: (kinds ++ inParens kinds'))
      (.located start stop (.newExpression expression arguments)) calls := by
  intro allowCall more result rest _ follows
  obtain ⟨first, between, head, chain⟩ := callee false
    (.punctuator .leftParen :: (kinds' ++ .punctuator .rightParen :: more)) expression _ nofun
    (.noMember rfl nofun nofun fun _ => rfl)
  have whole : Reads .newExpression _ (.located start stop (.newExpression expression arguments))
      more := .newExpression head chain (.callArguments (inner more))
  exact ⟨_, more, .newHead (by simpa [inParens] using whole), follows⟩

end Chains

/-! ## Lists of formulas -/

/-- Arguments up to the closing parenthesis. -/
theorem reads_arguments {list : Many (.located .expression)}
    (each : ∀ expression ∈ list.items,
      Fits (expression.lexemes Level.assignment) expression Level.assignment)
    (rest : List TokenKind) :
    Reads .arguments (list.lexemes Level.assignment ++ .punctuator .rightParen :: rest) list
      (.punctuator .rightParen :: rest) := by
  induction list using Node.listInduction with
  | nil => exact .noArguments
  | cons head tail ih =>
      rw [Node.items_cons] at each
      have first := (each head List.mem_cons_self).assignment (Nat.le_refl _)
      have others := ih fun expression listed => each expression (List.mem_cons_of_mem _ listed)
      change Reads .arguments ((head.lexemes Level.assignment ++
        if tail.isNil then [] else .punctuator .comma :: tail.lexemes Level.assignment) ++ _) _ _
      cases tail with
      | nil =>
          have reads := first (.punctuator .rightParen) rest ⟨rfl, by decide⟩
          simpa [Node.isNil] using Reads.lastArgument reads
      | cons next more =>
          have reads := first (.punctuator .comma)
            ((Node.cons next more).lexemes Level.assignment ++
            .punctuator .rightParen :: rest) ⟨rfl, by decide⟩
          simpa [Node.isNil] using Reads.argument reads others

/-- The expressions of a sequence behind the first. -/
theorem reads_moreExpressions {list : Many (.located .expression)}
    (each : ∀ expression ∈ list.items,
      Fits (expression.lexemes Level.assignment) expression Level.assignment)
    (nonempty : list.items ≠ []) {kind : TokenKind} (behind : kind.Behind Level.sequence)
    (rest : List TokenKind) :
    Reads .moreExpressions (.punctuator .comma ::
      (list.lexemes Level.assignment ++ kind :: rest)) list (kind :: rest) := by
  induction list using Node.listInduction with
  | nil => exact absurd Node.items_nil nonempty
  | cons head tail ih =>
      rw [Node.items_cons] at each
      have first := (each head List.mem_cons_self).assignment (Nat.le_refl _)
      change Reads .moreExpressions (.punctuator .comma :: ((head.lexemes Level.assignment ++
        if tail.isNil then [] else .punctuator .comma :: tail.lexemes Level.assignment) ++ _)) _ _
      cases tail with
      | nil =>
          have ends : kind ≠ .punctuator .comma := by
            rintro rfl
            exact absurd behind.loose (by decide)
          simpa [Node.isNil] using Reads.more (first kind rest (behind.mono (by decide)))
            (.noMore ends)
      | cons next more =>
          have others := ih (fun expression listed => each expression
            (List.mem_cons_of_mem _ listed)) (by simp)
          have reads := first (.punctuator .comma)
            ((Node.cons next more).lexemes Level.assignment ++
            kind :: rest) ⟨rfl, by decide⟩
          simpa [Node.isNil] using Reads.more reads others

/-! ## Formulas of each form -/

/-- An operator between operands that bind at least as tightly on its left, and tighter on its
right. -/
theorem fits_infix {kinds kinds' : List TokenKind} {kind : TokenKind} {operator : InfixOperator}
    {left right : Located .expression} {start stop : Nat}
    (named : kind.infixOperator? = some operator) (first : Fits kinds left kind.precedence)
    (second : Fits kinds' right (kind.precedence + 1)) (high : Level.logicalOr ≤ kind.precedence) :
    Fits (kinds ++ kind :: kinds') (.located start stop (operator.combine left right))
      kind.precedence := by
  obtain ⟨hold, positive, low, follows⟩ := TokenKind.hold_of_infix named
  refine .ofClimbs ?_ high low
  intro minimum next more whole rest below behind behind' chain
  have rightStops : Reads (.binaryRest kind.precedence right) (next :: more) right (next :: more) :=
    .loose behind.follows (Nat.le_trans next.precedence_le_hold behind.loose)
  have rightReads := second.climbs (Nat.le_succ_of_le high) kind.precedence next more right _
    (Nat.lt_succ_self _) (behind.mono (Nat.le_succ _)) behind' rightStops
  have continues : Reads (.binaryRest minimum left) (kind :: (kinds' ++ next :: more)) whole rest :=
    .tight below named rightReads chain
  have behindLeft : kind.Behind kind.precedence := ⟨follows, Nat.le_of_eq hold⟩
  have reads := first.climbs high minimum kind _ whole rest below behindLeft
    (behindLeft.mono (Nat.le_of_lt (Nat.lt_trans low (by decide)))) continues
  simpa using reads

/-- A phrase in its place, with parentheses if it binds too loosely. -/
theorem fits_located {start stop minimum : Nat} {item : Node .expression}
    (fits : Fits (item.lexemes minimum) (.located start stop item) item.level) :
    Fits ((Node.located start stop item).lexemes minimum) (.located start stop item) minimum := by
  change Fits (parensIf (decide (item.level < minimum)) _ _) _ _
  by_cases low : item.level < minimum
  · rw [decide_eq_true low]
    exact .ofChains (.parens fits.whole _)
  · rw [decide_eq_false low]
    exact fits.mono (Nat.not_lt.1 low)

theorem fits_parensIf {condition : Bool} {kinds kinds' : List TokenKind}
    {expression : Located .expression} {level : Nat}
    (closed : Fits kinds expression Level.sequence)
    (bare : condition = false → Fits kinds' expression level) :
    Fits (parensIf condition kinds kinds') expression level := by
  cases condition with
  | true => exact .ofChains (.parens closed.whole _)
  | false => exact bare rfl

theorem fits_plain {start stop level : Nat} {kind : TokenKind} {item : Node .expression}
    (starts : kind.startsOperand = true) (named : Parser.plainExpression? kind = some item) :
    Fits [kind] (.located start stop item) level :=
  .ofChains (.plain starts named)

theorem fits_literal {start stop level : Nat} (value : LiteralValue) :
    Fits [value.kind] (.located start stop (.literal value)) level := by
  cases value with
  | boolean value => cases value <;> exact fits_plain rfl rfl
  | _ => exact fits_plain rfl rfl

theorem fits_unary {start stop : Nat} (operator : UnaryOperator) {kinds : List TokenKind}
    {argument : Located .expression} (inner : Fits kinds argument Level.unary) :
    Fits (operator.kind :: kinds) (.located start stop (.unaryExpression operator argument))
      Level.unary := by
  have named : operator.kind.unaryOperator? = some operator := by
    cases operator <;> rfl
  refine .ofUnary ?_
  intro kind rest behind
  exact .unary named (inner.unary (Nat.le_refl _) kind rest behind)

theorem fits_power {start stop : Nat} {kinds kinds' : List TokenKind}
    {left right : Located .expression} (first : Fits kinds left Level.postfixUpdate)
    (second : Fits kinds' right Level.power) :
    Fits (kinds ++ .punctuator .power :: kinds')
      (.located start stop (.binaryExpression .power left right)) Level.power := by
  refine .ofPower ?_
  intro kind rest behind
  have exponent := second.power (Nat.le_refl _) kind rest behind
  have whole := first.leftHandSide (Nat.le_refl _) (.punctuator .power)
    (kinds' ++ kind :: rest) ⟨rfl, by decide⟩
  simpa using Reads.power whole exponent

theorem fits_binary {start stop : Nat} (operator : BinaryOperator) {kinds kinds' : List TokenKind}
    {left right : Located .expression} (first : Fits kinds left operator.leftLevel)
    (second : Fits kinds' right operator.rightLevel) :
    Fits (kinds ++ operator.kind :: kinds')
      (.located start stop (.binaryExpression operator left right)) operator.level := by
  by_cases same : operator = .power
  · subst same
    exact fits_power first second
  · have named : operator.kind.infixOperator? = some (.binary operator) ∧
        operator.kind.precedence = operator.level ∧ operator.leftLevel = operator.level ∧
        operator.rightLevel = operator.level + 1 ∧ Level.logicalOr ≤ operator.level := by
      revert same
      clear first second
      cases operator <;> intro same <;> first | exact absurd rfl same | decide
    obtain ⟨named, level, leftLevel, rightLevel, high⟩ := named
    rw [leftLevel, ← level] at first
    rw [rightLevel, ← level] at second
    rw [← level] at high ⊢
    exact fits_infix named first second high

theorem fits_logical {start stop : Nat} (operator : LogicalOperator) {kinds kinds' : List TokenKind}
    {left right : Located .expression} (first : Fits kinds left operator.level)
    (second : Fits kinds' right (operator.level + 1)) :
    Fits (kinds ++ operator.kind :: kinds')
      (.located start stop (.logicalExpression operator left right)) operator.level := by
  have named : operator.kind.infixOperator? = some (.logical operator) ∧
      operator.kind.precedence = operator.level ∧ Level.logicalOr ≤ operator.level := by
    cases operator <;> decide
  obtain ⟨named, level, high⟩ := named
  rw [← level] at first second high ⊢
  exact fits_infix named first second high

theorem fits_conditional {start stop : Nat} {kinds kinds' kinds'' : List TokenKind}
    {test consequent alternate : Located .expression} (first : Fits kinds test Level.logicalOr)
    (second : Fits kinds' consequent Level.assignment)
    (third : Fits kinds'' alternate Level.assignment) :
    Fits (kinds ++ .punctuator .question :: (kinds' ++ .punctuator .colon :: kinds''))
      (.located start stop (.conditionalExpression test consequent alternate))
      Level.conditional := by
  refine .ofAssignment ?_
  intro kind rest behind
  have last := third.assignment (Nat.le_refl _) kind rest behind
  have middle := second.assignment (Nat.le_refl _) (.punctuator .colon) (kinds'' ++ kind :: rest)
    ⟨rfl, by decide⟩
  have initial := first.climbs (Nat.le_refl _) 0 (.punctuator .question)
    (kinds' ++ .punctuator .colon :: (kinds'' ++ kind :: rest)) test _ (by decide)
    ⟨rfl, by decide⟩ ⟨rfl, by decide⟩ (.loose rfl (by decide))
  simpa using Reads.conditional initial middle last behind.follows

/-- The object of a member, which has parentheses if it is a number. -/
theorem chains_object {object : Located .expression}
    (fits : ∀ minimum, Fits (object.lexemes minimum) object minimum) :
    Chains (parensIf object.isNumber (object.lexemes Level.sequence) (object.lexemes Level.call))
      object object.containsCall :=
  (fits_parensIf (fits Level.sequence) fun _ => fits Level.call).chains (Nat.le_refl _)

theorem propertyName_wordKind (name : String) :
    Parser.propertyName? (Lexer.wordKind name.toList) = some name := by
  rcases Lexer.wordKind_cases name.toList with ⟨keyword, kind, spelled⟩ | kind
  · rw [kind, Parser.propertyName?, spelled, String.ofList_toList]
  · rw [kind, Parser.propertyName?, String.ofList_toList]

/-- The tokens of a formula are read as the formula. -/
theorem fits_lexemes {expression : Located .expression} (formula : Formula expression)
    (minimum : Nat) : Fits (expression.lexemes minimum) expression minimum := by
  induction formula generalizing minimum with
  | this => exact fits_located (fits_plain rfl rfl)
  | identifier reads => exact fits_located (fits_plain rfl rfl)
  | null => exact fits_located (fits_literal _)
  | boolean value => exact fits_located (fits_literal _)
  | number reads => exact fits_located (fits_literal _)
  | string reads => exact fits_located (fits_literal _)
  | regex reads => exact fits_located (fits_literal _)
  | unary operator inner ih => exact fits_located (fits_unary operator (ih Level.unary))
  | binary operator first second left right =>
      exact fits_located (fits_binary operator (left operator.leftLevel)
        (right operator.rightLevel))
  | logical operator first second left right =>
      exact fits_located (fits_logical operator
        (fits_parensIf (left Level.sequence) fun _ => left operator.level)
        (fits_parensIf (right Level.sequence) fun _ => right (operator.level + 1)))
  | conditional first second third test consequent alternate =>
      exact fits_located (fits_conditional (test Level.logicalOr) (consequent Level.assignment)
        (alternate Level.assignment))
  | @sequence start stop expressions several each ih =>
      refine fits_located (.ofWhole ?_)
      intro kind rest behind
      cases expressions with
      | nil => simp at several
      | cons head tail =>
          rw [Node.items_cons] at ih
          have nonempty : tail.items ≠ [] := by
            intro empty
            simp [empty] at several
          have first := (ih head List.mem_cons_self Level.assignment).assignment (Nat.le_refl _)
          have others := reads_moreExpressions (fun expression listed =>
            ih expression (List.mem_cons_of_mem _ listed) Level.assignment) nonempty behind rest
          change Reads .expression ((head.lexemes Level.assignment ++
            if tail.isNil then [] else .punctuator .comma :: tail.lexemes Level.assignment) ++ _)
            _ _
          cases tail with
          | nil => exact absurd Node.items_nil nonempty
          | cons next more =>
              have reads := first (.punctuator .comma)
                ((Node.cons next more).lexemes Level.assignment ++ kind :: rest) ⟨rfl, by decide⟩
              simpa [Node.isNil] using Reads.sequence reads others
  | member inner named ih =>
      exact fits_located (.ofChains ((chains_object ih).member (propertyName_wordKind _)))
  | computed first second object property =>
      exact fits_located (.ofChains ((chains_object object).computed
        (property Level.sequence).whole))
  | call inner each callee arguments =>
      exact fits_located (.ofChains (Chains.call ((callee Level.call).chains (Nat.le_refl _)).weaken
        (reads_arguments fun expression listed => arguments expression listed Level.assignment)))
  | @new start stop callee list inner each ih arguments =>
      have operand : Chains (parensIf callee.containsCall (callee.lexemes Level.call)
          (callee.lexemes Level.call)) callee false := by
        cases calls : callee.containsCall with
        | true => exact .parens (ih Level.call).whole _
        | false =>
            have chains := (ih Level.call).chains (Nat.le_refl _)
            rw [calls] at chains
            exact chains
      exact fits_located (.ofChains (operand.new
        (reads_arguments fun expression listed => arguments expression listed Level.assignment)))

end Ecmascript
