import Ecmascript.Proofs.Progress.Expression

/-!
# Progress in operands

What the productions of operators, literals and operands read.
-/

set_option autoImplicit false

namespace Ecmascript.Parser.Eats

variable {setup : Setup} {self : Grammar} {pre : State → Prop} {bound : Nat}

/-! ## Operators -/

theorem binaryRest (later : Later setup self bound) {minimum start : Nat}
    {left : Located .expression} :
    Eats setup pre bound (fun _ => 0) (Parser.binaryRest self minimum start left) := by
  refine slashAsDivide.bind fun _ rest le => kind fun kind => context fun context => ?_
  refine ite (fun _ => pure rfl) fun _ => ?_
  cases found : kind.infixOperator? with
  | none => exact pure rfl
  | some operator =>
      have goes_on : kind ≠ .endOfInput := by
        intro ends
        rw [ends] at found
        cases found
      refine (advanceFrom goes_on).bind fun _ rest' less => ?_
      refine (later rest' (by omega) (.binary kind.precedence)).bind fun right rest'' less' => ?_
      refine (finish (fun _ => rfl)).bind fun combined rest''' le' => ?_
      have below : rest''' < bound := by omega
      exact (later rest''' below (.binaryRest minimum start combined)).atMost (Nat.le_refl _)
        (by simp)

theorem binary (later : Later setup self bound)
    (power : Eats setup Anywhere bound (fun _ => 1) (self .power)) {minimum : Nat} :
    Eats setup pre bound (fun _ => 1) (Parser.binary self minimum) := by
  refine position fun start => (power.within (Nat.le_refl _)).bind fun left rest less => ?_
  exact (later rest less (.binaryRest minimum start left)).atMost (Nat.le_refl _) (by simp)

theorem power (later : Later setup self bound)
    (unary : Eats setup Anywhere bound (fun _ => 1) (self .unary)) :
    Eats setup pre bound (fun _ => 1) (Parser.power self) := by
  refine position fun start => ask fun isAwait => kind fun kind => context fun context => ?_
  refine (unary.within (Nat.le_refl _)).bind fun left rest less => token fun token => ?_
  refine ifDecided (fun _ => ite (fun _ => fail) fun _ => ?_) fun _ => pure rfl
  refine step.bind fun _ rest' le => ?_
  exact (later rest' (by omega) .power).bind fun right _ _ => finish fun _ => rfl

theorem expectUpdateTarget {expression : Located .expression} :
    Eats setup pre bound (fun _ => 0) (Parser.expectUpdateTarget expression) := by
  cases expression with
  | located start stop item => exact ite (fun _ => pure rfl) fun _ => fail

theorem postfixUpdate
    (operand : Eats setup Anywhere bound (fun _ => 1) (self .leftHandSide)) :
    Eats setup pre bound (fun _ => 1) (Parser.postfixUpdate self) := by
  refine position fun start => (operand.within (Nat.le_refl _)).bind fun argument rest less => ?_
  refine token fun token => ?_
  split
  · exact pure rfl
  · refine ite (fun _ => pure rfl) fun _ => expectUpdateTarget.bind fun _ rest' le => ?_
    exact step.bind fun _ _ _ => finish fun _ => rfl

theorem unary (later : Later setup self bound)
    (operand : Eats setup Anywhere bound (fun _ => 1) (self .leftHandSide)) :
    Eats setup pre bound (fun _ => 1) (Parser.unary self) := by
  refine position fun start => kind fun kind => ?_
  cases found : kind.unaryOperator? with
  | some operator =>
      have goes_on : kind ≠ .endOfInput := by
        intro ends
        rw [ends] at found
        cases found
      refine (advanceFrom goes_on).bind fun _ rest less => ?_
      exact (nested (later rest less .unary)).bind fun argument _ _ => finish fun _ => rfl
  | none =>
      cases found' : kind.updateOperator? with
      | some operator =>
          have goes_on : kind ≠ .endOfInput := by
            intro ends
            rw [ends] at found'
            cases found'
          refine (advanceFrom goes_on).bind fun _ rest less => ?_
          refine (nested (later rest less .unary)).bind fun argument _ _ => ?_
          exact expectUpdateTarget.bind fun _ _ _ => finish fun _ => rfl
      | none =>
          refine context fun context => ite (fun both => ?_) fun _ => postfixUpdate operand
          have goes_on : kind ≠ .endOfInput := by
            simp only [Bool.and_eq_true, decide_eq_true_eq] at both
            rw [both.2]
            nofun
          refine (advanceFrom goes_on).bind fun _ rest less => ?_
          exact (nested (later rest less .unary)).bind fun argument _ _ => finish fun _ => rfl

/-! ## Literals with parts -/

theorem spread (later : Later setup self bound) :
    Eats setup pre bound (fun _ => 1) (Parser.spread self) := by
  refine position fun start => (expectMark .ellipsis).bind fun _ rest less => ?_
  exact (later rest less .assignment).bind fun argument _ _ => finish fun _ => rfl

theorem spreadOrAssignment (later : Later setup self bound)
    (assignment : Eats setup Anywhere bound (fun _ => 1) (self .assignment)) :
    Eats setup pre bound (fun _ => 1) (Parser.spreadOrAssignment self) :=
  ifMark .ellipsis (spread later) (assignment.within (Nat.le_refl _))

theorem argumentList (later : Later setup self bound)
    (assignment : Eats setup Anywhere bound (fun _ => 1) (self .assignment)) :
    Eats setup pre bound (fun _ => 0) (Parser.argumentList self) := by
  refine ifMark .rightParen (pure rfl) ?_
  refine (spreadOrAssignment later assignment).bind fun argument rest less => ?_
  refine (separator .rightParen).bind fun _ rest' le => ?_
  exact (later rest' (by omega) .arguments).bind fun arguments _ _ => pure rfl

theorem callArguments (later : Later setup self bound) :
    Eats setup pre bound (fun _ => 1) (Parser.callArguments self) := by
  refine (expectMark .leftParen).bind fun _ rest less => ?_
  refine (withIn (later rest less .arguments)).bind fun arguments _ _ => ?_
  exact (expectMark .rightParen).bind fun _ _ _ => pure rfl

theorem arrayElements (later : Later setup self bound)
    (assignment : Eats setup Anywhere bound (fun _ => 1) (self .assignment)) :
    Eats setup pre bound (fun _ => 0) (Parser.arrayElements self) := by
  refine ifMark .rightBracket (pure rfl) (ifEatMark .comma (fun rest less => ?_) ?_)
  · exact (later rest less .arrayElements).bind fun elements _ _ => pure rfl
  · refine (spreadOrAssignment later assignment).bind fun element rest less => ?_
    refine (separator .rightBracket).bind fun _ rest' le => ?_
    exact (later rest' (by omega) .arrayElements).bind fun elements _ _ => pure rfl

theorem arrayLiteral (later : Later setup self bound) :
    Eats setup pre bound (fun _ => 1) (Parser.arrayLiteral self) := by
  refine position fun start => (expectMark .leftBracket).bind fun _ rest less => ?_
  refine (withIn (later rest less .arrayElements)).bind fun elements _ _ => ?_
  exact (expectMark .rightBracket).bind fun _ _ _ => finish fun _ => rfl

theorem namedMember (later : Later setup self bound) {start : Nat} :
    Eats setup pre bound (fun _ => 1) (Parser.namedMember self start) := by
  refine modifiers.bind fun modifiers rest le => currentName?.bind fun shorthand rest' le' => ?_
  refine (propertyKey (later.within (by omega))).bind fun key left less => ask fun callable => ?_
  have later := later.within (show left ≤ bound by omega)
  refine ite (fun _ => (method later).bind fun value _ _ => finish fun _ => rfl) fun _ => ?_
  refine ifEatMark .colon (fun rest'' less' => ?_) ?_
  · exact (later rest'' less' .assignment).bind fun value _ _ => finish fun _ => rfl
  · cases shorthand with
    | some name => exact finish fun _ => rfl
    | none => exact unexpected

theorem objectMember (later : Later setup self bound) :
    Eats setup pre bound (fun _ => 1) (Parser.objectMember self) := by
  refine position fun start => ifEatMark .ellipsis (fun rest less => ?_) (namedMember later)
  exact (later rest less .assignment).bind fun argument _ _ => finish fun _ => rfl

theorem objectMembers (later : Later setup self bound) :
    Eats setup pre bound (fun _ => 0) (Parser.objectMembers self) := by
  refine ifMark .rightBrace (pure rfl) ((objectMember later).bind fun property rest less => ?_)
  refine (separator .rightBrace).bind fun _ rest' le => ?_
  exact (later rest' (by omega) .objectMembers).bind fun properties _ _ => pure rfl

theorem objectLiteral (later : Later setup self bound) :
    Eats setup pre bound (fun _ => 1) (Parser.objectLiteral self) := by
  refine position fun start => (expectMark .leftBrace).bind fun _ rest less => ?_
  refine (withIn (later rest less .objectMembers)).bind fun properties _ _ => ?_
  exact (expectMark .rightBrace).bind fun _ _ _ => finish fun _ => rfl

theorem templateRest (later : Later setup self bound)
    (expression : Eats setup Anywhere bound (fun _ => 1) (self .expression)) :
    Eats setup pre bound (fun _ => 1) (Parser.templateRest self) := by
  refine (withIn expression).bind fun expression rest less => token fun token => ?_
  split
  · refine step.bind fun _ rest' le => ?_
    exact (later rest' (by omega) .templateRest).bind fun parts _ _ => pure rfl
  · exact step.bind fun _ _ _ => pure rfl
  · exact unexpected

theorem templateLiteral (later : Later setup self bound) :
    Eats setup pre bound (fun _ => 1) (Parser.templateLiteral self) := by
  refine position fun start => token fun token => ?_
  cases kind : token.kind with
  | template part raw =>
      cases part with
      | whole => exact (advanceFrom (by nofun)).bind fun _ _ _ => finish fun _ => rfl
      | head =>
          refine (advanceFrom (by nofun)).bind fun _ rest less => ?_
          exact (later rest less .templateRest).bind fun parts _ _ => finish fun _ => rfl
      | _ => exact unexpected
  | _ => exact unexpected

/-! ## Operands -/

theorem plainExpression : Eats setup pre bound (fun _ => 1) Parser.plainExpression := by
  refine position fun start => kind fun kind => ?_
  cases plain : plainExpression? kind with
  | some item =>
      have goes_on : kind ≠ .endOfInput := by
        intro ends
        rw [ends] at plain
        cases plain
      exact (advanceFrom goes_on).bind fun _ _ _ => finish fun _ => rfl
  | none => exact unexpected

theorem functionExpression (later : Later setup self bound) {start : Nat} {isAsync : Bool} :
    Eats setup pre bound (fun _ => 1) (Parser.functionExpression self start isAsync) :=
  (function later).bind fun _ _ _ => pure rfl

theorem asyncOperand (later : Later setup self bound) :
    Eats setup pre bound (fun _ => 1) (Parser.asyncOperand self) := by
  refine position fun start => peek fun next => ite (fun _ => ?_) fun _ => plainExpression
  refine step.bind fun _ rest le => ?_
  exact (functionExpression (later.within le)).atMost (Nat.le_refl _) (by simp)

theorem primary (later : Later setup self bound) :
    Eats setup pre bound (fun _ => 1) (Parser.primary self) := by
  refine slashAsRegex.bind fun _ left le => position fun start => kind fun kind => ?_
  have later := later.within le
  split
  · refine (advanceFrom (by nofun)).bind fun _ rest less => ?_
    refine (withIn (later rest less .expression)).bind fun inner _ _ => ?_
    exact (expectMark .rightParen).bind fun _ _ _ => pure rfl
  · exact arrayLiteral later
  · exact objectLiteral later
  · exact functionExpression later
  · exact (classDefinition later).bind fun definition _ _ => pure rfl
  · exact (templateLiteral later).bind fun content _ _ => pure rfl
  · exact (templateLiteral later).bind fun content _ _ => pure rfl
  · exact ifDecided (fun _ => asyncOperand later) fun _ => plainExpression
  · exact plainExpression

theorem memberRest (later : Later setup self bound) {start : Nat} {object : Located .expression}
    {allowCall : Bool} :
    Eats setup pre bound (fun _ => 0) (Parser.memberRest self start object allowCall) := by
  have more {rest left : Nat} (less : rest + 1 ≤ bound) (le : left ≤ rest)
      (member : Located .expression) :
      Eats setup Anywhere left (fun _ => 0) (self (.memberRest start member allowCall)) :=
    later left (by omega) (.memberRest start member allowCall)
  refine kind fun kind => ?_
  split
  · refine (advanceFrom (by nofun)).bind fun _ rest less => ?_
    refine propertyName.bind fun property rest' le => ?_
    refine (finish (fun _ => rfl)).bind fun member left le' => ?_
    exact (more less (by omega) member).atMost (Nat.le_refl _) (by simp)
  · refine (advanceFrom (by nofun)).bind fun _ rest less => ?_
    refine (withIn (later rest less .expression)).bind fun property rest' le => ?_
    refine (expectMark .rightBracket).bind fun _ rest'' le' => ?_
    refine (finish (fun _ => rfl)).bind fun member left le'' => ?_
    exact (more less (by omega) member).atMost (Nat.le_refl _) (by simp)
  · refine ite (fun _ => ?_) fun _ => pure rfl
    refine (callArguments later).bind fun arguments rest less => ?_
    refine (finish (fun _ => rfl)).bind fun call left le => ?_
    exact (more less (by omega) call).atMost (Nat.le_refl _) (by simp)
  · refine (templateLiteral later).bind fun quasi rest less => ?_
    refine (finish (fun _ => rfl)).bind fun tagged left le => ?_
    exact (more less (by omega) tagged).atMost (Nat.le_refl _) (by simp)
  · refine (templateLiteral later).bind fun quasi rest less => ?_
    refine (finish (fun _ => rfl)).bind fun tagged left le => ?_
    exact (more less (by omega) tagged).atMost (Nat.le_refl _) (by simp)
  · exact pure rfl

theorem newOperand (later : Later setup self bound)
    (inner : Eats setup Anywhere bound (fun _ => 1) (self .newExpression)) :
    Eats setup pre bound (fun _ => 1) (Parser.newOperand self) :=
  ifKeyword .newWord (nested inner) (primary later)

theorem newArguments (later : Later setup self bound) :
    Eats setup pre bound (fun _ => 0) (Parser.newArguments self) :=
  ifMark .leftParen ((callArguments later).atMost (Nat.le_refl _) (by simp)) (pure rfl)

theorem newExpression (later : Later setup self bound) :
    Eats setup pre bound (fun _ => 1) (Parser.newExpression self) := by
  refine position fun start => (expectKeyword .newWord).bind fun _ rest less => ?_
  refine position fun calleeStart => ?_
  refine (newOperand (later.within (by omega)) (later rest less .newExpression)).bind
    fun operand rest' less' => ?_
  have below : rest' < bound := by omega
  refine (later rest' below (.memberRest calleeStart operand false)).bind
    fun callee rest'' le => ?_
  exact (newArguments (later.within (by omega))).bind fun arguments _ _ => finish fun _ => rfl

theorem leftmostOperand (later : Later setup self bound)
    (inner : Eats setup Anywhere bound (fun _ => 1) (self .newExpression)) :
    Eats setup pre bound (fun _ => 1) (Parser.leftmostOperand self) :=
  ifKeyword .newWord (inner.within (Nat.le_refl _)) (primary later)

theorem leftHandSide (later : Later setup self bound)
    (inner : Eats setup Anywhere bound (fun _ => 1) (self .newExpression)) :
    Eats setup pre bound (fun _ => 1) (Parser.leftHandSide self) := by
  refine position fun start => (leftmostOperand later inner).bind fun operand rest less => ?_
  exact (later rest less (.memberRest start operand true)).atMost (Nat.le_refl _) (by simp)

end Ecmascript.Parser.Eats
