import Ecmascript.Proofs.Level.Expression

/-!
# Levels of operators and operands

The productions of operators and operands stay on their level. A template that has substitutions
goes a level deeper with its first chunk, and comes back with its last one.
-/

set_option autoImplicit false

namespace Ecmascript.Parser

variable {setup : Setup} {self : Grammar} {pre : State → Prop}

namespace Steady

/-! ## Operators -/

theorem expectUpdateTarget (argument : Located .expression) :
    Steady setup pre (Parser.expectUpdateTarget argument) fun _ => pre := by
  cases argument with
  | located start stop item => exact .ite (fun _ => .pure fun _ => id) .fail

section

variable (on : OnLevel setup self)
include on

theorem binaryRest (minimum start : Nat) (left : Located .expression) :
    Steady setup pre (Parser.binaryRest self minimum start left) Done := by
  refine .bind .slashAsDivide fun _ => .bind .currentKind fun kind => .bind .context fun _ => ?_
  refine .ite (fun _ => .give) ?_
  cases named : kind.infixOperator? with
  | none => exact .give
  | some operator =>
      have flat : kind.crosses = false := by cases kind <;> first | rfl | cases named
      exact .bind (.advanceFrom flat) fun _ => .bind (on.goal nofun) fun _ =>
        .bind .finish fun _ => on.goal nofun

theorem binary (minimum : Nat) : Steady setup pre (Parser.binary self minimum) Done :=
  .bind .position fun _ => .bind (on.goal nofun) fun _ => on.goal nofun

theorem powerOf (start : Nat) (isUnary : Bool) :
    Steady setup pre (Parser.powerOf self start isUnary) Done :=
  .bind (on.goal nofun) fun _ => .bind .current fun _ => .ite
    (fun found => .ite (fun _ => .fail) <| .bind (.advanceFrom (by rw [found]; rfl)) fun _ =>
      .bind (on.goal nofun) fun _ => .finish)
    .give

theorem power : Steady setup pre (Parser.power self) Done :=
  .bind .position fun _ => .bind .at? fun _ => .bind .currentKind fun _ =>
    .bind .context fun _ => powerOf on _ _

theorem postfixUpdate : Steady setup pre (Parser.postfixUpdate self) Done := by
  refine .bind .position fun _ => .bind (on.goal nofun) fun argument =>
    .bind .current fun token => ?_
  cases named : token.kind.updateOperator? with
  | none => exact .give
  | some operator =>
      have flat : token.kind.crosses = false := by
        cases kind : token.kind <;> first | rfl | (rw [kind] at named; cases named)
      exact .ite (fun _ => .give) <| .bind (expectUpdateTarget argument) fun _ =>
        .bind (.advanceFrom flat) fun _ => .finish

theorem unary : Steady setup pre (Parser.unary self) Done := by
  refine .bind .position fun _ => .bind .currentKind fun kind => ?_
  have operand {m : Parser (Located .expression)} (flat : kind.crosses = false)
      (rest : Steady setup Anywhere m Done) :
      Steady setup (Next kind) (Parser.advance >>= fun _ => m) Done :=
    .bind (.advanceFrom flat) fun _ => rest
  cases named : kind.unaryOperator? with
  | some operator =>
      refine operand ?_ (.bind (.nested (on.goal nofun)) fun _ => .finish)
      cases kind <;> first | rfl | cases named
  | none =>
      cases updates : kind.updateOperator? with
      | some operator =>
          refine operand ?_ (.bind (.nested (on.goal nofun)) fun argument =>
            .bind (expectUpdateTarget argument) fun _ => .finish)
          cases kind <;> first | rfl | cases updates
      | none =>
          refine .bind .context fun _ => .ite (fun found => ?_) (postfixUpdate on)
          refine operand ?_ (.bind (.nested (on.goal nofun)) fun _ => .finish)
          rw [Bool.and_eq_true, decide_eq_true_eq] at found
          rw [found.2]
          rfl

/-! ## Literals with parts -/

theorem spread : Steady setup pre (Parser.spread self) Done :=
  .bind .position fun _ => .bind .expectMark fun _ => .bind (on.goal nofun) fun _ => .finish

theorem spreadOrAssignment : Steady setup pre (Parser.spreadOrAssignment self) Done :=
  .ifKind (spread on) (on.goal nofun)

theorem argumentList : Steady setup pre (Parser.argumentList self) Done :=
  .ifKind .give <| .bind (spreadOrAssignment on) fun _ => .bind .separator fun _ =>
    .bind (on.goal nofun) fun _ => .give

theorem callArguments : Steady setup pre (Parser.callArguments self) Done :=
  .bind .expectMark fun _ => .bind (.withIn (on.goal nofun)) fun _ =>
    .bind .expectMark fun _ => .give

theorem arrayElements : Steady setup pre (Parser.arrayElements self) Done :=
  .ifKind .give <| .bind .eatMark fun _ => .ite (fun _ => .bind (on.goal nofun) fun _ => .give) <|
    .bind (spreadOrAssignment on) fun _ => .bind .separator fun _ =>
      .bind (on.goal nofun) fun _ => .give

theorem arrayLiteral : Steady setup pre (Parser.arrayLiteral self) Done :=
  .bind .position fun _ => .bind .expectMark fun _ => .bind (.withIn (on.goal nofun)) fun _ =>
    .bind .expectMark fun _ => .finish

theorem namedMember (start : Nat) : Steady setup pre (Parser.namedMember self start) Done := by
  refine .bind .modifiers fun _ => .bind .currentName? fun shorthand => ?_
  refine .bind (propertyKey on) fun _ => .bind .at? fun _ => .ite (fun _ => ?_) ?_
  · exact .bind (method on _ _) fun _ => .finish
  · refine .bind .eatMark fun _ => .ite (fun _ => .bind (on.goal nofun) fun _ => .finish) ?_
    cases shorthand with
    | some name => exact .finish
    | none => exact .unexpected

theorem objectMember : Steady setup pre (Parser.objectMember self) Done :=
  .bind .position fun _ => .bind .eatMark fun _ => .ite
    (fun _ => .bind (on.goal nofun) fun _ => .finish) (namedMember on _)

theorem objectMembers : Steady setup pre (Parser.objectMembers self) Done :=
  .ifKind .give <| .bind (objectMember on) fun _ => .bind .separator fun _ =>
    .bind (on.goal nofun) fun _ => .give

theorem objectLiteral : Steady setup pre (Parser.objectLiteral self) Done :=
  .bind .position fun _ => .bind .expectMark fun _ => .bind (.withIn (on.goal nofun)) fun _ =>
    .bind .expectMark fun _ => .finish

end

end Steady

/-! ## Templates -/

section

variable {s s' : State} {levels : Nat}

/-- The rest of a template ends on the level of its first chunk. -/
theorem OnLevel.templateRest (on : OnLevel setup self) {value : Goal.templateRest.Result}
    (level : s.Level (levels + 1)) (outcome : Parser.templateRest self setup s = .ok value s') :
    s'.Level levels := by
  obtain ⟨expression, t, inner, outcome⟩ := bind_ok outcome
  have inside : Steady setup Anywhere (Parser.withIn true (self .expression)) Done :=
    .withIn (on.goal nofun)
  have level' := (inside s (levels + 1) expression t trivial level inner).1
  rw [current_bind] at outcome
  obtain ⟨m, same, outcome⟩ := run_ok outcome
  split at same
  · rename_i raw kind
    subst same
    obtain ⟨_, t', moved, outcome⟩ := bind_ok outcome
    obtain ⟨rest, t'', more, outcome⟩ := bind_ok outcome
    cases outcome
    exact on.template t' levels rest s' (level'.advance (by rw [kind]; rfl) moved) more
  · rename_i raw kind
    subst same
    obtain ⟨_, t', moved, outcome⟩ := bind_ok outcome
    cases outcome
    exact level'.tail kind moved
  · subst same
    exact absurd outcome not_unexpected

theorem Steady.templateLiteral (on : OnLevel setup self) :
    Steady setup pre (Parser.templateLiteral self) Done := by
  refine .bind .position fun start s levels value s' _ level outcome => ?_
  rw [current_bind] at outcome
  obtain ⟨m, same, outcome⟩ := run_ok outcome
  split at same
  · rename_i raw kind
    subst same
    obtain ⟨_, t, moved, outcome⟩ := bind_ok outcome
    cases outcome
    exact ⟨level.advance (by rw [kind]; rfl) moved, trivial⟩
  · rename_i raw kind
    subst same
    obtain ⟨_, t, moved, outcome⟩ := bind_ok outcome
    obtain ⟨rest, t', more, outcome⟩ := bind_ok outcome
    cases outcome
    exact ⟨on.template t levels rest _ (level.head kind moved) more, trivial⟩
  · subst same
    exact absurd outcome not_unexpected

end

/-! ## Operands -/

namespace Steady

theorem plainExpression : Steady setup pre Parser.plainExpression Done := by
  refine .bind .position fun _ => .bind .currentKind fun kind => ?_
  cases plain : plainExpression? kind with
  | some item =>
      have flat : kind.crosses = false := by cases kind <;> first | rfl | cases plain
      exact .bind (.advanceFrom flat) fun _ => .finish
  | none => exact .unexpected

variable (on : OnLevel setup self)
include on

theorem functionExpression (start : Nat) (isAsync : Bool) :
    Steady setup pre (Parser.functionExpression self start isAsync) Done :=
  .bind (function on _ _ _) fun _ => .give

theorem asyncOperand {name : String} :
    Steady setup (Next (.identifier name)) (Parser.asyncOperand self) Done :=
  .bind .position fun _ => .bind .peek fun _ => .ite
    (fun _ => .bind (.advance fun _ holds => holds.1 ▸ rfl) fun _ => functionExpression on _ _)
    plainExpression

theorem primary : Steady setup pre (Parser.primary self) Done := by
  refine .bind .slashAsRegex fun _ => .bind .position fun start => .bind .currentKind fun kind => ?_
  split
  · exact .bind (.advanceFrom rfl) fun _ => .bind (.withIn (on.goal nofun)) fun _ =>
      .bind .expectMark fun _ => .give
  · exact arrayLiteral on
  · exact objectLiteral on
  · exact functionExpression on start false
  · exact .bind (classDefinition on _) fun _ => .give
  · exact .bind (templateLiteral on) fun _ => .give
  · exact .bind (templateLiteral on) fun _ => .give
  · exact .ite (fun _ => asyncOperand on) plainExpression
  · exact plainExpression

theorem memberRest (start : Nat) (object : Located .expression) (allowCall : Bool) :
    Steady setup pre (Parser.memberRest self start object allowCall) Done := by
  refine .bind .currentKind fun kind => ?_
  split
  · exact .bind (.advanceFrom rfl) fun _ => .bind .propertyName fun _ =>
      .bind .finish fun _ => on.goal nofun
  · exact .bind (.advanceFrom rfl) fun _ => .bind (.withIn (on.goal nofun)) fun _ =>
      .bind .expectMark fun _ => .bind .finish fun _ => on.goal nofun
  · exact .ite (fun _ => .bind (callArguments on) fun _ => .bind .finish fun _ => on.goal nofun)
      .give
  · exact .bind (templateLiteral on) fun _ => .bind .finish fun _ => on.goal nofun
  · exact .bind (templateLiteral on) fun _ => .bind .finish fun _ => on.goal nofun
  · exact .give

theorem newOperand : Steady setup pre (Parser.newOperand self) Done :=
  .ifKind (.nested (on.goal nofun)) (primary on)

theorem newArguments : Steady setup pre (Parser.newArguments self) Done :=
  .ifKind (callArguments on) .give

theorem newExpression : Steady setup pre (Parser.newExpression self) Done :=
  .bind .position fun _ => .bind .expectKeyword fun _ => .bind .position fun _ =>
    .bind (newOperand on) fun _ => .bind (on.goal nofun) fun _ =>
      .bind (newArguments on) fun _ => .finish

theorem leftmostOperand : Steady setup pre (Parser.leftmostOperand self) Done :=
  .ifKind (on.goal nofun) (primary on)

theorem leftHandSide : Steady setup pre (Parser.leftHandSide self) Done :=
  .bind .position fun _ => .bind (leftmostOperand on) fun _ => on.goal nofun

end Steady

end Ecmascript.Parser
