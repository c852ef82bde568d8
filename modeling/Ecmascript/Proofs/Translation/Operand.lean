import Ecmascript.Proofs.Translation.Expression

/-!
# Operands behind a text

The productions of literals with parts, of members and of calls, compared on a source and behind
another text.
-/

set_option autoImplicit false

namespace Ecmascript.Parser.Translation

variable {c : Translation} {self : Grammar} {place : Place}

/-- A chunk of template text is moved with its token, because the token is longer than its closing
delimiter. -/
theorem chunkOf_shift {token : Token} {part : TemplatePart} {raw : String}
    (written : token.Written c.source) (kind : token.kind = .template part raw) (newline : Bool)
    (closing : Nat) (size : closing = part.closing.byteLength) :
    chunkOf { kind := token.kind, start := token.start + c.distance,
              stop := token.stop + c.distance, newlineBefore := newline } closing raw =
      (chunkOf token closing raw).shift c.distance := by
  have inside := (written.chunk kind).2.2
  have start : token.start + c.distance + 1 = token.start + 1 + c.distance := by omega
  have stop : token.stop + c.distance - closing = token.stop - closing + c.distance := by omega
  change Node.located (token.start + c.distance + 1) _ _ = Node.located (_ + c.distance) _ _
  rw [start]
  exact congrArg (Node.located _ · _) stop

namespace Follows

theorem plainExpression : c.Begins Parser.plainExpression := by
  refine .bind .position fun start => .kind fun kind => ?_
  cases plain : plainExpression? kind with
  | some item =>
      refine .bind .advance fun _ => ?_
      have moved := @Follows.finish c _ start item
      rw [shift_of_leaf (parts_plainExpression plain)] at moved
      exact moved
  | none => exact .unexpected

end Follows

namespace Carries

variable (carries : c.Carries self)

include carries

/-! ## Literals with parts -/

theorem spread : c.Begins (Parser.spread self) :=
  .bind .position fun _ => .bind (.expectMark _) fun _ =>
    .bind (carries.goals .assignment) fun _ => .finish _ _

theorem spreadOrAssignment : c.Begins (Parser.spreadOrAssignment self) :=
  .bind (.atMark _) fun _ => .ite carries.spread (carries.goals .assignment)

theorem argumentList : c.Continues (Parser.argumentList self) (Parser.argumentList self) :=
  .bind (.atMark _) fun _ => .ite (.pure _) <| .bind carries.spreadOrAssignment fun _ =>
    .bind (.separator _) fun _ => .bind (carries.goals .arguments) fun _ => .pure _

theorem callArguments : c.Begins (Parser.callArguments self) :=
  .bind (.expectMark _) fun _ => .bind (.withIn _ (carries.goals .arguments)) fun _ =>
    .bind (.expectMark _) fun _ => .pure _

theorem arrayElements : c.Continues (Parser.arrayElements self) (Parser.arrayElements self) :=
  .bind (.atMark _) fun _ => .ite (.pure _) <| .bind (.eatMark _) fun _ =>
    .ite (.bind (carries.goals .arrayElements) fun _ => .pure _) <|
      .bind carries.spreadOrAssignment fun _ => .bind (.separator _) fun _ =>
        .bind (carries.goals .arrayElements) fun _ => .pure _

theorem arrayLiteral : c.Begins (Parser.arrayLiteral self) :=
  .bind .position fun _ => .bind (.expectMark _) fun _ =>
    .bind (.withIn _ (carries.goals .arrayElements)) fun _ => .bind (.expectMark _) fun _ =>
      .finish _ _

theorem namedMember (start : Nat) :
    c.Continues (Parser.namedMember self start) (Parser.namedMember self (start + c.distance)) := by
  refine .bind .modifiers fun modifiers => .bind .currentName? fun shorthand => ?_
  refine .bind carries.propertyKey fun _ => .bind (.atMark _) fun _ => .ite ?_ ?_
  · exact .bind (carries.method _ _) fun _ => .finish _ _
  · refine .bind (.eatMark _) fun _ => .ite
      (.bind (carries.goals .assignment) fun _ => .finish _ _) ?_
    cases shorthand with
    | some name => exact .finish _ (.shorthandProperty name)
    | none => exact .unexpected

theorem objectMember : c.Continues (Parser.objectMember self) (Parser.objectMember self) :=
  .bind .position fun start => .bind (.eatMark _) fun _ => .ite
    (.bind (carries.goals .assignment) fun _ => .finish _ _) (carries.namedMember start)

theorem objectMembers : c.Continues (Parser.objectMembers self) (Parser.objectMembers self) :=
  .bind (.atMark _) fun _ => .ite (.pure _) <| .bind carries.objectMember fun _ =>
    .bind (.separator _) fun _ => .bind (carries.goals .objectMembers) fun _ => .pure _

theorem objectLiteral : c.Begins (Parser.objectLiteral self) :=
  .bind .position fun _ => .bind (.expectMark _) fun _ =>
    .bind (.withIn _ (carries.goals .objectMembers)) fun _ => .bind (.expectMark _) fun _ =>
      .finish _ _

theorem templateRest :
    c.Follows .later (Parser.templateRest self) (Parser.templateRest self) fun _ => .later := by
  refine .bind (.withIn _ (carries.goals .expression)) fun expression =>
    .token fun token newline written _ => ?_
  dsimp only [Token.shift]
  split
  · rename_i raw kind
    refine .bind .advance fun _ => .bind (carries.goals .templateRest) fun rest => ?_
    rw [chunkOf_shift written kind newline 2 rfl]
    exact .pure (Node.cons (chunkOf token 2 raw) rest.1, Node.cons expression rest.2)
  · rename_i raw kind
    refine .bind .advance fun _ => ?_
    rw [chunkOf_shift written kind newline 1 rfl]
    exact .pure (Node.single (chunkOf token 1 raw), Node.single expression)
  · exact .unexpected

theorem templateLiteral : c.Begins (Parser.templateLiteral self) := by
  refine .bind .position fun start => .token fun token newline written _ => ?_
  dsimp only [Token.shift]
  split
  · rename_i raw kind
    refine .bind .advance fun _ => ?_
    rw [chunkOf_shift written kind newline 1 rfl]
    exact .finish start (.template (.single (chunkOf token 1 raw)) .nil)
  · rename_i raw kind
    refine .bind .advance fun _ => .bind (carries.goals .templateRest) fun rest => ?_
    rw [chunkOf_shift written kind newline 2 rfl]
    exact .finish start (.template (.cons (chunkOf token 2 raw) rest.1) rest.2)
  · exact .unexpected

/-! ## Operands -/

theorem functionExpression (start : Nat) (isAsync : Bool) :
    c.Follows place (Parser.functionExpression self start isAsync)
      (Parser.functionExpression self (start + c.distance) isAsync) fun _ => .later := by
  refine .bind (carries.function _ _ _) fun definition => ?_
  cases definition with
  | located start stop item => exact .pure _

theorem asyncOperand : c.Begins (Parser.asyncOperand self) :=
  .bind .position fun start => .bind .peek fun _ => .ite
    (.bind .advance fun _ => carries.functionExpression start true) .plainExpression

theorem primary : c.Begins (Parser.primary self) := by
  refine .bind .slashAsRegex fun _ => .bind .position fun start => .kind fun kind => ?_
  split
  · exact .bind .advance fun _ => .bind (.withIn _ (carries.goals .expression)) fun _ =>
      .bind (.expectMark _) fun _ => .pure _
  · exact carries.arrayLiteral
  · exact carries.objectLiteral
  · exact carries.functionExpression start false
  · refine .bind (carries.classDefinition _) fun definition => ?_
    cases definition with
    | located start stop item => exact .pure _
  · refine .bind carries.templateLiteral fun content => ?_
    cases content with
    | located start stop item => exact .pure _
  · refine .bind carries.templateLiteral fun content => ?_
    cases content with
    | located start stop item => exact .pure _
  · exact .ite carries.asyncOperand .plainExpression
  · exact .plainExpression

theorem memberRest (start : Nat) (object : Located .expression) (allowCall : Bool) :
    c.Continues (Parser.memberRest self start object allowCall)
      (Parser.memberRest self (start + c.distance) (object.shift c.distance) allowCall) := by
  have rest (member : Located .expression) := carries.goals (.memberRest start member allowCall)
  refine .kind fun kind => ?_
  split
  · exact .bind .advance fun _ => .bind .propertyName fun _ => .bind (.finish _ _) rest
  · exact .bind .advance fun _ => .bind (.withIn _ (carries.goals .expression)) fun _ =>
      .bind (.expectMark _) fun _ => .bind (.finish _ _) rest
  · exact .ite (.bind carries.callArguments fun _ => .bind (.finish _ _) rest) (.pure _)
  · exact .bind carries.templateLiteral fun _ => .bind (.finish _ _) rest
  · exact .bind carries.templateLiteral fun _ => .bind (.finish _ _) rest
  · exact .pure _

theorem newOperand : c.Begins (Parser.newOperand self) :=
  .bind (.atKeyword _) fun _ => .ite (.nested (carries.goals .newExpression)) carries.primary

theorem newArguments : c.Continues (Parser.newArguments self) (Parser.newArguments self) :=
  .bind (.atMark _) fun _ => .ite carries.callArguments (.pure _)

theorem newExpression : c.Begins (Parser.newExpression self) :=
  .bind .position fun _ => .bind (.expectKeyword _) fun _ => .bind .position fun start =>
    .bind carries.newOperand fun operand =>
      .bind (carries.goals (.memberRest start operand false)) fun _ =>
        .bind carries.newArguments fun _ => .finish _ _

theorem leftmostOperand : c.Begins (Parser.leftmostOperand self) :=
  .bind (.atKeyword _) fun _ => .ite (carries.goals .newExpression) carries.primary

theorem leftHandSide : c.Begins (Parser.leftHandSide self) :=
  .bind .position fun start => .bind carries.leftmostOperand fun operand =>
    carries.goals (.memberRest start operand true)

end Carries

end Ecmascript.Parser.Translation
