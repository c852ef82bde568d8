import Ecmascript.Proofs.Translation.Pattern

/-!
# Functions and classes behind a text

The productions of functions and classes, compared on a source and behind another text.
-/

set_option autoImplicit false

namespace Ecmascript.Parser.Translation

variable {c : Translation} {self : Grammar} {place : Place}

/-! ## Modifiers and names -/

namespace Follows

theorem functionName (isDeclaration : Bool) :
    c.Follows .later (Parser.functionName isDeclaration) (Parser.functionName isDeclaration)
      fun _ => .later :=
  .bind (.atMark _) fun _ => .ite (.bind .bindingName fun _ => .pure _) (.pure _)

theorem asyncModifier : c.Follows .later Parser.asyncModifier Parser.asyncModifier fun _ => .later :=
  .bind .peek fun _ => .ite (.bind .advance fun _ => .pure _) (.pure _)

theorem accessorModifier (kind : MethodKind) :
    c.Follows .later (Parser.accessorModifier kind) (Parser.accessorModifier kind)
      fun _ => .later :=
  .bind .peek fun _ => .ite (.bind .advance fun _ => .pure _) (.pure _)

theorem modifiers : c.Follows .later Parser.modifiers Parser.modifiers fun _ => .later := by
  have starred (rest : Bool → Modifiers) :
      c.Follows .later (Parser.eatMark .star >>= fun isGenerator => Pure.pure (rest isGenerator))
        (Parser.eatMark .star >>= fun isGenerator => Pure.pure (rest isGenerator))
        fun _ => .later :=
    .bind (.eatMark _) fun _ => .pure _
  refine .bind (.atName _) fun _ => .ite (.bind .asyncModifier fun _ => starred _) ?_
  refine .bind (.atName _) fun _ => .ite (.bind (.accessorModifier _) fun _ => starred _) ?_
  exact .bind (.atName _) fun _ => .ite (.bind (.accessorModifier _) fun _ => starred _) (starred _)

theorem staticModifier :
    c.Follows .later Parser.staticModifier Parser.staticModifier fun _ => .later := by
  refine .bind (.atName _) fun _ => .ite (.bind .peek fun next => ?_) (.pure _)
  dsimp only [Shifts.shift, Token.shift]
  split
  · exact .pure _
  · exact .pure _
  · exact .pure _
  · exact .pure _
  · exact .bind .advance fun _ => .pure _

theorem className (isDeclaration : Bool) :
    c.Follows .later (Parser.className isDeclaration) (Parser.className isDeclaration)
      fun _ => .later :=
  .bind .currentName? fun _ => .ite (.bind .bindingName fun _ => .pure _) (.pure _)

end Follows

theorem isConstructorKey_shift (key : Located .key) (distance : Nat) :
    isConstructorKey (key.shift distance) = isConstructorKey key := by
  cases key with
  | located start stop item =>
      cases item with
      | literalKey value => cases value <;> rfl
      | _ => rfl

theorem classMethodKind_shift (isStatic : Bool) (modifiers : Modifiers) (key : Located .key)
    (distance : Nat) :
    classMethodKind isStatic modifiers (key.shift distance) =
      classMethodKind isStatic modifiers key := by
  unfold classMethodKind
  rw [isConstructorKey_shift]

/-! ## Productions -/

namespace Carries

variable (carries : c.Carries self)

include carries

theorem block : c.Begins (Parser.block self) :=
  .bind .position fun _ => .bind (.expectMark _) fun _ =>
    .bind (carries.goals (.statements .block)) fun _ => .bind (.expectMark _) fun _ => .finish _ _

theorem functionRest (isAsync isGenerator : Bool) :
    c.Follows place (Parser.functionRest self isAsync isGenerator)
      (Parser.functionRest self isAsync isGenerator) fun _ => .later :=
  .withContext _ <| .bind carries.formalParameters fun _ => .bind carries.block fun _ => .pure _

theorem function (start : Nat) (isAsync isDeclaration : Bool) :
    c.Follows place (Parser.function self start isAsync isDeclaration)
      (Parser.function self (start + c.distance) isAsync isDeclaration) fun _ => .later :=
  .bind (.expectKeyword _) fun _ => .bind (.eatMark _) fun _ =>
    .bind (.functionName _) fun _ => .bind (carries.functionRest _ _) fun _ => .finish _ _

theorem method (isAsync isGenerator : Bool) :
    c.Begins (Parser.method self isAsync isGenerator) :=
  .bind .position fun _ => .bind (carries.functionRest _ _) fun _ => .finish _ _

theorem fieldValue : c.Continues (Parser.fieldValue self) (Parser.fieldValue self) :=
  .bind (.eatMark _) fun _ => .ite
    (.bind (.withContext _ (carries.goals .assignment)) fun _ => .pure _) (.pure _)

theorem classMember : c.Continues (Parser.classMember self) (Parser.classMember self) := by
  refine .bind .position fun _ => .bind .staticModifier fun _ => .bind .modifiers fun _ => ?_
  refine .bind carries.propertyKey fun key => .bind (.atMark _) fun _ => .ite ?_ ?_
  · refine .bind (carries.method _ _) fun value => ?_
    dsimp only [Shifts.shift]
    rw [classMethodKind_shift]
    exact .finish _ (.methodMember _ key _ value)
  · exact .bind carries.fieldValue fun _ => .bind .expectSemicolon fun _ => .finish _ _

theorem classMembers : c.Continues (Parser.classMembers self) (Parser.classMembers self) :=
  .bind (.atMark _) fun _ => .ite (.pure _) <| .bind (.eatMark _) fun _ =>
    .ite (carries.goals .classMembers) <|
      .bind carries.classMember fun _ => .bind (carries.goals .classMembers) fun _ => .pure _

theorem classBody : c.Begins (Parser.classBody self) :=
  .bind .position fun _ => .bind (.expectMark _) fun _ =>
    .bind (.withIn _ (carries.goals .classMembers)) fun _ =>
      .bind (.expectMark _) fun _ => .finish _ _

theorem classParent : c.Continues (Parser.classParent self) (Parser.classParent self) :=
  .bind (.eatKeyword _) fun _ => .ite (.bind (carries.goals .leftHandSide) fun _ => .pure _)
    (.pure _)

theorem classDefinition (isDeclaration : Bool) :
    c.Begins (Parser.classDefinition self isDeclaration) :=
  .bind .position fun _ => .bind (.expectKeyword _) fun _ => .bind (.className _) fun _ =>
    .bind carries.classParent fun _ => .bind carries.classBody fun _ => .finish _ _

end Carries

end Ecmascript.Parser.Translation
