import Ecmascript.Proofs.Level.Basic

/-!
# Levels of patterns, functions and expressions

The productions of patterns, functions, classes and expressions stay on their level, when the goals
do that they call.
-/

set_option autoImplicit false

namespace Ecmascript.Parser

/-- The goals of a grammar stay on their level. The rest of a template begins a level deeper. -/
structure OnLevel (setup : Setup) (grammar : Grammar) : Prop where
  goals : ∀ goal, goal ≠ .templateRest → Steady setup Anywhere (grammar goal) Done
  template : ∀ s levels value s', s.Level (levels + 1) →
    grammar .templateRest setup s = .ok value s' → s'.Level levels

variable {setup : Setup} {self : Grammar} {pre : State → Prop} {s s' : State} {levels : Nat}

theorem OnLevel.goal (on : OnLevel setup self) {goal : Goal} (other : goal ≠ .templateRest) :
    Steady setup pre (self goal) Done :=
  (on.goals goal other).weaken (fun _ _ => trivial) fun _ _ => id

namespace Steady

/-! ## Patterns -/

theorem targetOf (expression : Located .expression) :
    Steady setup pre (Parser.targetOf expression) fun _ => pre := by
  cases expression with
  | located start stop item =>
      cases item with
      | identifier _ | memberExpression _ _ | computedMember _ _ => exact .pure fun _ => id
      | _ => exact .fail

theorem separator {close : Punctuator} : Steady setup pre (Parser.separator close) Done :=
  .ifKind .give .expectMark

section

variable (on : OnLevel setup self)
include on

theorem propertyKey : Steady setup pre (Parser.propertyKey self) Done := by
  refine .bind .position fun start => .bind .eatMark fun _ => .ite (fun _ => ?_) ?_
  · exact .bind (.withIn (on.goal nofun)) fun _ => .bind .expectMark fun _ => .finish
  · refine .bind .currentKind fun kind => ?_
    cases plain : plainKey? kind with
    | some key =>
        refine .bind (.advanceFrom ?_) fun _ => .finish
        cases kind <;> first | rfl | cases plain
    | none => exact .unexpected

theorem targetElement (use : PatternUse) :
    Steady setup pre (Parser.targetElement self use) Done :=
  .bind .position fun _ => .bind (on.goal nofun) fun _ => .bind .eatMark fun _ => .ite
    (fun _ => .bind (.withIn (on.goal nofun)) fun _ => .finish) .give

theorem targetRest (use : PatternUse) : Steady setup pre (Parser.targetRest self use) Done :=
  .bind .position fun _ => .bind .expectMark fun _ => .bind (on.goal nofun) fun _ => .finish

theorem targetElements (use : PatternUse) :
    Steady setup pre (Parser.targetElements self use) Done := by
  refine .ifKind .give <| .bind .eatMark fun _ =>
    .ite (fun _ => .bind (on.goal nofun) fun _ => .give) ?_
  refine .ifKind (.bind (targetRest on use) fun _ => .give) ?_
  exact .bind (targetElement on use) fun _ => .bind .separator fun _ =>
    .bind (on.goal nofun) fun _ => .give

theorem arrayPattern (use : PatternUse) : Steady setup pre (Parser.arrayPattern self use) Done :=
  .bind .position fun _ => .bind .expectMark fun _ => .bind (on.goal nofun) fun _ =>
    .bind .expectMark fun _ => .finish

theorem shorthandTarget (key : Located .key) (name : String) :
    Steady setup pre (Parser.shorthandTarget self key name) Done :=
  .bind .eatMark fun _ => .ite (fun _ => .bind (.withIn (on.goal nofun)) fun _ => .finish) .give

theorem targetProperty (use : PatternUse) :
    Steady setup pre (Parser.targetProperty self use) Done := by
  refine .bind .position fun _ => .bind .currentName? fun shorthand => ?_
  refine .bind (propertyKey on) fun _ => .bind .eatMark fun _ => .ite (fun _ => ?_) ?_
  · exact .bind (targetElement on use) fun _ => .finish
  · cases shorthand with
    | some name => exact .bind (shorthandTarget on _ _) fun _ => .finish
    | none => exact .unexpected

theorem targetProperties (use : PatternUse) :
    Steady setup pre (Parser.targetProperties self use) Done := by
  refine .bind .position fun _ => .ifKind .give <| .bind .eatMark fun _ => .ite (fun _ => ?_) ?_
  · exact .bind (on.goal nofun) fun _ => .bind .finish fun _ => .give
  · exact .bind (targetProperty on use) fun _ => .bind .separator fun _ =>
      .bind (on.goal nofun) fun _ => .give

theorem objectPattern (use : PatternUse) :
    Steady setup pre (Parser.objectPattern self use) Done :=
  .bind .position fun _ => .bind .expectMark fun _ => .bind (on.goal nofun) fun _ =>
    .bind .expectMark fun _ => .finish

theorem target (use : PatternUse) : Steady setup pre (Parser.target self use) Done := by
  refine .bind .currentKind fun kind => ?_
  split
  · exact .nested (arrayPattern on use)
  · exact .nested (objectPattern on use)
  · cases use with
    | binding => exact .bind .bindingName fun _ => .give
    | assignment => exact .bind (on.goal nofun) fun expression => (targetOf expression).done

theorem parameters : Steady setup pre (Parser.parameters self) Done := by
  refine .ifKind .give <| .ifKind (.bind (targetRest on _) fun _ => .give) ?_
  exact .bind (targetElement on _) fun _ => .bind .separator fun _ =>
    .bind (on.goal nofun) fun _ => .give

theorem formalParameters : Steady setup pre (Parser.formalParameters self) Done :=
  .bind .expectMark fun _ => .bind (on.goal nofun) fun _ => .bind .expectMark fun _ => .give

/-! ## Functions and classes -/

theorem block : Steady setup pre (Parser.block self) Done :=
  .bind .position fun _ => .bind .expectMark fun _ => .bind (on.goal nofun) fun _ =>
    .bind .expectMark fun _ => .finish

theorem functionRest (isAsync isGenerator : Bool) :
    Steady setup pre (Parser.functionRest self isAsync isGenerator) Done :=
  .withContext <| .bind (formalParameters on) fun _ => .bind (block on) fun _ => .give

omit on in
theorem functionName (isDeclaration : Bool) :
    Steady setup pre (Parser.functionName isDeclaration) Done :=
  .bind .at? fun _ => .ite (fun _ => .bind .bindingName fun _ => .give) .give

theorem function (start : Nat) (isAsync isDeclaration : Bool) :
    Steady setup pre (Parser.function self start isAsync isDeclaration) Done :=
  .bind .expectKeyword fun _ => .bind .eatMark fun _ => .bind (functionName _) fun _ =>
    .bind (functionRest on _ _) fun _ => .finish

theorem method (isAsync isGenerator : Bool) :
    Steady setup pre (Parser.method self isAsync isGenerator) Done :=
  .bind .position fun _ => .bind (functionRest on _ _) fun _ => .finish

end

/-- A modifier is a word. -/
theorem asyncModifier {name : String} :
    Steady setup (Next (.identifier name)) Parser.asyncModifier Done :=
  .bind .peek fun _ => .ite
    (fun _ => .bind (.advance fun _ holds => holds.1 ▸ rfl) fun _ => .give) .give

theorem accessorModifier {name : String} (kind : MethodKind) :
    Steady setup (Next (.identifier name)) (Parser.accessorModifier kind) Done :=
  .bind .peek fun _ => .ite
    (fun _ => .bind (.advance fun _ holds => holds.1 ▸ rfl) fun _ => .give) .give

theorem modifiers : Steady setup pre Parser.modifiers Done := by
  refine .ifKind (.bind .asyncModifier fun _ => .bind .eatMark fun _ => .give) ?_
  refine .ifKind (.bind (accessorModifier _) fun _ => .bind .eatMark fun _ => .give) ?_
  refine .ifKind (.bind (accessorModifier _) fun _ => .bind .eatMark fun _ => .give) ?_
  exact .bind .eatMark fun _ => .give

theorem staticModifier : Steady setup pre Parser.staticModifier Done := by
  refine .ifKind (.bind .peek fun next => ?_) .give
  split
  · exact .give
  · exact .give
  · exact .give
  · exact .give
  · exact .bind (.advance fun _ holds => holds.1 ▸ rfl) fun _ => .give

section

variable (on : OnLevel setup self)
include on

theorem fieldValue : Steady setup pre (Parser.fieldValue self) Done :=
  .bind .eatMark fun _ => .ite (fun _ => .bind (.withContext (on.goal nofun)) fun _ => .give) .give

theorem classMember : Steady setup pre (Parser.classMember self) Done := by
  refine .bind .position fun _ => .bind .staticModifier fun _ => .bind .modifiers fun _ => ?_
  refine .bind (propertyKey on) fun _ => .bind .at? fun _ => .ite (fun _ => ?_) ?_
  · exact .bind (method on _ _) fun _ => .finish
  · exact .bind (fieldValue on) fun _ => .bind .expectSemicolon fun _ => .finish

theorem classMembers : Steady setup pre (Parser.classMembers self) Done :=
  .ifKind .give <| .bind .eatMark fun _ => .ite (fun _ => on.goal nofun) <|
    .bind (classMember on) fun _ => .bind (on.goal nofun) fun _ => .give

omit on in
theorem className (isDeclaration : Bool) :
    Steady setup pre (Parser.className isDeclaration) Done :=
  .bind .currentName? fun _ => .ite (fun _ => .bind .bindingName fun _ => .give) .give

theorem classBody : Steady setup pre (Parser.classBody self) Done :=
  .bind .position fun _ => .bind .expectMark fun _ => .bind (.withIn (on.goal nofun)) fun _ =>
    .bind .expectMark fun _ => .finish

theorem classParent : Steady setup pre (Parser.classParent self) Done :=
  .bind .eatKeyword fun _ => .ite (fun _ => .bind (on.goal nofun) fun _ => .give) .give

theorem classDefinition (isDeclaration : Bool) :
    Steady setup pre (Parser.classDefinition self isDeclaration) Done :=
  .bind .position fun _ => .bind .expectKeyword fun _ => .bind (className _) fun _ =>
    .bind (classParent on) fun _ => .bind (classBody on) fun _ => .finish

/-! ## Sequences and assignments -/

theorem moreExpressions : Steady setup pre (Parser.moreExpressions self) Done :=
  .bind .eatMark fun _ => .ite
    (fun _ => .bind (on.goal nofun) fun _ => .bind (on.goal nofun) fun _ => .give) .give

theorem expression : Steady setup pre (Parser.expression self) Done :=
  .bind .position fun _ => .bind (on.goal nofun) fun _ =>
    .ifKind (.bind (on.goal nofun) fun _ => .finish) .give

omit on in
theorem delegateStar : Steady setup pre Parser.delegateStar Done :=
  .bind .atNewline fun _ => .ite (fun _ => .give) .eatMark

omit on in
theorem continuesYield : Steady setup pre Parser.continuesYield Done :=
  .bind .current fun _ => .give

theorem yieldExpression {name : String} :
    Steady setup (Next (.identifier name)) (Parser.yieldExpression self) Done :=
  .bind .position fun _ => .bind (.advanceFrom rfl) fun _ => .bind .delegateStar fun _ =>
    .bind .continuesYield fun _ => .ite (fun _ => .bind (on.goal nofun) fun _ => .finish) .finish

theorem arrowParameters : Steady setup pre (Parser.arrowParameters self) Done :=
  .ifKind (formalParameters on) (.bind .bindingName fun _ => .give)

theorem arrowHead : Steady setup pre (Parser.arrowHead self) Done := by
  refine .bind (arrowParameters on) fun _ => .bind .current fun token => .ite (fun found => ?_)
    .unexpected
  rw [Bool.and_eq_true, decide_eq_true_eq] at found
  exact .bind (.advanceFrom (by rw [found.1]; rfl)) fun _ => .give

theorem asyncArrowHead {name : String} :
    Steady setup (Next (.identifier name)) (Parser.asyncArrowHead self) Done :=
  .bind (.advanceFrom rfl) fun _ => .bind (arrowHead on) fun _ => .give

/-- The arrow behind a single parameter has been seen before the parameter is read. -/
theorem wordArrowHead? : Steady setup pre (Parser.wordArrowHead? self) Done := by
  refine .bind .peek fun next => .ite (fun found => ?_) ?_
  · rw [Bool.and_eq_true, decide_eq_true_eq] at found
    have name : Steady setup (fun s => pre s ∧ Parser.peek setup s = .ok next s)
        Parser.bindingName fun _ => Next next.kind :=
      bindingNameWith fun _ _ holds outcome => congrArg Token.kind (current_of_peek holds.2 outcome)
    exact name.bind fun _ => .bind (.advanceFrom (by rw [found.1]; rfl)) fun _ => .give
  · refine .bind .at? fun isAsync => .ite (fun found => ?_) .give
    have word : isAsync = true := by
      rw [Bool.and_eq_true, Bool.and_eq_true] at found
      exact found.1.1
    exact (attempt ((asyncArrowHead on).weaken (fun _ holds => holds.2 word) fun _ _ => id)).done

theorem arrowHead? : Steady setup pre (Parser.arrowHead? self) Done := by
  refine .bind .currentKind fun kind => ?_
  split
  · exact .bind (.attempt (arrowHead on)) fun _ => .give
  · exact wordArrowHead? on
  · exact .give

theorem arrowBody : Steady setup pre (Parser.arrowBody self) Done :=
  .ifKind (.bind (.withIn (block on)) fun _ => .give) (.bind (on.goal nofun) fun _ => .give)

theorem arrowRest (start : Nat) (isAsync : Bool) (parameters : Many (.located .pattern)) :
    Steady setup pre (Parser.arrowRest self start isAsync parameters) Done :=
  .bind .context fun _ => .bind (.withContext (arrowBody on)) fun _ => .finish

/-- Behind a destructuring target stands the sign of the assignment. -/
theorem destructuringTarget : Steady setup pre (Parser.destructuringTarget self) fun _ =>
    Next (.punctuator .assign) :=
  .bind (on.goal nofun) fun _ => .ifKind (pure fun _ => id) .unexpected

theorem destructuringTarget? : Steady setup pre (Parser.destructuringTarget? self)
    fun result s => ∀ target, result = some target → s.current.kind = .punctuator .assign := by
  refine .bind .currentKind fun kind => ?_
  split
  · exact .attempt (destructuringTarget on)
  · exact .attempt (destructuringTarget on)
  · exact pure fun _ _ _ same => nomatch same

theorem conditional : Steady setup pre (Parser.conditional self) Done :=
  .bind .position fun _ => .bind (on.goal nofun) fun _ => .bind .eatMark fun _ => .ite
    (fun _ => .bind (.withIn (on.goal nofun)) fun _ => .bind .expectMark fun _ =>
      .bind (on.goal nofun) fun _ => .finish)
    .give

theorem simpleAssignment (start : Nat) :
    Steady setup pre (Parser.simpleAssignment self start) Done := by
  refine .bind (conditional on) fun left => .bind .currentKind fun kind => ?_
  cases named : kind.assignmentOperator? with
  | none => exact .give
  | some operator =>
      have flat : kind.crosses = false := by cases kind <;> first | rfl | cases named
      exact .bind (targetOf left) fun _ => .bind (.advanceFrom flat) fun _ =>
        .bind (on.goal nofun) fun _ => .finish

theorem arrowOrAssignment : Steady setup pre (Parser.arrowOrAssignment self) Done := by
  refine .bind .position fun start => .bind (arrowHead? on) fun head => ?_
  cases head with
  | some head => exact arrowRest on _ _ _
  | none =>
      refine .bind (destructuringTarget? on) fun target => ?_
      cases target with
      | some target =>
          have assign : Steady setup (fun s => ∀ target', some target = some target' →
              s.current.kind = .punctuator .assign) Parser.advance Done :=
            .advance fun _ holds => by rw [holds target rfl]; rfl
          exact assign.bind fun _ => .bind (on.goal nofun) fun _ => .finish
      | none => exact simpleAssignment on start

theorem assignment : Steady setup pre (Parser.assignment self) Done := by
  refine .nested <| .bind .at? fun isYield => .bind .context fun context => .ite (fun found => ?_)
    (arrowOrAssignment on)
  have yields : Steady setup (Next (.identifier "yield")) (Parser.yieldExpression self) Done :=
    yieldExpression on
  rw [Bool.and_eq_true] at found
  exact yields.weaken (fun _ holds => holds.2 found.2) fun _ _ => id

end

end Steady

end Ecmascript.Parser
