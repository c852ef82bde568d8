import Ecmascript.Proofs.Coupling.Function

/-!
# Coupled runs of expressions

A slash is read as an operator or as an operand only behind `slashAsDivide` or `slashAsRegex`,
which make the grip firm. The one place that asks about a slash without either is the assignment
sign behind a conditional expression, so there the grip has to be firm already.
-/

set_option autoImplicit false

namespace Ecmascript.Parser.Coupling

variable {c : Coupling} {self self' : Grammar}

/-- The attempts of the productions are linked. How a failed attempt is remembered is a matter of
each coupling. -/
structure Attempts (c : Coupling) (left right : Grammar) : Prop where
  arrowHead : c.Links (c.before (.punctuator .leftParen))
    (attempt .arrowHead (Parser.arrowHead left)) (attempt .arrowHead (Parser.arrowHead right))
    (fun _ => c.loose)
  asyncArrowHead : c.Links (c.before (.identifier "async"))
    (attempt .asyncArrowHead (Parser.asyncArrowHead left))
    (attempt .asyncArrowHead (Parser.asyncArrowHead right)) (fun _ => c.loose)
  assignmentTarget : ∀ mark : Punctuator, mark = .leftBracket ∨ mark = .leftBrace →
    c.Links (c.before (.punctuator mark))
      (attempt .assignmentTarget (Parser.destructuringTarget left))
      (attempt .assignmentTarget (Parser.destructuringTarget right))
      (fun target s t => c.loose s t ∧
        (target.isSome = true → c.before (.punctuator .assign) s t))
  loopTarget : ∀ mark : Punctuator, mark = .leftBracket ∨ mark = .leftBrace →
    c.Links (c.before (.punctuator mark)) (attempt .loopTarget (Parser.loopTarget left))
      (attempt .loopTarget (Parser.loopTarget right)) (fun _ => c.loose)

namespace Links

theorem delegateStar (laws : c.Lawful) :
    c.Links (c.behind (.identifier "yield")) Parser.delegateStar Parser.delegateStar
      (fun isDelegate s t => c.loose s t ∧ (isDelegate = false → c.firm s t)) := by
  refine (atNewline laws fun _ _ holds => holds.1).bind fun newline => ?_
  have firm (s t : State) (holds : c.behind (.identifier "yield") s t) : c.firm s t :=
    laws.tighten holds.1 (.inr holds.2)
  refine ite (fun _ => .pure fun s t holds => ⟨holds.1, fun _ => firm s t holds⟩) fun _ => ?_
  refine strengthen ?_ firm
  refine ifMark laws .star rfl ?_ ?_
  · exact (advance laws).bind fun _ => .pure fun _ _ holds => ⟨holds, nofun⟩
  · exact .pure fun _ _ holds => ⟨laws.loosen holds, fun _ => holds⟩

theorem continuesYield (laws : c.Lawful) {pre : State → State → Prop}
    (related : ∀ s t, pre s t → c.loose s t) :
    c.Links pre Parser.continuesYield Parser.continuesYield (fun _ => pre) := by
  refine (reading (fun state =>
    !(state.current.newlineBefore || endsYield state.current.kind)) (fun _ _ => rfl)
    fun s t holds => ?_).relax fun _ _ _ holds => holds.1
  rcases laws.firm_or_slash (related s t holds) with firm | ⟨left, right⟩
  · rw [laws.current firm]
  · have ends_of_slash (kind : TokenKind) (slash : kind.isSlash = true) :
        endsYield kind = false := by
      rcases TokenKind.isSlash_cases slash with rfl | rfl | ⟨raw, rfl⟩ <;> rfl
    rw [laws.newline (related s t holds), ends_of_slash _ left, ends_of_slash _ right]

end Links

namespace Agree

/-! ## Sequences and assignments -/

theorem moreExpressions (laws : c.Lawful) (agree : c.Agree self self') :
    c.Links c.loose (Parser.moreExpressions self) (Parser.moreExpressions self')
      (fun _ => c.loose) := by
  refine Links.ifEatMark laws .comma rfl ?_ (.pure fun _ _ holds => holds)
  refine (agree .assignment).bind fun next => ?_
  refine ((agree .moreExpressions).fromFirm laws).bind fun rest => ?_
  exact .pure fun _ _ holds => holds

theorem expression (laws : c.Lawful) (agree : c.Agree self self') :
    c.Links c.loose (Parser.expression self) (Parser.expression self') (fun _ => c.loose) := by
  refine (Links.position laws fun _ _ holds => holds).bind fun start => ?_
  refine (agree .assignment).bind fun first => ?_
  refine Links.ifMark laws .comma rfl ?_ (.pure fun _ _ => laws.loosen)
  refine ((agree .moreExpressions).fromBefore laws).bind fun rest => ?_
  exact Links.finish laws fun _ _ holds => holds

theorem yieldExpression (laws : c.Lawful) (agree : c.Agree self self') :
    c.Links (c.before (.identifier "yield")) (Parser.yieldExpression self)
      (Parser.yieldExpression self') (fun _ => c.firm) := by
  refine (Links.position laws fun _ _ => laws.loose_of_before).bind fun start => ?_
  refine (laws.advance _).bind fun _ => ?_
  refine (Links.delegateStar laws).bind fun isDelegate => ?_
  refine (Links.continuesYield laws fun _ _ holds => holds.1).bind fun continues => ?_
  refine .ite (fun _ => ?_) fun stops => ?_
  · refine ((agree .assignment).strengthen fun _ _ holds => holds.1).bind fun argument => ?_
    exact Links.finish laws fun _ _ => laws.loosen
  · refine Links.strengthen (Links.finish laws fun _ _ => laws.loosen) ?_
    intro s t holds
    exact holds.2 (by simpa using (Bool.or_eq_false_iff.1 stops).1)

theorem arrowParameters (laws : c.Lawful) (agree : c.Agree self self') :
    c.Links c.loose (Parser.arrowParameters self) (Parser.arrowParameters self')
      (fun _ => c.loose) := by
  refine Links.ifMark laws .leftParen rfl ?_ ?_
  · exact (agree.formalParameters laws).fromBefore laws
  · exact (Links.bindingName laws).bind fun name => .pure fun _ _ holds => holds

theorem arrowHead (laws : c.Lawful) (agree : c.Agree self self') :
    c.Links c.loose (Parser.arrowHead self) (Parser.arrowHead self') (fun _ => c.loose) := by
  refine (agree.arrowParameters laws).bind fun parameters => ?_
  refine Links.token laws (fun token => ?_) fun a b left right newline => ?_
  · refine .ite (fun _ => ?_) fun _ => Links.unexpected laws fun _ _ => laws.loose_of_before
    exact (Links.advance laws).bind fun _ => .pure fun _ _ holds => holds
  · rcases TokenKind.isSlash_cases left with left | left | ⟨raw, left⟩ <;>
    rcases TokenKind.isSlash_cases right with right | right | ⟨raw', right⟩ <;>
    simp only [left, right, reduceCtorEq, TokenKind.punctuator.injEq, decide_false,
      Bool.false_and] <;>
    exact Links.unexpected laws fun _ _ holds => holds

theorem asyncArrowHead (laws : c.Lawful) (agree : c.Agree self self') {kind : TokenKind} :
    c.Links (c.before kind) (Parser.asyncArrowHead self) (Parser.asyncArrowHead self')
      (fun _ => c.loose) := by
  refine (Links.advance laws).bind fun _ => ?_
  exact (agree.arrowHead laws).bind fun parameters => .pure fun _ _ holds => holds

theorem wordArrowHead? (laws : c.Lawful) (attempts : c.Attempts self self') {name : String} :
    c.Links (c.before (.identifier name)) (Parser.wordArrowHead? self)
      (Parser.wordArrowHead? self') (fun _ => c.loose) := by
  have loose (s t : State) (holds : c.before (.identifier name) s t) : c.loose s t :=
    laws.loose_of_before holds
  refine Links.peek laws (fun _ _ holds => holds.1) (fun next => ?_) fun a b left right => ?_
  · refine .ite (fun begins => ?_) fun _ => ?_
    · simp only [Bool.and_eq_true, decide_eq_true_eq] at begins
      refine (Links.bindingNameForeseen laws (by rw [begins.1]; rfl)).bind fun parameter => ?_
      exact (Links.advance laws).bind fun _ => .pure fun _ _ holds => holds
    · refine (Links.askKind laws rfl fun s t holds => loose s t holds.1).bind fun isAsync => ?_
      refine .ite (fun begins => ?_) fun _ => .pure fun s t holds => loose s t holds.1.1
      simp only [Bool.and_eq_true] at begins
      exact attempts.asyncArrowHead.strengthen fun _ _ holds => holds.2 begins.1.1
  · have arrow_ne_of_slash (kind : TokenKind) (slash : kind.isSlash = true) :
        decide (kind = .punctuator .arrow) = false ∧ startsArrowHead kind = false := by
      rcases TokenKind.isSlash_cases slash with rfl | rfl | ⟨raw, rfl⟩ <;> exact ⟨rfl, rfl⟩
    simp only [arrow_ne_of_slash _ left, arrow_ne_of_slash _ right, Bool.false_and, Bool.and_false]
    refine .ite nofun fun _ => ?_
    refine (Links.askKind laws rfl loose).bind fun isAsync => ?_
    exact .ite nofun fun _ => .pure fun s t holds => loose s t holds.1

theorem arrowHead? (laws : c.Lawful) (attempts : c.Attempts self self') :
    c.Links c.loose (Parser.arrowHead? self) (Parser.arrowHead? self') (fun _ => c.loose) := by
  refine Links.kind laws (fun kind => ?_) fun a b left right => ?_
  · cases kind with
    | punctuator mark =>
        cases mark with
        | leftParen =>
            exact attempts.arrowHead.bind fun parameters => .pure fun _ _ holds => holds
        | _ => exact .pure fun _ _ => laws.loose_of_before
    | identifier name => exact wordArrowHead? laws attempts
    | _ => exact .pure fun _ _ => laws.loose_of_before
  · rcases TokenKind.isSlash_cases left with rfl | rfl | ⟨raw, rfl⟩ <;>
    rcases TokenKind.isSlash_cases right with rfl | rfl | ⟨raw', rfl⟩ <;>
    exact .pure fun _ _ holds => holds

theorem arrowBody (laws : c.Lawful) (agree : c.Agree self self') :
    c.Links c.loose (Parser.arrowBody self) (Parser.arrowBody self') (fun _ => c.firm) := by
  refine Links.ifMark laws .leftBrace rfl ?_ ?_
  · refine ((Links.withIn laws (agree.block laws)).fromBefore laws).bind fun body => ?_
    exact .pure fun _ _ holds => holds
  · exact (agree .assignment).bind fun body => .pure fun _ _ holds => holds

theorem arrowRest (laws : c.Lawful) (agree : c.Agree self self') (start : Nat) (isAsync : Bool)
    (parameters : Many (.located .pattern)) :
    c.Links c.loose (Parser.arrowRest self start isAsync parameters)
      (Parser.arrowRest self' start isAsync parameters) (fun _ => c.firm) := by
  refine (Links.context laws fun _ _ holds => holds).bind fun outer => ?_
  refine (Links.withContext laws (agree.arrowBody laws)).bind
    fun body => ?_
  exact Links.finish laws fun _ _ => laws.loosen

/-- The sign behind a destructuring target is the one that was looked for. -/
theorem destructuringTarget (laws : c.Lawful) (agree : c.Agree self self') :
    c.Links c.loose (Parser.destructuringTarget self) (Parser.destructuringTarget self')
      (fun _ => c.before (.punctuator .assign)) := by
  refine (agree (.target .assignment)).bind fun left => ?_
  exact Links.ifMark laws .assign rfl (.pure fun _ _ holds => holds)
    (Links.unexpected laws fun _ _ holds => holds)

theorem destructuringTarget? (laws : c.Lawful) (attempts : c.Attempts self self') :
    c.Links c.loose (Parser.destructuringTarget? self) (Parser.destructuringTarget? self')
      (fun target s t => c.loose s t ∧
        (target.isSome = true → c.before (.punctuator .assign) s t)) := by
  refine Links.kind laws (fun kind => ?_) fun a b left right => ?_
  · have missing : c.Links (c.before kind) (pure none) (pure none)
        (fun (target : Option (Located .pattern)) s t => c.loose s t ∧
          (target.isSome = true → c.before (.punctuator .assign) s t)) :=
      .pure fun _ _ holds => ⟨laws.loose_of_before holds, nofun⟩
    cases kind with
    | punctuator mark =>
        cases mark with
        | leftBracket => exact attempts.assignmentTarget _ (.inl rfl)
        | leftBrace => exact attempts.assignmentTarget _ (.inr rfl)
        | _ => exact missing
    | _ => exact missing
  · rcases TokenKind.isSlash_cases left with rfl | rfl | ⟨raw, rfl⟩ <;>
    rcases TokenKind.isSlash_cases right with rfl | rfl | ⟨raw', rfl⟩ <;>
    exact .pure fun _ _ holds => ⟨holds, nofun⟩

theorem conditional (laws : c.Lawful) (agree : c.Agree self self') :
    c.Links c.loose (Parser.conditional self) (Parser.conditional self') (fun _ => c.firm) := by
  refine (Links.position laws fun _ _ holds => holds).bind fun start => ?_
  refine (agree (.binary 0)).bind fun test => ?_
  refine Links.ifEatMark laws .question rfl ?_ (.pure fun _ _ holds => holds)
  refine (Links.withIn laws (agree .assignment)).bind fun consequent => ?_
  refine ((Links.expectMark laws .colon rfl).fromFirm laws).bind fun _ => ?_
  refine (agree .assignment).bind fun alternate => ?_
  exact Links.finish laws fun _ _ => laws.loosen

/-- The assignment sign is looked for where the grip is firm. -/
theorem simpleAssignment (laws : c.Lawful) (agree : c.Agree self self') (start : Nat) :
    c.Links c.loose (Parser.simpleAssignment self start) (Parser.simpleAssignment self' start)
      (fun _ => c.firm) := by
  refine (agree.conditional laws).bind fun left => ?_
  refine Links.firmKind laws fun kind => ?_
  cases kind.assignmentOperator? with
  | none => exact .pure fun _ _ holds => holds.1
  | some operator =>
      refine (Links.targetOf laws left fun _ _ => laws.loose_of_before).bind fun target => ?_
      refine (Links.advance laws).bind fun _ => ?_
      refine (agree .assignment).bind fun right => ?_
      exact Links.finish laws fun _ _ => laws.loosen

theorem arrowOrAssignment (laws : c.Lawful) (agree : c.Agree self self')
    (attempts : c.Attempts self self') :
    c.Links c.loose (Parser.arrowOrAssignment self) (Parser.arrowOrAssignment self')
      (fun _ => c.firm) := by
  refine (Links.position laws fun _ _ holds => holds).bind fun start => ?_
  refine (arrowHead? laws attempts).bind fun head => ?_
  cases head with
  | some head => exact agree.arrowRest laws start head.1 head.2
  | none =>
      refine (destructuringTarget? laws attempts).bind fun target => ?_
      cases target with
      | some target =>
          refine ((Links.advance laws).strengthen fun _ _ holds => holds.2 rfl).bind fun _ => ?_
          refine (agree .assignment).bind fun right => ?_
          exact Links.finish laws fun _ _ => laws.loosen
      | none => exact (agree.simpleAssignment laws start).strengthen fun _ _ holds => holds.1

theorem assignment (laws : c.Lawful) (agree : c.Agree self self')
    (attempts : c.Attempts self self') :
    c.Links c.loose (Parser.assignment self) (Parser.assignment self') (fun _ => c.firm) := by
  refine laws.nested ?_
  refine (Links.askKind laws rfl fun _ _ holds => holds).bind fun isYield => ?_
  refine (Links.context laws fun _ _ holds => holds.1).bind fun context => ?_
  refine .ite (fun yields => ?_) fun _ => ?_
  · simp only [Bool.and_eq_true] at yields
    exact (agree.yieldExpression laws).strengthen fun _ _ holds => holds.2 yields.2
  · exact (agree.arrowOrAssignment laws attempts).strengthen fun _ _ holds => holds.1

end Agree

end Ecmascript.Parser.Coupling
