import Ecmascript.Proofs.Progress.Pattern

/-!
# Progress in expressions

What the productions of expressions read.
-/

set_option autoImplicit false

namespace Ecmascript.Parser.Eats

variable {setup : Setup} {self : Grammar} {pre : State → Prop} {bound : Nat}

/-! ## Sequences and assignments -/

theorem moreExpressions (later : Later setup self bound) :
    Eats setup pre bound (fun _ => 0) (Parser.moreExpressions self) := by
  refine ifEatMark .comma (fun left less => ?_) (pure rfl)
  refine (later left less .assignment).bind fun next left' less' => ?_
  have below : left' < bound := by simp only [Goal.eats] at less'; omega
  exact (later left' below .moreExpressions).bind fun rest _ _ => pure rfl

theorem expression (later : Later setup self bound)
    (assignment : Eats setup Anywhere bound (fun _ => 1) (self .assignment)) :
    Eats setup pre bound (fun _ => 1) (Parser.expression self) := by
  refine position fun start => (assignment.within (Nat.le_refl _)).bind fun first left less => ?_
  refine ifMark .comma ?_ (pure rfl)
  exact ((later left less .moreExpressions).within (Nat.le_refl _)).bind fun rest _ _ =>
    finish fun _ => rfl

theorem delegateStar : Eats setup pre bound (fun _ => 0) Parser.delegateStar :=
  glance _ (fun _ => rfl) fun _ => ite (fun _ => pure rfl) fun _ => eatMark .star

theorem continuesYield : Eats setup pre bound (fun _ => 0) Parser.continuesYield :=
  token fun _ => pure rfl

theorem yieldExpression (later : Later setup self bound) :
    Eats setup (Next (.identifier "yield")) bound (fun _ => 1) (Parser.yieldExpression self) := by
  refine position fun start => (advanceFrom (by nofun)).bind fun _ left less => ?_
  refine delegateStar.bind fun isDelegate left' le => ?_
  refine continuesYield.bind fun continues left'' le' => ite (fun _ => ?_) fun _ =>
    finish fun _ => rfl
  exact (later left'' (by omega) .assignment).bind fun argument _ _ => finish fun _ => rfl

theorem arrowParameters (later : Later setup self bound) :
    Eats setup pre bound (fun _ => 1) (Parser.arrowParameters self) :=
  ifMark .leftParen (formalParameters later) (bindingName.bind fun _ _ _ => pure rfl)

theorem arrowHead (later : Later setup self bound) :
    Eats setup pre bound (fun _ => 1) (Parser.arrowHead self) := by
  refine (arrowParameters later).bind fun parameters left less => token fun token => ?_
  exact ite (fun _ => step.bind fun _ _ _ => pure rfl) fun _ => unexpected

theorem asyncArrowHead (later : Later setup self bound) :
    Eats setup pre bound (fun _ => 1) (Parser.asyncArrowHead self) :=
  step.bind fun _ _ le => (arrowHead (later.within le)).bind fun _ _ _ => pure rfl

/-- The characters of a head, if there is one. -/
@[simp]
def headLength {α : Type} : Option α → Nat
  | some _ => 1
  | none => 0

theorem wordArrowHead? (later : Later setup self bound) :
    Eats setup pre bound headLength (Parser.wordArrowHead? self) := by
  refine peek fun next => ite (fun _ => ?_) fun _ => ?_
  · exact bindingName.bind fun name _ _ => step.bind fun _ _ _ => pure rfl
  · refine ask fun isAsync => ite (fun _ => ?_) fun _ => pure rfl
    exact (attempt (asyncArrowHead later)).atMost (Nat.le_refl _) fun
      | some _ => Nat.le_refl _
      | none => Nat.le_refl _

theorem arrowHead? (later : Later setup self bound) :
    Eats setup pre bound headLength (Parser.arrowHead? self) := by
  refine kind fun kind => ?_
  split
  · refine (attempt (arrowHead later)).bind fun parameters left le => pure ?_
    cases parameters with
    | some parameters => rfl
    | none => rfl
  · exact wordArrowHead? later
  · exact pure rfl

theorem arrowBody (later : Later setup self bound)
    (assignment : Eats setup Anywhere bound (fun _ => 1) (self .assignment)) :
    Eats setup pre bound (fun _ => 0) (Parser.arrowBody self) := by
  refine ifMark .leftBrace ((withIn (block later)).bind fun body _ _ => pure rfl) ?_
  exact (assignment.within (Nat.le_refl _)).bind fun body _ _ => pure rfl

theorem arrowRest (later : Later setup self bound)
    (assignment : Eats setup Anywhere bound (fun _ => 1) (self .assignment)) {start : Nat}
    {isAsync : Bool} {parameters : Many (.located .pattern)} :
    Eats setup pre bound (fun _ => 0) (Parser.arrowRest self start isAsync parameters) :=
  context fun _ =>
    (withContext (arrowBody later assignment)).bind fun _ _ _ => finish fun _ => rfl

theorem destructuringTarget
    (target : Eats setup Anywhere bound (fun _ => 1) (self (.target .assignment))) :
    Eats setup pre bound (fun _ => 1) (Parser.destructuringTarget self) := by
  refine (target.within (Nat.le_refl _)).bind fun pattern left less => ?_
  exact ifMark .assign (pure rfl) unexpected

theorem destructuringTarget?
    (target : Eats setup Anywhere bound (fun _ => 1) (self (.target .assignment))) :
    Eats setup pre bound headLength (Parser.destructuringTarget? self) := by
  have attempted : Eats setup Anywhere bound headLength
      (Parser.attempt .assignmentTarget (Parser.destructuringTarget self)) :=
    (attempt (destructuringTarget target)).atMost (Nat.le_refl _) fun
      | some _ => Nat.le_refl _
      | none => Nat.le_refl _
  refine kind fun kind => ?_
  split
  · exact attempted.within (Nat.le_refl _)
  · exact attempted.within (Nat.le_refl _)
  · exact pure rfl

theorem conditional (later : Later setup self bound)
    (operands : Eats setup Anywhere bound (fun _ => 1) (self (.binary 0))) :
    Eats setup pre bound (fun _ => 1) (Parser.conditional self) := by
  refine position fun start => (operands.within (Nat.le_refl _)).bind fun test left less => ?_
  refine ifEatMark .question (fun left' less' => ?_) (pure rfl)
  refine (withIn (later left' (by omega) .assignment)).bind fun consequent left'' le => ?_
  refine (expectMark .colon).bind fun _ left''' le' => ?_
  have below : left''' < bound := by simp only [Goal.eats] at le; omega
  exact (later left''' below .assignment).bind fun alternate _ _ => finish fun _ => rfl

theorem simpleAssignment (later : Later setup self bound)
    (operands : Eats setup Anywhere bound (fun _ => 1) (self (.binary 0))) {start : Nat} :
    Eats setup pre bound (fun _ => 1) (Parser.simpleAssignment self start) := by
  refine (conditional later operands).bind fun left rest less => kind fun kind => ?_
  split
  · exact pure rfl
  · refine targetOf.bind fun target rest' le => step.bind fun _ rest'' le' => ?_
    exact (later rest'' (by omega) .assignment).bind fun right _ _ => finish fun _ => rfl

theorem arrowOrAssignment (later : Later setup self bound)
    (operands : Eats setup Anywhere bound (fun _ => 1) (self (.binary 0)))
    (target : Eats setup Anywhere bound (fun _ => 1) (self (.target .assignment))) :
    Eats setup pre bound (fun _ => 1) (Parser.arrowOrAssignment self) := by
  refine position fun start => (arrowHead? later).bind fun head left le => ?_
  match head, le with
  | some (isAsync, parameters), le =>
      have below : left < bound := le
      exact (arrowRest (later.within (Nat.le_of_lt below)) (later left below .assignment)).atMost
        (Nat.le_refl _) fun _ => Nat.le_refl _
  | none, le =>
      have within : left ≤ bound := le
      refine (destructuringTarget? (target.within within)).bind fun pattern left' le' => ?_
      cases pattern with
      | some pattern =>
          have below : left' < bound := Nat.lt_of_lt_of_le le' within
          refine step.bind fun _ left'' le'' => ?_
          exact (later left'' (by omega) .assignment).bind fun right _ _ => finish fun _ => rfl
      | none =>
          have within' : left' ≤ bound := Nat.le_trans le' within
          exact (simpleAssignment (later.within within') (operands.within within')).atMost
            (Nat.le_refl _) fun _ => Nat.le_refl _

theorem assignment (later : Later setup self bound)
    (operands : Eats setup Anywhere bound (fun _ => 1) (self (.binary 0)))
    (target : Eats setup Anywhere bound (fun _ => 1) (self (.target .assignment))) :
    Eats setup pre bound (fun _ => 1) (Parser.assignment self) := by
  refine nested (look (fun s => decide (s.current.kind = .identifier "yield")) (fun _ => rfl)
    fun isYield => context fun context => ite (fun both => ?_) fun _ => ?_)
  · refine (yieldExpression later).weaken (fun s holds => ?_) fun _ => Nat.le_refl _
    simp only [Bool.and_eq_true] at both
    simpa [both.2] using holds.2.symm
  · exact arrowOrAssignment later operands target

end Ecmascript.Parser.Eats
