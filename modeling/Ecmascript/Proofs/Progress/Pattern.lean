import Ecmascript.Parser.Program
import Ecmascript.Proofs.Progress.Basic

/-!
# Progress in patterns and functions

What the productions of patterns, functions and classes read. Goals that they begin with are given
for the same bound; the others are met behind a token, where less of the text remains.
-/

set_option autoImplicit false

namespace Ecmascript.Parser

/-- How many characters a goal reads at least. -/
def Goal.eats : Goal → Nat
  | statement | declarators | expression | assignment | binary _ | power | unary => 1
  | leftHandSide | newExpression | templateRest | target _ => 1
  | _ => 0

/-- Every goal keeps to a bound. -/
def Fed (setup : Setup) (self : Grammar) (bound : Nat) : Prop :=
  ∀ goal, Eats setup Anywhere bound (fun _ => goal.eats) (self goal)

/-- Every goal keeps to all the bounds below a bound. -/
def Later (setup : Setup) (self : Grammar) (bound : Nat) : Prop :=
  ∀ left, left < bound → Fed setup self left

theorem Later.within {setup : Setup} {self : Grammar} {bound left : Nat}
    (later : Later setup self bound) (le : left ≤ bound) : Later setup self left :=
  fun less below => later less (Nat.lt_of_lt_of_le below le)

namespace Eats

variable {setup : Setup} {self : Grammar} {pre : State → Prop} {bound : Nat} {use : PatternUse}

theorem propertyKey (later : Later setup self bound) :
    Eats setup pre bound (fun _ => 1) (Parser.propertyKey self) := by
  refine position fun start => ifEatMark .leftBracket (fun left less => ?_) ?_
  · refine (withIn (later left less .assignment)).bind fun expression left' le => ?_
    exact (expectMark .rightBracket).bind fun _ _ _ => finish fun _ => rfl
  · refine kind fun kind => ?_
    cases plain : plainKey? kind with
    | some key =>
        have goes_on : kind ≠ .endOfInput := by
          intro ends
          rw [ends] at plain
          cases plain
        exact (advanceFrom goes_on).bind fun _ left le => finish fun _ => rfl
    | none => exact unexpected

theorem currentName? : Eats setup pre bound (fun _ => 0) Parser.currentName? :=
  kind fun kind => by cases kind <;> exact pure rfl

theorem separator (close : Punctuator) :
    Eats setup pre bound (fun _ => 0) (Parser.separator close) :=
  ifMark close (pure rfl) ((expectMark .comma).atMost (Nat.le_refl _) (by simp))

/-! ## Patterns -/

theorem targetElement (later : Later setup self bound)
    (target : Eats setup Anywhere bound (fun _ => 1) (self (.target use))) :
    Eats setup pre bound (fun _ => 1) (Parser.targetElement self use) := by
  refine position fun start => (target.within (Nat.le_refl _)).bind fun pattern left le => ?_
  refine ifEatMark .assign (fun left' less => ?_) (pure rfl)
  refine (withIn (later left' (by omega) .assignment)).bind fun value left'' le' => ?_
  exact finish fun _ => rfl

theorem targetRest (later : Later setup self bound) :
    Eats setup pre bound (fun _ => 1) (Parser.targetRest self use) := by
  refine position fun start => (expectMark .ellipsis).bind fun _ left less => ?_
  exact ((later left less (.target use)).within (Nat.le_refl _)).bind fun pattern left' le =>
    finish fun _ => rfl

theorem targetElements (later : Later setup self bound)
    (target : Eats setup Anywhere bound (fun _ => 1) (self (.target use))) :
    Eats setup pre bound (fun _ => 0) (Parser.targetElements self use) := by
  refine ifMark .rightBracket (pure rfl) (ifEatMark .comma (fun left less => ?_) ?_)
  · exact (later left less (.targetElements use)).bind fun rest _ _ => pure rfl
  · refine ifMark .ellipsis ((targetRest later).bind fun last _ _ => pure rfl) ?_
    refine (targetElement later target).bind fun element left less => ?_
    refine (separator .rightBracket).bind fun _ left' le => ?_
    exact (later left' (by omega) (.targetElements use)).bind fun rest _ _ => pure rfl

theorem arrayPattern (later : Later setup self bound) :
    Eats setup pre bound (fun _ => 1) (Parser.arrayPattern self use) := by
  refine position fun start => (expectMark .leftBracket).bind fun _ left less => ?_
  refine (later left less (.targetElements use)).bind fun elements left' le => ?_
  exact (expectMark .rightBracket).bind fun _ _ _ => finish fun _ => rfl

theorem shorthandTarget (later : Later setup self bound) {key : Located .key} {name : String} :
    Eats setup pre bound (fun _ => 0) (Parser.shorthandTarget self key name) := by
  refine ifEatMark .assign (fun left less => ?_) (pure rfl)
  exact (withIn (later left less .assignment)).bind fun value _ _ => finish fun _ => rfl

theorem targetProperty (later : Later setup self bound) :
    Eats setup pre bound (fun _ => 1) (Parser.targetProperty self use) := by
  refine position fun start => currentName?.bind fun shorthand left le => ?_
  refine (propertyKey (later.within (by omega))).bind fun key left' less => ?_
  refine ifEatMark .colon (fun left'' less' => ?_) ?_
  · have below : left'' < bound := by omega
    exact (targetElement (later.within (by omega))
      (later left'' below (.target use))).bind fun value _ _ => finish fun _ => rfl
  · cases shorthand with
    | some name =>
        exact (shorthandTarget (later.within (by omega))).bind fun _ _ _ => finish fun _ => rfl
    | none => exact unexpected

theorem targetProperties (later : Later setup self bound) :
    Eats setup pre bound (fun _ => 0) (Parser.targetProperties self use) := by
  refine position fun start => ifMark .rightBrace (pure rfl) ?_
  refine ifEatMark .ellipsis (fun left less => ?_) ?_
  · refine (later left less (.target use)).bind fun argument left' le => ?_
    exact (finish (fun _ => rfl)).bind fun last _ _ => pure rfl
  · refine (targetProperty later).bind fun property left less => ?_
    refine (separator .rightBrace).bind fun _ left' le => ?_
    exact (later left' (by omega) (.targetProperties use)).bind fun rest _ _ => pure rfl

theorem objectPattern (later : Later setup self bound) :
    Eats setup pre bound (fun _ => 1) (Parser.objectPattern self use) := by
  refine position fun start => (expectMark .leftBrace).bind fun _ left less => ?_
  refine (later left less (.targetProperties use)).bind fun properties left' le => ?_
  exact (expectMark .rightBrace).bind fun _ _ _ => finish fun _ => rfl

theorem targetOf {expression : Located .expression} :
    Eats setup pre bound (fun _ => 0) (Parser.targetOf expression) := by
  cases expression with
  | located start stop item =>
      cases item with
      | identifier name => exact pure rfl
      | memberExpression object property => exact pure rfl
      | computedMember object property => exact pure rfl
      | _ => exact fail

theorem target (later : Later setup self bound)
    (operand : Eats setup Anywhere bound (fun _ => 1) (self .leftHandSide)) :
    Eats setup pre bound (fun _ => 1) (Parser.target self use) := by
  refine kind fun kind => ?_
  split
  · exact nested (arrayPattern later)
  · exact nested (objectPattern later)
  · cases use with
    | binding => exact bindingName.bind fun name _ _ => pure rfl
    | assignment =>
        refine (operand.within (Nat.le_refl _)).bind fun expression left less => ?_
        exact targetOf.atMost (Nat.le_refl _) (by simp)

theorem parameters (later : Later setup self bound)
    (target : Eats setup Anywhere bound (fun _ => 1) (self (.target .binding))) :
    Eats setup pre bound (fun _ => 0) (Parser.parameters self) := by
  refine ifMark .rightParen (pure rfl) ?_
  refine ifMark .ellipsis ((targetRest later).bind fun last _ _ => pure rfl) ?_
  refine (targetElement later target).bind fun parameter left less => ?_
  refine (separator .rightParen).bind fun _ left' le => ?_
  exact (later left' (by omega) .parameters).bind fun rest _ _ => pure rfl

theorem formalParameters (later : Later setup self bound) :
    Eats setup pre bound (fun _ => 1) (Parser.formalParameters self) := by
  refine (expectMark .leftParen).bind fun _ left less => ?_
  refine (later left less .parameters).bind fun parameters left' le => ?_
  exact (expectMark .rightParen).bind fun _ _ _ => pure rfl

/-! ## Functions -/

theorem block (later : Later setup self bound) :
    Eats setup pre bound (fun _ => 1) (Parser.block self) := by
  refine position fun start => (expectMark .leftBrace).bind fun _ left less => ?_
  refine (later left less (.statements .block)).bind fun body left' le => ?_
  exact (expectMark .rightBrace).bind fun _ _ _ => finish fun _ => rfl

theorem functionRest (later : Later setup self bound) {isAsync isGenerator : Bool} :
    Eats setup pre bound (fun _ => 1) (Parser.functionRest self isAsync isGenerator) := by
  refine withContext ((formalParameters later).bind fun parameters left less => ?_)
  exact (block (later.within (by omega))).bind fun body _ _ => pure rfl

theorem functionName {isDeclaration : Bool} :
    Eats setup pre bound (fun _ => 0) (Parser.functionName isDeclaration) :=
  ask fun _ => ite (fun _ => bindingName.bind fun _ _ _ => pure rfl) fun _ => pure rfl

theorem function (later : Later setup self bound) {start : Nat} {isAsync isDeclaration : Bool} :
    Eats setup pre bound (fun _ => 1) (Parser.function self start isAsync isDeclaration) := by
  refine (expectKeyword .functionWord).bind fun _ left less => ?_
  refine (eatMark .star).bind fun isGenerator left' le => ?_
  refine functionName.bind fun name left'' le' => ?_
  exact (functionRest (later.within (by omega))).bind fun rest _ _ => finish fun _ => rfl

theorem method (later : Later setup self bound) {isAsync isGenerator : Bool} :
    Eats setup pre bound (fun _ => 1) (Parser.method self isAsync isGenerator) :=
  position fun _ => (functionRest later).bind fun _ _ _ => finish fun _ => rfl

theorem asyncModifier : Eats setup pre bound (fun _ => 0) Parser.asyncModifier :=
  peek fun _ => ite (fun _ => step.bind fun _ _ _ => pure rfl) fun _ => pure rfl

theorem accessorModifier {kind : MethodKind} :
    Eats setup pre bound (fun _ => 0) (Parser.accessorModifier kind) :=
  peek fun _ => ite (fun _ => step.bind fun _ _ _ => pure rfl) fun _ => pure rfl

theorem modifiers : Eats setup pre bound (fun _ => 0) Parser.modifiers := by
  refine ifName "async" ?_ (ifName "get" ?_ (ifName "set" ?_ ?_))
  · exact asyncModifier.bind fun _ _ _ => (eatMark .star).bind fun _ _ _ => pure rfl
  · exact accessorModifier.bind fun _ _ _ => (eatMark .star).bind fun _ _ _ => pure rfl
  · exact accessorModifier.bind fun _ _ _ => (eatMark .star).bind fun _ _ _ => pure rfl
  · exact (eatMark .star).bind fun _ _ _ => pure rfl

theorem staticModifier : Eats setup pre bound (fun _ => 0) Parser.staticModifier := by
  refine ifName "static" (peek fun next => ?_) (pure rfl)
  split
  · exact pure rfl
  · exact pure rfl
  · exact pure rfl
  · exact pure rfl
  · exact step.bind fun _ _ _ => pure rfl

theorem fieldValue (later : Later setup self bound) :
    Eats setup pre bound (fun _ => 0) (Parser.fieldValue self) := by
  refine ifEatMark .assign (fun left less => ?_) (pure rfl)
  exact (withContext (later left less .assignment)).bind fun value _ _ => pure rfl

theorem classMember (later : Later setup self bound) :
    Eats setup pre bound (fun _ => 1) (Parser.classMember self) := by
  refine position fun start => staticModifier.bind fun isStatic left le => ?_
  refine modifiers.bind fun modifiers left' le' => ?_
  refine (propertyKey (later.within (by omega))).bind fun key left'' less => ask fun callable => ?_
  have later := later.within (show left'' ≤ bound by omega)
  refine ite (fun _ => (method later).bind fun value _ _ => finish fun _ => rfl) fun _ => ?_
  exact (fieldValue later).bind fun value _ _ => expectSemicolon.bind fun _ _ _ =>
    finish fun _ => rfl

theorem classMembers (later : Later setup self bound) :
    Eats setup pre bound (fun _ => 0) (Parser.classMembers self) := by
  refine ifMark .rightBrace (pure rfl) (ifEatMark .semicolon (fun left less => ?_) ?_)
  · exact later left less .classMembers
  · refine (classMember later).bind fun member left less => ?_
    exact (later left less .classMembers).bind fun rest _ _ => pure rfl

theorem className {isDeclaration : Bool} :
    Eats setup pre bound (fun _ => 0) (Parser.className isDeclaration) :=
  currentName?.bind fun _ _ _ =>
    ite (fun _ => bindingName.bind fun _ _ _ => pure rfl) fun _ => pure rfl

theorem classBody (later : Later setup self bound) :
    Eats setup pre bound (fun _ => 1) (Parser.classBody self) := by
  refine position fun start => (expectMark .leftBrace).bind fun _ left less => ?_
  refine (withIn (later left less .classMembers)).bind fun members left' le => ?_
  exact (expectMark .rightBrace).bind fun _ _ _ => finish fun _ => rfl

theorem classParent (later : Later setup self bound) :
    Eats setup pre bound (fun _ => 0) (Parser.classParent self) := by
  refine ifEatKeyword .extendsWord (fun left less => ?_) (pure rfl)
  exact (later left less .leftHandSide).bind fun parent _ _ => pure rfl

theorem classDefinition (later : Later setup self bound) {isDeclaration : Bool} :
    Eats setup pre bound (fun _ => 1) (Parser.classDefinition self isDeclaration) := by
  refine position fun start => (expectKeyword .classWord).bind fun _ left less => ?_
  refine className.bind fun name left' le => ?_
  refine (classParent (later.within (by omega))).bind fun parent left'' le' => ?_
  exact (classBody (later.within (by omega))).bind fun body _ _ => finish fun _ => rfl

end Eats

end Ecmascript.Parser
