import Ecmascript.Parser.Program

/-!
# How parsers are put together

Every parser of the grammar is put together from a few elementary ones, from calls of goals, and
from scopes and attempts around other parsers. Two parsers are parallel when they are put together
in the same way and differ only in the grammar that they call. What every part of a parser keeps,
the parser keeps, by one induction on how it is put together; that each production is put together
so is shown beside this module, once for all such properties.
-/

set_option autoImplicit false

namespace Ecmascript.Parser

/-- Parsers that are put together in the same way from two grammars. -/
inductive Parallel (self self' : Grammar) : {α : Type} → Parser α → Parser α → Prop
  | goal (goal : Goal) : Parallel self self' (self goal) (self' goal)
  | pure {α : Type} (value : α) : Parallel self self' (Pure.pure value) (Pure.pure value)
  | bind {α β : Type} {first first' : Parser α} {next next' : α → Parser β}
      (before : Parallel self self' first first')
      (behind : ∀ value, Parallel self self' (next value) (next' value)) :
      Parallel self self' (first >>= next) (first' >>= next')
  | fail {α : Type} (error : SyntaxError) :
      Parallel self self' (Parser.fail error : Parser α) (Parser.fail error)
  | getState : Parallel self self' Parser.getState Parser.getState
  | advance : Parallel self self' Parser.advance Parser.advance
  | peek : Parallel self self' Parser.peek Parser.peek
  | slashAsRegex : Parallel self self' Parser.slashAsRegex Parser.slashAsRegex
  | slashAsDivide : Parallel self self' Parser.slashAsDivide Parser.slashAsDivide
  | withContext {α : Type} {inner inner' : Parser α} (context : Context)
      (inside : Parallel self self' inner inner') :
      Parallel self self' (Parser.withContext context inner) (Parser.withContext context inner')
  | nested {α : Type} {inner inner' : Parser α} (inside : Parallel self self' inner inner') :
      Parallel self self' (Parser.nested inner) (Parser.nested inner')
  | attempt {α : Type} {inner inner' : Parser α} (kind : AttemptKind)
      (inside : Parallel self self' inner inner') :
      Parallel self self' (Parser.attempt kind inner) (Parser.attempt kind inner')

/-- A parser that is put together from a grammar. -/
abbrev Composed (self : Grammar) {α : Type} (m : Parser α) : Prop :=
  Parallel self self m m

namespace Parallel

variable {self self' : Grammar} {α : Type}

theorem ite {condition : Prop} [Decidable condition] {yes yes' no no' : Parser α}
    (then_ : Parallel self self' yes yes') (else_ : Parallel self self' no no') :
    Parallel self self' (if condition then yes else no) (if condition then yes' else no') := by
  split
  · exact then_
  · exact else_

/-- A look at the state. -/
theorem look (view : State → α) :
    Parallel self self' (Parser.getState >>= fun state => Pure.pure (view state))
      (Parser.getState >>= fun state => Pure.pure (view state)) :=
  .bind .getState fun _ => .pure _

/-! ## Tokens -/

theorem current : Parallel self self' Parser.current Parser.current :=
  look State.current

theorem currentKind : Parallel self self' Parser.currentKind Parser.currentKind :=
  .bind .current fun _ => .pure _

theorem context : Parallel self self' Parser.context Parser.context :=
  look State.context

theorem position : Parallel self self' Parser.position Parser.position :=
  .bind .current fun _ => .pure _

theorem atNewline : Parallel self self' Parser.atNewline Parser.atNewline :=
  .bind .current fun _ => .pure _

theorem at? (kind : TokenKind) : Parallel self self' (Parser.at? kind) (Parser.at? kind) :=
  .bind .currentKind fun _ => .pure _

theorem atMark (mark : Punctuator) :
    Parallel self self' (Parser.atMark mark) (Parser.atMark mark) :=
  .at? _

theorem atKeyword (word : Keyword) :
    Parallel self self' (Parser.atKeyword word) (Parser.atKeyword word) :=
  .at? _

theorem atName (name : String) : Parallel self self' (Parser.atName name) (Parser.atName name) :=
  .at? _

theorem textOf (token : Token) :
    Parallel self self' (Parser.textOf token) (Parser.textOf token) :=
  look fun state => String.ofList (state.lexer.source.slice token.start token.stop)

theorem unexpected : Parallel self self' (Parser.unexpected : Parser α) Parser.unexpected :=
  .bind .current fun token => .bind (.textOf token) fun _ => .fail _

theorem reservedWord : Parallel self self' (Parser.reservedWord : Parser α) Parser.reservedWord :=
  .bind .current fun token => .bind (.textOf token) fun _ => .fail _

theorem eatMark (mark : Punctuator) :
    Parallel self self' (Parser.eatMark mark) (Parser.eatMark mark) :=
  .bind (.atMark mark) fun _ => .ite (.bind .advance fun _ => .pure _) (.pure _)

theorem eatKeyword (word : Keyword) :
    Parallel self self' (Parser.eatKeyword word) (Parser.eatKeyword word) :=
  .bind (.atKeyword word) fun _ => .ite (.bind .advance fun _ => .pure _) (.pure _)

theorem expectMark (mark : Punctuator) :
    Parallel self self' (Parser.expectMark mark) (Parser.expectMark mark) :=
  .bind (.atMark mark) fun _ => .ite .advance .unexpected

theorem expectKeyword (word : Keyword) :
    Parallel self self' (Parser.expectKeyword word) (Parser.expectKeyword word) :=
  .bind (.atKeyword word) fun _ => .ite .advance .unexpected

theorem finish {category : Category} (start : Nat) (item : Node category) :
    Parallel self self' (Parser.finish start item) (Parser.finish start item) :=
  look fun state => Node.located start state.previous.stop item

theorem atStatementEnd : Parallel self self' Parser.atStatementEnd Parser.atStatementEnd :=
  .bind .current fun _ => .pure _

theorem expectSemicolon : Parallel self self' Parser.expectSemicolon Parser.expectSemicolon :=
  .bind (.eatMark _) fun _ => .ite (.pure _) <|
    .bind .atStatementEnd fun _ => .ite (.pure _) .unexpected

theorem withIn {inner inner' : Parser α} (allowIn : Bool)
    (inside : Parallel self self' inner inner') :
    Parallel self self' (Parser.withIn allowIn inner) (Parser.withIn allowIn inner') :=
  .bind .context fun _ => .withContext _ inside

/-! ## Names -/

theorem bindingName : Parallel self self' Parser.bindingName Parser.bindingName := by
  refine .bind .current fun token => ?_
  cases token.kind with
  | identifier name =>
      exact .bind .context fun _ => .ite .reservedWord (.bind .advance fun _ => .pure _)
  | keyword word => exact .reservedWord
  | _ => exact .unexpected

theorem propertyName : Parallel self self' Parser.propertyName Parser.propertyName := by
  refine .bind .current fun token => ?_
  cases propertyName? token.kind with
  | some name => exact .bind .advance fun _ => .pure _
  | none => exact .unexpected

theorem currentName? : Parallel self self' Parser.currentName? Parser.currentName? := by
  refine .bind .currentKind fun kind => ?_
  cases kind <;> exact .pure _

end Parallel

end Ecmascript.Parser
