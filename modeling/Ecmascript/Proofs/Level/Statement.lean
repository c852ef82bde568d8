import Ecmascript.Proofs.Level.Operand

/-!
# Levels of scripts

Statements stay on their level, and so does every production. A script that is accepted ends on the
level on which it begins, outside of all substitutions.
-/

set_option autoImplicit false

namespace Ecmascript

namespace Parser

variable {setup : Setup} {self : Grammar} {pre : State → Prop}

namespace Steady

theorem debuggerStatement {word : Keyword} :
    Steady setup (Next (.keyword word)) Parser.debuggerStatement Done :=
  .bind .position fun _ => .bind (.advanceFrom rfl) fun _ => .bind .expectSemicolon fun _ => .finish

theorem emptyStatement {mark : Punctuator} :
    Steady setup (Next (.punctuator mark)) Parser.emptyStatement Done :=
  .bind .position fun _ => .bind (.advanceFrom rfl) fun _ => .finish

theorem jumpLabel : Steady setup pre Parser.jumpLabel Done := by
  refine .bind .current fun token => ?_
  cases token.kind with
  | identifier name => exact .ite (fun _ => .give) (.bind .bindingName fun _ => .give)
  | _ => exact .give

theorem jumpStatement {word : Keyword} (jump : Optional (.located .word) → Node .statement) :
    Steady setup (Next (.keyword word)) (Parser.jumpStatement jump) Done :=
  .bind .position fun _ => .bind (.advanceFrom rfl) fun _ => .bind .jumpLabel fun _ =>
    .bind .expectSemicolon fun _ => .finish

theorem atLoopWord : Steady setup pre Parser.atLoopWord fun _ => pre :=
  .glance _ fun _ => rfl

theorem loopLeft (head : Located .loopHead) :
    Steady setup pre (Parser.loopLeft head) fun _ => pre := by
  cases head with
  | located start stop head =>
      cases head with
      | expressionHead expression => exact .bind (.targetOf _) fun _ => .pure fun _ => id
      | declarationHead kind declarators =>
          rcases declarators with _ | ⟨first, _ | ⟨second, rest⟩⟩
          · exact .fail
          · exact .pure fun _ => id
          · exact .fail
      | patternHead pattern => exact .pure fun _ => id

variable (on : OnLevel setup self)
include on

theorem parenthesized : Steady setup pre (Parser.parenthesized self) Done :=
  .bind .expectMark fun _ => .bind (on.goal nofun) fun _ => .bind .expectMark fun _ => .give

/-! ## Declarations -/

theorem declarator : Steady setup pre (Parser.declarator self) Done :=
  .bind .position fun _ => .bind (on.goal nofun) fun _ => .bind .eatMark fun _ => .ite
    (fun _ => .bind (on.goal nofun) fun _ => .finish) .finish

theorem declarators : Steady setup pre (Parser.declarators self) Done :=
  .bind (declarator on) fun _ => .bind .eatMark fun _ => .ite
    (fun _ => .bind (on.goal nofun) fun _ => .give) .give

theorem declaration {word : Keyword} :
    Steady setup (Next (.keyword word)) (Parser.declaration self) Done :=
  .bind (.advanceFrom rfl) fun _ => on.goal nofun

theorem variableStatement {word : Keyword} (kind : VariableKind) :
    Steady setup (Next (.keyword word)) (Parser.variableStatement self kind) Done :=
  .bind .position fun _ => .bind (declaration on) fun _ => .bind .expectSemicolon fun _ => .finish

theorem functionStatement (start : Nat) (isAsync : Bool) :
    Steady setup pre (Parser.functionStatement self start isAsync) Done :=
  .bind (function on _ _ _) fun _ => .give

theorem classStatement : Steady setup pre (Parser.classStatement self) Done :=
  .bind (classDefinition on _) fun _ => .give

/-! ## Simple statements -/

theorem blockStatement : Steady setup pre (Parser.blockStatement self) Done := by
  refine .bind (block on) fun body => ?_
  split
  exact .give

theorem expressionStatement : Steady setup pre (Parser.expressionStatement self) Done :=
  .bind .position fun _ => .bind (on.goal nofun) fun _ => .bind .expectSemicolon fun _ => .finish

/-- The colon behind a label has been seen before the label is read. -/
theorem wordStatement {name : String} :
    Steady setup (Next (.identifier name)) (Parser.wordStatement self) Done := by
  refine .bind .position fun _ => .bind .peek fun next => .bind .at? fun isAsync =>
    .ite (fun _ => ?_) (.ite (fun colon => ?_) (expressionStatement on))
  · exact .bind (.advance fun _ holds => holds.1.1 ▸ rfl) fun _ => functionStatement on _ _
  · refine .bind (.bindingNameWith fun _ _ holds outcome => congrArg Token.kind
      (current_of_peek holds.1.2 outcome)) fun _ => ?_
    exact .bind (.advanceFrom (by rw [colon]; rfl)) fun _ => .bind (on.goal nofun) fun _ => .finish

theorem returnValue : Steady setup pre (Parser.returnValue self) Done :=
  .bind .atStatementEnd fun _ => .ite (fun _ => .give) (.bind (on.goal nofun) fun _ => .give)

theorem returnStatement {word : Keyword} :
    Steady setup (Next (.keyword word)) (Parser.returnStatement self) Done :=
  .bind .position fun _ => .bind .context fun _ => .ite
    (fun _ => .bind (.advanceFrom rfl) fun _ => .bind (returnValue on) fun _ =>
      .bind .expectSemicolon fun _ => .finish)
    .unexpected

theorem throwStatement {word : Keyword} :
    Steady setup (Next (.keyword word)) (Parser.throwStatement self) Done :=
  .bind .position fun _ => .bind (.advanceFrom rfl) fun _ => .bind .atNewline fun _ =>
    .ite (fun _ => .unexpected) <|
      .bind (on.goal nofun) fun _ => .bind .expectSemicolon fun _ => .finish

/-! ## Conditionals and loops -/

theorem ifStatement {word : Keyword} :
    Steady setup (Next (.keyword word)) (Parser.ifStatement self) Done :=
  .bind .position fun _ => .bind (.advanceFrom rfl) fun _ => .bind (parenthesized on) fun _ =>
    .bind (on.goal nofun) fun _ => .bind .eatKeyword fun _ => .ite
      (fun _ => .bind (on.goal nofun) fun _ => .finish) .finish

theorem whileStatement {word : Keyword} :
    Steady setup (Next (.keyword word)) (Parser.whileStatement self) Done :=
  .bind .position fun _ => .bind (.advanceFrom rfl) fun _ => .bind (parenthesized on) fun _ =>
    .bind (on.goal nofun) fun _ => .finish

theorem doStatement {word : Keyword} :
    Steady setup (Next (.keyword word)) (Parser.doStatement self) Done :=
  .bind .position fun _ => .bind (.advanceFrom rfl) fun _ => .bind (on.goal nofun) fun _ =>
    .bind .expectKeyword fun _ => .bind (parenthesized on) fun _ =>
      .bind .eatMark fun _ => .finish

theorem loopTarget : Steady setup pre (Parser.loopTarget self) Done :=
  .bind (on.goal nofun) fun _ => .bind .atLoopWord fun _ => .ite (fun _ => .give) .unexpected

theorem loopTarget? : Steady setup pre (Parser.loopTarget? self) Done := by
  refine .bind .currentKind fun kind => ?_
  split
  · exact (attempt (loopTarget on)).done
  · exact (attempt (loopTarget on)).done
  · exact .give

theorem loopHead : Steady setup pre (Parser.loopHead self) Done := by
  refine .withIn <| .bind .position fun _ => .bind .currentKind fun kind => ?_
  cases named : variableKind? kind with
  | some declared =>
      cases kind with
      | keyword word => exact .bind (declaration on) fun _ => .finish
      | _ => cases named
  | none =>
      refine .bind (loopTarget? on) fun target => ?_
      cases target with
      | some target => exact .give
      | none => exact .bind (on.goal nofun) fun _ => .give

theorem forInRest (start : Nat) (left : Located .loopHead) :
    Steady setup pre (Parser.forInRest self start left) Done :=
  .bind (on.goal nofun) fun _ => .bind .expectMark fun _ => .bind (on.goal nofun) fun _ => .finish

theorem forOfRest (start : Nat) (left : Located .loopHead) :
    Steady setup pre (Parser.forOfRest self start left) Done :=
  .bind (on.goal nofun) fun _ => .bind .expectMark fun _ => .bind (on.goal nofun) fun _ => .finish

theorem optionalExpression (close : Punctuator) :
    Steady setup pre (Parser.optionalExpression self close) Done :=
  .ifKind .give (.bind (on.goal nofun) fun _ => .give)

theorem forRest (start : Nat) (head : Optional (.located .loopHead)) :
    Steady setup pre (Parser.forRest self start head) Done :=
  .bind .expectMark fun _ => .bind (optionalExpression on _) fun _ =>
    .bind .expectMark fun _ => .bind (optionalExpression on _) fun _ =>
      .bind .expectMark fun _ => .bind (on.goal nofun) fun _ => .finish

theorem forStatement {word : Keyword} :
    Steady setup (Next (.keyword word)) (Parser.forStatement self) Done :=
  .bind .position fun _ => .bind (.advanceFrom rfl) fun _ => .bind .expectMark fun _ =>
    .ifKind (forRest on _ _) <| .bind (loopHead on) fun head => .ifKind
      (.bind (loopLeft head) fun _ => .bind (.advanceFrom rfl) fun _ => forInRest on _ _) <|
      .ifKind
        (.bind (loopLeft head) fun _ => .bind (.advanceFrom rfl) fun _ => forOfRest on _ _)
        (forRest on _ _)

/-! ## Clauses -/

theorem handlerParameter : Steady setup pre (Parser.handlerParameter self) Done :=
  .bind .eatMark fun _ => .ite
    (fun _ => .bind (on.goal nofun) fun _ => .bind .expectMark fun _ => .give) .give

theorem catchClause : Steady setup pre (Parser.catchClause self) Done :=
  .bind .position fun _ => .bind .eatKeyword fun _ => .ite
    (fun _ => .bind (handlerParameter on) fun _ => .bind (block on) fun _ =>
      .bind .finish fun _ => .give)
    .give

theorem finallyBlock : Steady setup pre (Parser.finallyBlock self) Done :=
  .bind .eatKeyword fun _ => .ite (fun _ => .bind (block on) fun _ => .give) .give

theorem tryStatement {word : Keyword} :
    Steady setup (Next (.keyword word)) (Parser.tryStatement self) Done := by
  refine .bind .position fun _ => .bind (.advanceFrom rfl) fun _ => .bind (block on) fun _ => ?_
  refine .bind (catchClause on) fun clause => .bind (finallyBlock on) fun finalizer => ?_
  cases clause with
  | none =>
      cases finalizer with
      | none => exact .unexpected
      | some finalizer => exact .finish
  | some clause => exact .finish

theorem caseTest : Steady setup pre (Parser.caseTest self) Done :=
  .bind .eatKeyword fun _ => .ite (fun _ => .bind (on.goal nofun) fun _ => .give) <|
    .bind .eatKeyword fun _ => .ite (fun _ => .give) .unexpected

theorem switchCase : Steady setup pre (Parser.switchCase self) Done :=
  .bind .position fun _ => .bind (caseTest on) fun _ => .bind .expectMark fun _ =>
    .bind (on.goal nofun) fun _ => .finish

theorem switchCases : Steady setup pre (Parser.switchCases self) Done :=
  .ifKind .give <| .bind (switchCase on) fun _ => .bind (on.goal nofun) fun _ => .give

theorem switchStatement {word : Keyword} :
    Steady setup (Next (.keyword word)) (Parser.switchStatement self) Done :=
  .bind .position fun _ => .bind (.advanceFrom rfl) fun _ => .bind (parenthesized on) fun _ =>
    .bind .expectMark fun _ => .bind (on.goal nofun) fun _ => .bind .expectMark fun _ => .finish

/-! ## Statements of any kind -/

theorem keywordStatement (word : Keyword) :
    Steady setup (Next (.keyword word)) (Parser.keywordStatement self word) Done := by
  unfold Parser.keywordStatement
  split
  · exact variableStatement on _
  · exact variableStatement on _
  · exact variableStatement on _
  · exact .bind .position fun _ => functionStatement on _ _
  · exact classStatement on
  · exact ifStatement on
  · exact whileStatement on
  · exact doStatement on
  · exact forStatement on
  · exact returnStatement on
  · exact jumpStatement _
  · exact jumpStatement _
  · exact throwStatement on
  · exact tryStatement on
  · exact switchStatement on
  · exact debuggerStatement
  · exact expressionStatement on

theorem statement : Steady setup pre (Parser.statement self) Done := by
  refine .nested <| .bind .currentKind fun kind => ?_
  split
  · exact blockStatement on
  · exact emptyStatement
  · exact keywordStatement on _
  · exact wordStatement on
  · exact expressionStatement on

theorem statements (stop : StatementsEnd) :
    Steady setup pre (Parser.statements self stop) Done :=
  .bind .currentKind fun _ => .ite (fun _ => .give) <|
    .bind (on.goal nofun) fun _ => .bind (on.goal nofun) fun _ => .give

end Steady

/-! ## Runs -/

theorem OnLevel.production (on : OnLevel setup self) :
    OnLevel setup (Parser.production self) where
  goals
    | .statement, _ => Steady.statement on
    | .statements stop, _ => Steady.statements on stop
    | .declarators, _ => Steady.declarators on
    | .switchCases, _ => Steady.switchCases on
    | .classMembers, _ => Steady.classMembers on
    | .expression, _ => Steady.expression on
    | .moreExpressions, _ => Steady.moreExpressions on
    | .assignment, _ => Steady.assignment on
    | .binary minimum, _ => Steady.binary on minimum
    | .binaryRest minimum start left, _ => Steady.binaryRest on minimum start left
    | .power, _ => Steady.power on
    | .unary, _ => Steady.unary on
    | .leftHandSide, _ => Steady.leftHandSide on
    | .newExpression, _ => Steady.newExpression on
    | .memberRest start object allowCall, _ => Steady.memberRest on start object allowCall
    | .arguments, _ => Steady.argumentList on
    | .arrayElements, _ => Steady.arrayElements on
    | .objectMembers, _ => Steady.objectMembers on
    | .templateRest, other => absurd rfl other
    | .target use, _ => Steady.target on use
    | .targetElements use, _ => Steady.targetElements on use
    | .targetProperties use, _ => Steady.targetProperties on use
    | .parameters, _ => Steady.parameters on
  template _ _ _ _ level outcome := on.templateRest level outcome

theorem onLevel_run (steps : Nat) : OnLevel setup (run steps) := by
  induction steps with
  | zero =>
      refine ⟨fun _ _ _ _ _ _ _ _ outcome => ?_, fun _ _ _ _ _ outcome => ?_⟩
      · cases outcome
      · cases outcome
  | succ steps on => exact on.production

/-- The statements of a script end at the end of input. -/
theorem statements_end {steps : Nat} {s s' : State} {body : Many (.located .statement)}
    (outcome : run steps (.statements .script) setup s = .ok body s') :
    s'.current.kind = .endOfInput := by
  induction steps generalizing s body with
  | zero => cases outcome
  | succ steps ih =>
      change (currentKind >>= _) setup s = _ at outcome
      rw [currentKind_bind] at outcome
      rcases ite_ok outcome with ⟨ends, outcome⟩ | ⟨_, outcome⟩
      · cases outcome
        cases kind : s'.current.kind with
        | endOfInput => rfl
        | _ =>
            rw [kind] at ends
            cases ends
      · obtain ⟨first, t, _, outcome⟩ := bind_ok outcome
        obtain ⟨rest, t', outcome', outcome⟩ := bind_ok outcome
        cases outcome
        exact ih outcome'

theorem level_start {source : Text} {s : State} (starts : start setup source = .ok s) :
    s.Level 0 := by
  unfold Parser.start at starts
  split at starts
  · cases starts
  · rename_i token lexer reads
    cases starts
    exact level_of_reads reads rfl rfl

/-- A script ends at the end of input, outside of all substitutions. -/
theorem replyTo_end {source : Text} {body : Many (.located .statement)} {s : State}
    (replies : replyTo setup source = .ok (.ok body s)) :
    s.current.kind = .endOfInput ∧ s.lexer.templates = [] := by
  unfold replyTo at replies
  cases starts : start setup source with
  | error error =>
      rw [starts] at replies
      cases replies
  | ok first =>
      rw [starts] at replies
      have outcome : run (stepBound source) (.statements .script) setup first = .ok body s :=
        Except.ok.inj replies
      have ends := statements_end outcome
      have on : OnLevel setup (run (stepBound source)) := onLevel_run _
      have steady := on.goals (.statements .script) nofun
      have level := (steady first 0 body s trivial (level_start starts) outcome).1
      have outside := (level_iff (by rw [ends]; rfl)).1 level
      exact ⟨ends, List.eq_nil_of_length_eq_zero outside⟩

end Parser

/-- The open braces that a lexer counts are those of the tokens that it has given, each of which
stands where it may. Where a script has been accepted, at the end of input, no substitution is
open. -/
theorem templates_nested (source : String) :
    (∀ tokens lexer, Lexer.Gave source.toList tokens lexer →
      lexer.templates = Lexer.nesting tokens ∧
      ∀ before token behind, tokens = before ++ token :: behind →
        token.kind.NestsIn (Lexer.nesting before)) ∧
    ∀ program, parse source = .ok program →
      ∃ s, Parser.replyTo Setup.standard source.toList = .ok (.ok program.body s) ∧
        s.current.kind = .endOfInput ∧ s.lexer.templates = [] := by
  refine ⟨fun tokens lexer gave => gave.nested, fun program accepted => ?_⟩
  unfold parse parseWith at accepted
  cases reply : Parser.replyTo Setup.standard source.toList with
  | error error =>
      rw [reply] at accepted
      cases accepted
  | ok reply' =>
      rw [reply] at accepted
      cases reply' with
      | reject error s => cases accepted
      | exhausted => cases accepted
      | ok body s =>
          cases accepted
          exact ⟨s, rfl, Parser.replyTo_end reply⟩

/-- An object in a substitution. -/
theorem templates_nested_object :
    ∃ tokens lexer program, Lexer.Gave "`${{}}`".toList tokens lexer ∧
      parse "`${{}}`" = .ok program ∧ tokens.length = 5 ∧ lexer.templates = Lexer.nesting tokens ∧
      ∃ s, Parser.replyTo Setup.standard "`${{}}`".toList = .ok (.ok program.body s) ∧
        s.current.kind = .endOfInput ∧ s.lexer.templates = [] := by
  have accepts : (parse "`${{}}`").isOk = true := by decide +kernel
  cases accepted : parse "`${{}}`" with
  | error error =>
      rw [accepted] at accepts
      cases accepts
  | ok program =>
      have gave : ∃ tokens lexer, Lexer.Gave "`${{}}`".toList tokens lexer ∧ tokens.length = 5 :=
        ⟨_, _, .next (.next (.next (.next (.next .start rfl) rfl) rfl) rfl) rfl, rfl⟩
      obtain ⟨tokens, lexer, gave, five⟩ := gave
      obtain ⟨nested, ends⟩ := templates_nested "`${{}}`"
      exact ⟨tokens, lexer, program, gave, rfl, five, (nested tokens lexer gave).1,
        ends program accepted⟩

end Ecmascript
