import Ecmascript.Proofs.Operators.Climbing
import Ecmascript.Proofs.Operators.Parsing
import Ecmascript.Proofs.Operators.Spacing
import Ecmascript.Proofs.Progress.Run

/-!
# Printed formulas are parsed back

A script that is a formula with a semicolon is printed, and the text is parsed. The result is the
script again, up to positions, unless phrases are nested too deep.
-/

set_option autoImplicit false

namespace Ecmascript

/-! ## The tokens are spelled -/

/-- Every token of a list is spelled by its text. -/
def AllSpelled (kinds : List TokenKind) : Prop :=
  ∀ kind ∈ kinds, kind.Spelled

namespace AllSpelled

variable {kinds kinds' : List TokenKind} {kind : TokenKind}

theorem nil : AllSpelled [] :=
  nofun

theorem cons (first : kind.Spelled) (rest : AllSpelled kinds) : AllSpelled (kind :: kinds) := by
  intro other listed
  rcases List.mem_cons.1 listed with rfl | listed
  · exact first
  · exact rest other listed

theorem append (first : AllSpelled kinds) (rest : AllSpelled kinds') :
    AllSpelled (kinds ++ kinds') := by
  intro kind listed
  rcases List.mem_append.1 listed with listed | listed
  · exact first kind listed
  · exact rest kind listed

theorem inParens (inner : AllSpelled kinds) : AllSpelled (Ecmascript.inParens kinds) :=
  cons ⟨nofun, nofun⟩ (inner.append (cons ⟨nofun, nofun⟩ nil))

theorem parensIf {condition : Bool} (closed : AllSpelled kinds) (bare : AllSpelled kinds') :
    AllSpelled (Ecmascript.parensIf condition kinds kinds') := by
  cases condition with
  | true => exact closed.inParens
  | false => exact bare

end AllSpelled

theorem allSpelled_list {minimum : Nat} {list : Many (.located .expression)}
    (each : ∀ expression ∈ list.items, AllSpelled (expression.lexemes minimum)) :
    AllSpelled (list.lexemes minimum) := by
  induction list using Node.listInduction with
  | nil => exact .nil
  | cons head tail ih =>
      rw [Node.items_cons] at each
      have first := each head List.mem_cons_self
      have rest := ih fun expression listed => each expression (List.mem_cons_of_mem _ listed)
      change AllSpelled (head.lexemes minimum ++
        if tail.isNil then [] else .punctuator .comma :: tail.lexemes minimum)
      refine first.append ?_
      split
      · exact .nil
      · exact .cons ⟨nofun, nofun⟩ rest

theorem spelled_unary (operator : UnaryOperator) : operator.kind.Spelled := by
  cases operator <;> first | exact trivial | exact ⟨nofun, nofun⟩

theorem spelled_binary (operator : BinaryOperator) : operator.kind.Spelled := by
  cases operator <;> first | exact trivial | exact ⟨nofun, nofun⟩

theorem spelled_logical (operator : LogicalOperator) : operator.kind.Spelled := by
  cases operator <;> exact ⟨nofun, nofun⟩

theorem spelled_propertyName {name : String} (named : IsPropertyName name) :
    (Lexer.wordKind name.toList).Spelled := by
  rcases named with reads | ⟨word, rfl⟩
  · have spelled : (TokenKind.identifier name).Spelled := Lexer.spelled_of_readsAs reads rfl
    rw [spelled.kind]
    exact spelled
  · rw [(Lexer.word_keyword word).kind]
    exact trivial

/-- The tokens of a formula are spelled by their texts. -/
theorem allSpelled_lexemes {expression : Located .expression} (formula : Formula expression)
    (minimum : Nat) : AllSpelled (expression.lexemes minimum) := by
  have located {start stop minimum : Nat} {item : Node .expression}
      (inner : AllSpelled (item.lexemes minimum)) :
      AllSpelled ((Node.located start stop item).lexemes minimum) :=
    AllSpelled.parensIf inner inner
  have single {kind : TokenKind} (spelled : kind.Spelled) : AllSpelled [kind] :=
    .cons spelled .nil
  induction formula generalizing minimum with
  | this => exact located (single trivial)
  | identifier reads => exact located (single (Lexer.spelled_of_readsAs reads rfl))
  | null => exact located (single trivial)
  | boolean value => cases value <;> exact located (single trivial)
  | number reads => exact located (single (Lexer.spelled_of_readsAs reads rfl))
  | string reads => exact located (single (Lexer.spelled_of_readsAs reads rfl))
  | regex reads => exact located (single (Lexer.spelled_of_readsAs reads rfl))
  | unary operator inner ih => exact located (.cons (spelled_unary operator) (ih Level.unary))
  | binary operator first second left right =>
      exact located ((left operator.leftLevel).append
        (.cons (spelled_binary operator) (right operator.rightLevel)))
  | logical operator first second left right =>
      exact located (((left Level.sequence).parensIf (left operator.level)).append
        (.cons (spelled_logical operator)
          ((right Level.sequence).parensIf (right (operator.level + 1)))))
  | conditional first second third test consequent alternate =>
      exact located ((test Level.logicalOr).append (.cons ⟨nofun, nofun⟩
        ((consequent Level.assignment).append (.cons ⟨nofun, nofun⟩
          (alternate Level.assignment)))))
  | sequence several each ih =>
      exact located (allSpelled_list fun expression listed =>
        ih expression listed Level.assignment)
  | member inner named ih =>
      exact located (((ih Level.sequence).parensIf (ih Level.call)).append
        (.cons ⟨nofun, nofun⟩ (single (spelled_propertyName named))))
  | computed first second object property =>
      exact located (((object Level.sequence).parensIf (object Level.call)).append
        (.cons ⟨nofun, nofun⟩ ((property Level.sequence).append (single ⟨nofun, nofun⟩))))
  | call inner each callee arguments =>
      have listed := allSpelled_list fun expression listed =>
        arguments expression listed Level.assignment
      exact located ((callee Level.call).append listed.inParens)
  | new inner each callee arguments =>
      have listed := allSpelled_list fun expression listed =>
        arguments expression listed Level.assignment
      exact located (.cons trivial (((callee Level.call).parensIf (callee Level.call)).append
        listed.inParens))

/-! ## No labels -/

/-- Tokens do not begin with a name and a colon. -/
def Unlabeled (kinds : List TokenKind) : Prop :=
  ∀ kind rest, kind ≠ .punctuator .colon →
    ∀ name more, kinds ++ kind :: rest ≠ .identifier name :: .punctuator .colon :: more

namespace Unlabeled

variable {kinds kinds' : List TokenKind} {kind : TokenKind}

theorem single : Unlabeled [kind] := by
  intro next rest other name more same
  cases same
  exact other rfl

theorem cons (other : ∀ name, kind ≠ .identifier name) : Unlabeled (kind :: kinds) := by
  intro next rest _ name more same
  exact other name (List.cons.inj same).1

theorem append (first : Unlabeled kinds) (other : kind ≠ .punctuator .colon) :
    Unlabeled (kinds ++ kind :: kinds') := by
  intro next rest _ name more same
  rw [List.append_assoc] at same
  exact first kind _ other name more same

theorem parensIf {condition : Bool} (bare : Unlabeled kinds') :
    Unlabeled (Ecmascript.parensIf condition kinds kinds') := by
  cases condition with
  | true => exact cons nofun
  | false => exact bare

end Unlabeled

/-- A formula does not begin like a labeled statement. -/
theorem unlabeled_lexemes {expression : Located .expression} (formula : Formula expression)
    (minimum : Nat) : Unlabeled (expression.lexemes minimum) := by
  induction formula generalizing minimum with
  | this => exact .parensIf .single
  | identifier reads => exact .parensIf .single
  | null => exact .parensIf .single
  | boolean value => exact .parensIf .single
  | number reads => exact .parensIf .single
  | string reads => exact .parensIf .single
  | regex reads => exact .parensIf .single
  | unary operator inner ih => exact .parensIf (.cons (by cases operator <;> nofun))
  | binary operator first second left right =>
      exact .parensIf ((left operator.leftLevel).append (by cases operator <;> nofun))
  | logical operator first second left right =>
      exact .parensIf ((left operator.level).parensIf.append (by cases operator <;> nofun))
  | conditional first second third test consequent alternate =>
      exact .parensIf ((test Level.logicalOr).append nofun)
  | @sequence start stop expressions several each ih =>
      refine .parensIf ?_
      cases expressions with
      | nil => simp at several
      | cons head tail =>
          rw [Node.items_cons] at ih
          have first := ih head List.mem_cons_self Level.assignment
          change Unlabeled (head.lexemes Level.assignment ++
            if tail.isNil then [] else .punctuator .comma :: tail.lexemes Level.assignment)
          split
          · simpa using first
          · exact first.append nofun
  | member inner named ih => exact .parensIf ((ih Level.call).parensIf.append nofun)
  | computed first second object property =>
      exact .parensIf ((object Level.call).parensIf.append nofun)
  | call inner each callee arguments => exact .parensIf ((callee Level.call).append nofun)
  | new inner each callee arguments => exact .parensIf (.cons nofun)

/-! ## Statements -/

namespace Parser

variable {setup : Setup} {s : State} {expression : Located .expression}

theorem keywordStatement_of_starts {self : Grammar} {word : Keyword}
    (starts : (TokenKind.keyword word).startsOperand = true) :
    keywordStatement self word = expressionStatement self := by
  cases word <;> first | rfl | cases starts

/-- The tokens of a formula as a script of one statement. -/
def scriptKinds (expression : Located .expression) : List TokenKind :=
  expression.lexemes Level.sequence ++ [.punctuator .semicolon, .endOfInput]

theorem gives_expressionStatement (formula : Formula expression) (steps start stop : Nat)
    (faces : Faces setup (scriptKinds expression) s) :
    GivesNode setup (expressionStatement (run steps)) s
      (.located start stop (.expressionStatement expression)) [.endOfInput] := by
  have reads : Reads .expression (scriptKinds expression) expression
      [.punctuator .semicolon, .endOfInput] :=
    (fits_lexemes formula Level.sequence).whole (.punctuator .semicolon) [.endOfInput]
      ⟨rfl, by decide⟩
  refine .step (rfl : position setup s = .ok s.current.start s) ?_
  refine (parses_of_reads reads s faces steps).bind fun parsed after holds => ?_
  obtain ⟨same, faces⟩ := holds
  have ends : Gives IsTooDeep setup expectSemicolon after fun _ last =>
      Faces setup [.endOfInput] last :=
    .eat faces nofun fun last faces => .ifTrue rfl (.pure faces)
  refine ends.bind fun _ last faces => gives_finish ?_
  refine ⟨?_, faces⟩
  change Node.located 0 0 (.expressionStatement parsed.erase) = _
  rw [same]
  rfl

theorem gives_wordStatement (formula : Formula expression) (steps start stop : Nat)
    (faces : Faces setup (scriptKinds expression) s) {name : String} {kinds : List TokenKind}
    (split : scriptKinds expression = .identifier name :: kinds) :
    GivesNode setup (wordStatement (run steps)) s
      (.located start stop (.expressionStatement expression)) [.endOfInput] := by
  have faces' := faces
  rw [split] at faces'
  obtain ⟨next, more, rfl, adjacent⟩ := faces'.cons nofun
  have follows := adjacent.follows_of_ends rfl rfl
  have unlabeled : next ≠ .punctuator .colon := by
    rintro rfl
    exact unlabeled_lexemes formula Level.sequence (.punctuator .semicolon) [.endOfInput] nofun
      name more split
  obtain ⟨token, peeks, named⟩ := faces'.peek (faces'.kind_eq nofun)
  have other (kind : TokenKind) (unlike : next ≠ kind) (unread : ∀ raw, kind ≠ .regex raw) :
      token.kind ≠ kind := by
    rcases named with same | ⟨_, raw, regex⟩
    · rw [same]
      exact unlike
    · rw [regex]
      exact fun same => unread raw same.symm
  have noFunction : next ≠ .keyword .functionWord := by
    rintro rfl
    cases follows
  refine .step (rfl : position setup s = .ok s.current.start s) (.step peeks ?_)
  refine .step (rfl : atName "async" setup s = .ok _ s) ?_
  rw [decide_eq_false (other _ noFunction nofun), Bool.and_false, Bool.false_and]
  refine .ifFalse rfl ?_
  rw [if_neg (other _ unlabeled nofun)]
  exact gives_expressionStatement formula steps start stop faces

theorem gives_statement (formula : Formula expression) (steps start stop : Nat)
    (faces : Faces setup (scriptKinds expression) s) :
    GivesNode setup (run steps .statement) s
      (.located start stop (.expressionStatement expression)) [.endOfInput] := by
  cases steps with
  | zero => trivial
  | succ steps =>
      refine gives_nested ?_
      have faces' := faces.scope s.failed (s.depth + 1)
      generalize ({ s with failed := s.failed, depth := s.depth + 1 } : State) = s at faces'
      have reads := (fits_lexemes formula Level.sequence).whole (.punctuator .semicolon)
        [.endOfInput] ⟨rfl, by decide⟩
      obtain ⟨first, more, split, starts⟩ := reads.begins
      have faces'' : Faces setup (first :: more) s := split ▸ faces'
      refine .step (rfl : currentKind setup s = .ok s.current.kind s) ?_
      rw [faces''.kind_eq (not_slash_of_starts starts)]
      split
      · cases starts
      · cases starts
      · change GivesNode setup (keywordStatement (run steps) _) s _ _
        rw [keywordStatement_of_starts starts]
        exact gives_expressionStatement formula steps start stop faces'
      · exact gives_wordStatement formula steps start stop faces' split
      · exact gives_expressionStatement formula steps start stop faces'

/-- A script of one statement is given back. -/
theorem gives_script (formula : Formula expression) (steps start stop : Nat)
    (faces : Faces setup (scriptKinds expression) s) :
    GivesNode setup (run steps (.statements .script)) s
      (.cons (.located start stop (.expressionStatement expression)) .nil) [.endOfInput] := by
  cases steps with
  | zero => trivial
  | succ steps =>
      have reads := (fits_lexemes formula Level.sequence).whole (.punctuator .semicolon)
        [.endOfInput] ⟨rfl, by decide⟩
      obtain ⟨first, more, split, starts⟩ := reads.begins
      have faces' : Faces setup (first :: more) s := split ▸ faces
      have goes_on : first ≠ .endOfInput := by
        rintro rfl
        cases starts
      have accepts (kind : TokenKind) (other : kind ≠ .endOfInput) :
          StatementsEnd.script.accepts kind = false := by
        cases kind with
        | endOfInput => exact absurd rfl other
        | _ => rfl
      refine .step (rfl : currentKind setup s = .ok s.current.kind s) ?_
      rw [faces'.kind_eq (not_slash_of_starts starts)]
      refine .ifFalse (accepts first goes_on) ?_
      refine (gives_statement formula steps start stop faces).bind fun parsed after holds => ?_
      obtain ⟨same, ends⟩ := holds
      have rest : GivesNode setup (run steps (.statements .script)) after .nil [.endOfInput] := by
        cases steps with
        | zero => trivial
        | succ steps =>
            refine .step (rfl : currentKind setup after = .ok after.current.kind after) ?_
            rw [ends.kind_eq nofun]
            exact .ifTrue rfl (.pure ⟨rfl, ends⟩)
      refine rest.bind fun rest last holds => .pure ?_
      obtain ⟨same', ends⟩ := holds
      refine ⟨?_, ends⟩
      change Node.cons parsed.erase rest.erase = _
      rw [same, same']
      rfl

end Parser

/-! ## Scripts -/

/-- The script that is an expression with a semicolon, at any positions. -/
def Program.ofExpression (expression : Located .expression) (start stop first last : Nat) :
    Program :=
  { start, stop, body := .cons (.located first last (.expressionStatement expression)) .nil }

/-- A formula does not begin like a declaration. -/
theorem opensDeclaration_formula {expression : Located .expression} (formula : Formula expression) :
    expression.opensDeclaration = false := by
  induction formula with
  | @sequence start stop expressions several each ih =>
      cases expressions with
      | nil => rfl
      | cons head tail =>
          rw [Node.items_cons] at ih
          exact ih head List.mem_cons_self
  | binary _ _ _ ih _ => exact ih
  | logical _ _ _ ih _ => exact ih
  | conditional _ _ _ ih _ _ => exact ih
  | member _ _ ih => exact ih
  | computed _ _ ih _ => exact ih
  | call _ _ ih _ => exact ih
  | _ => rfl

/-- What is written for a script is the tokens of its expression and a semicolon. -/
theorem writes_script {style : Style} {expression : Located .expression}
    (formula : Formula expression) (start stop first last : Nat) :
    Print.Writes style
      ((Program.ofExpression expression start stop first last).body.print .sequence)
      (expression.lexemes Level.sequence ++ [.punctuator .semicolon]) := by
  have operand : Print.Writes style (expression.print .sequence)
      (expression.lexemes Level.sequence) :=
    writes_lexemes formula Level.sequence
  have opened : Print.opening expression (expression.print .sequence) =
      expression.print .sequence := by
    rw [Print.opening, opensDeclaration_formula formula]
    rfl
  have statement : Print.Writes style
      (Print.all [Print.opening expression (expression.print .sequence), Print.token ";"])
      (expression.lexemes Level.sequence ++ [.punctuator .semicolon]) := by
    rw [opened]
    exact operand.cons (Print.Writes.mark .semicolon).last
  obtain ⟨entries, same, writes⟩ := statement
  refine ⟨entries, same, fun writer style noIn => ?_⟩
  rw [← writes writer style noIn]
  change (if (decide (Level.primary < Level.sequence) || writer.noIn && false) = true then _
    else _) = _
  rw [noIn]
  rfl

/-- The state in front of a printed script faces its tokens. -/
theorem faces_print (style : Style) {expression : Located .expression}
    (formula : Formula expression) (start stop first last : Nat) :
    ∃ s, Parser.start Setup.standard
        ((Program.ofExpression expression start stop first last).print style).toList = .ok s ∧
      Parser.Faces Setup.standard (Parser.scriptKinds expression) s := by
  have written : Print.Writes style _ _ := writes_script formula start stop first last
  obtain ⟨entries, same, writes⟩ := written
  have text : ((Program.ofExpression expression start stop first last).print style).toList =
      (Writer.empty style).rendered entries := by
    rw [Program.print, String.toList_ofList, writes _ rfl rfl, Writer.text_items]
    rfl
  have phrase := (phrase_lexemes formula Level.sequence).weaken
  have chain : (.punctuator .leftParen :: entries.filterMap id).IsChain Adjacent := by
    rw [same]
    exact phrase _ _ [] rfl rfl (fun _ => nofun) (.singleton _)
  have spelled : ∀ kind ∈ entries.filterMap id, kind.Spelled := by
    rw [same]
    exact (allSpelled_lexemes formula Level.sequence).append (.cons ⟨nofun, nofun⟩ .nil)
  have ahead : Lexer.Ahead TokenKind.endsOperand
      (Lexer.ofText ((Writer.empty style).rendered entries)) (Parser.scriptKinds expression) := by
    have kinds := Lexer.ahead_rendered entries (Writer.empty style) _ (.punctuator .leftParen)
      (Lexer.placed_ofText _) rfl rfl (.inr rfl) chain spelled
    rw [same, List.append_assoc] at kinds
    exact kinds
  have whole : (Parser.scriptKinds expression).IsChain Adjacent :=
    (phrase (.punctuator .leftParen) (.punctuator .semicolon) [.endOfInput] rfl rfl (fun _ => nofun)
      (.cons_cons .finish (.singleton _))).of_cons
  have ends : (Parser.scriptKinds expression).getLast? = some .endOfInput := by
    simp [Parser.scriptKinds]
  rw [text]
  generalize Parser.scriptKinds expression = kinds at ahead whole ends ⊢
  cases ahead with
  | nil => cases ends
  | cons reads stands ahead =>
      unfold Parser.start
      rw [show Setup.standard.endsOperand = TokenKind.endsOperand from rfl, reads]
      exact ⟨_, rfl, ⟨_, _, _, rfl, stands, ahead⟩, whole, ends, rfl⟩

/-- The text that is printed for a formula and a semicolon is parsed to the same script, up to
positions. Otherwise the parser has found that phrases are nested too deep. -/
theorem parse_print_formula {expression : Located .expression} (formula : Formula expression)
    (style : Style) (start stop first last : Nat) :
    (∃ parsed, parse ((Program.ofExpression expression start stop first last).print style) =
        .ok parsed ∧
      parsed.body.erase = (Program.ofExpression expression start stop first last).body.erase) ∨
    ∃ begin ends after,
      parse ((Program.ofExpression expression start stop first last).print style) =
        .error (.invalid begin ends .nestingTooDeep) ∧
      Parser.replyTo Setup.standard
          ((Program.ofExpression expression start stop first last).print style).toList =
        .ok (.reject (.invalid begin ends .nestingTooDeep) after) := by
  obtain ⟨s, starts, faces⟩ := faces_print style formula start stop first last
  generalize (Program.ofExpression expression start stop first last).print style = source
    at starts ⊢
  have gives := Parser.gives_script formula (Parser.stepBound source.toList) first last faces
  have enough : Parser.replyTo Setup.standard source.toList ≠ .ok .exhausted :=
    Parser.replyTo_ne_exhausted source.toList
  have replies : Parser.replyTo Setup.standard source.toList =
      .ok (Parser.run (Parser.stepBound source.toList) (.statements .script) Setup.standard s) := by
    unfold Parser.replyTo
    rw [starts]
    rfl
  unfold Parser.GivesNode Parser.Gives at gives
  unfold parse parseWith
  rw [replies] at enough ⊢
  cases outcome : Parser.run (Parser.stepBound source.toList) (.statements .script)
      Setup.standard s with
  | ok body after =>
      rw [outcome] at gives
      exact .inl ⟨_, rfl, gives.1⟩
  | reject error after =>
      rw [outcome] at gives
      obtain ⟨begin, ends, rfl⟩ := gives
      exact .inr ⟨begin, ends, after, rfl, rfl⟩
  | exhausted =>
      rw [outcome] at enough
      exact absurd rfl enough

/-- The power of a negation, which has parentheses, with a regular expression as its exponent. -/
theorem parse_print_power_of_negation :
    let name : Located .expression := .located 0 0 (.identifier "a")
    let exponent : Located .expression := .located 0 0 (.literal (.regex "/b/g"))
    let power : Located .expression := .located 0 0
      (.binaryExpression .power (.located 0 0 (.unaryExpression .minus name)) exponent)
    let script := Program.ofExpression power 0 0 0 0
    Formula power ∧ script.print .minified = "(-a)**/b/g;" ∧
      ((∃ parsed, parse (script.print .minified) = .ok parsed ∧
          parsed.body.erase = script.body.erase) ∨
        ∃ begin ends after,
          parse (script.print .minified) = .error (.invalid begin ends .nestingTooDeep) ∧
          Parser.replyTo Setup.standard (script.print .minified).toList =
            .ok (.reject (.invalid begin ends .nestingTooDeep) after)) := by
  intro name exponent power script
  have formula : Formula power :=
    .binary .power (.unary .minus (.identifier ⟨_, _, _, _, rfl, rfl, rfl, rfl⟩))
      (.regex ⟨_, _, _, _, rfl, rfl, rfl, rfl⟩)
  exact ⟨formula, by decide, parse_print_formula formula .minified 0 0 0 0⟩

end Ecmascript
