import Ecmascript.Proofs.Operators.Basic

/-!
# How formulas are laid out

Printing a formula writes its tokens in order, with blanks between some of them. A token is set
apart from the one before it where the two would run together.
-/

set_option autoImplicit false

namespace Ecmascript

namespace Print

/-- Prints a token by its kind. -/
def kind : TokenKind → Print
  | .regex raw => regex raw
  | other => token (String.ofList other.text)

/-- Prints a token, or a blank. -/
def item : Option TokenKind → Print
  | some kind => Print.kind kind
  | none => raw " "

/-- Prints tokens and blanks one after the other. -/
def items (entries : List (Option TokenKind)) : Print :=
  fun writer => entries.foldl (fun writer entry => item entry writer) writer

theorem items_append (front back : List (Option TokenKind)) (writer : Writer) :
    items (front ++ back) writer = items back (items front writer) := by
  simp [items, List.foldl_append]

theorem token_keeps (text : String) (writer : Writer) :
    (token text writer).style = writer.style ∧ (token text writer).noIn = writer.noIn := by
  unfold token
  split
  · exact ⟨rfl, rfl⟩
  · split <;> exact ⟨rfl, rfl⟩

theorem item_keeps (entry : Option TokenKind) (writer : Writer) :
    (item entry writer).style = writer.style ∧ (item entry writer).noIn = writer.noIn := by
  cases entry with
  | none => exact ⟨rfl, rfl⟩
  | some kind =>
      cases kind with
      | regex raw => exact token_keeps raw writer
      | _ => exact token_keeps _ writer

theorem items_keep (entries : List (Option TokenKind)) (writer : Writer) :
    (items entries writer).style = writer.style ∧ (items entries writer).noIn = writer.noIn := by
  induction entries generalizing writer with
  | nil => exact ⟨rfl, rfl⟩
  | cons entry entries ih =>
      have rest := ih (item entry writer)
      have first := item_keeps entry writer
      exact ⟨rest.1.trans first.1, rest.2.trans first.2⟩

/-- A piece of printing writes tokens, with blanks in any places. -/
def Writes (style : Style) (piece : Print) (kinds : List TokenKind) : Prop :=
  ∃ entries : List (Option TokenKind), entries.filterMap id = kinds ∧
    ∀ writer : Writer, writer.style = style → writer.noIn = false →
      piece writer = items entries writer

namespace Writes

variable {style : Style} {piece : Print} {pieces : List Print} {kinds kinds' : List TokenKind}

theorem nil : Writes style (all []) [] :=
  ⟨[], rfl, fun _ _ _ => rfl⟩

theorem cons (first : Writes style piece kinds) (rest : Writes style (all pieces) kinds') :
    Writes style (all (piece :: pieces)) (kinds ++ kinds') := by
  obtain ⟨entries, rfl, writes⟩ := first
  obtain ⟨entries', rfl, writes'⟩ := rest
  refine ⟨entries ++ entries', List.filterMap_append, fun writer style noIn => ?_⟩
  have kept := items_keep entries writer
  rw [items_append, ← writes' _ (kept.1.trans style) (kept.2.trans noIn), ← writes _ style noIn]
  rfl

theorem last (only : Writes style piece kinds) : Writes style (all [piece]) kinds := by
  obtain ⟨entries, same, writes⟩ := only
  exact ⟨entries, same, writes⟩

theorem blank : Writes style (raw " ") [] :=
  ⟨[none], rfl, fun _ _ _ => rfl⟩

theorem space : Writes style Print.space [] := by
  cases style with
  | pretty => exact ⟨[none], rfl, fun writer pretty _ => if_pos pretty⟩
  | minified =>
      exact ⟨[], rfl, fun writer minified _ => if_neg (by rw [minified]; nofun)⟩

theorem kind (kind : TokenKind) : Writes style (Print.kind kind) [kind] :=
  ⟨[some kind], rfl, fun _ _ _ => rfl⟩

theorem token {kind : TokenKind} {text : String}
    (same : Print.kind kind = Print.token (String.ofList text.toList)) :
    Writes style (Print.token text) [kind] := by
  rw [String.ofList_toList] at same
  rw [← same]
  exact Writes.kind kind

theorem mark (mark : Punctuator) : Writes style (Print.token mark.spelling) [.punctuator mark] :=
  token rfl

theorem word (word : Keyword) : Writes style (Print.token word.spelling) [.keyword word] :=
  token rfl

/-- A comma never runs together with what is before it. -/
theorem comma : Writes style Print.comma [.punctuator .comma] := by
  have written : Writes style (raw ",") [.punctuator .comma] := by
    refine ⟨[some (.punctuator .comma)], rfl, fun writer _ _ => ?_⟩
    have apart : writer.needsSpace ',' = false := by
      unfold Writer.needsSpace
      split
      · rfl
      · have other : Writer.isWordCharacter ',' = false := by decide
        simp [Writer.fuses, other]
    change writer.push _ = (if writer.needsSpace ',' = true then _ else writer).push _
    rw [apart]
    rfl
  exact written.cons space.last

theorem operator {text : String} {kind : TokenKind}
    (token : Writes style (Print.token text) [kind]) :
    Writes style (Print.operator text) [kind] :=
  space.cons (token.cons space.last)

theorem parenthesized (inner : Writes style piece kinds) :
    Writes style (Print.parenthesized piece) (inParens kinds) := by
  have whole : Writes style (all [Print.token "(", piece, Print.token ")"]) (inParens kinds) :=
    (mark .leftParen).cons (inner.cons (mark .rightParen).last)
  obtain ⟨entries, same, writes⟩ := whole
  refine ⟨entries, same, fun writer style noIn => ?_⟩
  have allowed : { writer with noIn := false } = writer := by rw [← noIn]
  change { all _ { writer with noIn := false } with noIn := writer.noIn } = _
  rw [allowed, writes writer style noIn, ← (items_keep entries writer).2]

theorem parensIf {condition : Bool} {inner bare : Print} {kinds kinds' : List TokenKind}
    (closed : Writes style inner kinds) (open_ : Writes style bare kinds') :
    Writes style (if condition = true then Print.parenthesized inner else bare)
      (Ecmascript.parensIf condition kinds kinds') := by
  cases condition with
  | true => exact closed.parenthesized
  | false => exact open_

end Writes

end Print

open Print

variable {style : Style}

/-- A phrase stands in parentheses where it binds too loosely. -/
theorem writes_located {category : Category} {start stop minimum : Nat} {item : Node category}
    (inner : Writes style (item.print (.operand minimum)) (item.lexemes minimum)) :
    Writes style ((Node.located start stop item).print (.operand minimum))
      ((Node.located start stop item).lexemes minimum) := by
  have enclosed : Writes style _ (parensIf (item.level < minimum) _ _) := inner.parensIf inner
  obtain ⟨entries, same, writes⟩ := enclosed
  refine ⟨entries, same, fun writer style noIn => ?_⟩
  rw [← writes writer style noIn]
  change item.enclose (.operand minimum) (item.print (.operand minimum)) writer = _
  simp only [Node.enclose, noIn, Bool.false_and, Bool.or_false]
  split <;> rfl

theorem writes_list {minimum : Nat} {list : Many (.located .expression)}
    (each : ∀ expression ∈ list.items,
      Writes style (expression.print (.operand minimum)) (expression.lexemes minimum)) :
    Writes style (list.print (.operand minimum)) (list.lexemes minimum) := by
  induction list using Node.listInduction with
  | nil => exact .nil
  | cons head tail ih =>
      rw [Node.items_cons] at each
      have first := each head List.mem_cons_self
      have rest := ih fun expression listed => each expression (List.mem_cons_of_mem _ listed)
      change Writes style (all [head.print (.operand minimum), when (!tail.isNil) Print.comma,
        tail.print (.operand minimum)]) (head.lexemes minimum ++
          if tail.isNil then [] else .punctuator .comma :: tail.lexemes minimum)
      refine first.cons ?_
      cases last : tail.isNil with
      | true =>
          have none : tail.lexemes minimum = [] := by
            cases tail with
            | nil => rfl
            | cons _ _ => cases last
          rw [none] at rest
          exact Writes.nil.cons rest.last
      | false =>
          exact Writes.comma.cons rest.last

theorem writes_literal (value : LiteralValue) :
    Writes style (Print.literal value) [value.kind] := by
  cases value with
  | null => exact .word .nullWord
  | boolean value =>
      cases value with
      | true => exact .word .trueWord
      | false => exact .word .falseWord
  | number raw => exact .token rfl
  | string raw => exact .token rfl
  | regex raw => exact .kind (.regex raw)

theorem writes_unary (operator : UnaryOperator) :
    Writes style (Print.unary operator) [operator.kind] := by
  cases operator with
  | minus => exact .mark .minus
  | plus => exact .mark .plus
  | not => exact .mark .bang
  | bitwiseNot => exact .mark .tilde
  | typeof => exact (Writes.word .typeofWord).cons Writes.space.last
  | void => exact (Writes.word .voidWord).cons Writes.space.last
  | delete => exact (Writes.word .deleteWord).cons Writes.space.last

theorem writes_binary (operator : BinaryOperator) :
    Writes style (Print.operator operator.spelling) [operator.kind] := by
  cases operator <;> exact .operator (.token rfl)

theorem writes_logical (operator : LogicalOperator) :
    Writes style (Print.operator operator.spelling) [operator.kind] := by
  cases operator <;> exact .operator (.token rfl)

theorem print_binaryExpression (operator : BinaryOperator) (left right : Located .expression)
    (place : Place) :
    (Node.binaryExpression operator left right).print place =
      all [left.print (.operand operator.leftLevel), Print.operator operator.spelling,
        right.print (.operand operator.rightLevel)] := by
  cases operator <;> rfl

/-- A word is written as the token that it is read as, a keyword or an identifier. -/
theorem writes_word (name : String) :
    Writes style (Print.token name) [Lexer.wordKind name.toList] := by
  rcases Lexer.wordKind_cases name.toList with ⟨keyword, named, spelled⟩ | named
  · rw [String.ofList_toList] at spelled
    rw [named, ← spelled]
    exact .word keyword
  · rw [named, String.ofList_toList]
    exact .token rfl

/-- Printing a formula writes its tokens. -/
theorem writes_lexemes {expression : Located .expression} (formula : Formula expression) :
    ∀ minimum, Writes style (expression.print (.operand minimum)) (expression.lexemes minimum) := by
  induction formula with
  | this => exact fun minimum => writes_located (.word .thisWord)
  | @identifier start stop name reads =>
      refine fun minimum => writes_located ?_
      change Writes style (Print.token name) [.identifier name]
      exact .token rfl
  | null => exact fun minimum => writes_located (writes_literal _)
  | boolean value => exact fun minimum => writes_located (writes_literal _)
  | number reads => exact fun minimum => writes_located (writes_literal _)
  | string reads => exact fun minimum => writes_located (writes_literal _)
  | regex reads => exact fun minimum => writes_located (writes_literal _)
  | unary operator inner ih =>
      exact fun minimum => writes_located ((writes_unary operator).cons (ih Level.unary).last)
  | binary operator first second left right =>
      refine fun minimum => writes_located ?_
      rw [print_binaryExpression]
      exact (left operator.leftLevel).cons ((writes_binary operator).cons
        (right operator.rightLevel).last)
  | logical operator first second left right =>
      exact fun minimum => writes_located
        (((left Level.sequence).parensIf (left operator.level)).cons
          ((writes_logical operator).cons
            ((right Level.sequence).parensIf (right (operator.level + 1))).last))
  | conditional first second third test consequent alternate =>
      exact fun minimum => writes_located
        ((test Level.logicalOr).cons ((Writes.mark .question).operator.cons
          ((consequent Level.assignment).cons ((Writes.mark .colon).operator.cons
            (alternate Level.assignment).last))))
  | sequence several each ih =>
      exact fun minimum => writes_located
        (writes_list fun expression listed => ih expression listed Level.assignment)
  | @member start stop wordStart wordStop object name inner named ih =>
      have word : Writes style ((Node.located wordStart wordStop (.word name)).print
          (.operand Level.sequence)) [Lexer.wordKind name.toList] :=
        writes_located (writes_word name)
      exact fun minimum => writes_located
        (((ih Level.sequence).parensIf (ih Level.call)).cons ((Writes.mark .dot).cons
          word.last))
  | computed first second object property =>
      exact fun minimum => writes_located
        (((object Level.sequence).parensIf (object Level.call)).cons
          ((Writes.mark .leftBracket).cons ((property Level.sequence).cons
            (Writes.mark .rightBracket).last)))
  | call inner each callee arguments =>
      have listed := writes_list fun expression listed =>
        arguments expression listed Level.assignment
      exact fun minimum => writes_located ((callee Level.call).cons
        ((Writes.mark .leftParen).cons (listed.cons (Writes.mark .rightParen).last)))
  | new inner each callee arguments =>
      have listed := writes_list fun expression listed =>
        arguments expression listed Level.assignment
      exact fun minimum => writes_located ((Writes.word .newWord).cons (Writes.blank.cons
        (((callee Level.call).parensIf (callee Level.call)).cons
          ((Writes.mark .leftParen).cons (listed.cons (Writes.mark .rightParen).last)))))

end Ecmascript
