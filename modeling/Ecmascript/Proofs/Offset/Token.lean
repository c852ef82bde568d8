import Ecmascript.Proofs.Offset.Literal
import Ecmascript.Proofs.Offset.Number
import Ecmascript.Proofs.Offset.Punctuator

/-!
# Tokens by offsets

A cursor gives the tokens of a lexer, one by one, all that are left, and a slash read again. It
stands where the lexer stands also when there is no token.
-/

set_option autoImplicit false

namespace Ecmascript.Cursor

open Character Lexer

variable {lexer after : Lexer} {front rest : Text} {first c : Char}

/-! ## Blanks and comments -/

/-- What the skipping of blanks comes to, and the lexer behind them. -/
def skipped (lexer : Lexer) : Trivia.Outcome → Except LexError Bool × Lexer
  | .skipped position rest newline => (.ok newline, { lexer with position, rest })
  | .unclosed start position =>
      (.error (.unterminated .comment start), { lexer with position, rest := [] })

/-- The scanner that goes on with what is being skipped. -/
def skipIn (newline : Bool) : Trivia.Mode → Scanner (Except LexError Bool)
  | .blank => skip newline
  | .lineComment => do
      advanceWhile (!isLineTerminator ·)
      skip newline
  | .blockComment start => skipComment start newline >>= proceed skipRound

/-- Blanks and comments may end anywhere. -/
theorem gives_skipped (newline : Bool) (next : lexer.rest = rest) :
    Gives (pure (.inr (.ok newline) : Bool ⊕ Except LexError Bool)) lexer
      (.inr (skipped lexer (.skipped lexer.position rest newline)).1,
        (skipped lexer (.skipped lexer.position rest newline)).2) := by
  cases lexer
  cases next
  exact .pure _ _

theorem gives_skip_slash {newline : Bool} (inRange : lexer.InRange)
    (next : lexer.rest = '/' :: rest) (other : rest.head? ≠ some '/' ∧ rest.head? ≠ some '*') :
    Gives (skip newline) lexer (skipped lexer (.skipped lexer.position ('/' :: rest) newline)) := by
  refine .over (.peek inRange next (.peekNext inRange next ?_))
  rw [List.tail_cons]
  split
  · next same => exact absurd same other.1
  · next same => exact absurd same other.2
  · exact gives_skipped newline next

theorem gives_skipIn (mode : Trivia.Mode) (newline : Bool) {position : Nat}
    (inRange : lexer.InRange) (next : lexer.rest = rest) (stands : lexer.position = position) :
    Gives (skipIn newline mode) lexer
      (skipped lexer (Trivia.skipFrom mode position newline rest)) := by
  fun_induction Trivia.skipFrom mode position newline rest generalizing lexer with
  | case1 position newline =>
      subst stands
      exact .over (.peek inRange next (gives_skipped newline next))
  | case2 position newline rest ih =>
      subst stands
      have second : (lexer.advance ['/'] ('/' :: rest)).InRange := inRange.advance next
      have third : ((lexer.advance ['/'] ('/' :: rest)).advance ['/'] rest).InRange :=
        second.advance rfl
      refine .unroll ?_
      rw [skipRound, bind_assoc]
      refine .peek inRange next ?_
      change Gives ((peekNext >>= _) >>= _) _ _
      rw [bind_assoc]
      refine .peekNext inRange next ?_
      change Gives ((advanceWhile _ >>= _) >>= _) _ _
      rw [bind_assoc]
      refine .advanceWhile_cons inRange next (by decide) ?_
      refine .advanceWhile_cons second rfl (by decide) ?_
      simp only [pure_bind]
      exact ih third rfl rfl
  | case3 position newline rest ih =>
      subst stands
      have second : (lexer.advance ['/'] ('*' :: rest)).InRange := inRange.advance next
      have third : ((lexer.advance ['/'] ('*' :: rest)).advance ['*'] rest).InRange :=
        second.advance rfl
      refine .unroll ?_
      rw [skipRound, bind_assoc]
      refine .peek inRange next ?_
      change Gives ((peekNext >>= _) >>= _) _ _
      rw [bind_assoc]
      refine .peekNext inRange next ?_
      simp only [List.tail_cons, List.head?_cons, bind_assoc]
      refine (gives_here lexer).bind ?_
      refine (gives_advance inRange next).bind ?_
      exact (gives_advance second rfl).bind (ih third rfl rfl)
  | case4 position newline c rest _ _ ends ih =>
      subst stands
      have second : (lexer.advance [c] rest).InRange := inRange.advance next
      have further := ih second rfl rfl
      refine .again (.peek inRange next ?_) further
      simp only [List.head?_cons, ends, if_true]
      exact (gives_advance inRange next).bind (.pure _ _)
  | case5 position newline c rest _ _ goes blank ih =>
      subst stands
      have second : (lexer.advance [c] rest).InRange := inRange.advance next
      have further := ih second rfl rfl
      refine .again (.peek inRange next ?_) further
      simp only [List.head?_cons, if_neg goes, blank, if_true]
      exact (gives_advance inRange next).bind (.pure _ _)
  | case6 position newline c rest line block goes blank =>
      subst stands
      by_cases slash : c = '/'
      · subst slash
        refine gives_skip_slash inRange next ⟨fun same => ?_, fun same => ?_⟩
        · exact line _ rfl (List.eq_cons_of_mem_head? same)
        · exact block _ rfl (List.eq_cons_of_mem_head? same)
      · refine .over (.peek inRange next ?_)
        simp only [List.head?_cons, if_neg goes, if_neg blank, if_neg slash]
        exact gives_skipped newline next
  | case7 position newline =>
      subst stands
      refine (gives_advanceWhile_stop inRange (by rw [next]; rfl)).bind ?_
      exact .over (.peek inRange next (gives_skipped newline next))
  | case8 position newline c rest ends ih =>
      subst stands
      have second : (lexer.advance [c] rest).InRange := inRange.advance next
      refine (gives_advanceWhile_stop inRange (by simp [next, ends])).bind ?_
      have further := ih second rfl rfl
      refine .again (.peek inRange next ?_) further
      simp only [List.head?_cons, ends, if_true]
      exact (gives_advance inRange next).bind (.pure _ _)
  | case9 position newline c rest goes ih =>
      subst stands
      have second : (lexer.advance [c] rest).InRange := inRange.advance next
      refine .advanceWhile_cons inRange next (by simp [goes]) ?_
      exact ih second rfl rfl
  | case10 start position newline =>
      subst stands
      rw [skipIn, skipComment, bind_assoc]
      refine .over_bind ((gives_advance_end inRange next).bind (.pure _ _)) ?_
      rw [pure_bind]
      cases lexer
      cases next
      exact .pure _ _
  | case11 start position newline rest ih =>
      subst stands
      have second : (lexer.advance ['*'] ('/' :: rest)).InRange := inRange.advance next
      have third : ((lexer.advance ['*'] ('/' :: rest)).advance ['/'] rest).InRange :=
        second.advance rfl
      have closes : Gives (eat '/') _ (true, _) := gives_eat second rfl
      rw [skipIn, skipComment, bind_assoc]
      refine .over_bind ((gives_advance inRange next).bind (closes.bind (.pure _ _))) ?_
      rw [pure_bind]
      exact ih third rfl rfl
  | case12 start position newline c rest other ih =>
      subst stands
      have second : (lexer.advance [c] rest).InRange := inRange.advance next
      have further := ih second rfl rfl
      rw [skipIn, skipComment, bind_assoc] at further ⊢
      refine .again_bind ((gives_advance inRange next).bind ?_) further
      dsimp only
      split
      · next star =>
        subst star
        rw [show isLineTerminator '*' = false from rfl, Bool.or_false]
        refine (gives_eat_other second fun same => ?_).bind (.pure _ _)
        exact other _ rfl (List.eq_cons_of_mem_head? same)
      · exact .pure _ _

/-! ## Tokens -/

theorem readKind_dot (lexer : Lexer) (rest : Text) :
    lexer.readKind '.' rest =
      if rest.head?.any isDecimalDigit then
        (.ok (.number (String.ofList (Literal.scanDecimal ('.' :: rest)).1)),
          lexer.past (Literal.scanDecimal ('.' :: rest)))
      else lexer.readPunctuator '.' rest := by
  unfold readKind
  cases rest.head?.any isDecimalDigit <;> rfl

theorem gives_scanKind_dot (inRange : lexer.InRange) (next : lexer.rest = '.' :: rest) :
    Gives (scanKind '.' lexer.position) (lexer.advance ['.'] rest) (lexer.readKind '.' rest) := by
  have second : (lexer.advance ['.'] rest).InRange := inRange.advance next
  rw [readKind_dot]
  unfold scanKind
  rw [if_neg (by decide), if_neg (by decide), if_neg (by decide), if_neg (by decide)]
  refine .get ?_
  rw [if_neg (by simp), if_pos rfl]
  cases digit : rest.head?.any isDecimalDigit with
  | true =>
      have plain : rest.head? ≠ some '.' := fun dot => by
        rw [dot] at digit
        cases digit
      have number : Gives (scanDot lexer.position) (lexer.advance ['.'] rest)
          (.number (String.ofList (Literal.scanDecimal ('.' :: rest)).1),
            lexer.past (Literal.scanDecimal ('.' :: rest))) := by
        refine .peek second (rest_advance _ _ _) ?_
        rw [if_neg plain, if_pos digit]
        exact gives_scanDecimal inRange next (.inr rfl)
      exact number.bind (.pure _ _)
  | false =>
      obtain ⟨kind, after, reads, gives⟩ := gives_scanDot inRange next digit
      rw [if_neg Bool.false_ne_true, reads]
      exact gives.bind (.pure _ _)

theorem gives_scanKind_slash (inRange : lexer.InRange) (next : lexer.rest = '/' :: rest) :
    Gives (scanKind '/' lexer.position) (lexer.advance ['/'] rest) (lexer.readKind '/' rest) := by
  have second : (lexer.advance ['/'] rest).InRange := inRange.advance next
  have division := gives_scanPunctuator inRange next (by decide) (by decide)
  have regex := gives_scanRegex inRange next
  rw [readKind_slash]
  unfold scanKind
  rw [if_neg (by decide), if_neg (by decide), if_neg (by decide), if_neg (by decide)]
  refine .get ?_
  rw [if_neg (by simp), if_neg (by decide), if_neg (by decide)]
  refine .get ?_
  by_cases allowed : lexer.regexAllowed = true
  · rw [if_pos ⟨rfl, allowed⟩, if_pos allowed]
    refine (gives_here _).bind (regex.bind ?_)
    cases closed : (Literal.scanRegex rest).closed with
    | true =>
        rw [readRegex_of_closed _ closed]
        exact .pure _ _
    | false =>
        rw [readRegex_of_open _ closed]
        have back : Gives (moveTo (lexer.advance ['/'] rest).position)
            (lexer.advance ('/' :: (Literal.scanRegex rest).lexeme) (Literal.scanRegex rest).rest)
            ((), lexer.advance ['/'] rest) := gives_moveTo second rfl
        exact back.bind division
  · rw [if_neg fun guess => allowed guess.2, if_neg allowed]
    exact division

theorem gives_scanKind_question (inRange : lexer.InRange) (next : lexer.rest = '?' :: rest) :
    Gives (scanKind '?' lexer.position) (lexer.advance ['?'] rest) (lexer.readKind '?' rest) := by
  obtain ⟨mark, after, reads, gives⟩ := gives_scanQuestion inRange next
  have kind : lexer.readKind '?' rest = lexer.readPunctuator '?' rest := rfl
  rw [kind, reads]
  unfold scanKind
  rw [if_neg (by decide), if_neg (by decide), if_neg (by decide), if_neg (by decide)]
  refine .get ?_
  rw [if_neg (by simp), if_neg (by decide), if_pos rfl]
  exact gives.bind (.pure _ _)

theorem gives_scanKind (inRange : lexer.InRange) (next : lexer.rest = first :: rest) :
    Gives (scanKind first lexer.position) (lexer.advance [first] rest)
      (lexer.readKind first rest) := by
  have second : (lexer.advance [first] rest).InRange := inRange.advance next
  by_cases dot : first = '.'
  · subst dot
    exact gives_scanKind_dot inRange next
  by_cases question : first = '?'
  · subst question
    exact gives_scanKind_question inRange next
  by_cases slash : first = '/'
  · subst slash
    exact gives_scanKind_slash inRange next
  have number : (isDecimalDigit first || (first = '.' && rest.head?.any isDecimalDigit)) =
      isDecimalDigit first := by simp [dot]
  unfold scanKind readKind
  rw [number]
  split
  · next start =>
    exact (gives_scanWord inRange next (isIdentifierPart_of_start start)).bind (.pure _ _)
  split
  · next digit => exact (gives_scanNumber inRange next digit).bind (.pure _ _)
  by_cases quotes : first = '"' ∨ first = '\''
  · have plain : first ≠ '\\' := by rcases quotes with rfl | rfl <;> decide
    rw [if_pos quotes, if_pos (by simpa using quotes)]
    exact gives_scanString plain inRange next
  have unquoted : ¬ (first = '"' || first = '\'') = true := by simpa using quotes
  rw [if_neg quotes, if_neg unquoted]
  split
  · refine (gives_here _).bind ?_
    exact gives_readTemplate true inRange next
  refine .get ?_
  by_cases closes : first = '\x7d' ∧ (lexer.advance [first] rest).cursor.templates.head? = some 0
  · have leaves : (first = '\x7d' && lexer.templates.head? = some 0) = true := by
      rw [Bool.and_eq_true, decide_eq_true_eq, decide_eq_true_eq]
      exact closes
    let inner : Lexer := { lexer with templates := lexer.templates.tail }
    have same : lexer.Passes [] inner := ⟨rfl, rfl, rfl⟩
    have inside : inner.InRange := inRange.passes same
    have enters : Gives (modify fun cursor => { cursor with templates := cursor.templates.tail })
        (lexer.advance [first] rest) ((), inner.advance [first] rest) := gives_modify rfl
    rw [if_pos closes, if_pos leaves]
    refine enters.bind ((gives_here _).bind ?_)
    exact gives_readTemplate false inside next
  · have stays : ¬ (first = '\x7d' && lexer.templates.head? = some 0) = true := by
      rw [Bool.and_eq_true, decide_eq_true_eq, decide_eq_true_eq]
      exact closes
    have divides : ¬ (first = '/' && lexer.regexAllowed) = true := by simp [slash]
    rw [if_neg closes, if_neg stays, if_neg divides]
    refine .get ?_
    rw [if_neg fun division => slash division.1]
    exact gives_scanPunctuator inRange next dot question

theorem gives_next (inRange : lexer.InRange) : Gives next lexer lexer.next := by
  have skips : Gives (skip false) lexer
      (skipped lexer (Trivia.skipFrom .blank lexer.position false lexer.rest)) :=
    gives_skipIn .blank false inRange rfl rfl
  refine skips.bind ?_
  unfold Lexer.next nextWith Trivia.skip
  cases outcome : Trivia.skipFrom .blank lexer.position false lexer.rest with
  | unclosed start position => exact .pure _ _
  | skipped position rest newline =>
      obtain ⟨blanks, whole, moved⟩ := Trivia.skipFrom_skipped outcome
      have moves : lexer.Passes blanks { lexer with position, rest } := ⟨whole, moved, rfl⟩
      have behind := inRange.passes moves
      refine (gives_here _).bind ?_
      cases rest with
      | nil => exact (gives_advance_end behind rfl).bind (.pure _ _)
      | cons first rest =>
          refine (gives_advance behind rfl).bind ((gives_scanKind behind rfl).bind ?_)
          dsimp only
          generalize Lexer.readKind { lexer with position, rest := first :: rest } _ _ = reading
          obtain ⟨outcome, after⟩ := reading
          cases outcome with
          | error error => exact .pure _ _
          | ok kind =>
              have guesses : Gives
                  (modify fun cursor => { cursor with regexAllowed := !kind.endsOperand })
                  after ((), { after with regexAllowed := !kind.endsOperand }) := gives_modify rfl
              refine guesses.bind ((gives_here _).bind ?_)
              exact .pure _ _

/-! ## Where reading stops -/

/-- A comment that is not closed takes all that is left. -/
theorem skipFrom_unclosed_end {mode : Trivia.Mode} {position start stop : Nat} {newline : Bool}
    {text : Text} (skips : Trivia.skipFrom mode position newline text = .unclosed start stop) :
    stop = position + text.byteLength := by
  have behind (front : Text) {left : Text} {here there : Nat}
      (moved : there = here + front.byteLength) (ends : stop = there + left.byteLength) :
      stop = here + (front ++ left).byteLength := by
    rw [ends, moved, Text.byteLength_append, Nat.add_assoc]
  fun_induction Trivia.skipFrom mode position newline text with
  | case1 | case6 | case7 => cases skips
  | case2 _ _ _ ih => exact behind ['/', '/'] rfl (ih skips)
  | case3 _ _ _ ih => exact behind ['/', '*'] rfl (ih skips)
  | case4 _ _ c _ _ _ _ ih | case5 _ _ c _ _ _ _ _ ih | case8 _ _ c _ _ ih | case9 _ _ c _ _ ih =>
      exact behind [c] rfl (ih skips)
  | case10 => cases skips; rfl
  | case11 _ _ _ _ ih => exact behind ['*', '/'] rfl (ih skips)
  | case12 _ _ _ c _ _ ih => exact behind [c] rfl (ih skips)

/-- A lexer moves forward, also when it cannot read a token. -/
theorem next_passes (lexer : Lexer) : ∃ lexeme, lexer.Passes lexeme lexer.next.2 := by
  cases reads : lexer.next with
  | mk outcome after =>
      cases outcome with
      | ok token =>
          obtain ⟨blanks, lexeme, moves, _⟩ := nextWith_passes reads
          exact ⟨_, moves⟩
      | error error =>
          unfold Lexer.next nextWith at reads
          split at reads
          · next skips =>
            cases reads
            exact ⟨lexer.rest, (List.append_nil _).symm, skipFrom_unclosed_end skips, rfl⟩
          · next position rest newline skips =>
            obtain ⟨blanks, whole, moved⟩ := Trivia.skipFrom_skipped skips
            have behind : lexer.Passes blanks { lexer with position, rest } := ⟨whole, moved, rfl⟩
            cases rest with
            | nil => cases reads
            | cons first rest =>
                have next : Lexer.rest { lexer with position, rest := first :: rest } = _ := rfl
                obtain ⟨lexeme, _, moves⟩ := readKind_passes next
                dsimp only at reads
                split at reads
                · next fails =>
                  cases reads
                  rw [fails] at moves
                  exact ⟨_, behind.trans moves⟩
                · cases reads

theorem tokensWithin_passes (fuel : Nat) (lexer : Lexer) :
    ∃ lexeme, lexer.Passes lexeme (tokensWithin fuel lexer).2 := by
  induction fuel generalizing lexer with
  | zero => exact ⟨[], .refl lexer⟩
  | succ fuel ih =>
      obtain ⟨lexeme, moves⟩ := next_passes lexer
      rw [tokensWithin]
      generalize lexer.next = reading at moves ⊢
      obtain ⟨outcome, after⟩ := reading
      cases outcome with
      | error error => exact ⟨lexeme, moves⟩
      | ok token =>
          obtain ⟨others, further⟩ := ih after
          dsimp only
          split
          · exact ⟨lexeme, moves⟩
          · generalize tokensWithin fuel after = reading at further ⊢
            obtain ⟨outcome, last⟩ := reading
            cases outcome <;> exact ⟨lexeme ++ others, moves.trans further⟩

/-- The tokens of a reading behind others. -/
def behind (read : List Token) (answer : Except LexError (List Token) × Lexer) :
    Except LexError (List Token) × Lexer :=
  (answer.1.map (read ++ ·), answer.2)

theorem gives_tokensWithin {fuel : Nat} (read : List Token) (inRange : lexer.InRange)
    (enough : lexer.rest.length < fuel) :
    Gives (loop tokensRound read) lexer (behind read (tokensWithin fuel lexer)) := by
  induction fuel generalizing lexer read with
  | zero => exact absurd enough (Nat.not_lt_zero _)
  | succ fuel ih =>
      obtain ⟨lexeme, moves⟩ := next_passes lexer
      have reads := gives_next inRange
      rw [tokensWithin]
      cases outcome : lexer.next with
      | mk answer after =>
          rw [outcome] at reads moves
          cases answer with
          | error error => exact .over (reads.bind (.pure _ _))
          | ok token =>
              dsimp only
              split
              · next ends =>
                refine .over (reads.bind ?_)
                simp only [ends, if_true]
                exact .pure _ _
              · next goes_on =>
                have fewer := length_lt_of_reads outcome goes_on
                have enough : after.rest.length < fuel := by omega
                have further := ih (read ++ [token]) (inRange.passes moves) enough
                have first : Gives (tokensRound read) lexer (.inl (read ++ [token]), after) := by
                  refine reads.bind ?_
                  simp only [if_neg goes_on]
                  exact .pure _ _
                generalize tokensWithin fuel after = reading at further ⊢
                obtain ⟨answer, last⟩ := reading
                cases answer with
                | error error => exact .again first further
                | ok tokens =>
                    have same : read ++ token :: tokens = read ++ [token] ++ tokens := by simp
                    rw [behind, Except.map, same]
                    exact .again first further

theorem gives_tokens (inRange : lexer.InRange) : Gives tokens lexer lexer.tokens := by
  have whole := gives_tokensWithin [] inRange (Nat.lt_succ_self _)
  have same : behind [] lexer.tokens = lexer.tokens := by
    unfold behind
    cases lexer.tokens with
    | mk answer last => cases answer <;> rfl
  exact same ▸ whole

/-! ## Reading a slash again -/

variable {token : Token}

theorem inRange_seek (inRange : lexer.InRange) (slash : SlashAt lexer.source token.start) :
    (lexer.seek token.start).InRange :=
  ⟨(seek_slash slash).1, inRange.small⟩

theorem gives_rescanRegex (inRange : lexer.InRange) (slash : SlashAt lexer.source token.start) :
    Gives (rescanRegex token) lexer (lexer.rescanRegex token) := by
  have begins := inRange_seek inRange slash
  obtain ⟨_, next⟩ := seek_slash slash
  have second : ((lexer.seek token.start).advance ['/'] _).InRange := begins.advance next
  have moves : Gives (moveTo (token.start + 1)) lexer
      ((), (lexer.seek token.start).advance ['/'] (lexer.source.dropBytes (token.start + 1))) :=
    gives_moveTo second rfl
  refine moves.bind ((gives_scanRegex begins next).bind ?_)
  unfold Lexer.rescanRegex
  dsimp only
  generalize (lexer.seek token.start).readRegex _ = reading
  obtain ⟨outcome, after⟩ := reading
  cases outcome with
  | error error => exact .pure _ _
  | ok kind =>
      have guesses : Gives (modify fun cursor => { cursor with regexAllowed := false })
          after ((), { after with regexAllowed := false }) := gives_modify rfl
      refine guesses.bind ((gives_here _).bind ?_)
      exact .pure _ _

theorem gives_rescanDivide (inRange : lexer.InRange) (slash : SlashAt lexer.source token.start) :
    Gives (rescanDivide token) lexer (lexer.rescanDivide token) := by
  have begins := inRange_seek inRange slash
  obtain ⟨_, next⟩ := seek_slash slash
  have second : ((lexer.seek token.start).advance ['/'] _).InRange := begins.advance next
  have moves : Gives (moveTo (token.start + 1)) lexer
      ((), (lexer.seek token.start).advance ['/'] (lexer.source.dropBytes (token.start + 1))) :=
    gives_moveTo second rfl
  obtain ⟨mark, longest, gives⟩ := gives_choice division_fits begins next fun _ _ => rfl
  have size := byteLength_divide (lexer.source.dropBytes (token.start + 1)).head?
  rw [next, Punctuator.longest?_slash] at longest
  unfold Lexer.rescanDivide
  dsimp only
  generalize (if (lexer.source.dropBytes (token.start + 1)).head? = some '=' then
    Punctuator.slashAssign else .slash) = divides at longest size ⊢
  obtain rfl := Option.some.inj longest
  generalize (lexer.seek token.start).rest.drop _ = left at gives
  have guesses : Gives (modify fun cursor => { cursor with regexAllowed := true })
      ((lexer.seek token.start).advance divides.spelling.toList left)
      ((), { lexer.seek (token.start + divides.spelling.length) with regexAllowed := true }) := by
    rw [← size]
    exact gives_modify rfl
  refine moves.bind (gives.bind (guesses.bind ((gives_here _).bind ?_)))
  exact .pure _ _

/-- Reading a regular expression moves forward from the slash, also when there is none. -/
theorem passes_rescanRegex (slash : SlashAt lexer.source token.start) :
    ∃ lexeme, (lexer.seek token.start).Passes lexeme (lexer.rescanRegex token).2 := by
  obtain ⟨_, next⟩ := seek_slash slash
  obtain ⟨lexeme, _, moves⟩ := readRegex_passes next
  refine ⟨lexeme, ?_⟩
  unfold Lexer.rescanRegex
  dsimp only
  generalize (lexer.seek token.start).readRegex _ = reading at moves ⊢
  obtain ⟨outcome, last⟩ := reading
  cases outcome with
  | error error => exact moves
  | ok kind => exact ⟨moves.rest, moves.position, moves.source⟩

end Ecmascript.Cursor
