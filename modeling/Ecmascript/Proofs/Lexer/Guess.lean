import Ecmascript.Proofs.Lexer.Place

/-!
# Lexers that guess differently

Two lexers at the same place may differ in whether a slash begins a regular expression. They read
the same token unless it begins with a slash, and then each can be made to read what the other
read.
-/

set_option autoImplicit false

namespace Ecmascript

/-- The text after a slash decides only whether an equals sign belongs to it. -/
theorem Punctuator.longest?_slash (rest : Text) :
    longest? ('/' :: rest) = some (if rest.head? = some '=' then .slashAssign else .slash) := by
  cases rest with
  | nil => decide
  | cons c rest =>
      by_cases equals : c = '='
      · subst equals
        simp [longest?, table, all, begins, spelling]
      · have other : '=' ≠ c := fun same => equals same.symm
        simp [longest?, table, all, begins, spelling, equals, other]

namespace Lexer

open Character

/-- A lexer without its guess about a slash. -/
def unguessed (lexer : Lexer) : Lexer :=
  { lexer with regexAllowed := false }

theorem unguessed_eq_iff {lexer lexer' : Lexer} :
    lexer.unguessed = lexer'.unguessed ↔ lexer.source = lexer'.source ∧
      lexer.position = lexer'.position ∧ lexer.rest = lexer'.rest ∧
      lexer.templates = lexer'.templates := by
  simp [unguessed]

theorem Placed.unguessed {lexer : Lexer} (placed : lexer.Placed) : lexer.unguessed.Placed := by
  obtain ⟨before, passed⟩ := placed
  exact ⟨before, passed.rest, passed.position, passed.source⟩

/-- Two lexers read the same kind of token, or fail alike. -/
inductive SameReading : Reading → Reading → Prop
  | ok {kind : TokenKind} {after after' : Lexer} (same : after.unguessed = after'.unguessed) :
      SameReading (.ok kind, after) (.ok kind, after')
  | error {error : LexError} {after after' : Lexer} :
      SameReading (.error error, after) (.error error, after')

variable {lexer lexer' : Lexer} {first : Char} {rest : Text}

theorem readString_unguessed (same : lexer.unguessed = lexer'.unguessed) :
    SameReading (lexer.readString first rest) (lexer'.readString first rest) := by
  cases lexer
  cases lexer'
  cases same
  unfold readString
  dsimp only
  split
  · exact .ok rfl
  · exact .error

theorem readTemplate_unguessed (isFirst : Bool) (same : lexer.unguessed = lexer'.unguessed) :
    SameReading (lexer.readTemplate isFirst first rest)
      (lexer'.readTemplate isFirst first rest) := by
  cases lexer
  cases lexer'
  cases same
  unfold readTemplate
  dsimp only
  split
  · exact .error
  · exact .ok rfl
  · exact .ok rfl

theorem readPunctuator_unguessed (same : lexer.unguessed = lexer'.unguessed) :
    SameReading (lexer.readPunctuator first rest) (lexer'.readPunctuator first rest) := by
  cases lexer
  cases lexer'
  cases same
  unfold readPunctuator
  split
  · exact .ok rfl
  · exact .error

theorem readRegex_of_closed (lexer : Lexer) (closed : (Literal.scanRegex rest).closed = true) :
    lexer.readRegex rest =
      (.ok (.regex (String.ofList ('/' :: (Literal.scanRegex rest).lexeme))),
        lexer.advance ('/' :: (Literal.scanRegex rest).lexeme) (Literal.scanRegex rest).rest) := by
  simp [readRegex, Scan.prepend, closed]

theorem readRegex_of_open (lexer : Lexer) (closed : (Literal.scanRegex rest).closed = false) :
    lexer.readRegex rest = (.error (.unterminated .regularExpression lexer.position),
      lexer.advance ('/' :: (Literal.scanRegex rest).lexeme) (Literal.scanRegex rest).rest) := by
  simp [readRegex, Scan.prepend, closed]

theorem readKind_slash (lexer : Lexer) (rest : Text) :
    lexer.readKind '/' rest =
      if lexer.regexAllowed then
        match lexer.readRegex rest with
        | (.ok kind, after) => (.ok kind, after)
        | (.error _, _) => lexer.readPunctuator '/' rest
      else lexer.readPunctuator '/' rest := by
  have word : isIdentifierStart '/' = false := by decide
  have digit : isDecimalDigit '/' = false := by decide
  unfold readKind
  rw [word, digit]
  cases lexer.regexAllowed <;> rfl

theorem readKind_unguessed (same : lexer.unguessed = lexer'.unguessed) (other : first ≠ '/') :
    SameReading (lexer.readKind first rest) (lexer'.readKind first rest) := by
  cases lexer
  cases lexer'
  cases same
  simp only [readKind, other, decide_false, Bool.false_and, Bool.false_eq_true, if_false]
  split
  · exact .ok rfl
  split
  · exact .ok rfl
  split
  · exact readString_unguessed rfl
  split
  · exact readTemplate_unguessed true rfl
  split
  · exact readTemplate_unguessed false rfl
  · exact readPunctuator_unguessed rfl

/-! ## Two readings of a slash -/

/-- One lexer read a division and the other a regular expression, and each can be made to read
what the other read. -/
structure Misread (slash : Token) (after : Lexer) (regex : Token) (after' : Lexer) : Prop where
  slashKind : slash.kind = .punctuator .slash ∨ slash.kind = .punctuator .slashAssign
  regexKind : ∃ raw, regex.kind = .regex raw
  start : slash.start = regex.start
  newlineBefore : slash.newlineBefore = regex.newlineBefore
  asRegex : after.rescanRegex slash = (.ok regex, after'.unguessed)
  asDivide : after'.rescanDivide regex = (slash, { after with regexAllowed := true })

/-- Two lexers read the same token, fail alike, or read a slash in two ways, which they do only
where their guesses differ. -/
inductive Compared (p q : TokenKind → Bool) (differ : Prop) :
    Except LexError Token × Lexer → Except LexError Token × Lexer → Prop
  | same {token : Token} {after after' : Lexer} (level : after.unguessed = after'.unguessed)
      (guess : after.rest = [] ∨
        (p token.kind = q token.kind → after.regexAllowed = after'.regexAllowed)) :
      Compared p q differ (.ok token, after) (.ok token, after')
  | error {error : LexError} {after after' : Lexer} :
      Compared p q differ (.error error, after) (.error error, after')
  | misread {slash regex : Token} {after after' : Lexer} (differs : differ)
      (misread : Misread slash after regex after') :
      Compared p q differ (.ok slash, after) (.ok regex, after')
  | misreadBack {slash regex : Token} {after after' : Lexer} (differs : differ)
      (misread : Misread slash after regex after') :
      Compared p q differ (.ok regex, after') (.ok slash, after)

/-! ## Reading behind different guesses -/

theorem readPunctuator_slash (lexer : Lexer) (rest : Text) :
    lexer.readPunctuator '/' rest =
      let mark : Punctuator := if rest.head? = some '=' then .slashAssign else .slash
      (.ok (.punctuator mark), lexer.advance mark.spelling.toList
        (('/' :: rest).drop mark.spelling.toList.length)) := by
  unfold readPunctuator
  rw [Punctuator.longest?_slash]
  split
  · rename_i mark found
    cases found
    dsimp only
    have unbraced (templates : List Nat) :
        countBrace (if rest.head? = some '=' then .slashAssign else .slash) templates =
          templates := by
      cases templates with
      | nil => rfl
      | cons depth outer => split <;> rfl
    rw [unbraced]
  · rename_i missing
    cases missing

theorem Placed.dropBytes_slash (placed : lexer.Placed) (next : lexer.rest = '/' :: rest) :
    lexer.source.dropBytes (lexer.position + 1) = rest := by
  have moves : lexer.Passes ['/'] (lexer.advance ['/'] rest) := passes_advance next
  exact (placed.passes moves).dropBytes

/-- The signs of a division have as many bytes as characters. -/
theorem byteLength_divide (next : Option Char) :
    Text.byteLength (if next = some '=' then Punctuator.slashAssign else .slash).spelling.toList =
      (if next = some '=' then Punctuator.slashAssign else .slash).spelling.length := by
  split <;> rfl

/-- A lexer that guessed at a division and one that guessed at a regular expression. -/
theorem readKind_misread (p q : TokenKind → Bool) (newline : Bool) {quiet loud : Lexer}
    (placed : loud.Placed) (level : quiet.unguessed = loud.unguessed)
    (next : loud.rest = '/' :: rest)
    (guess : quiet.regexAllowed = false) (guess' : loud.regexAllowed = true) :
    SameReading (quiet.readKind '/' rest) (loud.readKind '/' rest) ∨
      ∃ mark raw after after', quiet.readKind '/' rest = (.ok (.punctuator mark), after) ∧
        loud.readKind '/' rest = (.ok (.regex raw), after') ∧
        Misread ⟨.punctuator mark, loud.position, after.position, newline⟩
          { after with regexAllowed := !p (.punctuator mark) }
          ⟨.regex raw, loud.position, after'.position, newline⟩
          { after' with regexAllowed := !q (.regex raw) } := by
  obtain rfl : quiet = { loud with regexAllowed := false } := by
    cases quiet
    cases loud
    cases level
    cases guess
    rfl
  have behind := placed.dropBytes_slash next
  rw [readKind_slash, readKind_slash, guess, guess']
  simp only [Bool.false_eq_true, if_false, if_true]
  cases closed : (Literal.scanRegex rest).closed with
  | false =>
      refine .inl ?_
      rw [readRegex_of_open loud closed]
      exact readPunctuator_unguessed level
  | true =>
      refine .inr ?_
      rw [readRegex_of_closed loud closed, readPunctuator_slash]
      refine ⟨_, _, _, _, rfl, rfl, ?_, ⟨_, rfl⟩, rfl, rfl, ?_, ?_⟩
      · dsimp only
        split
        · exact .inr rfl
        · exact .inl rfl
      · dsimp only [rescanRegex, advance, seek]
        rw [behind, readRegex_of_closed _ closed]
        rfl
      · obtain ⟨left, whole⟩ :=
          Punctuator.spelling_prefix_of_longest (Punctuator.longest?_slash rest)
        have size := byteLength_divide rest.head?
        dsimp only [rescanDivide, advance, seek]
        rw [behind]
        generalize (if rest.head? = some '=' then Punctuator.slashAssign else .slash) = mark
          at whole size ⊢
        have rest_eq := (placed.passes (passes_advance (next.trans whole.symm))).dropBytes
        dsimp only [advance] at rest_eq
        rw [← size, rest_eq, ← whole, List.drop_left]

theorem SameReading.refl (reading : Reading) : SameReading reading reading := by
  obtain ⟨outcome, after⟩ := reading
  cases outcome with
  | ok kind => exact .ok rfl
  | error error => exact .error

theorem SameReading.symm {reading reading' : Reading} (same : SameReading reading reading') :
    SameReading reading' reading := by
  cases same with
  | ok level => exact .ok level.symm
  | error => exact .error

/-- The token that a lexeme is, with the guess that it leaves behind. -/
def tokenOf (endsOperand : TokenKind → Bool) (start : Nat) (newline : Bool) :
    Reading → Except LexError Token × Lexer
  | (.error error, after) => (.error error, after)
  | (.ok kind, after) =>
      (.ok { kind, start, stop := after.position, newlineBefore := newline },
        { after with regexAllowed := !endsOperand kind })

theorem nextWith_eq (endsOperand : TokenKind → Bool) {position : Nat} {newline : Bool}
    (skips : Trivia.skip lexer.position lexer.rest = .skipped position (first :: rest) newline) :
    lexer.nextWith endsOperand = tokenOf endsOperand position newline
      ({ lexer with position, rest := first :: rest }.readKind first rest) := by
  unfold nextWith
  simp only [skips]
  generalize ({ lexer with position, rest := first :: rest } : Lexer).readKind first rest = reading
  obtain ⟨outcome, after⟩ := reading
  cases outcome <;> rfl

theorem compared_tokenOf (p q : TokenKind → Bool) {differ : Prop} {start : Nat} {newline : Bool}
    {reading reading' : Reading} (same : SameReading reading reading') :
    Compared p q differ (tokenOf p start newline reading) (tokenOf q start newline reading') := by
  cases same with
  | error => exact .error
  | @ok kind after after' same =>
      obtain ⟨source, position, left, guess, templates⟩ := after
      obtain ⟨source', position', left', guess', templates'⟩ := after'
      cases same
      exact .same rfl (.inr fun agree => by simp [agree])

/-- Two lexers at one place read the next token alike, but for a slash about which they guess
differently. -/
theorem nextWith_compared (p q : TokenKind → Bool) (placed : lexer.Placed)
    (level : lexer.unguessed = lexer'.unguessed) :
    Compared p q (lexer.rest ≠ [] ∧ lexer.regexAllowed ≠ lexer'.regexAllowed)
      (lexer.nextWith p) (lexer'.nextWith q) := by
  obtain ⟨source, position, rest, guess, templates⟩ := lexer
  obtain ⟨source', position', rest', guess', templates'⟩ := lexer'
  cases level
  cases skips : Trivia.skip position rest with
  | unclosed start stop =>
      unfold nextWith
      simp only [skips]
      exact .error
  | skipped start left newline =>
      obtain ⟨blanks, whole, moved⟩ := Trivia.skipFrom_skipped skips
      cases left with
      | nil =>
          unfold nextWith
          simp only [skips]
          exact .same rfl (.inl rfl)
      | cons first left =>
          rw [nextWith_eq p skips, nextWith_eq q skips]
          by_cases slash : first = '/'
          · subst slash
            have nonempty : rest ≠ [] := by simp [whole]
            have there (guess : Bool) : Placed ⟨source, start, '/' :: left, guess, templates⟩ :=
              placed.passes ⟨whole, moved, rfl⟩
            cases guess with
            | false =>
                cases guess' with
                | false => exact compared_tokenOf p q (.refl _)
                | true =>
                    rcases readKind_misread p q newline (there true)
                      (rfl : unguessed ⟨source, start, '/' :: left, false, templates⟩ = _)
                      rfl rfl rfl with same | ⟨mark, raw, after, after', reads, reads', misread⟩
                    · exact compared_tokenOf p q same
                    · simp only [reads, reads']
                      exact .misread ⟨nonempty, nofun⟩ misread
            | true =>
                cases guess' with
                | false =>
                    rcases readKind_misread q p newline (there true)
                      (rfl : unguessed ⟨source, start, '/' :: left, false, templates⟩ = _)
                      rfl rfl rfl with same | ⟨mark, raw, after, after', reads, reads', misread⟩
                    · exact compared_tokenOf p q same.symm
                    · simp only [reads, reads']
                      exact .misreadBack ⟨nonempty, nofun⟩ misread
                | true => exact compared_tokenOf p q (.refl _)
          · exact compared_tokenOf p q (readKind_unguessed rfl slash)

/-! ## Reading a slash again -/

variable {token : Token}

theorem rescanRegex_level (token : Token) (level : lexer.unguessed = lexer'.unguessed) :
    (∃ regex after, lexer.rescanRegex token = (.ok regex, after) ∧
      lexer'.rescanRegex token = (.ok regex, after)) ∨
    ∃ error after after', lexer.rescanRegex token = (.error error, after) ∧
      lexer'.rescanRegex token = (.error error, after') := by
  obtain ⟨source, position, rest, guess, templates⟩ := lexer
  obtain ⟨source', position', rest', guess', templates'⟩ := lexer'
  cases level
  unfold rescanRegex
  dsimp only [seek]
  cases closed : (Literal.scanRegex (source.dropBytes (token.start + 1))).closed with
  | true =>
      simp only [readRegex_of_closed _ closed]
      exact .inl ⟨_, _, rfl, rfl⟩
  | false =>
      simp only [readRegex_of_open _ closed]
      exact .inr ⟨_, _, _, rfl, rfl⟩

theorem rescanDivide_level (token : Token) (level : lexer.unguessed = lexer'.unguessed) :
    lexer.rescanDivide token = lexer'.rescanDivide token := by
  obtain ⟨source, position, rest, guess, templates⟩ := lexer
  obtain ⟨source', position', rest', guess', templates'⟩ := lexer'
  cases level
  rfl

/-- The lexer moved back to a slash. -/
theorem seek_slash {offset : Nat} (slash : SlashAt lexer.source offset) :
    (lexer.seek offset).Placed ∧
      (lexer.seek offset).rest = '/' :: lexer.source.dropBytes (offset + 1) := by
  obtain ⟨before, rest, whole, rfl, _⟩ := slash
  have here : lexer.source.dropBytes before.byteLength = '/' :: rest := by
    rw [whole, Text.dropBytes_byteLength_append]
  have placed : (lexer.seek before.byteLength).Placed := by
    refine ⟨before, ?_, (Nat.zero_add _).symm, rfl⟩
    change lexer.source = before ++ lexer.source.dropBytes before.byteLength
    rw [here, whole]
  refine ⟨placed, here.trans ?_⟩
  rw [← placed.dropBytes_slash here]
  rfl

/-- What is read again as a regular expression begins at the slash. -/
theorem rescanRegex_passes {regex : Token} {after : Lexer}
    (slash : SlashAt lexer.source token.start)
    (outcome : lexer.rescanRegex token = (.ok regex, after)) :
    (∃ lexeme, lexeme ≠ [] ∧ (lexer.seek token.start).Passes lexeme after) ∧
      regex.start = token.start ∧ ∃ raw, regex.kind = .regex raw := by
  obtain ⟨_, next⟩ := seek_slash slash
  obtain ⟨lexeme, nonempty, moves⟩ := readRegex_passes next
  unfold rescanRegex at outcome
  dsimp only at outcome
  cases closed : (Literal.scanRegex (lexer.source.dropBytes (token.start + 1))).closed with
  | false =>
      rw [readRegex_of_open _ closed] at outcome
      cases outcome
  | true =>
      rw [readRegex_of_closed _ closed] at outcome moves
      cases outcome
      exact ⟨⟨lexeme, nonempty, moves.rest, moves.position, moves.source⟩, rfl, _, rfl⟩

/-- What is read again as a division is the slash, with an equals sign if there is one. -/
theorem rescanDivide_passes (slash : SlashAt lexer.source token.start) :
    (∃ lexeme, lexeme ≠ [] ∧
      (lexer.seek token.start).Passes lexeme (lexer.rescanDivide token).2) ∧
      (lexer.rescanDivide token).1.start = token.start ∧
      ((lexer.rescanDivide token).1.kind = .punctuator .slash ∨
        (lexer.rescanDivide token).1.kind = .punctuator .slashAssign) := by
  obtain ⟨placed, next⟩ := seek_slash slash
  obtain ⟨left, whole⟩ := Punctuator.spelling_prefix_of_longest
    (Punctuator.longest?_slash (lexer.source.dropBytes (token.start + 1)))
  unfold rescanDivide
  dsimp only
  have size := byteLength_divide (lexer.source.dropBytes (token.start + 1)).head?
  have kind : (if (lexer.source.dropBytes (token.start + 1)).head? = some '=' then
      Punctuator.slashAssign else .slash) = .slash ∨
      (if (lexer.source.dropBytes (token.start + 1)).head? = some '=' then
        Punctuator.slashAssign else .slash) = .slashAssign := by
    split
    · exact .inr rfl
    · exact .inl rfl
  generalize (if (lexer.source.dropBytes (token.start + 1)).head? = some '=' then
    Punctuator.slashAssign else .slash) = mark at whole size kind ⊢
  have left_eq := placed.dropBytes_append (next.trans whole.symm)
  rw [size] at left_eq
  have moves : (lexer.seek token.start).Passes mark.spelling.toList
      { lexer.seek (token.start + mark.spelling.length) with regexAllowed := true } :=
    ⟨next.trans (whole.symm.trans (congrArg _ left_eq.symm)),
      congrArg (token.start + ·) size.symm, rfl⟩
  rcases kind with rfl | rfl
  · exact ⟨⟨_, by decide, moves⟩, rfl, .inl rfl⟩
  · exact ⟨⟨_, by decide, moves⟩, rfl, .inr rfl⟩

end Lexer

end Ecmascript
