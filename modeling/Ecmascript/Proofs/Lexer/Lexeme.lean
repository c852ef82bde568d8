import Ecmascript.Proofs.Lexer.Guess
import Ecmascript.Proofs.Lexer.Local

/-!
# Reading a token that is known

A token that is read by itself is read in front of other text too, as long as that text does not
run together with it. Only a slash may be taken for the beginning of a regular expression, and then
deciding for a division gives it back.
-/

set_option autoImplicit false

namespace Ecmascript

open Character

/-! ## Texts of tokens -/

/-- The source text of a token, without the delimiters of a template. -/
def TokenKind.text : TokenKind → Text
  | .number raw | .string raw | .regex raw | .identifier raw | .template _ raw => raw.toList
  | .keyword word => word.spelling.toList
  | .punctuator mark => mark.spelling.toList
  | .endOfInput => []

/-- Tokens that are their raw text. -/
def TokenKind.isRaw : TokenKind → Bool
  | .identifier _ | .number _ | .string _ | .regex _ => true
  | _ => false

/-- A character that is not skipped, unless it begins a comment. -/
def Trivia.isSolid (c : Char) : Bool :=
  !isLineTerminator c && !isBlank c

theorem Trivia.skip_solid {c : Char} (solid : isSolid c = true) {rest : Text}
    (bare : c = '/' → rest.Stops fun next => next = '/' || next = '*') (position : Nat) :
    skip position (c :: rest) = .skipped position (c :: rest) false := by
  simp only [isSolid, Bool.and_eq_true, Bool.not_eq_true'] at solid
  unfold skip
  by_cases slash : c = '/'
  · subst slash
    cases rest with
    | nil => simp [skipFrom, solid.1, solid.2]
    | cons next rest =>
        have other := bare rfl next rfl
        rw [Bool.or_eq_false_iff, decide_eq_false_iff_not, decide_eq_false_iff_not] at other
        simp [skipFrom, solid.1, solid.2, other.1, other.2]
  · simp [skipFrom, solid.1, solid.2, slash]

/-- A text is a word of a kind. -/
structure Lexer.Word (text : Text) (kind : TokenKind) : Prop where
  first : text.head?.any (fun c => Trivia.isSolid c && isIdentifierStart c) = true
  whole : Literal.scanWord text = (text, [])
  kind : wordKind text = kind

namespace TokenKind

/-- The text of a token is one that the lexer reads as this token. -/
def Spelled : TokenKind → Prop
  | .identifier name => Lexer.Word name.toList (.identifier name)
  | .number raw => ∃ first rest, raw.toList = first :: rest ∧ Trivia.isSolid first = true ∧
      isIdentifierStart first = false ∧
      (isDecimalDigit first || (first = '.' && rest.head?.any isDecimalDigit)) = true ∧
      Literal.scanNumber raw.toList = (raw.toList, [])
  | .string raw => ∃ quote rest, raw.toList = quote :: rest ∧ (quote = '"' ∨ quote = '\'') ∧
      Literal.scanString quote rest = ⟨rest, [], true⟩
  | .regex raw => ∃ rest, raw.toList = '/' :: rest ∧
      Text.Stops (fun next => next = '/' || next = '*') rest ∧
      Literal.scanRegex rest = ⟨rest, [], true⟩
  | .keyword _ => True
  | .punctuator mark => mark ≠ .slashAssign ∧ mark ≠ .optionalChain
  | _ => False

/-- What follows a token does not run together with it. -/
def Apart : TokenKind → Text → Prop
  | .identifier _, tail | .keyword _, tail | .regex _, tail => tail.Stops isIdentifierPart
  | .number _, tail => tail.Stops Literal.continuesNumber
  | .punctuator mark, tail =>
      Punctuator.longest? (mark.spelling.toList ++ tail) = some mark ∧
        (mark = .slash → tail.Stops fun next => next = '/' || next = '*') ∧
        (mark = .dot → tail.Stops isDecimalDigit)
  | _, _ => True

end TokenKind

namespace Lexer

variable {lexer : Lexer} {first : Char} {rest : Text}

/-! ## Reading the lexeme -/

theorem readKind_word (start : isIdentifierStart first = true) :
    lexer.readKind first rest =
      (.ok (wordKind (Literal.scanWord (first :: rest)).1),
        lexer.advance (Literal.scanWord (first :: rest)).1
          (Literal.scanWord (first :: rest)).2) := by
  simp [readKind, start]

theorem readKind_number (start : isIdentifierStart first = false)
    (digit : (isDecimalDigit first || (first = '.' && rest.head?.any isDecimalDigit)) = true) :
    lexer.readKind first rest =
      (.ok (.number (String.ofList (Literal.scanNumber (first :: rest)).1)),
        lexer.advance (Literal.scanNumber (first :: rest)).1
          (Literal.scanNumber (first :: rest)).2) := by
  simp only [readKind, start, digit, Bool.false_eq_true, if_false, if_true]

theorem readKind_string (quote : first = '"' ∨ first = '\'') :
    lexer.readKind first rest = lexer.readString first rest := by
  rcases quote with rfl | rfl <;> rfl

/-- The first character of a punctuator begins nothing else, except for a slash and a dot. -/
def beginsPunctuator (c : Char) : Bool :=
  !isIdentifierStart c && !isDecimalDigit c && Trivia.isSolid c &&
    c ≠ '"' && c ≠ '\'' && c ≠ '\x60'

theorem spelling_cons (mark : Punctuator) :
    ∃ first rest, mark.spelling.toList = first :: rest ∧ beginsPunctuator first = true := by
  cases mark <;> exact ⟨_, _, rfl, by decide⟩

theorem readKind_punctuator (begins : beginsPunctuator first = true)
    (whole : lexer.templates = []) (quiet : first = '/' → lexer.regexAllowed = false)
    (undotted : first = '.' → rest.Stops isDecimalDigit) :
    lexer.readKind first rest = lexer.readPunctuator first rest := by
  simp only [beginsPunctuator, Bool.and_eq_true, Bool.not_eq_true', decide_eq_true_eq,
    ne_eq] at begins
  obtain ⟨⟨⟨⟨⟨start, digit⟩, _⟩, double⟩, single⟩, backquote⟩ := begins
  have fraction : (first = '.' && rest.head?.any isDecimalDigit) = false := by
    rw [Bool.and_eq_false_iff, decide_eq_false_iff_not]
    by_cases dot : first = '.'
    · right
      cases rest with
      | nil => rfl
      | cons c rest => exact undotted dot c rfl
    · exact .inl dot
  have division : (first = '/' && lexer.regexAllowed) = false := by
    rw [Bool.and_eq_false_iff, decide_eq_false_iff_not]
    by_cases slash : first = '/'
    · exact .inr (quiet slash)
    · exact .inl slash
  simp only [readKind, start, digit, fraction, double, single, backquote, whole, division,
    Bool.or_self, Bool.false_eq_true, if_false, decide_false, List.head?_nil, reduceCtorEq,
    Bool.and_false]

theorem solid_of_begins (begins : beginsPunctuator first = true) :
    Trivia.isSolid first = true := by
  simp only [beginsPunctuator, Bool.and_eq_true] at begins
  exact begins.1.1.1.2

theorem word_keyword (word : Keyword) : Word word.spelling.toList (.keyword word) := by
  cases word <;> exact ⟨by decide, by decide, by decide⟩

/-- A lexer reads a token from a text that stands in front of another. -/
def Meets (lexer : Lexer) (kind : TokenKind) (text tail : Text) : Prop :=
  ∃ first rest, text = first :: rest ∧
    (∀ position, Trivia.skip position (first :: (rest ++ tail)) =
      .skipped position (first :: (rest ++ tail)) false) ∧
    lexer.readKind first (rest ++ tail) = (.ok kind, lexer.advance text tail)

variable {kind : TokenKind} {tail : Text}

theorem meets_word {text : Text} (word : Word text kind) (stops : tail.Stops isIdentifierPart) :
    lexer.Meets kind text tail := by
  obtain ⟨starts, whole, named⟩ := word
  cases text with
  | nil => cases starts
  | cons first rest =>
      simp only [List.head?_cons, Option.any_some, Bool.and_eq_true] at starts
      obtain ⟨solid, start⟩ := starts
      refine ⟨first, rest, rfl, fun position => Trivia.skip_solid solid ?_ position, ?_⟩
      · rintro rfl
        cases start
      · have longer := Literal.scanWord_right (first :: rest) stops
        rw [whole] at longer
        rw [readKind_word start, ← List.cons_append, longer, named]
        rfl

theorem meets_number {raw : String} (spelled : (TokenKind.number raw).Spelled)
    (stops : tail.Stops Literal.continuesNumber) :
    lexer.Meets (.number raw) raw.toList tail := by
  obtain ⟨first, rest, text, solid, start, digit, scans⟩ := spelled
  have digit' : (isDecimalDigit first ||
      (first = '.' && (rest ++ tail).head?.any isDecimalDigit)) = true := by
    cases rest with
    | nil =>
        simp only [List.head?_nil, Option.any_none, Bool.and_false, Bool.or_false] at digit
        rw [digit, Bool.true_or]
    | cons c rest => exact digit
  have longer := Literal.scanNumber_right raw.toList stops (by rw [text]; nofun) (by rw [scans])
  rw [scans, text, List.cons_append] at longer
  refine ⟨first, rest, text, fun position => Trivia.skip_solid solid ?_ position, ?_⟩
  · rintro rfl
    cases digit
  · rw [readKind_number start digit', longer, ← text, String.ofList_toList]

theorem meets_string {raw : String} (spelled : (TokenKind.string raw).Spelled) :
    lexer.Meets (.string raw) raw.toList tail := by
  obtain ⟨quote, rest, text, quotes, scans⟩ := spelled
  have plain : quote ≠ '\\' ∧ quote ≠ '/' ∧ Trivia.isSolid quote = true := by
    rcases quotes with rfl | rfl <;> decide
  have longer := Literal.scanString_right plain.1 rest tail (by rw [scans])
  rw [scans] at longer
  refine ⟨quote, rest, text, fun position => Trivia.skip_solid plain.2.2
    (fun slash => absurd slash plain.2.1) position, ?_⟩
  rw [readKind_string quotes, readString, longer]
  simp [Literal.extend, Scan.prepend, ← text]

theorem meets_regex {raw : String} (spelled : (TokenKind.regex raw).Spelled)
    (stops : tail.Stops isIdentifierPart) (guess : lexer.regexAllowed = true) :
    lexer.Meets (.regex raw) raw.toList tail := by
  obtain ⟨rest, text, bare, scans⟩ := spelled
  have longer := Literal.scanRegex_right rest stops (by rw [scans])
  rw [scans] at longer
  have closed : (Literal.scanRegex (rest ++ tail)).closed = true := by
    rw [longer]
    rfl
  refine ⟨'/', rest, text, fun position => Trivia.skip_solid (by decide) (fun _ => ?_) position,
    ?_⟩
  · cases rest with
    | nil => cases scans
    | cons c rest => exact fun next same => bare next same
  · rw [readKind_slash, if_pos guess, readRegex_of_closed _ closed, longer]
    simp [Literal.extend, ← text]

theorem meets_punctuator {mark : Punctuator} (other : mark ≠ .slashAssign)
    (apart : (TokenKind.punctuator mark).Apart tail) (whole : lexer.templates = [])
    (quiet : mark = .slash → lexer.regexAllowed = false) :
    lexer.Meets (.punctuator mark) mark.spelling.toList tail := by
  obtain ⟨longest, bare, undotted⟩ := apart
  obtain ⟨first, rest, text, begins⟩ := spelling_cons mark
  have slash (same : first = '/') : mark = .slash ∧ rest = [] := by
    subst same
    revert text other
    cases mark <;> simp +decide [Punctuator.spelling]
  have dot (same : first = '.') : mark = .dot ∧ rest = [] ∨ rest = ['.', '.'] := by
    subst same
    revert text other
    cases mark <;> simp +decide [Punctuator.spelling] <;> rintro rfl <;> simp
  refine ⟨first, rest, text, fun position => Trivia.skip_solid (solid_of_begins begins)
    (fun same => ?_) position, ?_⟩
  · obtain ⟨rfl, rfl⟩ := slash same
    exact bare rfl
  · rw [readKind_punctuator begins whole (fun same => quiet (slash same).1) fun same => ?_]
    · rw [text, List.cons_append] at longest
      simp only [readPunctuator, longest, text, whole, advance, countBrace]
      rw [← List.cons_append, List.drop_left]
    · rcases dot same with ⟨rfl, rfl⟩ | rfl
      · exact undotted rfl
      · exact .cons (by decide)

theorem meets_spelled (spelled : kind.Spelled) (apart : kind.Apart tail)
    (whole : lexer.templates = [])
    (guess : ∀ raw, kind = .regex raw → lexer.regexAllowed = true)
    (quiet : kind = .punctuator .slash → lexer.regexAllowed = false) :
    lexer.Meets kind kind.text tail := by
  cases kind with
  | identifier name => exact meets_word spelled apart
  | keyword word => exact meets_word (word_keyword word) apart
  | number raw => exact meets_number spelled apart
  | string raw => exact meets_string spelled
  | regex raw => exact meets_regex spelled apart (guess raw rfl)
  | punctuator mark =>
      exact meets_punctuator spelled.1 apart whole fun same => quiet (congrArg _ same)
  | template part raw => cases spelled
  | endOfInput => cases spelled

/-! ## Reading the token -/

/-- The token that stands at the beginning of what is left. -/
theorem nextWith_meets {endsOperand : TokenKind → Bool} {text : Text}
    (meets : lexer.Meets kind text tail) (next : lexer.rest = text ++ tail) :
    lexer.nextWith endsOperand =
      (.ok ⟨kind, lexer.position, lexer.position + text.byteLength, false⟩,
        { lexer.advance text tail with regexAllowed := !endsOperand kind }) := by
  obtain ⟨first, rest, rfl, skips, reads⟩ := meets
  rw [List.cons_append] at next
  have skipped : Trivia.skip lexer.position lexer.rest =
      .skipped lexer.position (first :: (rest ++ tail)) false := by
    rw [next]
    exact skips lexer.position
  have here : { lexer with position := lexer.position, rest := first :: (rest ++ tail) } =
      lexer := by
    rw [← next]
  rw [nextWith_eq endsOperand skipped, here, reads]
  rfl

/-- A space is skipped. -/
theorem nextWith_space {endsOperand : TokenKind → Bool} {tail : Text}
    (next : lexer.rest = ' ' :: tail) :
    lexer.nextWith endsOperand = (lexer.advance [' '] tail).nextWith endsOperand := by
  have skipped (position : Nat) :
      Trivia.skip position (' ' :: tail) = Trivia.skip (position + 1) tail := by
    unfold Trivia.skip
    rw [Trivia.skipFrom]
    · rfl
    · nofun
    · nofun
  unfold nextWith
  simp only [next, skipped, advance]
  rfl

theorem nextWith_nil {endsOperand : TokenKind → Bool} (next : lexer.rest = []) :
    lexer.nextWith endsOperand =
      (.ok ⟨.endOfInput, lexer.position, lexer.position, true⟩, lexer) := by
  obtain ⟨source, position, rest, guess, templates⟩ := lexer
  cases next
  rfl

/-! ## What lies ahead -/

/-- A token, with the lexer behind it, stands for a kind: it has the kind, or it is a regular
expression by a wrong guess that deciding for a division corrects. -/
inductive Stands : Token → Lexer → TokenKind → Lexer → Prop
  | plain (token : Token) (after : Lexer) : Stands token after token.kind after
  | misread {raw : String} {slash : Token} {regex : Token} {after last : Lexer}
      (kind : regex.kind = .regex raw) (divides : after.rescanDivide regex = (slash, last))
      (corrected : slash.kind = .punctuator .slash) :
      Stands regex after (.punctuator .slash) last

/-- The kinds of the tokens that are ahead of a lexer. -/
inductive Ahead (endsOperand : TokenKind → Bool) : Lexer → List TokenKind → Prop
  | nil (lexer : Lexer) : Ahead endsOperand lexer []
  | cons {lexer after last : Lexer} {token : Token} {kind : TokenKind} {kinds : List TokenKind}
      (reads : lexer.nextWith endsOperand = (.ok token, after))
      (stands : Stands token after kind last) (ahead : Ahead endsOperand last kinds) :
      Ahead endsOperand lexer (kind :: kinds)

/-- A slash between operands is read as a division, or corrected to one. -/
theorem nextWith_slash {endsOperand : TokenKind → Bool}
    (opens : endsOperand (.punctuator .slash) = false) (placed : lexer.Placed)
    (apart : (TokenKind.punctuator .slash).Apart tail) (next : lexer.rest = '/' :: tail)
    (whole : lexer.templates = []) :
    ∃ token after last, lexer.nextWith endsOperand = (.ok token, after) ∧
      Stands token after (.punctuator .slash) last ∧ last.Placed ∧ last.rest = tail ∧
      (tail = [] ∨ last.regexAllowed = true) ∧ last.templates = [] := by
  have meets : lexer.unguessed.Meets (.punctuator .slash) ['/'] tail :=
    meets_punctuator nofun apart whole fun _ => rfl
  have reads : lexer.unguessed.nextWith endsOperand = (.ok _, _) := nextWith_meets meets next
  obtain ⟨quiet_placed, _⟩ := placed.unguessed.reads reads
  have compared := nextWith_compared endsOperand endsOperand placed.unguessed
    (show lexer.unguessed.unguessed = lexer.unguessed from rfl)
  rw [reads] at compared
  generalize outcome : lexer.nextWith endsOperand = reading at compared
  cases compared with
  | same level guess =>
      obtain ⟨placed', _⟩ := placed.reads outcome
      obtain ⟨_, _, rest, templates⟩ := unguessed_eq_iff.1 level
      refine ⟨_, _, _, rfl, .plain _ _, placed', rest.symm, ?_, templates.symm.trans whole⟩
      rcases guess with ends | same
      · exact .inl ends
      · right
        rw [← same rfl, opens]
        rfl
  | misread _ misread =>
      obtain ⟨raw, regex⟩ := misread.regexKind
      refine ⟨_, _, _, rfl, .misread regex misread.asDivide rfl, ?_, rfl, .inr rfl, whole⟩
      obtain ⟨before, passed⟩ := quiet_placed
      exact ⟨before, passed.rest, passed.position, passed.source⟩
  | misreadBack _ misread =>
      obtain ⟨raw, regex⟩ := misread.regexKind
      cases regex

/-! ## Texts that are read as one token -/

/-- A text is read as a single token of a kind. -/
def ReadsAs (text : Text) (kind : TokenKind) : Prop :=
  ∃ token after last final, (ofText text).next = (.ok token, after) ∧ token.kind = kind ∧
    after.next = (.ok last, final) ∧ last.kind = .endOfInput

/-- What a lexeme can turn out to be, by its first character. -/
theorem readKind_cases {after : Lexer} (reads : lexer.readKind first rest = (.ok kind, after)) :
    (isIdentifierStart first = true ∧ kind = wordKind (Literal.scanWord (first :: rest)).1) ∨
    (isIdentifierStart first = false ∧
      (isDecimalDigit first || (first = '.' && rest.head?.any isDecimalDigit)) = true ∧
      kind = .number (String.ofList (Literal.scanNumber (first :: rest)).1)) ∨
    ((first = '"' ∨ first = '\'') ∧ (Literal.scanString first rest).closed = true ∧
      kind = .string (String.ofList (first :: (Literal.scanString first rest).lexeme))) ∨
    (first = '/' ∧ (Literal.scanRegex rest).closed = true ∧
      kind = .regex (String.ofList ('/' :: (Literal.scanRegex rest).lexeme))) ∨
    (∃ part raw, kind = .template part raw) ∨ ∃ mark, kind = .punctuator mark := by
  have punctuator (reads : lexer.readPunctuator first rest = (.ok kind, after)) :
      ∃ mark, kind = .punctuator mark := by
    unfold readPunctuator at reads
    split at reads
    · cases reads
      exact ⟨_, rfl⟩
    · cases reads
  have template (lexer : Lexer) (isFirst : Bool)
      (reads : lexer.readTemplate isFirst first rest = (.ok kind, after)) :
      ∃ part raw, kind = .template part raw := by
    unfold readTemplate at reads
    dsimp only at reads
    split at reads
    · cases reads
    · cases reads
      exact ⟨_, _, rfl⟩
    · cases reads
      exact ⟨_, _, rfl⟩
  unfold readKind at reads
  split at reads
  · cases reads
    exact .inl ⟨‹_›, rfl⟩
  rename_i start
  split at reads
  · cases reads
    exact .inr (.inl ⟨Bool.eq_false_iff.2 start, ‹_›, rfl⟩)
  split at reads
  · rename_i quote
    rw [Bool.or_eq_true, decide_eq_true_eq, decide_eq_true_eq] at quote
    unfold readString at reads
    dsimp only at reads
    split at reads
    · cases reads
      exact .inr (.inr (.inl ⟨quote, ‹_›, rfl⟩))
    · cases reads
  split at reads
  · exact .inr (.inr (.inr (.inr (.inl (template _ _ reads)))))
  split at reads
  · exact .inr (.inr (.inr (.inr (.inl (template _ _ reads)))))
  split at reads
  · rename_i slash
    rw [Bool.and_eq_true, decide_eq_true_eq] at slash
    obtain ⟨rfl, _⟩ := slash
    cases closed : (Literal.scanRegex rest).closed with
    | true =>
        rw [readRegex_of_closed _ closed] at reads
        cases reads
        exact .inr (.inr (.inr (.inl ⟨rfl, rfl, rfl⟩)))
    | false =>
        rw [readRegex_of_open _ closed] at reads
        exact .inr (.inr (.inr (.inr (.inr (punctuator reads)))))
  · exact .inr (.inr (.inr (.inr (.inr (punctuator reads)))))

/-- A text that is left as it is begins with a solid character, and not with a comment. -/
theorem solid_of_skip {position after : Nat} {newline newline' : Bool}
    (skips : Trivia.skipFrom .blank position newline (first :: rest) =
      .skipped after (first :: rest) newline') :
    Trivia.isSolid first = true ∧
      (first = '/' → Text.Stops (fun next => next = '/' || next = '*') rest) := by
  have shorter {mode : Trivia.Mode} {start : Nat} {newline : Bool} {text : Text}
      (skips : Trivia.skipFrom mode start newline text = .skipped after (first :: rest) newline') :
      rest.length + 1 ≤ text.length := by
    obtain ⟨blanks, whole, _⟩ := Trivia.skipFrom_skipped skips
    rw [whole, List.length_append, List.length_cons]
    omega
  have goes_on (skips : (if isLineTerminator first = true then
        Trivia.skipFrom .blank (position + first.utf8Size) true rest
        else if isBlank first = true then
          Trivia.skipFrom .blank (position + first.utf8Size) newline rest
        else .skipped position (first :: rest) newline) =
          .skipped after (first :: rest) newline') : Trivia.isSolid first = true := by
    split at skips
    · exact absurd (shorter skips) (by omega)
    split at skips
    · exact absurd (shorter skips) (by omega)
    · simp_all [Trivia.isSolid]
  by_cases slash : first = '/'
  · subst slash
    refine ⟨by decide, fun _ next same => ?_⟩
    obtain ⟨lineComment, blockComment⟩ := Trivia.slash_of_skipFrom skips
    rw [Bool.or_eq_false_iff, decide_eq_false_iff_not, decide_eq_false_iff_not]
    constructor
    · rintro rfl
      exact lineComment same
    · rintro rfl
      exact blockComment same
  · refine ⟨goes_on ?_, fun same => absurd same slash⟩
    rw [Trivia.skipFrom] at skips
    · exact skips
    · exact fun _ same => absurd same slash
    · exact fun _ same => absurd same slash

theorem wordKind_cases (word : Text) :
    (∃ keyword, wordKind word = .keyword keyword ∧ keyword.spelling = String.ofList word) ∨
      wordKind word = .identifier (String.ofList word) := by
  unfold wordKind
  dsimp only
  split
  · rename_i keyword found
    unfold Keyword.ofSpelling? at found
    exact .inl ⟨keyword, rfl, by simpa using List.find?_some found⟩
  · exact .inr rfl

/-- A text that is read as a token of raw text is spelled as one. -/
theorem spelled_of_readsAs (reads : ReadsAs kind.text kind) (isRaw : kind.isRaw = true) :
    kind.Spelled := by
  obtain ⟨token, after, last, final, reads, rfl, _⟩ := reads
  unfold next nextWith at reads
  dsimp only [ofText] at reads
  split at reads
  · cases reads
  rename_i position rest newline skips
  cases rest with
  | nil =>
      cases reads
      cases isRaw
  | cons first rest =>
      dsimp only at reads
      split at reads
      · cases reads
      rename_i kind last reading
      cases reads
      dsimp only at isRaw skips ⊢
      obtain ⟨blanks, whole, _⟩ := Trivia.skipFrom_skipped skips
      -- A token that is the whole text leaves no room for blanks in front of it.
      have bare {lexeme left : Text} (same : kind.text = lexeme)
          (split : lexeme ++ left = first :: rest) :
          lexeme = first :: rest ∧ left = [] ∧ Trivia.isSolid first = true ∧
            (first = '/' → Text.Stops (fun next => next = '/' || next = '*') rest) := by
        have sizes := congrArg List.length whole
        have parts := congrArg List.length split
        rw [same] at sizes
        simp only [List.length_append] at sizes parts
        have none : left = [] := List.length_eq_zero_iff.1 (by omega)
        subst none
        rw [List.append_nil] at split
        rw [same, split] at skips
        exact ⟨split, rfl, solid_of_skip skips⟩
      rcases readKind_cases reading with ⟨start, rfl⟩ | ⟨start, digit, rfl⟩ |
        ⟨quote, closed, rfl⟩ | ⟨rfl, closed, rfl⟩ | ⟨part, raw, rfl⟩ | ⟨mark, rfl⟩
      · have split := Literal.scanWord_append (first :: rest)
        generalize scanned : Literal.scanWord (first :: rest) = scan at *
        obtain ⟨word, left⟩ := scan
        dsimp only at *
        rcases wordKind_cases word with ⟨keyword, named, _⟩ | named
        · rw [named] at isRaw
          cases isRaw
        · rw [named] at bare ⊢
          obtain ⟨rfl, rfl, solid, _⟩ := bare String.toList_ofList split
          exact ⟨by simp [solid, start], by simpa using scanned, by simpa using named⟩
      · have split := Literal.scanNumber_append (first :: rest)
        generalize scanned : Literal.scanNumber (first :: rest) = scan at *
        obtain ⟨digits, left⟩ := scan
        dsimp only at *
        obtain ⟨rfl, rfl, solid, _⟩ := bare String.toList_ofList split
        exact ⟨first, rest, String.toList_ofList, solid, start, digit, by simpa using scanned⟩
      · have split := congrArg (first :: ·) (Literal.scanString_append first rest)
        generalize scanned : Literal.scanString first rest = scan at *
        obtain ⟨lexeme, left, closes⟩ := scan
        dsimp only at *
        obtain ⟨same, rfl, _, _⟩ := bare String.toList_ofList split
        cases same
        cases closed
        exact ⟨first, rest, String.toList_ofList, quote, scanned⟩
      · have split := congrArg ('/' :: ·) (Literal.scanRegex_append rest)
        generalize scanned : Literal.scanRegex rest = scan at *
        obtain ⟨lexeme, left, closes⟩ := scan
        dsimp only at *
        obtain ⟨same, rfl, _, uncommented⟩ := bare String.toList_ofList split
        cases same
        cases closed
        exact ⟨rest, String.toList_ofList, uncommented rfl, scanned⟩
      · cases isRaw
      · cases isRaw

end Lexer

end Ecmascript
