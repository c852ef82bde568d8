import Ecmascript.Proofs.Lexer.Behind
import Ecmascript.Proofs.Offset.Token

/-!
# Longest match

Of all punctuators that a text begins with the longest is read, and a word is read as far as there
are characters that may continue it. What stands between the place of a lexer and a token is
described by what it is, as in the account of a whole text.
-/

set_option autoImplicit false

namespace Ecmascript

open Character

/-! ## Punctuators -/

namespace Punctuator

variable {mark : Punctuator} {text : Text}

/-- Of all punctuators, none that a text begins with is longer. -/
structure Longest (mark : Punctuator) (text : Text) : Prop where
  here : mark.spelling.toList <+: text
  longest : ∀ other : Punctuator, other.spelling.toList <+: text →
    other.spelling.toList.length ≤ mark.spelling.toList.length

/-- A question mark stands in front of a number that begins with a dot. -/
def BeforeFraction (text : Text) : Prop :=
  ∃ digit rest, text = '?' :: '.' :: digit :: rest ∧ isDecimalDigit digit = true

/-- A punctuator is the longest one that a text begins with, but for a question mark in front of a
number that begins with a dot. -/
def Matches (mark : Punctuator) (text : Text) : Prop :=
  (BeforeFraction text ∧ mark = .question) ∨ (¬ BeforeFraction text ∧ mark.Longest text)

/-- An optional chain is passed over in front of a number only. -/
theorem begins_iff (plain : ¬ BeforeFraction text) :
    begins (mark.spelling.toList, mark) text = true ↔ mark.spelling.toList <+: text := by
  rw [begins, Bool.and_eq_true, List.isPrefixOf_iff_prefix, and_iff_left_iff_imp]
  rintro ⟨rest, rfl⟩
  rw [Bool.not_eq_true', Bool.and_eq_false_iff, decide_eq_false_iff_not]
  refine or_iff_not_imp_left.2 fun chain => ?_
  obtain rfl := not_not.1 chain
  cases rest with
  | nil => rfl
  | cons c rest => exact Bool.eq_false_iff.2 fun digit => plain ⟨c, rest, rfl, digit⟩

theorem longest?_matches (found : longest? text = some mark) : mark.Matches text := by
  by_cases fraction : BeforeFraction text
  · obtain ⟨digit, rest, rfl, decimal⟩ := fraction
    rw [longest?_question decimal] at found
    exact .inl ⟨⟨digit, rest, rfl, decimal⟩, (Option.some.inj found).symm⟩
  have first := spelling_prefix_of_longest found
  refine .inr ⟨fraction, first, fun other here => ?_⟩
  rw [longest?_eq] at found
  obtain ⟨_, sooner, later, split, passed⟩ := List.find?_eq_some_iff_append.1 found
  rcases List.prefix_or_prefix_of_prefix here first with shorter | longer
  · exact shorter.length_le
  -- A longer spelling stands before a shorter one, where it would have been found.
  have listed := all_complete other
  have ordered := all_ordered
  rw [split] at listed ordered
  rcases List.mem_append.1 listed with before | behind
  · have fails := passed other before
    rw [(begins_iff fraction).2 here] at fails
    cases fails
  · rcases List.mem_cons.1 behind with rfl | behind
    · exact Nat.le_refl _
    · have apart := (List.pairwise_cons.1 (List.pairwise_append.1 ordered).2.1).1
      exact absurd longer (apart other behind)

end Punctuator

/-! ## Words -/

theorem Keyword.ofSpelling?_spelling (keyword : Keyword) :
    ofSpelling? keyword.spelling = some keyword := by
  cases keyword <;> decide

/-- A word stands for the keyword that is spelled like it, and for itself if there is none. -/
structure TokenKind.IsWord (kind : TokenKind) (word : Text) : Prop where
  keyword : ∀ keyword : Keyword, keyword.spelling = String.ofList word → kind = .keyword keyword
  identifier : (∀ keyword : Keyword, keyword.spelling ≠ String.ofList word) →
    kind = .identifier (String.ofList word)

theorem Lexer.wordKind_isWord (word : Text) : (wordKind word).IsWord word := by
  constructor
  · intro keyword spelled
    simp only [wordKind, ← spelled, Keyword.ofSpelling?_spelling]
  · intro other
    rcases wordKind_cases word with ⟨keyword, _, spelled⟩ | named
    · exact absurd spelled (other keyword)
    · exact named

namespace Lexer

variable {lexer after : Lexer} {gap rest : Text} {first : Char} {token : Token}
  {mark : Punctuator}

/-! ## Behind blanks and comments -/

/-- A lexer has a text left behind blanks and comments. -/
structure Reaches (lexer : Lexer) (gap text : Text) : Prop where
  whole : lexer.rest = gap ++ text
  separates : Trivia.Separates (text = []) gap
  solid : ∀ first rest, text = first :: rest → Trivia.isSolid first = true ∧
    (first = '/' → Text.Stops (fun next => next = '/' || next = '*') rest)

theorem reaches_of_skip {position : Nat} {newline : Bool}
    (skips : Trivia.skip lexer.position lexer.rest = .skipped position (first :: rest) newline) :
    ∃ gap, lexer.Reaches gap (first :: rest) ∧ position = lexer.position + gap.byteLength := by
  obtain ⟨gap, passed⟩ := Trivia.skipFrom_gap skips
  obtain ⟨between, same⟩ := Trivia.skipFrom_separates (passed.completes.mono nofun)
    lexer.position false (first :: rest)
  refine ⟨gap, ⟨passed.whole, passed.completes, ?_⟩, passed.position⟩
  rintro _ _ ⟨⟩
  rw [← passed.whole] at same
  exact solid_of_skip (same.symm.trans skips)

theorem Reaches.skips (reaches : lexer.Reaches gap (first :: rest)) : ∃ newline,
    Trivia.skip lexer.position lexer.rest =
      .skipped (lexer.position + gap.byteLength) (first :: rest) newline := by
  obtain ⟨newline, skips⟩ := Trivia.skipFrom_separates (reaches.separates.mono nofun)
    lexer.position false (first :: rest)
  obtain ⟨solid, bare⟩ := reaches.solid first rest rfl
  obtain ⟨between, same⟩ := Trivia.skipFrom_newline .blank (lexer.position + gap.byteLength) false
    newline (first :: rest)
  refine ⟨between, ?_⟩
  rw [Trivia.skip, reaches.whole, skips, same]
  exact congrArg (Trivia.Outcome.withNewline between) (Trivia.skip_solid solid bare _)

/-- A token covers a lexeme behind blanks and comments, and reading goes on behind it. -/
structure Covers (lexer : Lexer) (gap lexeme : Text) (token : Token) (after : Lexer) : Prop where
  reaches : lexer.Reaches gap (lexeme ++ after.rest)
  start : token.start = lexer.position + gap.byteLength
  stop : token.stop = token.start + lexeme.byteLength
  position : after.position = token.stop

/-! ## Punctuators and words -/

theorem longest?_of_readKind (reads : lexer.readKind first rest = (.ok (.punctuator mark), after)) :
    Punctuator.longest? (first :: rest) = some mark := by
  have found (reads : lexer.readPunctuator first rest = (.ok (.punctuator mark), after)) :
      Punctuator.longest? (first :: rest) = some mark := by
    unfold readPunctuator at reads
    split at reads
    · next found =>
      cases reads
      exact found
    · cases reads
  have template (lexer : Lexer) (isFirst : Bool) :
      lexer.readTemplate isFirst first rest ≠ (.ok (.punctuator mark), after) := by
    unfold readTemplate
    dsimp only
    split <;> nofun
  unfold readKind at reads
  split at reads
  · rcases wordKind_cases (Literal.scanWord (first :: rest)).1 with ⟨_, named, _⟩ | named <;>
    cases named.symm.trans (Except.ok.inj (Prod.mk.inj reads).1)
  split at reads
  · cases reads
  split at reads
  · unfold readString at reads
    dsimp only at reads
    split at reads <;> cases reads
  split at reads
  · exact absurd reads (template _ _)
  split at reads
  · exact absurd reads (template _ _)
  split at reads
  · cases closed : (Literal.scanRegex rest).closed with
    | true =>
        rw [readRegex_of_closed _ closed] at reads
        cases reads
    | false =>
        rw [readRegex_of_open _ closed] at reads
        exact found reads
  · exact found reads

theorem next_punctuator (reads : lexer.next = (.ok token, after))
    (kind : token.kind = .punctuator mark) :
    ∃ gap, lexer.Covers gap mark.spelling.toList token after ∧
      mark.Matches (mark.spelling.toList ++ after.rest) := by
  unfold next nextWith at reads
  split at reads
  · cases reads
  · next position rest newline skips =>
    cases rest with
    | nil =>
        cases reads
        cases kind
    | cons first rest =>
        obtain ⟨gap, reaches, rfl⟩ := reaches_of_skip skips
        dsimp only at reads
        split at reads
        · cases reads
        · next found last lexeme =>
          cases reads
          obtain rfl : found = .punctuator mark := kind
          have matches_ := Punctuator.longest?_matches (longest?_of_readKind lexeme)
          have moves := readKind_written rfl lexeme
          have whole : first :: rest = mark.spelling.toList ++ last.rest := moves.rest
          rw [whole] at reaches matches_
          exact ⟨gap, ⟨reaches, rfl, moves.position, rfl⟩, matches_⟩

theorem next_word (reaches : lexer.Reaches gap (first :: rest))
    (start : isIdentifierStart first = true) :
    ∃ word token after, lexer.next = (.ok token, after) ∧ lexer.Covers gap word token after ∧
      (∀ c ∈ word, isIdentifierPart c = true) ∧ after.rest.Stops isIdentifierPart ∧
      token.kind.IsWord word := by
  obtain ⟨newline, skips⟩ := reaches.skips
  cases scan : Literal.scanWord (first :: rest) with
  | mk word left =>
      obtain ⟨whole, inner, stops⟩ := Literal.scanWord_eq_iff.1 scan
      let begin := lexer.position + gap.byteLength
      have reads : lexer.next = (.ok ⟨wordKind word, begin, begin + word.byteLength, newline⟩,
          { lexer with
            position := begin + word.byteLength
            rest := left
            regexAllowed := !(wordKind word).endsOperand }) := by
        unfold next nextWith
        rw [skips]
        dsimp only
        rw [readKind_word start, scan]
        rfl
      rw [whole] at reaches
      exact ⟨word, _, _, reads, ⟨reaches, rfl, rfl, rfl⟩, inner, stops, wordKind_isWord word⟩

/-- Words and punctuators are read by longest match, also by a reader that decides between them
character by character. -/
theorem next_longest (lexer : Lexer) :
    (∀ token after mark, lexer.next = (.ok token, after) → token.kind = .punctuator mark →
      ∃ gap, lexer.Covers gap mark.spelling.toList token after ∧
        mark.Matches (mark.spelling.toList ++ after.rest)) ∧
    (∀ gap first rest, lexer.Reaches gap (first :: rest) → isIdentifierStart first = true →
      ∃ word token after, lexer.next = (.ok token, after) ∧ lexer.Covers gap word token after ∧
        (∀ c ∈ word, isIdentifierPart c = true) ∧ after.rest.Stops isIdentifierPart ∧
        token.kind.IsWord word) ∧
    (lexer.InRange → Cursor.next lexer.cursor = Part.some (lexer.next.1, lexer.next.2.cursor)) :=
  ⟨fun _ _ _ => next_punctuator, fun _ _ _ => next_word, Cursor.gives_next⟩

/-- In front of a dot and a digit a question mark is read, and a keyword is not read from the
beginning of a longer word. -/
theorem next_longest_fraction :
    (∃ gap, (ofText ['?', '.', '5']).Covers gap ['?'] ⟨.punctuator .question, 0, 1, false⟩
        (ofText ['?', '.', '5']).next.2 ∧
      Punctuator.question.Matches ['?', '.', '5']) ∧
    (∃ word token after, (ofText [' ', 'i', 'n', '2']).next = (.ok token, after) ∧
      (ofText [' ', 'i', 'n', '2']).Covers [' '] word token after ∧
      (∀ c ∈ word, isIdentifierPart c = true) ∧ after.rest.Stops isIdentifierPart ∧
      token.kind.IsWord word) ∧
    Cursor.next (ofText [' ', 'i', 'n', '2']).cursor =
      Part.some ((ofText [' ', 'i', 'n', '2']).next.1, (ofText [' ', 'i', 'n', '2']).next.2.cursor)
    := by
  refine ⟨?_, ?_, ?_⟩
  · exact (next_longest (ofText ['?', '.', '5'])).1 _ _ .question rfl rfl
  · refine (next_longest (ofText [' ', 'i', 'n', '2'])).2.1 _ 'i' ['n', '2'] ?_ (by decide)
    refine ⟨rfl, .blank (by decide) .nil, ?_⟩
    rintro _ _ ⟨⟩
    exact ⟨by decide, nofun⟩
  · exact (next_longest (ofText [' ', 'i', 'n', '2'])).2.2 ⟨placed_ofText _, by decide⟩

end Lexer

end Ecmascript
