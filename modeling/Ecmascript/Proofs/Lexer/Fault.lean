import Ecmascript.Proofs.Lexer.Lexeme
import Ecmascript.Proofs.Lexer.Written

/-!
# What lexical errors point at

The lexer fails at a character that begins no token, or at something that is never closed. What it
means to be closed is said here without the scanners: a string, a template chunk or a regular
expression is closed when a text with complete escapes stands between its two delimiters.
-/

set_option autoImplicit false

namespace Ecmascript

open Character

namespace Literal

/-! ## Texts between delimiters -/

/-- The text of a string: line breaks are escaped, and an escaped carriage return takes a line feed
with it. -/
inductive StringBody : Text → Prop
  | nil : StringBody []
  | plain {c : Char} {rest : Text} (bare : c ≠ '\\') (goes : c ≠ '\n' ∧ c ≠ '\r')
      (body : StringBody rest) : StringBody (c :: rest)
  | escaped (c : Char) {rest : Text} (body : StringBody rest) : StringBody ('\\' :: c :: rest)
  | continued {rest : Text} (body : StringBody rest) : StringBody ('\\' :: '\r' :: '\n' :: rest)

/-- The text of a template chunk. -/
inductive ChunkBody : Text → Prop
  | nil : ChunkBody []
  | plain {c : Char} {rest : Text} (bare : c ≠ '\\') (body : ChunkBody rest) : ChunkBody (c :: rest)
  | escaped (c : Char) {rest : Text} (body : ChunkBody rest) : ChunkBody ('\\' :: c :: rest)

/-- The text of a regular expression, from inside or outside of a class on: it has no line
terminators, and ends outside of a class. -/
inductive RegexBody : Bool → Text → Prop
  | nil : RegexBody false []
  | plain {inClass : Bool} {c : Char} {rest : Text} (bare : c ≠ '\\')
      (goes : isLineTerminator c = false)
      (body : RegexBody (if c = '[' then true else if c = ']' then false else inClass) rest) :
      RegexBody inClass (c :: rest)
  | escaped {inClass : Bool} {c : Char} {rest : Text} (goes : isLineTerminator c = false)
      (body : RegexBody inClass rest) : RegexBody inClass ('\\' :: c :: rest)

/-- No template chunk ends in a text. -/
def ChunkUnclosed (text : Text) : Prop :=
  ∀ body rest, ChunkBody body → text ≠ body ++ '\x60' :: rest ∧ text ≠ body ++ '$' :: '\x7b' :: rest

theorem StringBody.not_lineFeed {rest : Text} (valid : StringBody ('\n' :: rest)) : False := by
  cases valid with
  | plain _ goes _ => exact goes.1 rfl

/-- A scan finds its closing delimiter, and reads so many characters at most up to it. -/
def ClosedWithin (length : Nat) (scan : Scan) : Prop :=
  scan.closed = true ∧ scan.lexeme.length ≤ length

theorem ClosedWithin.prepend {length : Nat} {scan : Scan} (closed : ClosedWithin length scan)
    (front : Text) : ClosedWithin (length + front.length) (scan.prepend front) := by
  refine ⟨closed.1, ?_⟩
  simp only [Scan.prepend, List.length_append, Nat.add_comm front.length]
  exact Nat.add_le_add_right closed.2 _

/-- A string is closed where it has a text and a quote behind it, if not before. -/
theorem scanString_closed {quote : Char} (quotes : quote = '"' ∨ quote = '\'') {body : Text}
    (valid : StringBody body) (rest : Text) :
    ClosedWithin (body.length + 1) (scanString quote (body ++ quote :: rest)) := by
  have plain : quote ≠ '\\' ∧ quote ≠ '\n' := by rcases quotes with rfl | rfl <;> decide
  induction valid with
  | nil =>
      rw [List.nil_append, scanString.eq_4 _ _ _ (fun _ same _ => plain.1 same)
        (fun _ _ same _ => plain.1 same), if_pos rfl]
      exact ⟨rfl, Nat.le_refl _⟩
  | @plain c body bare goes _ ih =>
      rw [List.cons_append, scanString.eq_4 _ _ _ (fun _ same _ => bare same)
        (fun _ _ same _ => bare same)]
      split
      · exact ⟨rfl, Nat.le_add_left 1 _⟩
      · simp only [goes.1, goes.2, decide_false, Bool.or_self, Bool.false_eq_true, if_false]
        exact ih.prepend [c]
  | @escaped c body valid ih =>
      rw [List.cons_append, List.cons_append, scanString.eq_3]
      · exact ih.prepend ['\\', c]
      · intro _ _ same
        cases body with
        | nil => exact plain.2 (List.cons.inj same).1
        | cons first body =>
            obtain ⟨rfl, _⟩ := List.cons.inj same
            exact valid.not_lineFeed
  | continued _ ih => exact ih.prepend ['\\', '\r', '\n']

/-- A template chunk is closed where it has a text and a delimiter behind it, if not before. -/
theorem scanChunk_closed {body : Text} (valid : ChunkBody body) {stop : ChunkEnd}
    (delimited : stop ≠ .missing) (rest : Text) :
    (scanChunk (body ++ (stop.delimiter ++ rest))).stop ≠ .missing ∧
      (scanChunk (body ++ (stop.delimiter ++ rest))).raw.length ≤ body.length := by
  have further (front : Text) {chunk : Chunk} {length : Nat}
      (closed : chunk.stop ≠ .missing ∧ chunk.raw.length ≤ length) :
      (chunk.prepend front).stop ≠ .missing ∧
        (chunk.prepend front).raw.length ≤ length + front.length := by
    refine ⟨closed.1, ?_⟩
    simp only [Chunk.prepend, List.length_append, Nat.add_comm front.length]
    exact Nat.add_le_add_right closed.2 _
  induction valid with
  | nil =>
      cases stop with
      | missing => exact absurd rfl delimited
      | backquote | substitution => simp [scanChunk, ChunkEnd.delimiter]
  | @plain c body bare _ ih =>
      rw [List.cons_append, scanChunk.eq_def]
      split
      · rename_i same
        cases same
      · exact ⟨ChunkEnd.noConfusion, Nat.zero_le _⟩
      · exact ⟨ChunkEnd.noConfusion, Nat.zero_le _⟩
      · rename_i same
        exact absurd (List.cons.inj same).1 bare
      · rename_i same
        obtain ⟨rfl, rfl⟩ := List.cons.inj same
        exact further [c] ih
  | escaped c _ ih => exact further ['\\', c] ih

theorem scanRegexBody_closed {inClass : Bool} {body : Text} (valid : RegexBody inClass body)
    (rest : Text) : ClosedWithin (body.length + 1) (scanRegexBody inClass (body ++ '/' :: rest)) := by
  induction valid with
  | nil => exact ⟨rfl, Nat.le_refl _⟩
  | @plain inClass c body bare goes _ ih =>
      rw [List.cons_append, scanRegexBody.eq_3 _ _ _ fun _ _ same _ => bare same]
      split
      · exact ⟨rfl, Nat.le_add_left 1 _⟩
      · rw [goes, if_neg Bool.false_ne_true]
        exact ih.prepend [c]
  | @escaped inClass c body goes _ ih =>
      rw [List.cons_append, List.cons_append, scanRegexBody, goes, if_neg Bool.false_ne_true]
      exact ih.prepend ['\\', c]

/-- A regular expression is closed where it has a text and a slash behind it. -/
theorem scanRegex_closed {body : Text} (valid : RegexBody false body) (rest : Text) :
    (scanRegex (body ++ '/' :: rest)).closed = true := by
  simp only [scanRegex, (scanRegexBody_closed valid rest).1, if_true]

end Literal

namespace Trivia

/-- Skipping ends inside of a comment that is not closed: the one in which it began, or another. -/
theorem skipFrom_unclosed {mode : Mode} {position start stop : Nat} {newline : Bool} {text : Text}
    (skips : skipFrom mode position newline text = .unclosed start stop) :
    (mode = .blockComment start ∧ ¬ ['*', '/'] <:+: text) ∨
      ∃ before rest, text = before ++ '/' :: '*' :: rest ∧ ¬ ['*', '/'] <:+: rest ∧
        start = position + Text.byteLength before := by
  have behind (front : Text) {left : Text} {here there start : Nat}
      (moved : there = here + Text.byteLength front)
      (found : ∃ before rest, left = before ++ '/' :: '*' :: rest ∧ ¬ ['*', '/'] <:+: rest ∧
        start = there + Text.byteLength before) :
      ∃ before rest, front ++ left = before ++ '/' :: '*' :: rest ∧ ¬ ['*', '/'] <:+: rest ∧
        start = here + Text.byteLength before := by
    obtain ⟨before, rest, rfl, inside, rfl⟩ := found
    refine ⟨front ++ before, rest, (List.append_assoc _ _ _).symm, inside, ?_⟩
    rw [Text.byteLength_append, moved, Nat.add_assoc]
  fun_induction skipFrom mode position newline text with
  | case1 | case6 | case7 => cases skips
  | case2 position newline rest ih =>
      rcases ih skips with ⟨same, _⟩ | found
      · cases same
      · exact .inr (behind ['/', '/'] rfl found)
  | case3 position newline rest ih =>
      rcases ih skips with ⟨same, inside⟩ | found
      · cases same
        exact .inr ⟨[], rest, rfl, inside, rfl⟩
      · exact .inr (behind ['/', '*'] rfl found)
  | case4 _ _ c _ _ _ _ ih | case5 _ _ c _ _ _ _ _ ih | case8 _ _ c _ _ ih | case9 _ _ c _ _ ih =>
      rcases ih skips with ⟨same, _⟩ | found
      · cases same
      · exact .inr (behind [c] rfl found)
  | case10 start position newline =>
      cases skips
      exact .inl ⟨rfl, by simp⟩
  | case11 start position newline rest ih =>
      rcases ih skips with ⟨same, _⟩ | found
      · cases same
      · exact .inr (behind ['*', '/'] rfl found)
  | case12 start position newline c rest goes ih =>
      rcases ih skips with ⟨same, inside⟩ | found
      · refine .inl ⟨same, fun found => ?_⟩
        rcases List.infix_cons_iff.1 found with ⟨tail, begins⟩ | found
        · obtain ⟨rfl, more⟩ := List.cons.inj begins
          exact goes tail rfl more.symm
        · exact inside found
      · exact .inr (behind [c] rfl found)

end Trivia

/-! ## Faults -/

namespace Lexer

/-- Characters that a token can begin with. -/
def beginsToken (c : Char) : Bool :=
  isIdentifierStart c || isDecimalDigit c || c = '"' || c = '\'' || c = '\x60' ||
    Punctuator.all.any fun mark => mark.spelling.toList.head? = some c

/-- The first character of a punctuator is a punctuator by itself. -/
theorem single_spelling : ∀ mark ∈ Punctuator.all, ∃ short ∈ Punctuator.all,
    short.spelling.toList = mark.spelling.toList.take 1 := by
  decide +kernel

/-- Where no punctuator is read, none begins with the first character. -/
theorem beginsPunctuator_of_longest? {c : Char} {rest : Text}
    (none : Punctuator.longest? (c :: rest) = none) :
    (Punctuator.all.any fun mark => mark.spelling.toList.head? = some c) = false := by
  rw [Punctuator.longest?_eq, List.find?_eq_none] at none
  rw [List.any_eq_false]
  intro mark listed begins
  obtain ⟨short, listed', spelled⟩ := single_spelling mark listed
  have head : mark.spelling.toList.take 1 = [c] := by
    rw [List.take_one, of_decide_eq_true begins]
    rfl
  rw [head] at spelled
  refine none short listed' ?_
  have other : short ≠ .optionalChain := by
    rintro rfl
    cases spelled
  simp [Punctuator.begins, spelled, other]

/-- A token begins with a character that tokens can begin with. -/
theorem beginsToken_of_reads {lexer after : Lexer} {c : Char} {rest : Text} {kind : TokenKind}
    (next : lexer.rest = c :: rest) (reads : lexer.readKind c rest = (.ok kind, after)) :
    beginsToken c = true := by
  have moves := (readKind_written next reads).rest
  rw [next] at moves
  have punctuator {mark : Punctuator} (begins : mark.spelling.toList.head? = some c) :
      beginsToken c = true := by
    have listed := Punctuator.all_complete mark
    rw [beginsToken, List.any_eq_true.2 ⟨mark, listed, decide_eq_true begins⟩, Bool.or_true]
  rcases readKind_cases reads with ⟨word, _⟩ | ⟨_, digit, _⟩ | ⟨quotes, _⟩ | ⟨rfl, _⟩ |
    ⟨part, raw, rfl⟩ | ⟨mark, rfl⟩
  · simp [beginsToken, word]
  · rw [Bool.or_eq_true, Bool.and_eq_true, decide_eq_true_eq] at digit
    rcases digit with digit | ⟨rfl, _⟩
    · simp [beginsToken, digit]
    · exact @punctuator .dot rfl
  · rcases quotes with rfl | rfl <;> rfl
  · exact @punctuator .slash rfl
  · cases part <;> cases (List.cons.inj moves).1
    · rfl
    · exact @punctuator .rightBrace rfl
    · exact @punctuator .rightBrace rfl
    · rfl
  · obtain ⟨first, more, spelled, _⟩ := spelling_cons mark
    have same : c :: rest = mark.spelling.toList ++ after.rest := moves
    rw [spelled] at same
    cases (List.cons.inj same).1
    exact @punctuator mark (by rw [spelled]; rfl)

end Lexer

/-! ## Substitutions -/

/-- Behind a chunk of template text that ends in an opening brace, a substitution begins. -/
inductive TokenKind.Opens : TokenKind → Prop
  | head (raw : String) : Opens (.template .head raw)
  | middle (raw : String) : Opens (.template .middle raw)

/-- A substitution of a template begins in a source before an offset. -/
def Text.SubstitutesBefore (source : Text) (offset : Nat) : Prop :=
  ∃ token : Token, token.Written source ∧ token.kind.Opens ∧ token.stop ≤ offset

theorem Text.SubstitutesBefore.mono {source : Text} {offset offset' : Nat}
    (substitutes : source.SubstitutesBefore offset) (le : offset ≤ offset') :
    source.SubstitutesBefore offset' := by
  obtain ⟨token, written, opens, stop⟩ := substitutes
  exact ⟨token, written, opens, Nat.le_trans stop le⟩

namespace Lexer

variable {lexer after : Lexer} {first : Char} {rest : Text} {kind : TokenKind} {token : Token}

/-- The substitutions that a lexer is in begin before an offset. -/
def Inside (lexer : Lexer) (offset : Nat) : Prop :=
  lexer.templates ≠ [] → lexer.source.SubstitutesBefore offset

theorem Inside.mono {offset offset' : Nat} (inside : lexer.Inside offset) (le : offset ≤ offset') :
    lexer.Inside offset' :=
  fun nonempty => (inside nonempty).mono le

/-- Behind a token, a lexer is in substitutions only if it was before or the token begins one. -/
theorem readKind_templates (reads : lexer.readKind first rest = (.ok kind, after))
    (inside : after.templates ≠ []) : lexer.templates ≠ [] ∨ kind.Opens := by
  have template (isFirst : Bool) {lexer : Lexer}
      (reads : lexer.readTemplate isFirst first rest = (.ok kind, after)) :
      lexer.templates ≠ [] ∨ kind.Opens := by
    unfold readTemplate at reads
    dsimp only at reads
    split at reads
    · cases reads
    · cases reads
      exact .inl inside
    · cases reads
      cases isFirst with
      | true => exact .inr (.head _)
      | false => exact .inr (.middle _)
  have punctuator (reads : lexer.readPunctuator first rest = (.ok kind, after)) :
      lexer.templates ≠ [] := by
    intro none
    unfold readPunctuator at reads
    split at reads
    · cases reads
      exact inside (congrArg (countBrace _) none)
    · cases reads
  unfold readKind at reads
  split at reads
  · cases reads
    exact .inl inside
  split at reads
  · cases reads
    exact .inl inside
  split at reads
  · unfold readString at reads
    dsimp only at reads
    split at reads <;> cases reads
    exact .inl inside
  split at reads
  · exact template true reads
  split at reads
  · rcases template false reads with more | opens
    · exact .inl fun none => more (congrArg List.tail none)
    · exact .inr opens
  split at reads
  · split at reads
    · rename_i regex
      cases reads
      unfold readRegex at regex
      dsimp only at regex
      split at regex <;> cases regex
      exact .inl inside
    · exact .inl (punctuator reads)
  · exact .inl (punctuator reads)

/-- A regular expression begins and ends in the same substitutions. -/
theorem rescanRegex_templates {regex : Token}
    (outcome : lexer.rescanRegex token = (.ok regex, after)) :
    after.templates = lexer.templates := by
  unfold rescanRegex readRegex at outcome
  dsimp only at outcome
  split at outcome
  · cases outcome
  · rename_i reads
    split at reads <;> cases reads
    cases outcome
    rfl

theorem nextWith_templates {endsOperand : TokenKind → Bool}
    (outcome : lexer.nextWith endsOperand = (.ok token, after)) (inside : after.templates ≠ []) :
    lexer.templates ≠ [] ∨ token.kind.Opens := by
  unfold nextWith at outcome
  split at outcome
  · cases outcome
  · rename_i position rest newline skips
    cases rest with
    | nil =>
        cases outcome
        exact .inl inside
    | cons first rest =>
        dsimp only at outcome
        split at outcome
        · cases outcome
        · rename_i reads
          cases outcome
          have found := readKind_templates reads inside
          exact found

/-- The substitutions around what comes behind a token begin before its end, and before the token
where it is a slash. -/
theorem Placed.nextWith_inside {endsOperand : TokenKind → Bool} (placed : lexer.Placed)
    (inside : lexer.Inside lexer.position)
    (outcome : lexer.nextWith endsOperand = (.ok token, after)) :
    after.Inside token.stop ∧ (token.kind.isSlash = true → after.Inside token.start) := by
  obtain ⟨written, _, order⟩ := placed.reads_written outcome
  obtain ⟨_, _, moves, _⟩ := nextWith_passes outcome
  have forward : token.start ≤ token.stop := written.stop ▸ Nat.le_add_right _ _
  unfold Inside
  rw [moves.source]
  refine ⟨fun nonempty => ?_, fun slash nonempty => ?_⟩
  · rcases nextWith_templates outcome nonempty with before | opens
    · exact (inside before).mono (Nat.le_trans order forward)
    · exact ⟨token, written, opens, Nat.le_refl _⟩
  · rcases nextWith_templates outcome nonempty with before | opens
    · exact (inside before).mono order
    · generalize token.kind = kind at slash opens
      cases opens <;> cases slash

end Lexer

/-! ## Errors -/

/-- A lexical error points at something in a source: at a character that begins no token, or at the
delimiter that opens a comment, a string, a chunk of template text or a regular expression which is
not closed. The first chunk of a template is opened by a backquote, and every other one by the brace
that closes a substitution. -/
inductive LexError.At (source : Text) : LexError → Prop
  | unexpectedCharacter {before rest : Text} {c : Char} (whole : source = before ++ c :: rest)
      (begins : ∀ (lexer after : Lexer) (rest : Text) (kind : TokenKind), lexer.rest = c :: rest →
        lexer.readKind c rest ≠ (.ok kind, after)) :
      At source (.unexpectedCharacter c before.byteLength)
  | comment {before rest : Text} (whole : source = before ++ '/' :: '*' :: rest)
      (unclosed : ¬ ['*', '/'] <:+: rest) : At source (.unterminated .comment before.byteLength)
  | string {before rest : Text} {quote : Char} (quotes : quote = '"' ∨ quote = '\'')
      (whole : source = before ++ quote :: rest)
      (unclosed : ∀ body left, Literal.StringBody body → rest ≠ body ++ quote :: left) :
      At source (.unterminated .string before.byteLength)
  | template {before rest : Text} (whole : source = before ++ '\x60' :: rest)
      (unclosed : Literal.ChunkUnclosed rest) :
      At source (.unterminated .template before.byteLength)
  | chunk {before rest : Text} (whole : source = before ++ '\x7d' :: rest)
      (substitutes : source.SubstitutesBefore before.byteLength)
      (unclosed : Literal.ChunkUnclosed rest) :
      At source (.unterminated .template before.byteLength)
  | regularExpression {before rest : Text} (whole : source = before ++ '/' :: rest)
      (unclosed : ∀ body left, Literal.RegexBody false body → rest ≠ body ++ '/' :: left) :
      At source (.unterminated .regularExpression before.byteLength)

namespace Lexer

variable {lexer after : Lexer} {first : Char} {rest : Text} {error : LexError}

theorem Placed.source_eq (placed : lexer.Placed) {rest : Text} (next : lexer.rest = rest) :
    ∃ before, lexer.source = before ++ rest ∧ lexer.position = Text.byteLength before := by
  obtain ⟨before, passed⟩ := placed
  have whole : lexer.source = before ++ lexer.rest := passed.rest
  exact ⟨before, next ▸ whole, passed.position.trans (Nat.zero_add _)⟩

theorem Placed.readString_fault (placed : lexer.Placed) (next : lexer.rest = first :: rest)
    (quotes : first = '"' ∨ first = '\'')
    (reads : lexer.readString first rest = (.error error, after)) : error.At lexer.source := by
  obtain ⟨before, whole, position⟩ := placed.source_eq next
  unfold readString at reads
  dsimp only [Scan.prepend] at reads
  split at reads
  · cases reads
  · rename_i unclosed
    cases reads
    rw [position]
    refine .string quotes whole fun body left valid same => unclosed ?_
    rw [same]
    exact (Literal.scanString_closed quotes valid left).1

theorem readTemplate_fault {isFirst : Bool}
    (reads : lexer.readTemplate isFirst first rest = (.error error, after)) :
    error = .unterminated .template lexer.position ∧ Literal.ChunkUnclosed rest := by
  unfold readTemplate at reads
  dsimp only at reads
  split at reads
  · rename_i unclosed
    cases reads
    refine ⟨rfl, fun body left valid => ⟨fun same => ?_, fun same => ?_⟩⟩
    · rw [same] at unclosed
      exact (Literal.scanChunk_closed valid
        (show Literal.ChunkEnd.backquote ≠ .missing by nofun) left).1 unclosed
    · rw [same] at unclosed
      exact (Literal.scanChunk_closed valid
        (show Literal.ChunkEnd.substitution ≠ .missing by nofun) left).1 unclosed
  · cases reads
  · cases reads

theorem Placed.readRegex_fault (placed : lexer.Placed) (next : lexer.rest = '/' :: rest)
    (reads : lexer.readRegex rest = (.error error, after)) : error.At lexer.source := by
  obtain ⟨before, whole, position⟩ := placed.source_eq next
  cases closed : (Literal.scanRegex rest).closed with
  | true =>
      rw [readRegex_of_closed _ closed] at reads
      cases reads
  | false =>
      rw [readRegex_of_open _ closed] at reads
      cases reads
      rw [position]
      refine .regularExpression whole fun body left valid same => ?_
      rw [same, Literal.scanRegex_closed valid left] at closed
      cases closed

/-- Reading a token fails at what the token would begin with. -/
theorem Placed.readKind_fault (placed : lexer.Placed) (inside : lexer.Inside lexer.position)
    (next : lexer.rest = first :: rest)
    (reads : lexer.readKind first rest = (.error error, after)) : error.At lexer.source := by
  have punctuator (word : isIdentifierStart first = false)
      (number : (isDecimalDigit first || (first = '.' && rest.head?.any isDecimalDigit)) = false)
      (string : (decide (first = '"') || decide (first = '\'')) = false) (template : first ≠ '\x60')
      (reads : lexer.readPunctuator first rest = (.error error, after)) :
      error.At lexer.source := by
    obtain ⟨before, whole, position⟩ := placed.source_eq next
    unfold readPunctuator at reads
    split at reads
    · cases reads
    · rename_i none
      cases reads
      rw [position]
      rw [Bool.or_eq_false_iff] at number string
      have never : beginsToken first = false := by
        simp only [beginsToken, word, number.1, string.1, string.2, template,
          beginsPunctuator_of_longest? none, decide_false, Bool.or_self]
      refine .unexpectedCharacter whole fun lexer after rest kind next reads => ?_
      rw [beginsToken_of_reads next reads] at never
      cases never
  unfold readKind at reads
  split at reads
  · cases reads
  rename_i word
  split at reads
  · cases reads
  rename_i number
  split at reads
  · rename_i quotes
    rw [Bool.or_eq_true, decide_eq_true_eq, decide_eq_true_eq] at quotes
    exact placed.readString_fault next quotes reads
  rename_i string
  split at reads
  · obtain rfl : first = '\x60' := ‹_›
    obtain ⟨before, whole, position⟩ := placed.source_eq next
    obtain ⟨rfl, unclosed⟩ := readTemplate_fault reads
    rw [position]
    exact .template whole unclosed
  rename_i template
  have last := punctuator (Bool.eq_false_iff.2 word) (Bool.eq_false_iff.2 number)
    (Bool.eq_false_iff.2 string) template
  split at reads
  · rename_i brace
    rw [Bool.and_eq_true, decide_eq_true_eq, decide_eq_true_eq] at brace
    obtain ⟨rfl, open'⟩ := brace
    have nonempty : lexer.templates ≠ [] := fun none => by
      rw [none] at open'
      cases open'
    obtain ⟨before, whole, position⟩ := placed.source_eq next
    obtain ⟨rfl, unclosed⟩ := readTemplate_fault reads
    change LexError.At lexer.source (.unterminated .template lexer.position)
    rw [position]
    exact .chunk whole (position ▸ inside nonempty) unclosed
  split at reads
  · split at reads
    · cases reads
    · exact last reads
  · exact last reads

/-- Every lexical error points at what it is about. -/
theorem Placed.nextWith_fault {endsOperand : TokenKind → Bool} (placed : lexer.Placed)
    (inside : lexer.Inside lexer.position)
    (outcome : lexer.nextWith endsOperand = (.error error, after)) : error.At lexer.source := by
  unfold nextWith at outcome
  split at outcome
  · rename_i start position skips
    cases outcome
    rcases Trivia.skipFrom_unclosed skips with ⟨same, _⟩ | ⟨before, rest, whole, unclosed, moved⟩
    · cases same
    · obtain ⟨front, whole', position'⟩ := placed.source_eq whole
      rw [moved, position', ← Text.byteLength_append]
      exact .comment (whole'.trans (List.append_assoc _ _ _).symm) unclosed
  · rename_i position rest newline skips
    obtain ⟨blanks, whole, moved⟩ := Trivia.skipFrom_skipped skips
    have before : lexer.Passes blanks { lexer with position, rest } := ⟨whole, moved, rfl⟩
    cases rest with
    | nil => cases outcome
    | cons first rest =>
        dsimp only at outcome
        split at outcome
        · rename_i reading
          cases outcome
          have later : lexer.Inside position := inside.mono (moved ▸ Nat.le_add_right _ _)
          exact (placed.passes before).readKind_fault later rfl reading
        · cases outcome

/-- A slash that does not begin a regular expression is pointed at. -/
theorem rescanRegex_fault {token : Token} (slash : SlashAt lexer.source token.start)
    (outcome : lexer.rescanRegex token = (.error error, after)) : error.At lexer.source := by
  obtain ⟨placed, next⟩ := seek_slash slash
  unfold rescanRegex at outcome
  dsimp only at outcome
  split at outcome
  · rename_i reads
    cases outcome
    exact placed.readRegex_fault next reads
  · cases outcome

end Lexer

end Ecmascript
