import Ecmascript.Proofs.Lexer.Lexeme

/-!
# Where tokens are written

A token that the lexer reads stands in the source: its text, with the delimiters of a template, is
what the source has between its two offsets.
-/

set_option autoImplicit false

namespace Ecmascript

open Character

namespace Text

/-- An offset between two characters of a text, or at one of its ends. -/
def IsBoundary (text : Text) (offset : Nat) : Prop :=
  ∃ before after, text = before ++ after ∧ offset = before.byteLength

theorem byteLength_pos {text : Text} (nonempty : text ≠ []) : 0 < text.byteLength := by
  cases text with
  | nil => exact absurd rfl nonempty
  | cons c rest =>
      have := c.utf8Size_pos
      simp only [byteLength]
      omega

theorem IsBoundary.le {text : Text} {offset : Nat} (boundary : text.IsBoundary offset) :
    offset ≤ text.byteLength := by
  obtain ⟨before, after, rfl, rfl⟩ := boundary
  rw [byteLength_append]
  exact Nat.le_add_right _ _

/-- What is left of a text is an end of it. -/
theorem dropBytes_suffix (offset : Nat) (text : Text) : dropBytes offset text <:+ text := by
  induction text generalizing offset with
  | nil => cases offset <;> exact List.suffix_rfl
  | cons first rest ih =>
      cases offset with
      | zero => exact List.suffix_rfl
      | succ offset => exact (ih _).trans (List.suffix_cons first rest)

/-- Both ends of a part of a text are boundaries. -/
theorem isBoundary_append {text before middle after : Text}
    (whole : text = before ++ (middle ++ after)) :
    text.IsBoundary before.byteLength ∧
      text.IsBoundary (before.byteLength + middle.byteLength) := by
  constructor
  · exact ⟨before, middle ++ after, whole, rfl⟩
  · refine ⟨before ++ middle, after, ?_, (byteLength_append _ _).symm⟩
    rw [whole, List.append_assoc]

end Text

/-! ## Lexemes -/

/-- What a chunk of template text begins with: the backquote, or the end of a substitution. -/
def TemplatePart.opening : TemplatePart → Text
  | .head | .whole => ['\x60']
  | .middle | .tail => ['\x7d']

/-- What a chunk of template text ends with: the backquote, or the beginning of a substitution. -/
def TemplatePart.closing : TemplatePart → Text
  | .whole | .tail => ['\x60']
  | .head | .middle => ['$', '\x7b']

/-- The source text of a token. -/
def TokenKind.lexeme : TokenKind → Text
  | .template part raw => part.opening ++ (raw.toList ++ part.closing)
  | kind => kind.text

/-- A regular expression stands at an offset of a source: it is what is read from its slash on, up
to the end of its flags. -/
structure Text.RegexAt (source : Text) (offset : Nat) (raw : String) : Prop where
  slash : Lexer.SlashAt source offset
  closed : (Literal.scanRegex (source.dropBytes (offset + 1))).closed = true
  lexeme : raw.toList = '/' :: (Literal.scanRegex (source.dropBytes (offset + 1))).lexeme

/-- A token is written in a source between its two offsets, and one of a regular expression where
there is one. -/
structure Token.Written (source : Text) (token : Token) : Prop where
  place : ∃ before after, source = before ++ (token.kind.lexeme ++ after) ∧
    token.start = before.byteLength
  stop : token.stop = token.start + token.kind.lexeme.byteLength
  regex : ∀ raw, token.kind = .regex raw → source.RegexAt token.start raw

/-- Both ends of a token are boundaries of the source. -/
theorem Token.Written.boundaries {source : Text} {token : Token} (written : token.Written source) :
    source.IsBoundary token.start ∧ source.IsBoundary token.stop := by
  obtain ⟨before, after, whole, start⟩ := written.place
  rw [written.stop, start]
  exact Text.isBoundary_append whole

/-- The raw text of a chunk lies between two boundaries inside its token. -/
theorem Token.Written.chunk {source : Text} {token : Token} (written : token.Written source)
    {part : TemplatePart} {raw : String} (kind : token.kind = .template part raw) :
    source.IsBoundary (token.start + 1) ∧
      source.IsBoundary (token.stop - part.closing.byteLength) ∧
      token.start + 1 ≤ token.stop - part.closing.byteLength := by
  obtain ⟨before, after, whole, start⟩ := written.place
  have stop := written.stop
  rw [kind] at whole stop
  simp only [TokenKind.lexeme, Text.byteLength_append] at stop
  have opening : Text.byteLength part.opening = 1 := by cases part <;> rfl
  have inner : source = (before ++ part.opening) ++ (raw.toList ++ (part.closing ++ after)) := by
    rw [whole]
    simp only [TokenKind.lexeme, List.append_assoc]
  have boundaries := Text.isBoundary_append inner
  rw [Text.byteLength_append, opening, ← start] at boundaries
  have last : token.stop - part.closing.byteLength =
      token.start + 1 + Text.byteLength raw.toList := by omega
  rw [last]
  exact ⟨boundaries.1, boundaries.2, Nat.le_add_right _ _⟩

namespace Lexer

variable {lexer after : Lexer} {first : Char} {rest : Text} {kind : TokenKind}

/-! ## Reading a lexeme -/

theorem lexeme_wordKind (word : Text) : (wordKind word).lexeme = word := by
  rcases wordKind_cases word with ⟨keyword, same, spelled⟩ | same
  · rw [same]
    change keyword.spelling.toList = word
    rw [spelled, String.toList_ofList]
  · rw [same]
    exact String.toList_ofList

theorem readString_written (next : lexer.rest = first :: rest)
    (reads : lexer.readString first rest = (.ok kind, after)) :
    lexer.Passes kind.lexeme after := by
  have whole : lexer.rest =
      first :: (Literal.scanString first rest).lexeme ++ (Literal.scanString first rest).rest := by
    rw [next, List.cons_append, Literal.scanString_append]
  unfold readString at reads
  dsimp only [Scan.prepend] at reads
  split at reads
  · cases reads
    simpa [TokenKind.lexeme, TokenKind.text] using passes_advance whole
  · cases reads

theorem readRegex_written (next : lexer.rest = '/' :: rest)
    (reads : lexer.readRegex rest = (.ok kind, after)) : lexer.Passes kind.lexeme after := by
  have whole : lexer.rest =
      '/' :: (Literal.scanRegex rest).lexeme ++ (Literal.scanRegex rest).rest := by
    rw [next, List.cons_append, Literal.scanRegex_append]
  cases closed : (Literal.scanRegex rest).closed with
  | false =>
      rw [readRegex_of_open _ closed] at reads
      cases reads
  | true =>
      rw [readRegex_of_closed _ closed] at reads
      cases reads
      simpa [TokenKind.lexeme, TokenKind.text] using passes_advance whole

theorem readPunctuator_written (next : lexer.rest = first :: rest)
    (reads : lexer.readPunctuator first rest = (.ok kind, after)) :
    lexer.Passes kind.lexeme after := by
  unfold readPunctuator at reads
  split at reads
  · rename_i mark found
    cases reads
    obtain ⟨left, whole⟩ := Punctuator.spelling_prefix_of_longest found
    have moves : lexer.Passes mark.spelling.toList (lexer.advance mark.spelling.toList
        ((first :: rest).drop mark.spelling.toList.length)) := by
      apply passes_advance
      rw [next, ← whole, List.drop_left]
    exact ⟨moves.rest, moves.position, moves.source⟩
  · cases reads

/-- A chunk is written between the delimiter that it was entered by and the one it ends with. -/
theorem readTemplate_written {isFirst : Bool} (next : lexer.rest = first :: rest)
    (opening : [first] = (templatePart isFirst true).opening)
    (reads : lexer.readTemplate isFirst first rest = (.ok kind, after)) :
    lexer.Passes kind.lexeme after := by
  have whole : lexer.rest = first :: (Literal.scanChunk rest).raw ++
      (Literal.scanChunk rest).stop.delimiter ++ (Literal.scanChunk rest).rest := by
    rw [next, List.append_assoc, List.cons_append, Literal.scanChunk_append]
  have same : (templatePart isFirst false).opening = (templatePart isFirst true).opening := by
    cases isFirst <;> rfl
  have moves := passes_advance whole
  unfold readTemplate at reads
  dsimp only at reads
  split at reads
  · cases reads
  · rename_i stop
    cases reads
    have lexeme : (TokenKind.template (templatePart isFirst true)
        (String.ofList (Literal.scanChunk rest).raw)).lexeme =
        first :: (Literal.scanChunk rest).raw ++ (Literal.scanChunk rest).stop.delimiter := by
      rw [stop]
      simp only [TokenKind.lexeme, ← opening]
      cases isFirst <;> simp [templatePart, TemplatePart.closing, Literal.ChunkEnd.delimiter]
    rw [lexeme]
    exact moves
  · rename_i stop
    cases reads
    have lexeme : (TokenKind.template (templatePart isFirst false)
        (String.ofList (Literal.scanChunk rest).raw)).lexeme =
        first :: (Literal.scanChunk rest).raw ++ (Literal.scanChunk rest).stop.delimiter := by
      rw [stop]
      simp only [TokenKind.lexeme, same, ← opening]
      cases isFirst <;> simp [templatePart, TemplatePart.closing, Literal.ChunkEnd.delimiter]
    rw [lexeme]
    exact ⟨moves.rest, moves.position, moves.source⟩

/-- What is read is the lexeme of the kind that it turned out to be. -/
theorem readKind_written (next : lexer.rest = first :: rest)
    (reads : lexer.readKind first rest = (.ok kind, after)) : lexer.Passes kind.lexeme after := by
  unfold readKind at reads
  split at reads
  · cases reads
    rw [lexeme_wordKind]
    exact passes_advance (next.trans (Literal.scanWord_append _).symm)
  split at reads
  · have whole := next.trans (Literal.scanNumber_append (first :: rest)).symm
    generalize Literal.scanNumber (first :: rest) = scan at reads whole
    cases reads
    simpa [TokenKind.lexeme, TokenKind.text] using passes_advance whole
  split at reads
  · exact readString_written next reads
  split at reads
  · rename_i quote
    exact readTemplate_written next (by rw [quote]; rfl) reads
  split at reads
  · rename_i brace
    simp only [Bool.and_eq_true, decide_eq_true_eq] at brace
    let inner : Lexer := { lexer with templates := lexer.templates.tail }
    have moves := readTemplate_written (show inner.rest = _ from next) (by rw [brace.1]; rfl) reads
    exact ⟨moves.rest, moves.position, moves.source⟩
  split at reads
  · rename_i slash
    simp only [Bool.and_eq_true, decide_eq_true_eq] at slash
    obtain ⟨rfl, _⟩ := slash
    split at reads
    · rename_i regex last outcome
      cases reads
      exact readRegex_written next outcome
    · exact readPunctuator_written next reads
  · exact readPunctuator_written next reads

/-! ## Reading tokens -/

variable {token : Token}

/-- What is read as a regular expression is one at its slash. -/
theorem Placed.regexAt {raw : String} (placed : lexer.Placed) (next : lexer.rest = first :: rest)
    (slash : SlashAt lexer.source lexer.position)
    (reads : lexer.readKind first rest = (.ok (.regex raw), after)) :
    lexer.source.RegexAt lexer.position raw := by
  have regex : first = '/' ∧ (Literal.scanRegex rest).closed = true ∧
      raw = String.ofList ('/' :: (Literal.scanRegex rest).lexeme) := by
    rcases readKind_cases reads with ⟨_, kind⟩ | ⟨_, _, kind⟩ | ⟨_, _, kind⟩ |
      ⟨slash, closed, kind⟩ | ⟨_, _, kind⟩ | ⟨_, kind⟩
    · rcases wordKind_cases (Literal.scanWord (first :: rest)).1 with ⟨_, named, _⟩ | named <;>
      cases kind.trans named
    · cases kind
    · cases kind
    · exact ⟨slash, closed, TokenKind.regex.inj kind⟩
    · cases kind
    · cases kind
  obtain ⟨rfl, closed, rfl⟩ := regex
  have behind := placed.dropBytes_slash next
  rw [← behind] at closed
  exact ⟨slash, closed, by rw [behind]; exact String.toList_ofList⟩

/-- What a lexer that stands in its source passes is written there. -/
theorem Placed.written (placed : lexer.Placed) (moves : lexer.Passes token.kind.lexeme after)
    (start : token.start = lexer.position) (stop : token.stop = after.position)
    (regex : ∀ raw, token.kind = .regex raw → lexer.source.RegexAt token.start raw) :
    token.Written lexer.source := by
  obtain ⟨before, passed⟩ := placed
  refine ⟨?_, ?_, regex⟩
  · have whole : lexer.source = before ++ lexer.rest := passed.rest
    have moved : lexer.position = before.byteLength := passed.position.trans (Nat.zero_add _)
    rw [moves.rest] at whole
    exact ⟨before, after.rest, whole, start.trans moved⟩
  · rw [stop, start, moves.position]

/-- A token that is read is written in the source, and the lexer stands behind it. -/
theorem Placed.reads_written {endsOperand : TokenKind → Bool} (placed : lexer.Placed)
    (outcome : lexer.nextWith endsOperand = (.ok token, after)) :
    token.Written lexer.source ∧ token.stop = after.position ∧
      lexer.position ≤ token.start := by
  have slash := placed.slashAt outcome
  unfold nextWith at outcome
  split at outcome
  · cases outcome
  rename_i position rest newline skips
  obtain ⟨blanks, whole, moved⟩ := Trivia.skipFrom_skipped skips
  have before : lexer.Passes blanks { lexer with position, rest } := ⟨whole, moved, rfl⟩
  have placed' := placed.passes before
  cases rest with
  | nil =>
      cases outcome
      have ends : Token.Written _ ⟨.endOfInput, position, position, true⟩ :=
        placed'.written (.refl _) rfl rfl nofun
      exact ⟨ends, rfl, by simp only [moved]; omega⟩
  | cons first rest =>
      dsimp only at outcome
      split at outcome
      · cases outcome
      · rename_i kind last reading
        cases outcome
        have moves := readKind_written rfl reading
        refine ⟨placed'.written moves rfl rfl fun raw regex => ?_, rfl, by simp only [moved]; omega⟩
        obtain rfl : kind = .regex raw := regex
        exact placed'.regexAt rfl (slash rfl) reading

/-- A token that is read is not empty, unless it is the end of input. -/
theorem start_lt_stop_of_reads {endsOperand : TokenKind → Bool}
    (outcome : lexer.nextWith endsOperand = (.ok token, after)) (goes_on : token.kind ≠ .endOfInput) :
    token.start < token.stop := by
  obtain ⟨blanks, lexeme, moves, start, stop, kind⟩ := nextWith_passes outcome
  rcases kind with ⟨nonempty, _⟩ | ⟨_, ends, _⟩
  · rw [start, stop, moves.position, Text.byteLength_append]
    have := Text.byteLength_pos nonempty
    omega
  · exact absurd ends goes_on

/-! ## Deciding about a slash -/

theorem rescanRegex_source {regex : Token} (outcome : lexer.rescanRegex token = (.ok regex, after)) :
    after.source = lexer.source := by
  unfold rescanRegex at outcome
  dsimp only at outcome
  split at outcome
  · cases outcome
  · rename_i kind last reads
    unfold readRegex at reads
    dsimp only at reads
    split at reads <;> cases reads
    cases outcome
    rfl

theorem rescanRegex_written {regex : Token} (slash : SlashAt lexer.source token.start)
    (outcome : lexer.rescanRegex token = (.ok regex, after)) :
    regex.Written lexer.source ∧ regex.stop = after.position := by
  obtain ⟨placed, next⟩ := seek_slash slash
  unfold rescanRegex at outcome
  dsimp only at outcome
  split at outcome
  · cases outcome
  · rename_i kind last reads
    cases outcome
    have moves := readRegex_written next reads
    refine ⟨placed.written moves rfl rfl fun raw regex => ?_, rfl⟩
    obtain rfl : kind = .regex raw := regex
    cases closed : (Literal.scanRegex (lexer.source.dropBytes (token.start + 1))).closed with
    | true =>
        rw [readRegex_of_closed _ closed] at reads
        cases reads
        exact ⟨slash, closed, String.toList_ofList⟩
    | false =>
        rw [readRegex_of_open _ closed] at reads
        cases reads

theorem rescanDivide_written (slash : SlashAt lexer.source token.start) :
    (lexer.rescanDivide token).1.Written lexer.source ∧
      (lexer.rescanDivide token).1.stop = (lexer.rescanDivide token).2.position := by
  obtain ⟨placed, next⟩ := seek_slash slash
  obtain ⟨left, whole⟩ := Punctuator.spelling_prefix_of_longest
    (Punctuator.longest?_slash (lexer.source.dropBytes (token.start + 1)))
  have size := byteLength_divide (lexer.source.dropBytes (token.start + 1)).head?
  unfold rescanDivide
  dsimp only
  generalize (if (lexer.source.dropBytes (token.start + 1)).head? = some '=' then
    Punctuator.slashAssign else .slash) = mark at whole size ⊢
  have moves := passes_advance (next.trans whole.symm)
  exact ⟨placed.written moves rfl (congrArg (token.start + ·) size.symm) nofun, rfl⟩

end Lexer

end Ecmascript
