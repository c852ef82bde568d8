import Ecmascript.Proofs.Lexer.Scan

/-!
# Where lexers stand

A lexer moves forward over its source: what it read and what is left are what was left before. So
a lexer that began at the start of a text can be moved back to a token by its offset alone.
-/

set_option autoImplicit false

namespace Ecmascript

/-- The kinds of token that begin with a slash. -/
def TokenKind.isSlash : TokenKind → Bool
  | .punctuator .slash | .punctuator .slashAssign | .regex _ => true
  | _ => false

theorem TokenKind.isSlash_cases {kind : TokenKind} (slash : kind.isSlash = true) :
    kind = .punctuator .slash ∨ kind = .punctuator .slashAssign ∨ ∃ raw, kind = .regex raw := by
  cases kind with
  | regex raw => exact .inr (.inr ⟨raw, rfl⟩)
  | punctuator mark => cases mark <;> simp_all [isSlash]
  | _ => simp [isSlash] at slash

namespace Lexer

open Character

/-- A lexer came from another by reading some text in front of it. -/
structure Passes (lexer : Lexer) (lexeme : Text) (after : Lexer) : Prop where
  rest : lexer.rest = lexeme ++ after.rest
  position : after.position = lexer.position + lexeme.byteLength
  source : after.source = lexer.source

theorem Passes.refl (lexer : Lexer) : lexer.Passes [] lexer :=
  ⟨rfl, rfl, rfl⟩

theorem Passes.trans {lexer middle after : Lexer} {front back : Text}
    (first : lexer.Passes front middle) (second : middle.Passes back after) :
    lexer.Passes (front ++ back) after := by
  refine ⟨?_, ?_, second.source.trans first.source⟩
  · rw [first.rest, second.rest, List.append_assoc]
  · rw [second.position, first.position, Text.byteLength_append, Nat.add_assoc]

theorem passes_advance {lexer : Lexer} {lexeme rest : Text} (whole : lexer.rest = lexeme ++ rest) :
    lexer.Passes lexeme (lexer.advance lexeme rest) :=
  ⟨whole, rfl, rfl⟩

/-! ## Reading a lexeme -/

variable {lexer : Lexer} {first : Char} {rest : Text}

theorem isIdentifierPart_of_start (start : isIdentifierStart first = true) :
    isIdentifierPart first = true := by
  simp only [isIdentifierStart, isIdentifierPart, Unicode.isAlphanumeric, Bool.or_eq_true,
    Bool.and_eq_true] at start ⊢
  tauto

/-- A word that begins with an identifier character is not empty. -/
theorem scanWord_cons (part : isIdentifierPart first = true) :
    Literal.scanWord (first :: rest) =
      (first :: (Literal.scanWord rest).1, (Literal.scanWord rest).2) := by
  simp [Literal.scanWord, List.span_eq_takeWhile_dropWhile, part]

/-- A number holds the character it begins with. -/
theorem scanNumber_cons : ∃ digits, (Literal.scanNumber (first :: rest)).1 = first :: digits := by
  unfold Literal.scanNumber
  split
  · rename_i mark rest same
    cases same
    split
    · exact ⟨_, rfl⟩
    · exact ⟨_, rfl⟩
  · exact ⟨_, rfl⟩

theorem readString_passes (next : lexer.rest = first :: rest) :
    ∃ lexeme, lexeme ≠ [] ∧ lexer.Passes lexeme (lexer.readString first rest).2 := by
  refine ⟨first :: (Literal.scanString first rest).lexeme, nofun, ?_⟩
  have whole : lexer.rest =
      first :: (Literal.scanString first rest).lexeme ++ (Literal.scanString first rest).rest := by
    rw [next, List.cons_append, Literal.scanString_append]
  unfold readString
  dsimp only [Scan.prepend]
  split <;> exact passes_advance whole

theorem readTemplate_passes (isFirst : Bool) (next : lexer.rest = first :: rest) :
    ∃ lexeme, lexeme ≠ [] ∧ lexer.Passes lexeme (lexer.readTemplate isFirst first rest).2 := by
  let chunk := Literal.scanChunk rest
  refine ⟨first :: chunk.raw ++ chunk.stop.delimiter, nofun, ?_⟩
  have whole : lexer.rest = first :: chunk.raw ++ chunk.stop.delimiter ++ chunk.rest := by
    rw [next, List.append_assoc, List.cons_append, Literal.scanChunk_append]
  have moves := passes_advance whole
  unfold readTemplate
  dsimp only
  split
  · exact moves
  · exact moves
  · exact ⟨moves.rest, moves.position, moves.source⟩

theorem readRegex_passes (next : lexer.rest = '/' :: rest) :
    ∃ lexeme, lexeme ≠ [] ∧ lexer.Passes lexeme (lexer.readRegex rest).2 := by
  refine ⟨'/' :: (Literal.scanRegex rest).lexeme, nofun, ?_⟩
  have whole : lexer.rest =
      '/' :: (Literal.scanRegex rest).lexeme ++ (Literal.scanRegex rest).rest := by
    rw [next, List.cons_append, Literal.scanRegex_append]
  unfold readRegex
  dsimp only [Scan.prepend]
  split <;> exact passes_advance whole

theorem readPunctuator_passes (next : lexer.rest = first :: rest) :
    ∃ lexeme, lexeme ≠ [] ∧ lexer.Passes lexeme (lexer.readPunctuator first rest).2 := by
  unfold readPunctuator
  split
  · rename_i mark found
    obtain ⟨left, whole⟩ := Punctuator.spelling_prefix_of_longest found
    have moves : lexer.Passes mark.spelling.toList (lexer.advance mark.spelling.toList
        ((first :: rest).drop mark.spelling.toList.length)) := by
      refine passes_advance ?_
      rw [next, ← whole, List.drop_left]
    refine ⟨mark.spelling.toList, ?_, moves.rest, moves.position, moves.source⟩
    cases mark <;> decide
  · exact ⟨[first], nofun, passes_advance next⟩

/-- Reading a token reads at least one character. -/
theorem readKind_passes (next : lexer.rest = first :: rest) :
    ∃ lexeme, lexeme ≠ [] ∧ lexer.Passes lexeme (lexer.readKind first rest).2 := by
  unfold readKind
  split
  · rename_i start
    have whole := Literal.scanWord_append (first :: rest)
    rw [scanWord_cons (isIdentifierPart_of_start start)] at whole ⊢
    exact ⟨first :: (Literal.scanWord rest).1, nofun, passes_advance (next.trans whole.symm)⟩
  split
  · obtain ⟨digits, nonempty⟩ := @scanNumber_cons first rest
    have whole := Literal.scanNumber_append (first :: rest)
    exact ⟨_, by rw [nonempty]; nofun, passes_advance (next.trans whole.symm)⟩
  split
  · exact readString_passes next
  split
  · exact readTemplate_passes true next
  split
  · let inner : Lexer := { lexer with templates := lexer.templates.tail }
    obtain ⟨lexeme, nonempty, moves⟩ := @readTemplate_passes inner first rest false next
    exact ⟨lexeme, nonempty, moves.rest, moves.position, moves.source⟩
  split
  · rename_i slash
    simp only [Bool.and_eq_true, decide_eq_true_eq] at slash
    obtain ⟨rfl, _⟩ := slash
    have moves := readRegex_passes next
    generalize lexer.readRegex rest = reading at moves ⊢
    obtain ⟨outcome, after⟩ := reading
    cases outcome with
    | ok kind => exact moves
    | error _ => exact readPunctuator_passes next
  · exact readPunctuator_passes next

/-- A lexeme is not the end of input, and what begins with a slash is spelled with one. -/
theorem readKind_kind {kind : TokenKind} {after : Lexer}
    (reading : lexer.readKind first rest = (.ok kind, after)) :
    kind ≠ .endOfInput ∧ (kind.isSlash = true → first = '/') := by
  have string (outcome : lexer.readString first rest = (.ok kind, after)) :
      kind ≠ .endOfInput ∧ (kind.isSlash = true → first = '/') := by
    unfold readString at outcome
    dsimp only at outcome
    split at outcome <;> cases outcome
    exact ⟨nofun, nofun⟩
  have template (lexer : Lexer) (isFirst : Bool)
      (outcome : lexer.readTemplate isFirst first rest = (.ok kind, after)) :
      kind ≠ .endOfInput ∧ (kind.isSlash = true → first = '/') := by
    unfold readTemplate at outcome
    dsimp only at outcome
    split at outcome <;> cases outcome <;> exact ⟨nofun, nofun⟩
  have mark (outcome : lexer.readPunctuator first rest = (.ok kind, after)) :
      kind ≠ .endOfInput ∧ (kind.isSlash = true → first = '/') := by
    unfold readPunctuator at outcome
    split at outcome <;> cases outcome
    rename_i mark found
    refine ⟨nofun, fun slash => ?_⟩
    obtain ⟨left, whole⟩ := Punctuator.spelling_prefix_of_longest found
    rcases TokenKind.isSlash_cases slash with same | same | ⟨raw, same⟩ <;> cases same
    · exact (List.cons.inj whole).1.symm
    · exact (List.cons.inj whole).1.symm
  unfold readKind at reading
  split at reading
  · cases reading
    unfold wordKind
    dsimp only
    split <;> exact ⟨nofun, nofun⟩
  split at reading
  · cases reading
    exact ⟨nofun, nofun⟩
  split at reading
  · exact string reading
  split at reading
  · exact template lexer true reading
  split at reading
  · exact template _ false reading
  split at reading
  · rename_i slash
    unfold readRegex at reading
    dsimp only at reading
    split at reading
    · rename_i outcome
      split at outcome <;> cases outcome
      cases reading
      simp only [Bool.and_eq_true, decide_eq_true_eq] at slash
      exact ⟨nofun, fun _ => slash.1⟩
    · exact mark reading
  · exact mark reading

/-! ## Reading tokens -/

/-- Behind blanks stands either a token of at least one character, or the end of input. -/
theorem nextWith_passes {endsOperand : TokenKind → Bool} {lexer after : Lexer} {token : Token}
    (outcome : lexer.nextWith endsOperand = (.ok token, after)) :
    ∃ blanks lexeme, lexer.Passes (blanks ++ lexeme) after ∧
      token.start = lexer.position + Text.byteLength blanks ∧ token.stop = after.position ∧
      ((lexeme ≠ [] ∧ token.kind ≠ .endOfInput) ∨
        (lexeme = [] ∧ token.kind = .endOfInput ∧ after.rest = [])) := by
  unfold nextWith at outcome
  split at outcome
  · cases outcome
  rename_i position rest newline skips
  obtain ⟨blanks, whole, moved⟩ := Trivia.skipFrom_skipped skips
  have before : lexer.Passes blanks { lexer with position, rest } := ⟨whole, moved, rfl⟩
  cases rest with
  | nil =>
      cases outcome
      exact ⟨blanks, [], by simpa using before, moved, rfl, .inr ⟨rfl, rfl, rfl⟩⟩
  | cons first rest =>
      dsimp only at outcome
      let here : Lexer := { lexer with position, rest := first :: rest }
      obtain ⟨lexeme, nonempty, moves⟩ := @readKind_passes here first rest rfl
      split at outcome
      · cases outcome
      · rename_i kind last reading
        cases outcome
        rw [reading] at moves
        exact ⟨blanks, lexeme, before.trans ⟨moves.rest, moves.position, moves.source⟩, moved, rfl,
          .inl ⟨nonempty, (readKind_kind reading).1⟩⟩

/-! ## Moving back -/

/-- A lexer stands in its source where its position says. -/
def Placed (lexer : Lexer) : Prop :=
  ∃ before, (ofText lexer.source).Passes before lexer

theorem placed_ofText (source : Text) : (ofText source).Placed :=
  ⟨[], .refl _⟩

theorem Placed.passes {lexer after : Lexer} {lexeme : Text} (placed : lexer.Placed)
    (moves : lexer.Passes lexeme after) : after.Placed := by
  obtain ⟨before, passed⟩ := placed
  refine ⟨before ++ lexeme, ?_⟩
  rw [moves.source]
  exact passed.trans moves

/-- The source behind the position of a lexer is what is left. -/
theorem Placed.dropBytes {lexer : Lexer} (placed : lexer.Placed) :
    lexer.source.dropBytes lexer.position = lexer.rest := by
  obtain ⟨before, passed⟩ := placed
  have whole : lexer.source = before ++ lexer.rest := passed.rest
  have moved : lexer.position = before.byteLength := passed.position.trans (Nat.zero_add _)
  rw [moved, whole, Text.dropBytes_byteLength_append]

/-- What follows a part of what is left begins behind its bytes. -/
theorem Placed.dropBytes_append {lexer : Lexer} {front back : Text} (placed : lexer.Placed)
    (whole : lexer.rest = front ++ back) :
    lexer.source.dropBytes (lexer.position + Text.byteLength front) = back :=
  (placed.passes (passes_advance whole)).dropBytes

/-- A slash that begins no comment stands at an offset of a text. -/
def SlashAt (source : Text) (offset : Nat) : Prop :=
  ∃ before rest, source = before ++ '/' :: rest ∧ offset = Text.byteLength before ∧
    rest.head? ≠ some '/' ∧ rest.head? ≠ some '*'

/-- A token that begins with a slash stands where the source has one. -/
theorem Placed.slashAt {endsOperand : TokenKind → Bool} {lexer after : Lexer} {token : Token}
    (placed : lexer.Placed) (outcome : lexer.nextWith endsOperand = (.ok token, after))
    (slash : token.kind.isSlash = true) : SlashAt lexer.source token.start := by
  unfold Lexer.nextWith at outcome
  split at outcome
  · cases outcome
  rename_i position rest newline skips
  obtain ⟨blanks, whole, moved⟩ := Trivia.skipFrom_skipped skips
  have blank : lexer.Passes blanks { lexer with position, rest } := ⟨whole, moved, rfl⟩
  obtain ⟨before, passed⟩ := placed.passes blank
  cases rest with
  | nil =>
      cases outcome
      cases slash
  | cons first rest =>
      dsimp only at outcome
      split at outcome
      · cases outcome
      · rename_i kind last reading
        cases outcome
        cases (readKind_kind reading).2 slash
        exact ⟨before, rest, passed.rest, passed.position.trans (Nat.zero_add _),
          Trivia.slash_of_skipFrom skips⟩

/-- The lexer behind a token stands in the source, and so does a slash that was read. -/
theorem Placed.reads {endsOperand : TokenKind → Bool} {lexer after : Lexer} {token : Token}
    (placed : lexer.Placed) (outcome : lexer.nextWith endsOperand = (.ok token, after)) :
    after.Placed ∧ (token.kind.isSlash = true → SlashAt after.source token.start) := by
  obtain ⟨_, _, moves, _⟩ := nextWith_passes outcome
  refine ⟨placed.passes moves, fun slash => ?_⟩
  rw [moves.source]
  exact placed.slashAt outcome slash

end Lexer

end Ecmascript
