import Ecmascript.Error.Basic
import Ecmascript.Proofs.Lexer.Lossless

/-!
# Lexers behind a text

A lexer reads the same tokens when its source stands behind another text: every offset is greater
by the bytes of that text, and nothing else changes. When the text in front holds nothing but
blanks and comments, the first token behind it is the first token of the source, except that it may
be found behind a line break.
-/

set_option autoImplicit false

namespace Ecmascript

/-! ## Moving offsets -/

/-- A token moved by a distance. -/
def Token.shift (distance : Nat) (token : Token) : Token :=
  { token with start := token.start + distance, stop := token.stop + distance }

/-- A lexical error moved by a distance. -/
def LexError.shift (distance : Nat) : LexError → LexError
  | unexpectedCharacter character position => unexpectedCharacter character (position + distance)
  | unterminated what start => unterminated what (start + distance)

/-- The second of two errors is the first one moved by a distance, up to their messages. -/
structure SyntaxError.Moves (distance : Nat) (error error' : SyntaxError) : Prop where
  kind : error'.kind = error.kind
  start : error'.start = error.start + distance
  stop : error'.stop = error.stop + distance

theorem SyntaxError.moves_lexical (distance : Nat) (error : LexError) :
    SyntaxError.Moves distance (.lexical error) (.lexical (error.shift distance)) := by
  cases error <;> exact ⟨rfl, rfl, rfl⟩

theorem Text.dropBytes_append (front text : Text) (offset : Nat) :
    dropBytes (offset + front.byteLength) (front ++ text) = dropBytes offset text := by
  induction front with
  | nil => rfl
  | cons first front ih =>
      have size := first.utf8Size_pos
      obtain ⟨more, total⟩ : ∃ more, offset + byteLength (first :: front) = more + 1 :=
        ⟨offset + byteLength front + first.utf8Size - 1, by simp only [byteLength]; omega⟩
      rw [total, List.cons_append, dropBytes, ← ih]
      congr 1
      simp only [byteLength] at total
      omega

namespace Trivia

/-- An outcome moved by a distance. -/
def Outcome.shift (distance : Nat) : Outcome → Outcome
  | skipped position rest newline => skipped (position + distance) rest newline
  | unclosed start position => unclosed (start + distance) (position + distance)

/-- A mode moved by a distance. -/
def Mode.shift (distance : Nat) : Mode → Mode
  | blockComment start => blockComment (start + distance)
  | mode => mode

theorem skipFrom_shift (mode : Mode) (position distance : Nat) (newline : Bool) (text : Text) :
    skipFrom (mode.shift distance) (position + distance) newline text =
      (skipFrom mode position newline text).shift distance := by
  induction mode, position, newline, text using skipFrom.induct with
  | _ => simp_all [skipFrom, Mode.shift, Outcome.shift, Nat.add_right_comm]

theorem skip_shift (position distance : Nat) (text : Text) :
    skip (position + distance) text = (skip position text).shift distance :=
  skipFrom_shift .blank position distance false text

end Trivia

namespace Lexer

/-- A lexer whose source stands behind another text. -/
def behind (front : Text) (lexer : Lexer) : Lexer :=
  { lexer with source := front ++ lexer.source, position := lexer.position + front.byteLength }

/-- A reading behind another text. -/
def Reading.behind (front : Text) : Reading → Reading
  | (.ok kind, after) => (.ok kind, after.behind front)
  | (.error error, after) => (.error (error.shift front.byteLength), after.behind front)

variable {front : Text} {lexer : Lexer}

theorem behind_advance (lexeme rest : Text) :
    (lexer.behind front).advance lexeme rest = (lexer.advance lexeme rest).behind front := by
  simp only [behind, advance, Nat.add_right_comm]

theorem behind_seek (position : Nat) :
    (lexer.behind front).seek (position + front.byteLength) =
      (lexer.seek position).behind front := by
  simp only [behind, seek, Text.dropBytes_append]

theorem readString_behind (quote : Char) (rest : Text) :
    (lexer.behind front).readString quote rest = (lexer.readString quote rest).behind front := by
  unfold readString
  simp only [behind_advance]
  split <;> rfl

theorem readTemplate_behind (isFirst : Bool) (delimiter : Char) (rest : Text) :
    (lexer.behind front).readTemplate isFirst delimiter rest =
      (lexer.readTemplate isFirst delimiter rest).behind front := by
  unfold readTemplate
  simp only [behind_advance]
  split <;> rfl

theorem readRegex_behind (rest : Text) :
    (lexer.behind front).readRegex rest = (lexer.readRegex rest).behind front := by
  unfold readRegex
  simp only [behind_advance]
  split <;> rfl

theorem readPunctuator_behind (first : Char) (rest : Text) :
    (lexer.behind front).readPunctuator first rest =
      (lexer.readPunctuator first rest).behind front := by
  unfold readPunctuator
  simp only [behind_advance]
  split <;> rfl

theorem readKind_behind (first : Char) (rest : Text) :
    (lexer.behind front).readKind first rest = (lexer.readKind first rest).behind front := by
  have inner : ({ lexer.behind front with templates := (lexer.behind front).templates.tail } : Lexer)
      = ({ lexer with templates := lexer.templates.tail } : Lexer).behind front := rfl
  have templates : (lexer.behind front).templates = lexer.templates := rfl
  have allowed : (lexer.behind front).regexAllowed = lexer.regexAllowed := rfl
  unfold readKind
  rw [inner, templates, allowed]
  simp only [behind_advance, readString_behind, readTemplate_behind, readRegex_behind,
    readPunctuator_behind]
  split
  · rfl
  split
  · rfl
  split
  · rfl
  split
  · rfl
  split
  · rfl
  split
  · cases lexer.readRegex rest with
    | mk outcome after => cases outcome <;> rfl
  · rfl

/-- What reading a token answers behind another text. -/
def answerBehind (front : Text) : Except LexError Token × Lexer → Except LexError Token × Lexer
  | (.ok token, after) => (.ok (token.shift front.byteLength), after.behind front)
  | (.error error, after) => (.error (error.shift front.byteLength), after.behind front)

theorem nextWith_behind (endsOperand : TokenKind → Bool) :
    (lexer.behind front).nextWith endsOperand =
      answerBehind front (lexer.nextWith endsOperand) := by
  unfold nextWith
  have skips : Trivia.skip (lexer.behind front).position (lexer.behind front).rest =
      (Trivia.skip lexer.position lexer.rest).shift front.byteLength :=
    Trivia.skip_shift lexer.position front.byteLength lexer.rest
  rw [skips]
  cases Trivia.skip lexer.position lexer.rest with
  | unclosed start position => rfl
  | skipped position rest newline =>
      cases rest with
      | nil => rfl
      | cons first rest =>
          have here : ({ lexer.behind front with
              position := position + front.byteLength, rest := first :: rest } : Lexer) =
              ({ lexer with position, rest := first :: rest } : Lexer).behind front := rfl
          simp only [Trivia.Outcome.shift]
          rw [here, readKind_behind]
          cases ({ lexer with position, rest := first :: rest } : Lexer).readKind first rest with
          | mk outcome after => cases outcome <;> rfl

/-- Whether a token that is read again stands behind a line break is taken over from the token. -/
theorem rescanRegex_newline {token regex : Token} {after : Lexer}
    (outcome : lexer.rescanRegex token = (.ok regex, after)) :
    regex.newlineBefore = token.newlineBefore := by
  unfold rescanRegex at outcome
  dsimp only at outcome
  split at outcome <;> cases outcome
  rfl

theorem rescanRegex_behind {token token' : Token}
    (start : token'.start = token.start + front.byteLength) :
    (lexer.behind front).rescanRegex token' =
      match lexer.rescanRegex token with
      | (.ok regex, after) =>
          (.ok { regex.shift front.byteLength with newlineBefore := token'.newlineBefore },
            after.behind front)
      | (.error error, after) => (.error (error.shift front.byteLength), after.behind front) := by
  have next : (lexer.behind front).source.dropBytes (token'.start + 1) =
      lexer.source.dropBytes (token.start + 1) := by
    rw [start, Nat.add_right_comm]
    exact Text.dropBytes_append front lexer.source (token.start + 1)
  unfold rescanRegex
  rw [next, start, behind_seek]
  simp only [readRegex_behind]
  cases (lexer.seek token.start).readRegex (lexer.source.dropBytes (token.start + 1)) with
  | mk outcome after =>
      cases outcome with
      | ok kind => rfl
      | error error => rfl

theorem rescanDivide_behind {token token' : Token}
    (start : token'.start = token.start + front.byteLength) :
    (lexer.behind front).rescanDivide token' =
      ({ (lexer.rescanDivide token).1.shift front.byteLength with
          newlineBefore := token'.newlineBefore },
        (lexer.rescanDivide token).2.behind front) := by
  have next : (lexer.behind front).source.dropBytes (token'.start + 1) =
      lexer.source.dropBytes (token.start + 1) := by
    rw [start, Nat.add_right_comm]
    exact Text.dropBytes_append front lexer.source (token.start + 1)
  unfold rescanDivide
  dsimp only
  rw [next]
  generalize (if (lexer.source.dropBytes (token.start + 1)).head? = some '=' then
    Punctuator.slashAssign else .slash) = mark
  rw [start, Nat.add_right_comm, behind_seek]
  rfl

end Lexer

/-! ## The beginning of a text -/

namespace Trivia

open Character

theorem skipFrom_blank {c : Char} (blank : isBlank c = true) (position : Nat) (newline : Bool)
    (rest : Text) : skipFrom .blank position newline (c :: rest) =
      skipFrom .blank (position + c.utf8Size) (newline || isLineTerminator c) rest := by
  have other : c ≠ '/' := by
    rintro rfl
    cases blank
  rw [skipFrom]
  · cases ends : isLineTerminator c <;> simp [blank]
  · exact fun _ slash => absurd slash other
  · exact fun _ slash => absurd slash other

theorem skipFrom_lineComment {body rest : Text} (inner : ∀ c ∈ body, isLineTerminator c = false)
    (ends : ∀ c ∈ rest.head?, isLineTerminator c = true) (nonempty : rest ≠ []) (position : Nat)
    (newline : Bool) : skipFrom .lineComment position newline (body ++ rest) =
      skipFrom .blank (position + Text.byteLength body) newline rest := by
  induction body generalizing position with
  | nil =>
      obtain ⟨c, rest, rfl⟩ := List.exists_cons_of_ne_nil nonempty
      have terminator : isLineTerminator c = true := ends c rfl
      have blank := skipFrom_blank (isBlank_of_isLineTerminator terminator) position newline rest
      have line : skipFrom .lineComment position newline (c :: rest) =
          skipFrom .blank (position + c.utf8Size) true rest := by
        rw [skipFrom, if_pos terminator]
      rw [List.nil_append, Text.byteLength, Nat.add_zero, line, blank, terminator, Bool.or_true]
  | cons c body ih =>
      obtain ⟨goes, inner⟩ := List.forall_mem_cons.1 inner
      rw [List.cons_append, skipFrom, if_neg (by rw [goes]; exact Bool.false_ne_true), ih inner, Text.byteLength,
        Nat.add_assoc]

theorem skipFrom_blockComment {body : Text} (inner : ¬ ['*', '/'] <:+: body) (start position : Nat)
    (newline : Bool) (rest : Text) : ∃ newline',
      skipFrom (.blockComment start) position newline (body ++ '*' :: '/' :: rest) =
        skipFrom .blank (position + Text.byteLength body + 2) newline' rest := by
  induction body generalizing position newline with
  | nil => exact ⟨newline, rfl⟩
  | cons c body ih =>
      have later : ¬ ['*', '/'] <:+: body := fun found => inner (List.infix_cons found)
      obtain ⟨newline', skips⟩ := ih later (position + c.utf8Size) (newline || isLineTerminator c)
      refine ⟨newline', ?_⟩
      rw [List.cons_append, skipFrom, skips, Text.byteLength, Nat.add_assoc position]
      rintro _ rfl same
      cases body with
      | nil => cases same
      | cons next body =>
          obtain ⟨rfl, _⟩ := List.cons.inj same
          exact inner (List.infix_append' [] ['*', '/'] body)

/-- Blanks and complete comments are skipped. What they leave behind is whether there was a line
break. -/
theorem skipFrom_separates {front : Text} (separates : Separates False front) (position : Nat)
    (newline : Bool) (text : Text) : ∃ newline',
      skipFrom .blank position newline (front ++ text) =
        skipFrom .blank (position + Text.byteLength front) newline' text := by
  induction separates generalizing position newline with
  | nil => exact ⟨newline, rfl⟩
  | @blank c rest blank _ ih =>
      obtain ⟨newline', skips⟩ := ih (position + c.utf8Size) (newline || isLineTerminator c)
      refine ⟨newline', ?_⟩
      rw [List.cons_append, skipFrom_blank blank, skips, Text.byteLength, Nat.add_assoc]
  | @lineComment body rest inner last ends _ ih =>
      have nonempty : rest ++ text ≠ [] := by
        intro empty
        exact last (List.append_eq_nil_iff.1 empty).1
      have ends' : ∀ c ∈ (rest ++ text).head?, isLineTerminator c = true := by
        cases rest with
        | nil => exact (last rfl).elim
        | cons c rest => exact ends
      obtain ⟨newline', skips⟩ := ih (position + 2 + Text.byteLength body) newline
      refine ⟨newline', ?_⟩
      have size : Text.byteLength ('/' :: '/' :: (body ++ rest)) =
          2 + Text.byteLength body + Text.byteLength rest := by
        have slash : '/'.utf8Size = 1 := rfl
        rw [Text.byteLength, Text.byteLength, Text.byteLength_append, slash]
        omega
      rw [List.cons_append, List.cons_append, List.append_assoc, skipFrom,
        skipFrom_lineComment inner ends' nonempty, skips, size]
      simp only [Nat.add_assoc]
  | @blockComment body rest inner _ ih =>
      obtain ⟨between, closes⟩ := skipFrom_blockComment inner position (position + 2) newline
        (rest ++ text)
      obtain ⟨newline', skips⟩ := ih (position + 2 + Text.byteLength body + 2) between
      refine ⟨newline', ?_⟩
      have size : Text.byteLength ('/' :: '*' :: (body ++ '*' :: '/' :: rest)) =
          2 + Text.byteLength body + 2 + Text.byteLength rest := by
        have slash : '/'.utf8Size = 1 := rfl
        have star : '*'.utf8Size = 1 := rfl
        rw [Text.byteLength, Text.byteLength, Text.byteLength_append, Text.byteLength,
          Text.byteLength, slash, star]
        omega
      rw [List.cons_append, List.cons_append, List.append_assoc, List.cons_append,
        List.cons_append, skipFrom, closes, skips, size]
      simp only [Nat.add_assoc]

/-- The outcome with another answer to whether there was a line break. -/
def Outcome.withNewline (newline : Bool) : Outcome → Outcome
  | skipped position rest _ => skipped position rest newline
  | unclosed start position => unclosed start position

/-- A line break before decides about nothing but the line break. -/
theorem skipFrom_newline (mode : Mode) (position : Nat) (newline newline' : Bool) (text : Text) :
    ∃ between, skipFrom mode position newline' text =
      (skipFrom mode position newline text).withNewline between := by
  fun_induction skipFrom mode position newline text generalizing newline' with
  | case1 | case7 => exact ⟨newline', rfl⟩
  | case10 => exact ⟨false, rfl⟩
  | case2 _ _ _ ih | case3 _ _ _ ih | case11 _ _ _ _ ih => exact ih newline'
  | case4 position newline c rest line block ends ih =>
      obtain ⟨between, same⟩ := ih true
      exact ⟨between, by rw [skipFrom.eq_4 _ _ _ _ line block, if_pos ends]; exact same⟩
  | case5 position newline c rest line block goes blank ih =>
      obtain ⟨between, same⟩ := ih newline'
      exact ⟨between, by rw [skipFrom.eq_4 _ _ _ _ line block, if_neg goes, if_pos blank, same]⟩
  | case6 position newline c rest line block goes solid =>
      exact ⟨newline', by rw [skipFrom.eq_4 _ _ _ _ line block, if_neg goes, if_neg solid]; rfl⟩
  | case8 position newline c rest ends ih =>
      obtain ⟨between, same⟩ := ih true
      exact ⟨between, by rw [skipFrom.eq_6, if_pos ends]; exact same⟩
  | case9 position newline c rest goes ih =>
      obtain ⟨between, same⟩ := ih newline'
      exact ⟨between, by rw [skipFrom.eq_6, if_neg goes, same]⟩
  | case12 start position newline c rest goes ih =>
      obtain ⟨between, same⟩ := ih (newline' || isLineTerminator c)
      exact ⟨between, by rw [skipFrom.eq_9 _ _ _ _ _ goes, same]⟩

end Trivia

namespace Lexer

/-- Behind blanks and complete comments, the first token is the first token of the source, except
that it may be found behind a line break. -/
theorem nextWith_separates {front : Text} (separates : Trivia.Separates False front)
    (endsOperand : TokenKind → Bool) (source : Text) : ∃ newline,
      (ofText (front ++ source)).nextWith endsOperand =
        match (ofText source).nextWith endsOperand with
        | (.ok token, after) =>
            (.ok { token.shift front.byteLength with newlineBefore := newline },
              after.behind front)
        | (.error error, after) => (.error (error.shift front.byteLength), after.behind front) := by
  obtain ⟨broken, skips⟩ := Trivia.skipFrom_separates separates 0 false source
  obtain ⟨between, same⟩ :=
    Trivia.skipFrom_newline .blank (0 + front.byteLength) false broken source
  have first : Trivia.skip (ofText (front ++ source)).position (ofText (front ++ source)).rest =
      ((Trivia.skip (ofText source).position (ofText source).rest).shift
        front.byteLength).withNewline between := by
    rw [← Trivia.skip_shift]
    exact skips.trans same
  unfold nextWith
  rw [first]
  cases Trivia.skip (ofText source).position (ofText source).rest with
  | unclosed start position => exact ⟨false, rfl⟩
  | skipped position rest newline =>
      cases rest with
      | nil => exact ⟨true, rfl⟩
      | cons next rest =>
          have here : ({ ofText (front ++ source) with
              position := position + front.byteLength, rest := next :: rest } : Lexer) =
              ({ ofText source with position, rest := next :: rest } : Lexer).behind front := rfl
          simp only [Trivia.Outcome.shift, Trivia.Outcome.withNewline]
          rw [here, readKind_behind]
          refine ⟨between, ?_⟩
          cases ({ ofText source with position, rest := next :: rest } : Lexer).readKind next rest
            with
          | mk outcome after => cases outcome <;> rfl

end Lexer

end Ecmascript
