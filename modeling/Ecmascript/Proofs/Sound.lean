import Ecmascript.Parser.Program
import Ecmascript.Proofs.Lexer.Guess

/-!
# Sound states

A state of the parser is sound when its lexer and its next token stand in the source as they
should. Reading a token and deciding about a slash keep it so. What remains of the text is counted
from the next token on, so that deciding about a slash does not change it.
-/

set_option autoImplicit false

namespace Ecmascript.Parser

/-- The lexer stands in the source behind the next token, which is not empty unless it is the end
of input. -/
structure Sound (s : State) : Prop where
  placed : s.lexer.Placed
  slash : s.current.kind.isSlash = true → Lexer.SlashAt s.lexer.source s.current.start
  token : ∃ lexeme, (s.lexer.seek s.current.start).Passes lexeme s.lexer ∧
    (lexeme ≠ [] ∨ s.current.kind = .endOfInput)

/-- The number of characters from the next token on. -/
def State.remaining (s : State) : Nat :=
  (s.lexer.source.dropBytes s.current.start).length

variable {s : State} {setup : Setup}

theorem Sound.scope (sound : Sound s) (context : Context) (depth : Nat)
    (failed : List (Attempt × SyntaxError)) :
    Sound { s with context, depth, failed } :=
  ⟨sound.placed, sound.slash, sound.token⟩

/-- A state behind a token that has been read. -/
theorem sound_of_reads {lexer : Lexer} {endsOperand : TokenKind → Bool} (placed : lexer.Placed)
    (reads : lexer.nextWith endsOperand = (.ok s.current, s.lexer)) :
    Sound s ∧ s.remaining ≤ lexer.rest.length := by
  obtain ⟨after, token, previous, context, failed, depth⟩ := s
  obtain ⟨blanks, lexeme, moves, start, _, kind⟩ := Lexer.nextWith_passes reads
  have whole : lexer.rest = blanks ++ (lexeme ++ after.rest) := by
    rw [← List.append_assoc]
    exact moves.rest
  have here : after.source.dropBytes token.start = lexeme ++ after.rest := by
    rw [moves.source, start]
    exact placed.dropBytes_append whole
  obtain ⟨placed', slash⟩ := placed.reads reads
  refine ⟨⟨placed', slash, lexeme, ⟨here, ?_, rfl⟩, ?_⟩, ?_⟩
  · change after.position = token.start + Text.byteLength lexeme
    rw [moves.position, start, Text.byteLength_append, Nat.add_assoc]
  · rcases kind with ⟨nonempty, _⟩ | ⟨_, ends, _⟩
    · exact .inl nonempty
    · exact .inr ends
  · change (after.source.dropBytes token.start).length ≤ lexer.rest.length
    rw [here, whole]
    simp only [List.length_append]
    omega

theorem Sound.advance (sound : Sound s) {after : State}
    (outcome : advance setup s = .ok () after) :
    Sound after ∧ after.remaining ≤ s.lexer.rest.length := by
  unfold Parser.advance at outcome
  split at outcome
  · rename_i token lexer reads
    cases outcome
    exact sound_of_reads sound.placed reads
  · cases outcome

/-- A token that is not the end of input is part of what remains. -/
theorem Sound.rest_lt_remaining (sound : Sound s) (goes_on : s.current.kind ≠ .endOfInput) :
    s.lexer.rest.length < s.remaining := by
  obtain ⟨lexeme, moves, kind⟩ := sound.token
  have here : s.lexer.source.dropBytes s.current.start = lexeme ++ s.lexer.rest := moves.rest
  unfold State.remaining
  rw [here, List.length_append]
  rcases kind with nonempty | ends
  · have := List.length_pos_iff.2 nonempty
    omega
  · exact absurd ends goes_on

theorem Sound.rest_le_remaining (sound : Sound s) : s.lexer.rest.length ≤ s.remaining := by
  obtain ⟨lexeme, moves, _⟩ := sound.token
  have here : s.lexer.source.dropBytes s.current.start = lexeme ++ s.lexer.rest := moves.rest
  unfold State.remaining
  rw [here, List.length_append]
  exact Nat.le_add_left _ _

/-! ## Deciding about a slash -/

theorem slashAsRegex_of_slash (setup : Setup) (slash : s.current.kind = .punctuator .slash ∨
      s.current.kind = .punctuator .slashAssign) :
    slashAsRegex setup s =
      match s.lexer.rescanRegex s.current with
      | (.ok token, lexer) => .ok () { s with lexer, current := token }
      | (.error error, lexer) => .reject (.lexical error) { s with lexer } := by
  unfold slashAsRegex
  rcases slash with slash | slash <;> simp only [slash] <;> rfl

theorem slashAsRegex_of_not_slash (setup : Setup) (other : ¬ (s.current.kind = .punctuator .slash ∨
      s.current.kind = .punctuator .slashAssign)) :
    slashAsRegex setup s = .ok () s := by
  unfold slashAsRegex
  split
  · exact absurd (.inl ‹_›) other
  · exact absurd (.inr ‹_›) other
  · rfl

/-- A state in which the slash that is next has been decided about. -/
theorem Sound.decided (sound : Sound s) {token : Token} {after : Lexer} {lexeme : Text}
    (slash : s.current.kind.isSlash = true) (nonempty : lexeme ≠ [])
    (moves : (s.lexer.seek s.current.start).Passes lexeme after)
    (start : token.start = s.current.start) :
    Sound { s with lexer := after, current := token } ∧
      State.remaining { s with lexer := after, current := token } = s.remaining := by
  have slashAt := sound.slash slash
  have source : after.source = s.lexer.source := moves.source
  refine ⟨⟨(Lexer.seek_slash slashAt).1.passes moves, fun _ => ?_, lexeme, ⟨?_, ?_, rfl⟩,
    .inl nonempty⟩, ?_⟩
  · change Lexer.SlashAt after.source token.start
    rwa [source, start]
  · change after.source.dropBytes token.start = lexeme ++ after.rest
    rw [source, start]
    exact moves.rest
  · change after.position = token.start + Text.byteLength lexeme
    rw [start]
    exact moves.position
  · change (after.source.dropBytes token.start).length = _
    rw [source, start]
    rfl

theorem Sound.slashAsRegex (sound : Sound s) {after : State}
    (outcome : slashAsRegex setup s = .ok () after) :
    Sound after ∧ after.remaining = s.remaining := by
  unfold Parser.slashAsRegex at outcome
  have again (slash : s.current.kind.isSlash = true)
      (outcome : (match s.lexer.rescanRegex s.current with
        | (.ok token, lexer) => .ok () { s with lexer, current := token }
        | (.error error, lexer) => .reject (.lexical error) { s with lexer }) =
          Reply.ok () after) : Sound after ∧ after.remaining = s.remaining := by
    split at outcome
    · rename_i token lexer reads
      cases outcome
      obtain ⟨⟨lexeme, nonempty, moves⟩, start, _⟩ :=
        Lexer.rescanRegex_passes (sound.slash slash) reads
      exact sound.decided slash nonempty moves start
    · cases outcome
  split at outcome
  · exact again (by rw [‹s.current.kind = _›]; rfl) outcome
  · exact again (by rw [‹s.current.kind = _›]; rfl) outcome
  · cases outcome
    exact ⟨sound, rfl⟩

theorem Sound.slashAsDivide (sound : Sound s) {after : State}
    (outcome : slashAsDivide setup s = .ok () after) :
    Sound after ∧ after.remaining = s.remaining := by
  unfold Parser.slashAsDivide at outcome
  split at outcome
  · have slash : s.current.kind.isSlash = true := by rw [‹s.current.kind = _›]; rfl
    cases outcome
    obtain ⟨⟨lexeme, nonempty, moves⟩, start, _⟩ := Lexer.rescanDivide_passes (sound.slash slash)
    exact sound.decided slash nonempty moves start
  · cases outcome
    exact ⟨sound, rfl⟩

/-! ## The beginning -/

theorem Sound.start {source : Text} {state : State} (starts : start setup source = .ok state) :
    Sound state ∧ state.remaining ≤ source.length := by
  unfold Parser.start at starts
  split at starts
  · cases starts
  · rename_i token lexer reads
    cases starts
    exact sound_of_reads (Lexer.placed_ofText source) reads

end Ecmascript.Parser
