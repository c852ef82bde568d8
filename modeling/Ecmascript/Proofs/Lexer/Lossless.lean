import Ecmascript.Proofs.Lexer.Written

/-!
# Nothing is lost between tokens

The tokens of a text account for all of it. Each stands where it says, and what is between two of
them is blank or a comment. Comments are described by what they are and not by how they are skipped:
a line comment goes up to a line terminator or the end of the text, and a block comment up to the
first place where it is closed.
-/

set_option autoImplicit false

namespace Ecmascript

open Character

/-! ## Slices -/

namespace Text

/-- An initial part of a text is taken with as many bytes as it has. -/
theorem takeBytes_byteLength_append (front back : Text) :
    takeBytes (byteLength front) (front ++ back) = front := by
  induction front with
  | nil =>
      cases back with
      | nil => rfl
      | cons c back =>
          have positive := c.utf8Size_pos
          simp only [List.nil_append, byteLength, takeBytes]
          exact if_neg (by omega)
  | cons c front ih =>
      simp only [List.cons_append, byteLength, takeBytes, Nat.le_add_right, if_true,
        Nat.add_sub_cancel_left, ih]

/-- What stands between two parts of a text is the slice between their offsets. -/
theorem slice_append (before middle after : Text) :
    slice before.byteLength (before.byteLength + middle.byteLength) (before ++ (middle ++ after)) =
      middle := by
  rw [slice, dropBytes_byteLength_append, Nat.add_sub_cancel_left, takeBytes_byteLength_append]

end Text

namespace Token.Written

variable {source : Text} {token : Token}

theorem slice (written : token.Written source) :
    source.slice token.start token.stop = token.kind.lexeme := by
  obtain ⟨before, after, whole, start⟩ := written.place
  rw [written.stop, start, whole]
  exact Text.slice_append _ _ _

/-- The raw text of a chunk is what its token has between the delimiters. -/
theorem slice_chunk (written : token.Written source) {part : TemplatePart} {raw : String}
    (kind : token.kind = .template part raw) :
    source.slice (token.start + Text.byteLength part.opening)
      (token.stop - Text.byteLength part.closing) = raw.toList := by
  obtain ⟨before, after, whole, start⟩ := written.place
  have stop := written.stop
  rw [kind] at whole stop
  simp only [TokenKind.lexeme, Text.byteLength_append] at stop
  have inner : source = (before ++ part.opening) ++ (raw.toList ++ (part.closing ++ after)) := by
    rw [whole]
    simp only [TokenKind.lexeme, List.append_assoc]
  have first : token.start + Text.byteLength part.opening =
      Text.byteLength (before ++ part.opening) := by rw [Text.byteLength_append, start]
  have last : token.stop - Text.byteLength part.closing =
      Text.byteLength (before ++ part.opening) + Text.byteLength raw.toList := by omega
  rw [first, last, inner]
  exact Text.slice_append _ _ _

end Token.Written

/-! ## Blanks and comments -/

namespace Trivia

theorem isBlank_of_isLineTerminator {c : Char} (ends : isLineTerminator c = true) :
    isBlank c = true := by
  simp only [isLineTerminator, Bool.or_eq_true, decide_eq_true_eq] at ends
  rcases ends with ((rfl | rfl) | rfl) | rfl <;> decide

/-- A text of nothing but blanks and complete comments. A line comment is complete in front of a
line terminator, and at the end of the text only if the whole source ends there. -/
inductive Separates (atEnd : Prop) : Text → Prop where
  | nil : Separates atEnd []
  | blank {c : Char} {rest : Text} :
      isBlank c = true → Separates atEnd rest → Separates atEnd (c :: rest)
  | lineComment {body rest : Text} :
      (∀ c ∈ body, isLineTerminator c = false) → (rest = [] → atEnd) →
      (∀ c ∈ rest.head?, isLineTerminator c = true) → Separates atEnd rest →
      Separates atEnd ('/' :: '/' :: (body ++ rest))
  | blockComment {body rest : Text} :
      ¬ ['*', '/'] <:+: body → Separates atEnd rest →
      Separates atEnd ('/' :: '*' :: (body ++ '*' :: '/' :: rest))

variable {atEnd : Prop}

/-- A character of a line comment lengthens it. -/
theorem Separates.lineComment_cons {c : Char} {gap : Text}
    (separates : Separates atEnd ('/' :: '/' :: gap)) (goes : isLineTerminator c = false) :
    Separates atEnd ('/' :: '/' :: c :: gap) := by
  generalize whole : '/' :: '/' :: gap = text at separates
  cases separates with
  | nil => cases whole
  | blank blank =>
      cases whole
      cases blank
  | @lineComment body rest inner last ends separates =>
      cases whole
      rw [← List.cons_append]
      exact .lineComment (List.forall_mem_cons.2 ⟨goes, inner⟩) last ends separates
  | blockComment => cases whole

/-- A character of a block comment lengthens it, if it does not begin the end of the comment. -/
theorem Separates.blockComment_cons {c : Char} {gap : Text}
    (separates : Separates atEnd ('/' :: '*' :: gap))
    (goes : ∀ rest, c = '*' → gap = '/' :: rest → False) :
    Separates atEnd ('/' :: '*' :: c :: gap) := by
  generalize whole : '/' :: '*' :: gap = text at separates
  cases separates with
  | nil => cases whole
  | blank blank =>
      cases whole
      cases blank
  | lineComment => cases whole
  | @blockComment body rest inner separates =>
      cases whole
      rw [← List.cons_append]
      refine .blockComment (fun found => ?_) separates
      rcases List.infix_cons_iff.1 found with ⟨left, here⟩ | later
      · obtain ⟨rfl, same⟩ := List.cons.inj here
        exact goes (left ++ '*' :: '/' :: rest) rfl (by rw [← same]; rfl)
      · exact inner later

/-- What may still be skipped in a mode. Inside a comment, it completes the comment. -/
def Mode.Completes (atEnd : Prop) : Mode → Text → Prop
  | .blank, gap => Separates atEnd gap
  | .lineComment, gap => Separates atEnd ('/' :: '/' :: gap)
  | .blockComment _, gap => Separates atEnd ('/' :: '*' :: gap)

/-- A gap stands in front of what is left, with a line terminator if that is reported. -/
structure Mode.Skips (mode : Mode) (position : Nat) (newline : Bool) (text rest : Text)
    (after : Nat) (newline' : Bool) (gap : Text) : Prop where
  whole : text = gap ++ rest
  position : after = position + Text.byteLength gap
  completes : mode.Completes (rest = []) gap
  newline : newline' = (newline || gap.any isLineTerminator)

/-- What skipping passes is a gap. -/
theorem skipFrom_gap {mode : Mode} {position after : Nat} {newline newline' : Bool}
    {text rest : Text}
    (skips : skipFrom mode position newline text = .skipped after rest newline') :
    ∃ gap, mode.Skips position newline text rest after newline' gap := by
  -- What is passed in one step is put in front of the gap behind it.
  have further (front : Text) {mode mode' : Mode} {left : Text} {start stop : Nat}
      {seen seen' : Bool}
      (found : ∃ gap, mode'.Skips stop seen' left rest after newline' gap)
      (moved : stop = start + Text.byteLength front)
      (seen_eq : seen' = (seen || front.any isLineTerminator))
      (completes : ∀ {gap}, left = gap ++ rest → mode'.Completes (rest = []) gap →
        mode.Completes (rest = []) (front ++ gap)) :
      ∃ gap, mode.Skips start seen (front ++ left) rest after newline' gap := by
    obtain ⟨gap, skips⟩ := found
    refine ⟨front ++ gap, ?_, ?_, completes skips.whole skips.completes, ?_⟩
    · rw [skips.whole, List.append_assoc]
    · rw [skips.position, moved, Text.byteLength_append, Nat.add_assoc]
    · rw [skips.newline, seen_eq, List.any_append, Bool.or_assoc]
  fun_induction skipFrom mode position newline text with
  | case1 position newline =>
      cases skips
      exact ⟨[], rfl, rfl, .nil, (Bool.or_false _).symm⟩
  | case2 position newline left ih =>
      exact further ['/', '/'] (ih skips) rfl (Bool.or_false _).symm fun _ found => found
  | case3 position newline left ih =>
      exact further ['/', '*'] (ih skips) rfl (Bool.or_false _).symm fun _ found => found
  | case4 position newline c left _ _ ends ih =>
      exact further [c] (ih skips) rfl (by simp [ends])
        fun _ found => .blank (isBlank_of_isLineTerminator ends) found
  | case5 position newline c left _ _ goes blank ih =>
      exact further [c] (ih skips) rfl (by simp [goes]) fun _ found => .blank blank found
  | case6 position newline c left =>
      cases skips
      exact ⟨[], rfl, rfl, .nil, (Bool.or_false _).symm⟩
  | case7 position newline =>
      cases skips
      exact ⟨[], rfl, rfl, .lineComment (List.forall_mem_nil _) (fun _ => rfl) (by simp) .nil,
        (Bool.or_false _).symm⟩
  | case8 position newline c left ends ih =>
      refine further [c] (ih skips) rfl (by simp [ends]) fun {gap} _ found => ?_
      have ended : ∀ next ∈ (c :: gap).head?, isLineTerminator next = true := by simpa using ends
      change Separates _ ('/' :: '/' :: ([] ++ c :: gap))
      exact .lineComment (List.forall_mem_nil _) (by simp) ended
        (.blank (isBlank_of_isLineTerminator ends) found)
  | case9 position newline c left goes ih =>
      exact further [c] (ih skips) rfl (by simp [goes])
        fun _ found => found.lineComment_cons (by simpa using goes)
  | case10 start position newline => cases skips
  | case11 start position newline left ih =>
      exact further ['*', '/'] (ih skips) rfl (Bool.or_false _).symm
        fun _ found => .blockComment (List.not_mem_nil ∘ fun found => found.subset (.head _)) found
  | case12 start position newline c left goes ih =>
      refine further [c] (ih skips) rfl (by simp) fun whole found =>
        found.blockComment_cons fun rest star slash => ?_
      exact goes _ star (by rw [whole, slash]; rfl)

theorem Separates.mono {atEnd' : Prop} {gap : Text} (separates : Separates atEnd gap)
    (weaker : atEnd → atEnd') : Separates atEnd' gap := by
  induction separates with
  | nil => exact .nil
  | blank blank _ ih => exact .blank blank ih
  | lineComment inner last ends _ ih => exact .lineComment inner (weaker ∘ last) ends ih
  | blockComment inner _ ih => exact .blockComment inner ih

end Trivia

/-! ## Tokens and gaps -/

/-- A token comes behind an offset of a source, with nothing but blanks and comments in between. It
tells whether a line terminator is among them; the end of input is exempt, since it counts as
preceded by one anyway. -/
structure Token.Follows (source : Text) (offset : Nat) (token : Token) : Prop where
  order : offset ≤ token.start
  separates : Trivia.Separates (token.kind = .endOfInput) (source.slice offset token.start)
  newline : token.kind ≠ .endOfInput →
    (token.newlineBefore = true ↔ ∃ c ∈ source.slice offset token.start, isLineTerminator c = true)

/-- The first token follows an offset, and every other one the token in front of it. -/
def Separated (source : Text) : Nat → List Token → Prop
  | _, [] => True
  | offset, token :: tokens => token.Follows source offset ∧ Separated source token.stop tokens

/-- The text of a token is what the source has between its offsets. A word or punctuator has its
spelling there, and a chunk of template text its raw text between its delimiters. -/
structure Token.Quoted (source : Text) (token : Token) : Prop where
  boundaries : source.IsBoundary token.start ∧ source.IsBoundary token.stop
  whole : source.slice token.start token.stop = token.kind.lexeme
  spelled : ∀ spelling, token.kind.spelling? = some spelling →
    source.slice token.start token.stop = spelling.toList
  chunk : ∀ part raw, token.kind = .template part raw →
    source.slice (token.start + Text.byteLength part.opening)
      (token.stop - Text.byteLength part.closing) = raw.toList

/-- Tokens account for a source from an offset on. -/
structure Lossless (source : Text) (offset : Nat) (tokens : List Token) : Prop where
  ends : ∃ front last, tokens = front ++ [last] ∧
    (∀ token ∈ front, token.kind ≠ .endOfInput ∧ token.start < token.stop) ∧
    last.kind = .endOfInput ∧ last.start = source.byteLength ∧ last.stop = source.byteLength
  apart : tokens.Pairwise fun first second => first.stop ≤ second.start
  separated : Separated source offset tokens
  quoted : ∀ token ∈ tokens, token.Quoted source

namespace Token

variable {source : Text} {token : Token}

theorem Written.quoted (written : token.Written source) : token.Quoted source := by
  refine ⟨written.boundaries, written.slice, fun spelling spelled => ?_,
    fun _ _ => written.slice_chunk⟩
  rw [written.slice]
  generalize token.kind = kind at spelled
  cases kind <;> cases spelled <;> rfl

end Token

/-- Tokens that follow one another begin behind the offset that the first of them follows. -/
theorem Separated.le_start {source : Text} {tokens : List Token} {offset : Nat}
    (separated : Separated source offset tokens)
    (forward : ∀ token ∈ tokens, token.start ≤ token.stop)
    {token : Token} (member : token ∈ tokens) : offset ≤ token.start := by
  induction tokens generalizing offset with
  | nil => cases member
  | cons first tokens ih =>
      obtain ⟨follows, separated⟩ := separated
      rw [List.forall_mem_cons] at forward
      rcases List.mem_cons.1 member with rfl | member
      · exact follows.order
      · exact Nat.le_trans follows.order (Nat.le_trans forward.1 (ih separated forward.2 member))

theorem Lossless.start_le_stop {source : Text} {offset : Nat} {tokens : List Token}
    (lossless : Lossless source offset tokens) : ∀ token ∈ tokens, token.start ≤ token.stop := by
  obtain ⟨front, last, rfl, inner, _, start, stop⟩ := lossless.ends
  rw [List.forall_mem_append, List.forall_mem_singleton]
  exact ⟨fun token member => Nat.le_of_lt (inner token member).2,
    Nat.le_of_eq (start.trans stop.symm)⟩

namespace Lexer

variable {lexer after : Lexer} {token : Token}

/-- A token that is read follows the place from which it was read. -/
theorem Placed.reads_follows {endsOperand : TokenKind → Bool} (placed : lexer.Placed)
    (outcome : lexer.nextWith endsOperand = (.ok token, after)) :
    token.Follows lexer.source lexer.position := by
  obtain ⟨before, passed⟩ := placed
  have whole : lexer.source = before ++ lexer.rest := passed.rest
  have moved : lexer.position = before.byteLength := passed.position.trans (Nat.zero_add _)
  unfold nextWith at outcome
  split at outcome
  · cases outcome
  rename_i position rest newline skips
  obtain ⟨gap, skips⟩ := Trivia.skipFrom_gap skips
  have slice : lexer.source.slice lexer.position position = gap := by
    rw [skips.position, whole, skips.whole, moved]
    exact Text.slice_append _ _ _
  have order : lexer.position ≤ position := by
    rw [skips.position]
    exact Nat.le_add_right _ _
  have seen : newline = true ↔ ∃ c ∈ gap, isLineTerminator c = true := by
    rw [skips.newline, Bool.false_or, List.any_eq_true]
  have separates : Trivia.Separates (rest = []) gap := skips.completes
  cases rest with
  | nil =>
      cases outcome
      refine ⟨order, ?_, absurd rfl⟩
      rw [slice]
      exact separates.mono fun _ => rfl
  | cons first rest =>
      dsimp only at outcome
      split at outcome
      · cases outcome
      · cases outcome
        refine ⟨order, ?_, fun _ => ?_⟩
        · rw [slice]
          exact separates.mono nofun
        · rw [slice]
          exact seen

/-- The end of input is found at the end of the source. -/
theorem Placed.reads_end {endsOperand : TokenKind → Bool} (placed : lexer.Placed)
    (outcome : lexer.nextWith endsOperand = (.ok token, after)) (ends : token.kind = .endOfInput) :
    token.start = lexer.source.byteLength ∧ token.stop = lexer.source.byteLength := by
  obtain ⟨blanks, lexeme, moves, start, stop, kind⟩ := nextWith_passes outcome
  rcases kind with ⟨_, goes_on⟩ | ⟨rfl, _, empty⟩
  · exact absurd ends goes_on
  obtain ⟨before, passed⟩ := placed.passes moves
  have whole : after.source = before ++ after.rest := passed.rest
  have moved : after.position = before.byteLength := passed.position.trans (Nat.zero_add _)
  rw [empty, List.append_nil] at whole
  have last : after.position = lexer.source.byteLength := by rw [moved, ← whole, moves.source]
  refine ⟨?_, stop.trans last⟩
  rw [← last, moves.position, List.append_nil, start]

/-- A token that is not the end of input leaves less to read. -/
theorem length_lt_of_reads {endsOperand : TokenKind → Bool}
    (outcome : lexer.nextWith endsOperand = (.ok token, after))
    (goes_on : token.kind ≠ .endOfInput) : after.rest.length < lexer.rest.length := by
  obtain ⟨blanks, lexeme, moves, _, _, kind⟩ := nextWith_passes outcome
  rcases kind with ⟨nonempty, _⟩ | ⟨_, ends, _⟩
  · have positive := List.length_pos_of_ne_nil nonempty
    have total := congrArg List.length moves.rest
    simp only [List.length_append] at total
    omega
  · exact absurd ends goes_on

/-- A run that may read more tokens than there are characters accounts for what is left. -/
theorem Placed.tokensWithin_lossless {fuel : Nat} {tokens : List Token} {last : Lexer}
    (placed : lexer.Placed) (enough : lexer.rest.length < fuel)
    (reads : tokensWithin fuel lexer = (.ok tokens, last)) :
    Lossless lexer.source lexer.position tokens := by
  induction fuel generalizing lexer tokens with
  | zero => exact absurd enough (Nat.not_lt_zero _)
  | succ fuel ih =>
      unfold tokensWithin at reads
      split at reads
      · cases reads
      rename_i token after outcome
      have follows := placed.reads_follows outcome
      have quoted := (placed.reads_written outcome).1.quoted
      have stop := (placed.reads_written outcome).2.1
      split at reads
      · rename_i ends
        cases reads
        exact ⟨⟨[], token, rfl, List.forall_mem_nil _, ends, placed.reads_end outcome ends⟩,
          List.pairwise_singleton _ _, ⟨follows, trivial⟩, List.forall_mem_singleton.2 quoted⟩
      rename_i goes_on
      have fewer := length_lt_of_reads outcome goes_on
      obtain ⟨_, _, moves, _⟩ := nextWith_passes outcome
      split at reads
      · cases reads
      rename_i tokens last rest
      cases reads
      have lossless := ih (placed.reads outcome).1 (by omega) rest
      rw [moves.source, ← stop] at lossless
      obtain ⟨front, final, rfl, inner, ends⟩ := lossless.ends
      refine ⟨⟨token :: front, final, rfl, ?_, ends⟩, ?_, ⟨follows, lossless.separated⟩,
        List.forall_mem_cons.2 ⟨quoted, lossless.quoted⟩⟩
      · exact List.forall_mem_cons.2 ⟨⟨goes_on, start_lt_stop_of_reads outcome goes_on⟩, inner⟩
      · refine List.pairwise_cons.2 ⟨fun later member => ?_, lossless.apart⟩
        exact lossless.separated.le_start lossless.start_le_stop member

/-- The tokens of a source account for all of it. -/
theorem tokens_lossless {source : Text} {tokens : List Token}
    (reads : (ofText source).tokens = (.ok tokens, after)) : Lossless source 0 tokens :=
  (placed_ofText source).tokensWithin_lossless (Nat.lt_succ_self _) reads

/-- A comment with a line terminator, a template and a line comment at the end of the source. -/
theorem tokens_lossless_comments :
    let tokens : List Token :=
      [⟨.identifier "a", 0, 1, false⟩, ⟨.template .whole "b", 6, 9, true⟩,
        ⟨.endOfInput, 12, 12, true⟩]
    (ofText "a/*\n*/`b` //".toList).tokens =
        (.ok tokens, ⟨"a/*\n*/`b` //".toList, 12, [], false, []⟩) ∧
      Lossless "a/*\n*/`b` //".toList 0 tokens := by
  intro tokens
  have reads : (ofText "a/*\n*/`b` //".toList).tokens =
      (.ok tokens, ⟨"a/*\n*/`b` //".toList, 12, [], false, []⟩) := by
    decide +kernel
  exact ⟨reads, tokens_lossless reads⟩

end Lexer

end Ecmascript
