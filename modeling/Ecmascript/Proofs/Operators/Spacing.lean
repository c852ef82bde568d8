import Mathlib.Data.List.TakeWhile
import Ecmascript.Proofs.Operators.Adjacent
import Ecmascript.Proofs.Operators.Layout

/-!
# Tokens kept apart

The text that is written for tokens side by side is read as these tokens again. Where two of them
would run together, a space stands between them.
-/

set_option autoImplicit false

namespace Ecmascript

open Character

/-! ## Characters side by side -/

/-- The characters behind a punctuator that are part of a longer one. -/
def Punctuator.continuations (mark : Punctuator) : List Char :=
  Punctuator.all.filterMap fun other =>
    if mark.spelling.toList.isPrefixOf other.spelling.toList then
      (other.spelling.toList.drop mark.spelling.toList.length).head?
    else none

theorem Punctuator.mem_continuations {mark : Punctuator} {c : Char}
    (continues : mark.continues c = true) : c ∈ mark.continuations := by
  unfold Punctuator.continues at continues
  obtain ⟨other, listed, longer⟩ := List.any_eq_true.1 continues
  obtain ⟨more, spelled⟩ := List.isPrefixOf_iff_prefix.1 longer
  refine List.mem_filterMap.2 ⟨other, listed, ?_⟩
  have initial : mark.spelling.toList <+: other.spelling.toList :=
    ⟨c :: more, by rw [← spelled]; simp⟩
  rw [if_pos (List.isPrefixOf_iff_prefix.2 initial), ← spelled]
  simp

/-- Characters with which no operand begins. -/
def endsOnly : List Char :=
  ['=', '*', '<', '>', '&', '|', '?']

theorem not_endsOnly {c : Char} (listed : c ∈ endsOnly) :
    isIdentifierStart c = false ∧ isDecimalDigit c = false := by
  have each : endsOnly.all (fun c => !isIdentifierStart c && !isDecimalDigit c) = true := by decide
  simpa using List.all_eq_true.1 each c listed

theorem isAscii_of_le {c last : Char} (below : c ≤ last) (ascii : Unicode.isAscii last = true) :
    Unicode.isAscii c = true := by
  simp only [Unicode.isAscii, decide_eq_true_eq] at ascii ⊢
  exact Nat.lt_of_le_of_lt below ascii

theorem isWordCharacter_of_part {c : Char} (part : isIdentifierPart c = true) :
    Writer.isWordCharacter c = true := by
  simp only [isIdentifierPart, Bool.or_eq_true, Bool.and_eq_true, decide_eq_true_eq] at part
  have alphanumeric : Unicode.isAlphanumeric c = true ∨ c = '_' ∨ c = '$' := by
    rcases part with (((letter | digit) | low) | dollar) | ⟨_, other⟩
    · left
      have ascii : Unicode.isAscii c = true := by
        simp only [Unicode.isAsciiLetter, Bool.or_eq_true, Bool.and_eq_true,
          decide_eq_true_eq] at letter
        rcases letter with ⟨_, small⟩ | ⟨_, capital⟩
        · exact isAscii_of_le small (by decide)
        · exact isAscii_of_le capital (by decide)
      simp [Unicode.isAlphanumeric, Unicode.isAlphabetic, ascii, letter]
    · left
      have ascii : Unicode.isAscii c = true := by
        simp only [Unicode.isAsciiDigit, Bool.and_eq_true, decide_eq_true_eq] at digit
        exact isAscii_of_le digit.2 (by decide)
      simp [Unicode.isAlphanumeric, Unicode.isNumeric, ascii, digit]
    · exact .inr (.inl low)
    · exact .inr (.inr dollar)
    · exact .inl other
  rcases alphanumeric with alphanumeric | rfl | rfl
  · simp [Writer.isWordCharacter, alphanumeric]
  · decide
  · decide

/-! ## The text that is written -/

namespace Writer

/-- The text that a token or a blank adds to the output. -/
def added (writer : Writer) : Option TokenKind → Text
  | none => [' ']
  | some kind => (if kind.text.head?.any writer.needsSpace then [' '] else []) ++ kind.text

/-- The text that tokens and blanks add to the output. -/
def rendered (writer : Writer) : List (Option TokenKind) → Text
  | [] => []
  | entry :: entries => writer.added entry ++ rendered (Print.item entry writer) entries

theorem text_push (writer : Writer) (text : Text) :
    (writer.push text).text = writer.text ++ text := by
  simp [push, Writer.text]

theorem text_token (writer : Writer) (kind : TokenKind) :
    (Print.token (String.ofList kind.text) writer).text =
      writer.text ++ writer.added (some kind) := by
  unfold Print.token added
  rw [String.toList_ofList]
  cases text : kind.text with
  | nil => simp [text]
  | cons first rest =>
      simp only [text, List.head?_cons, Option.any_some]
      split <;> simp [text_push]

theorem text_item (writer : Writer) (entry : Option TokenKind) :
    (Print.item entry writer).text = writer.text ++ writer.added entry := by
  cases entry with
  | none => exact text_push writer [' ']
  | some kind =>
      cases kind with
      | regex raw =>
          have written := text_token writer (.regex raw)
          change (Print.token (String.ofList raw.toList) writer).text = _ at written
          rw [String.ofList_toList] at written
          exact written
      | _ => exact text_token writer _

theorem text_items (entries : List (Option TokenKind)) (writer : Writer) :
    (Print.items entries writer).text = writer.text ++ writer.rendered entries := by
  induction entries generalizing writer with
  | nil => simp [Print.items, rendered]
  | cons entry entries ih =>
      have rest := ih (Print.item entry writer)
      rw [text_item, List.append_assoc] at rest
      exact rest

/-- A writer stands directly behind a token. -/
structure Behind (writer : Writer) (kind : TokenKind) : Prop where
  last : writer.written.head? = kind.text.getLast?
  regex : ∀ raw, kind = .regex raw → writer.afterRegex = true

theorem written_token (writer : Writer) {text : Text} (nonempty : text ≠ []) :
    (Print.token (String.ofList text) writer).written.head? = text.getLast? := by
  cases text with
  | nil => exact absurd rfl nonempty
  | cons first rest =>
      unfold Print.token
      rw [String.toList_ofList]
      have last (before : List Char) :
          ((first :: rest).reverse ++ before).head? = (first :: rest).getLast? := by
        rw [List.head?_append_of_ne_nil _ (by simp), List.head?_reverse]
      dsimp only
      split <;> exact last _

theorem behind_item (writer : Writer) {kind : TokenKind} (nonempty : kind.text ≠ []) :
    (Print.item (some kind) writer).Behind kind := by
  cases kind with
  | regex raw =>
      have written := written_token writer nonempty
      rw [show (TokenKind.regex raw).text = raw.toList from rfl, String.ofList_toList] at written
      exact ⟨written, fun _ _ => rfl⟩
  | _ => exact ⟨written_token writer nonempty, nofun⟩

end Writer

/-! ## First characters -/

/-- Marks with which an operand begins. -/
def operandMarks : List Char :=
  ['"', '\'', '/', '(', '+', '-', '!', '~']

theorem TokenKind.Spelled.text_ne_nil {kind : TokenKind} (spelled : kind.Spelled) :
    kind.text ≠ [] := by
  have word {text : Text} {kind : TokenKind} (word : Lexer.Word text kind) : text ≠ [] := by
    rintro rfl
    cases word.first
  cases kind with
  | identifier name => exact word spelled
  | keyword name => exact word (Lexer.word_keyword name)
  | number raw =>
      obtain ⟨first, rest, text, _⟩ := spelled
      exact fun empty => nomatch text.symm.trans empty
  | string raw =>
      obtain ⟨quote, rest, text, _⟩ := spelled
      exact fun empty => nomatch text.symm.trans empty
  | regex raw =>
      obtain ⟨rest, text, _⟩ := spelled
      exact fun empty => nomatch text.symm.trans empty
  | punctuator mark =>
      obtain ⟨first, rest, text, _⟩ := Lexer.spelling_cons mark
      exact fun empty => nomatch text.symm.trans empty
  | template part raw => cases spelled
  | endOfInput => cases spelled

/-- The first character of a token with which an operand begins. -/
theorem first_of_startsOperand {kind : TokenKind} (starts : kind.startsOperand = true)
    (spelled : kind.Spelled) {first : Char} {rest : Text} (text : kind.text = first :: rest) :
    isIdentifierStart first = true ∨ isDecimalDigit first = true ∨
      (first = '.' ∧ ∃ digit more, rest = digit :: more ∧ isDecimalDigit digit = true) ∨
      first ∈ operandMarks := by
  cases kind with
  | identifier name =>
      have word := spelled.first
      change name.toList = _ at text
      rw [text] at word
      simp only [List.head?_cons, Option.any_some, Bool.and_eq_true] at word
      exact .inl word.2
  | keyword name =>
      have word := (Lexer.word_keyword name).first
      change name.spelling.toList = _ at text
      rw [text] at word
      simp only [List.head?_cons, Option.any_some, Bool.and_eq_true] at word
      exact .inl word.2
  | number raw =>
      obtain ⟨first', rest', text', _, _, digit, _⟩ := spelled
      cases text'.symm.trans text
      rw [Bool.or_eq_true, Bool.and_eq_true, decide_eq_true_eq] at digit
      rcases digit with digit | ⟨rfl, digit⟩
      · exact .inr (.inl digit)
      · cases rest with
        | nil => cases digit
        | cons c more => exact .inr (.inr (.inl ⟨rfl, c, more, rfl, digit⟩))
  | string raw =>
      obtain ⟨quote, rest', text', quotes, _⟩ := spelled
      cases text'.symm.trans text
      rcases quotes with rfl | rfl <;> exact .inr (.inr (.inr (by decide)))
  | regex raw =>
      obtain ⟨rest', text', _, _⟩ := spelled
      cases text'.symm.trans text
      exact .inr (.inr (.inr (by decide)))
  | punctuator mark =>
      refine .inr (.inr (.inr ?_))
      have member : mark.spelling.toList.head?.all operandMarks.contains = true := by
        revert starts
        clear text spelled
        cases mark <;> decide
      rw [show mark.spelling.toList = first :: rest from text] at member
      exact List.contains_iff_mem.1 member
  | template part raw => cases spelled
  | endOfInput => cases spelled

/-- What continues a punctuator behind which an operand stands. -/
theorem continuations_of_opens {mark : Punctuator}
    (opens : (TokenKind.punctuator mark).opensOperand = true) :
    ∀ c ∈ mark.continuations, c ∈ endsOnly ∨ (mark = .plus ∧ c = '+') ∨
      (mark = .minus ∧ c = '-') ∨ (mark = .question ∧ c = '.') := by
  have each : mark.continuations.all (fun c => decide (c ∈ endsOnly ∨ (mark = .plus ∧ c = '+') ∨
      (mark = .minus ∧ c = '-') ∨ (mark = .question ∧ c = '.'))) = true := by
    revert opens
    cases mark <;> decide
  exact fun c listed => of_decide_eq_true (List.all_eq_true.1 each c listed)

/-- A word or number is not followed by a number and a dot, so only the first character of an
operator word can be one that continues a word. -/
theorem first_of_followsOperand {kind : TokenKind} (follows : kind.followsOperand = true)
    (undotted : kind ≠ .punctuator .dot) :
    ∀ first ∈ kind.text.head?, Literal.continuesNumber first = false := by
  have each : kind.text.head?.all (fun first => !Literal.continuesNumber first) = true := by
    cases kind with
    | keyword word =>
        revert follows
        clear undotted
        cases word <;> decide
    | punctuator mark =>
        revert follows undotted
        cases mark <;> decide
    | _ => cases follows
  intro first begins
  rw [Option.mem_def.1 begins] at each
  simpa using each

/-! ## What follows a token -/

/-- What is written begins with a blank, or with the first character of the next token, which does
not run together with what is before it. -/
theorem rendered_cases {writer : Writer} {kind : TokenKind} {entries : List (Option TokenKind)}
    (chain : (kind :: entries.filterMap id).IsChain Adjacent)
    (spelled : ∀ next ∈ entries.filterMap id, next.Spelled) :
    writer.rendered entries = [] ∨ (∃ more, writer.rendered entries = ' ' :: more) ∨
      ∃ next first rest more, Adjacent kind next ∧ next.Spelled ∧ next.text = first :: rest ∧
        writer.needsSpace first = false ∧ writer.rendered entries = first :: (rest ++ more) := by
  cases entries with
  | nil => exact .inl rfl
  | cons entry entries =>
      right
      cases entry with
      | none => exact .inl ⟨_, rfl⟩
      | some next =>
          have kinds : (some next :: entries).filterMap id = next :: entries.filterMap id := rfl
          rw [kinds] at chain spelled
          have spelled' := spelled next List.mem_cons_self
          cases text : next.text with
          | nil => exact absurd text spelled'.text_ne_nil
          | cons first rest =>
              cases space : writer.needsSpace first with
              | true =>
                  left
                  refine ⟨next.text ++
                    (Print.item (some next) writer).rendered entries, ?_⟩
                  simp [Writer.rendered, Writer.added, text, space]
              | false =>
                  right
                  refine ⟨next, first, rest, (Print.item (some next) writer).rendered entries,
                    (List.isChain_cons_cons.1 chain).1, spelled', text, space, ?_⟩
                  simp [Writer.rendered, Writer.added, text, space]

/-- Characters that run together are set apart. -/
theorem needsSpace_of_fuses {writer : Writer} {last next : Char}
    (before : writer.written.head? = some last) (fuses : Writer.fuses last next = true) :
    writer.needsSpace next = true := by
  unfold Writer.needsSpace
  split
  · rename_i empty
    rw [empty] at before
    cases before
  · rename_i first rest written
    rw [written] at before
    cases before
    rw [fuses, Bool.true_or]

theorem getLast_of_word {text : Text} {kind : TokenKind} (word : Lexer.Word text kind) :
    ∃ last, text.getLast? = some last ∧ isIdentifierPart last = true := by
  have nonempty : text ≠ [] := by
    rintro rfl
    cases word.first
  have parts : ∀ c ∈ text, isIdentifierPart c = true := by
    have whole := congrArg Prod.fst word.whole
    simp only [Literal.scanWord, List.span_eq_takeWhile_dropWhile] at whole
    exact List.takeWhile_eq_self_iff.1 whole
  exact ⟨_, List.getLast?_eq_some_getLast nonempty, parts _ (List.getLast_mem nonempty)⟩

theorem stops_of_word {writer : Writer} {kind : TokenKind} {entries : List (Option TokenKind)}
    (behind : writer.Behind kind) (word : Lexer.Word kind.text kind)
    (chain : (kind :: entries.filterMap id).IsChain Adjacent)
    (spelled : ∀ next ∈ entries.filterMap id, next.Spelled) :
    (writer.rendered entries).Stops isIdentifierPart := by
  obtain ⟨last, ends, part⟩ := getLast_of_word word
  rcases rendered_cases chain spelled with empty | ⟨more, blank⟩ |
    ⟨next, first, rest, more, _, _, _, space, written⟩
  · rw [empty]
    exact .nil
  · rw [blank]
    exact .cons (by decide)
  · rw [written]
    refine .cons (Bool.eq_false_iff.2 fun continues => ?_)
    have together : Writer.fuses last first = true := by
      simp [Writer.fuses, isWordCharacter_of_part part, isWordCharacter_of_part continues]
    have fused := needsSpace_of_fuses (behind.last.trans ends) together
    rw [space] at fused
    cases fused

theorem stops_of_regex {writer : Writer} {raw : String} {entries : List (Option TokenKind)}
    (behind : writer.Behind (.regex raw)) (here : (TokenKind.regex raw).Spelled)
    (chain : (.regex raw :: entries.filterMap id).IsChain Adjacent)
    (spelled : ∀ next ∈ entries.filterMap id, next.Spelled) :
    (writer.rendered entries).Stops isIdentifierPart := by
  rcases rendered_cases chain spelled with empty | ⟨more, blank⟩ |
    ⟨next, first, rest, more, _, _, _, space, written⟩
  · rw [empty]
    exact .nil
  · rw [blank]
    exact .cons (by decide)
  · rw [written]
    refine .cons (Bool.eq_false_iff.2 fun continues => ?_)
    have last := behind.last
    rw [List.getLast?_eq_some_getLast here.text_ne_nil] at last
    unfold Writer.needsSpace at space
    split at space
    · rename_i empty
      rw [empty] at last
      cases last
    · rw [behind.regex raw rfl, isWordCharacter_of_part continues] at space
      simp at space

theorem stops_of_number {writer : Writer} {raw : String} {entries : List (Option TokenKind)}
    (chain : (.number raw :: entries.filterMap id).IsChain Adjacent)
    (spelled : ∀ next ∈ entries.filterMap id, next.Spelled) :
    (writer.rendered entries).Stops Literal.continuesNumber := by
  rcases rendered_cases chain spelled with empty | ⟨more, blank⟩ |
    ⟨next, first, rest, more, adjacent, _, text, _, written⟩
  · rw [empty]
    exact .nil
  · rw [blank]
    exact .cons (by decide)
  · rw [written]
    cases adjacent with
    | operand opens starts => cases opens
    | follower ends follows undotted =>
        exact .cons (first_of_followsOperand follows (undotted rfl) first (by rw [text]; rfl))

/-- An operand behind a punctuator. -/
theorem apart_of_operand {writer : Writer} {mark : Punctuator} {next : TokenKind} {first : Char}
    {rest : Text} (behind : writer.Behind (.punctuator mark)) (plain : mark ≠ .optionalChain)
    (opens : (TokenKind.punctuator mark).opensOperand = true)
    (starts : next.startsOperand = true) (spelled : next.Spelled)
    (text : next.text = first :: rest) (space : writer.needsSpace first = false) (more : Text) :
    (TokenKind.punctuator mark).Apart (first :: (rest ++ more)) := by
  have begins := first_of_startsOperand starts spelled text
  have not_listed : first ∉ endsOnly := by
    intro listed
    obtain ⟨start, digit⟩ := not_endsOnly listed
    rcases begins with start' | digit' | ⟨rfl, _⟩ | marks
    · rw [start] at start'
      cases start'
    · rw [digit] at digit'
      cases digit'
    · revert listed
      decide
    · have apart : endsOnly.all (fun c => !operandMarks.contains c) = true := by decide
      simpa [marks] using List.all_eq_true.1 apart first listed
  have unfused (last : Char) (spelling : mark.spelling.toList = [last]) :
      Writer.fuses last first = false := by
    refine Bool.eq_false_iff.2 fun fuses => ?_
    have ends : writer.written.head? = some last := by
      rw [behind.last, show (TokenKind.punctuator mark).text = [last] from spelling]
      rfl
    have fused := needsSpace_of_fuses ends fuses
    rw [space] at fused
    cases fused
  have bare (same : mark = .slash) :
      Text.Stops (fun next => next = '/' || next = '*') (first :: (rest ++ more)) := by
    subst same
    refine .cons (Bool.eq_false_iff.2 fun comment => ?_)
    rw [Bool.or_eq_true, decide_eq_true_eq, decide_eq_true_eq] at comment
    rcases comment with rfl | rfl
    · exact absurd (unfused '/' rfl) (by decide)
    · exact not_listed (by decide)
  have undotted : mark ≠ .dot := by
    rintro rfl
    cases opens
  refine ⟨?_, bare, fun same => absurd same undotted⟩
  cases continues : mark.continues first with
  | false => exact Punctuator.longest?_right plain (.cons continues)
  | true =>
      rcases continuations_of_opens opens first (Punctuator.mem_continuations continues) with
        listed | ⟨rfl, rfl⟩ | ⟨rfl, rfl⟩ | ⟨rfl, rfl⟩
      · exact absurd listed not_listed
      · exact absurd (unfused '+' rfl) (by decide)
      · exact absurd (unfused '-' rfl) (by decide)
      · rcases begins with start | digit | ⟨_, digit, fraction, rfl, decimal⟩ | marks
        · exact absurd start (by decide)
        · exact absurd digit (by decide)
        · exact Punctuator.longest?_question decimal (fraction ++ more)
        · exact absurd marks (by decide)

theorem not_digit_of_start {c : Char} (start : isIdentifierStart c = true) :
    isDecimalDigit c = false := by
  refine Bool.eq_false_iff.2 fun digit => ?_
  simp only [isDecimalDigit, Unicode.isAsciiDigit, Bool.and_eq_true, decide_eq_true_eq] at digit
  have ascii : Unicode.isAscii c = true := isAscii_of_le digit.2 (by decide)
  have below {first : Char} (above : '9' < first) : ¬first ≤ c :=
    fun le => absurd (Char.le_trans le digit.2) (Char.not_le.2 above)
  have small : ¬ 'a' ≤ c := below (by decide)
  have capital : ¬ 'A' ≤ c := below (by decide)
  simp only [isIdentifierStart, Unicode.isAsciiLetter, small, capital, ascii, decide_false,
    Bool.false_and, Bool.or_false, Bool.false_or, Bool.not_true, Bool.or_eq_true,
    decide_eq_true_eq] at start
  rcases start with rfl | rfl
  · exact absurd digit.2 (by decide)
  · exact absurd digit.1 (by decide)

/-- A property behind a dot. -/
theorem apart_of_property {next : TokenKind} {first : Char} {rest : Text}
    (isWord : next.isWord = true) (spelled : next.Spelled) (text : next.text = first :: rest)
    (more : Text) : (TokenKind.punctuator .dot).Apart (first :: (rest ++ more)) := by
  have start : isIdentifierStart first = true := by
    have begins {kind : TokenKind} (word : Lexer.Word next.text kind) :
        isIdentifierStart first = true := by
      have first := word.first
      rw [text] at first
      simp only [List.head?_cons, Option.any_some, Bool.and_eq_true] at first
      exact first.2
    cases next with
    | identifier name => exact begins spelled
    | keyword word => exact begins (Lexer.word_keyword word)
    | _ => cases isWord
  have stops : Punctuator.dot.continues first = false := by
    refine Bool.eq_false_iff.2 fun continues => ?_
    have listed := Punctuator.mem_continuations continues
    rw [show Punctuator.dot.continuations = ['.'] by decide, List.mem_singleton] at listed
    rw [listed] at start
    exact absurd start (by decide)
  have longest : Punctuator.longest? (Punctuator.dot.spelling.toList ++ first :: (rest ++ more)) =
      some .dot :=
    Punctuator.longest?_right (by decide) (.cons stops)
  exact ⟨longest, nofun, fun _ => .cons (not_digit_of_start start)⟩

theorem apart_of_punctuator {writer : Writer} {mark : Punctuator}
    {entries : List (Option TokenKind)} (behind : writer.Behind (.punctuator mark))
    (here : (TokenKind.punctuator mark).Spelled)
    (chain : (.punctuator mark :: entries.filterMap id).IsChain Adjacent)
    (spelled : ∀ next ∈ entries.filterMap id, next.Spelled) :
    (TokenKind.punctuator mark).Apart (writer.rendered entries) := by
  rcases rendered_cases chain spelled with empty | ⟨more, blank⟩ |
    ⟨next, first, rest, more, adjacent, spelled', text, space, written⟩
  · rw [empty]
    exact ⟨Punctuator.longest?_right here.2 .nil, fun _ => .nil, fun _ => .nil⟩
  · have plain : mark.continues ' ' = false := by
      cases mark <;> decide
    rw [blank]
    exact ⟨Punctuator.longest?_right here.2 (.cons plain), fun _ => .cons (by decide),
      fun _ => .cons (by decide)⟩
  · rw [written]
    have shared : (TokenKind.punctuator mark).endsPhrase = true ∨ mark = .leftParen →
        mark.continues first = false ∧ mark ≠ .slash ∧ mark ≠ .dot := by
      intro closes
      have none : mark.continuations = [] ∧ mark ≠ .slash ∧ mark ≠ .dot := by
        rcases closes with ends | rfl
        · revert ends
          clear here behind chain adjacent
          cases mark <;> decide
        · decide
      refine ⟨Bool.eq_false_iff.2 fun continues => ?_, none.2⟩
      have listed := Punctuator.mem_continuations continues
      rw [none.1] at listed
      cases listed
    cases adjacent with
    | operand opens starts =>
        exact apart_of_operand behind here.2 opens starts spelled' text space more
    | follower ends follows undotted =>
        obtain ⟨stops, slash, dot⟩ := shared (.inl ends)
        exact ⟨Punctuator.longest?_right here.2 (.cons stops), fun same => absurd same slash,
          fun same => absurd same dot⟩
    | empty =>
        obtain ⟨stops, slash, dot⟩ := shared (.inr rfl)
        exact ⟨Punctuator.longest?_right here.2 (.cons stops), fun same => absurd same slash,
          fun same => absurd same dot⟩
    | property word => exact apart_of_property word spelled' text more
    | finish => cases spelled'

/-- What is written behind a token does not run together with it. -/
theorem apart_rendered {writer : Writer} {kind : TokenKind} {entries : List (Option TokenKind)}
    (behind : writer.Behind kind) (here : kind.Spelled)
    (chain : (kind :: entries.filterMap id).IsChain Adjacent)
    (spelled : ∀ next ∈ entries.filterMap id, next.Spelled) :
    kind.Apart (writer.rendered entries) := by
  cases kind with
  | identifier name => exact stops_of_word behind here chain spelled
  | keyword word => exact stops_of_word behind (Lexer.word_keyword word) chain spelled
  | regex raw => exact stops_of_regex behind here chain spelled
  | number raw => exact stops_of_number chain spelled
  | string raw => exact trivial
  | punctuator mark => exact apart_of_punctuator behind here chain spelled
  | template part raw => cases here
  | endOfInput => cases here

/-! ## Reading the text again -/

namespace Lexer

variable {lexer : Lexer}

theorem ahead_space {endsOperand : TokenKind → Bool} {tail : Text} {kinds : List TokenKind}
    (next : lexer.rest = ' ' :: tail)
    (ahead : Ahead endsOperand (lexer.advance [' '] tail) kinds) :
    Ahead endsOperand lexer kinds := by
  cases ahead with
  | nil => exact .nil _
  | cons reads stands ahead => exact .cons ((nextWith_space next).trans reads) stands ahead

/-- A slash is not guessed to end an operand that is still to come. -/
theorem endsOperand_of_opens {kind : TokenKind} (opens : kind.opensOperand = true) :
    kind.endsOperand = false := by
  cases kind with
  | keyword word =>
      revert opens
      cases word <;> decide
  | punctuator mark =>
      revert opens
      cases mark <;> decide
  | _ => cases opens

/-- The token in front of a text that does not run together with it, where the next token is
expected to be what follows it. -/
theorem ahead_meets {last kind : TokenKind} {tail : Text} {kinds : List TokenKind}
    (placed : lexer.Placed) (next : lexer.rest = kind.text ++ tail) (whole : lexer.templates = [])
    (guess : lexer.regexAllowed = !last.endsOperand) (adjacent : Adjacent last kind)
    (spelled : kind.Spelled) (apart : kind.Apart tail)
    (more : ∀ after : Lexer, after.Placed → after.rest = tail → after.templates = [] →
      (after.rest = [] ∨ after.regexAllowed = !kind.endsOperand) →
      Ahead TokenKind.endsOperand after kinds) :
    Ahead TokenKind.endsOperand lexer (kind :: kinds) := by
  by_cases slash : kind = .punctuator .slash
  · subst slash
    have opens : TokenKind.endsOperand (.punctuator .slash) = false := rfl
    obtain ⟨token, after, last, reads, stands, placed', rest, guess', whole'⟩ :=
      nextWith_slash opens placed apart next whole
    refine .cons reads stands (more last placed' rest whole' ?_)
    rw [rest]
    exact guess'
  · have expected (raw : String) (same : kind = .regex raw) : lexer.regexAllowed = true := by
      subst same
      rw [guess]
      cases adjacent with
      | operand opens starts => rw [endsOperand_of_opens opens]; rfl
      | follower ends follows undotted => cases follows
      | property isWord => cases isWord
    have meets := meets_spelled spelled apart whole expected fun same => absurd same slash
    have reads : lexer.nextWith TokenKind.endsOperand = _ := nextWith_meets meets next
    exact .cons reads (.plain _ _)
      (more _ (placed.reads reads).1 rfl whole (.inr rfl))

/-- The tokens of the text that tokens and blanks add to the output are these tokens. -/
theorem ahead_rendered (entries : List (Option TokenKind)) :
    ∀ (writer : Writer) (lexer : Lexer) (last : TokenKind), lexer.Placed →
      lexer.rest = writer.rendered entries → lexer.templates = [] →
      (lexer.rest = [] ∨ lexer.regexAllowed = !last.endsOperand) →
      (last :: entries.filterMap id).IsChain Adjacent →
      (∀ next ∈ entries.filterMap id, next.Spelled) →
      Ahead TokenKind.endsOperand lexer (entries.filterMap id ++ [.endOfInput]) := by
  induction entries with
  | nil =>
      intro writer lexer last placed next whole guess chain spelled
      exact .cons (nextWith_nil next) (.plain _ _) (.nil _)
  | cons entry entries ih =>
      intro writer lexer last placed next whole guess chain spelled
      cases entry with
      | none =>
          have blank : lexer.rest = ' ' :: (Print.item none writer).rendered entries := next
          have moves : lexer.Passes [' '] (lexer.advance [' '] _) := passes_advance blank
          refine ahead_space blank (ih (Print.item none writer) _ last (placed.passes moves) rfl
            whole (.inr ?_) chain spelled)
          rcases guess with ends | guess
          · rw [blank] at ends
            cases ends
          · exact guess
      | some kind =>
          have spelled' : kind.Spelled := spelled kind List.mem_cons_self
          obtain ⟨adjacent, chain'⟩ := List.isChain_cons_cons.1 chain
          have later (next : TokenKind) (listed : next ∈ entries.filterMap id) : next.Spelled :=
            spelled next (List.mem_cons_of_mem _ listed)
          have behind : (Print.item (some kind) writer).Behind kind :=
            writer.behind_item spelled'.text_ne_nil
          have apart := apart_rendered behind spelled' chain' later
          have more (after : Lexer) (placed : after.Placed)
              (next : after.rest = (Print.item (some kind) writer).rendered entries)
              (whole : after.templates = [])
              (guess : after.rest = [] ∨ after.regexAllowed = !kind.endsOperand) :
              Ahead TokenKind.endsOperand after (entries.filterMap id ++ [.endOfInput]) :=
            ih _ after kind placed next whole guess chain' later
          have guess' : lexer.regexAllowed = !last.endsOperand := by
            rcases guess with ends | guess
            · rw [next, Writer.rendered, Writer.added] at ends
              simp [spelled'.text_ne_nil] at ends
            · exact guess
          rw [Writer.rendered, Writer.added] at next
          by_cases space : kind.text.head?.any writer.needsSpace = true
          · rw [if_pos space] at next
            have moves : lexer.Passes [' '] (lexer.advance [' '] _) := passes_advance next
            exact ahead_space next (ahead_meets (placed.passes moves) rfl whole guess' adjacent
              spelled' apart more)
          · rw [if_neg space] at next
            exact ahead_meets placed next whole guess' adjacent spelled' apart more

end Lexer

end Ecmascript
