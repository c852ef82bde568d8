import Ecmascript.Proofs.Offset.Basic

/-!
# Words and numbers by offsets

A word and a number are cut out of the source once their end is found. A number looks at its first
character, and at what follows the sign of an exponent, as single bytes.
-/

set_option autoImplicit false

namespace Ecmascript.Cursor

open Character Lexer

variable {lexer after : Lexer} {front rest : Text} {first c : Char}

theorem gives_scanWord (inRange : lexer.InRange) (next : lexer.rest = first :: rest)
    (part : isIdentifierPart first = true) :
    Gives (scanWord lexer.position) (lexer.advance [first] rest)
      (wordKind (Literal.scanWord (first :: rest)).1,
        lexer.past (Literal.scanWord (first :: rest))) := by
  have second : (lexer.advance [first] rest).InRange := inRange.advance next
  rw [scanWord_cons part]
  refine (gives_advanceWhile isIdentifierPart second rfl).bind ?_
  rw [past_advance]
  have moves : lexer.Passes (first :: (Literal.scanWord rest).1)
      (lexer.advance (first :: (Literal.scanWord rest).1) (Literal.scanWord rest).2) :=
    passes_advance (by rw [next, List.cons_append, Literal.scanWord_append])
  exact gives_lexeme inRange moves _

theorem gives_rawNumber (inRange : lexer.InRange) (moves : lexer.Passes front after) :
    Gives (rawNumber lexer.position) after (.number (String.ofList front), after) :=
  gives_lexeme inRange moves _

theorem gives_eat_suffix (inRange : lexer.InRange) (next : lexer.rest = rest) :
    ∃ found, Gives (eat 'n') lexer (found, lexer.past (Literal.scanBigSuffix rest)) := by
  unfold Literal.scanBigSuffix
  split
  · exact ⟨_, gives_eat inRange next⟩
  · next other =>
    refine ⟨false, ?_⟩
    rw [past_nil next]
    refine gives_eat_other inRange fun same => ?_
    rw [next] at same
    exact other _ (List.eq_cons_of_mem_head? same)

/-- Characters that a number begins with have one byte. -/
theorem ascii_of_digit (digit : isDecimalDigit first = true ∨ first = '.') : first.val ≤ 127 := by
  rcases digit with digit | rfl
  · simp only [isDecimalDigit, Unicode.isAsciiDigit, Bool.and_eq_true, decide_eq_true_eq] at digit
    exact UInt32.le_trans digit.2 (by decide)
  · decide

theorem gives_scanFraction {start : Lexer} (begins : start.InRange)
    (stands : start.rest = first :: front) (digit : isDecimalDigit first = true ∨ first = '.')
    (inRange : lexer.InRange) (same : lexer.source = start.source) (next : lexer.rest = rest) :
    Gives (scanFraction start.position) lexer
      ((), lexer.past (if first = '.' then ([], rest) else Literal.scanFraction rest)) := by
  have ascii := ascii_of_digit digit
  have isDot : first.val.toUInt8 = 46 ↔ first = '.' :=
    Text.toUInt8_inj (d := '.') ascii (by decide)
  refine (gives_byteAt begins stands ascii same).bind ?_
  by_cases dot : first = '.'
  · rw [if_neg (not_not.2 (isDot.2 dot)), if_pos dot, past_nil next]
    exact .pure _ _
  · rw [if_pos (mt isDot.1 dot), if_neg dot]
    unfold Literal.scanFraction
    split
    · next more =>
      have second : (lexer.advance ['.'] more).InRange := inRange.advance next
      have digits := gives_advanceWhile isDigitOrSeparator second rfl
      rw [past_advance] at digits
      exact (gives_eat inRange next).bind digits
    · next other =>
      rw [past_nil next]
      refine (gives_eat_other inRange fun same => ?_).bind (.pure _ _)
      rw [next] at same
      exact other _ (List.eq_cons_of_mem_head? same)

/-- Whether what follows the mark of an exponent is one. -/
def isExponent : Text → Bool
  | [] => false
  | next :: more =>
      isDecimalDigit next || ((next = '+' || next = '-') && more.head?.any isDecimalDigit)

theorem gives_digitsFollow {mark : Char} (ascii : mark.val ≤ 127) (inRange : lexer.InRange)
    (next : lexer.rest = mark :: rest) :
    Gives digitsFollow lexer (isExponent rest, lexer) := by
  refine .peekNext inRange next ?_
  cases rest with
  | nil => exact .pure _ _
  | cons c more =>
      rw [isExponent, List.tail_cons, List.head?_cons]
      cases digit : isDecimalDigit c with
      | true =>
          simp only [digit, if_true]
          exact .pure _ _
      | false =>
          simp only [digit, Bool.false_eq_true, if_false, Bool.false_or]
          by_cases sign : c = '+' ∨ c = '-'
          · have two : Text.byteLength [mark, c] = 2 := by
              have one := Char.utf8Size_eq_one_iff.2 ascii
              rcases sign with rfl | rfl <;> simp [Text.byteLength, one] <;> rfl
            have bytes : Gives (bytesFrom (lexer.position + Text.byteLength [mark, c])) lexer
                (Text.bytes more, lexer) := gives_bytesFrom inRange next
            rw [two] at bytes
            simp only [if_pos sign]
            refine (gives_here lexer).bind (bytes.bind ?_)
            rw [Text.isDigitByte_head_bytes]
            have signs : (decide (c = '+') || decide (c = '-')) = true := by simpa using sign
            rw [signs, Bool.true_and]
            exact .pure _ _
          · have signs : (decide (c = '+') || decide (c = '-')) = false := by simpa using sign
            simp only [if_neg sign, signs, Bool.false_and]
            exact .pure _ _

theorem gives_eatSign (inRange : lexer.InRange) (next : lexer.rest = c :: rest)
    (sign : c = '+' ∨ c = '-') : Gives eatSign lexer ((), lexer.advance [c] rest) := by
  refine .peek inRange next ?_
  rw [List.head?_cons, if_pos (by simpa using sign)]
  exact (gives_advance inRange next).bind (.pure _ _)

theorem gives_eatSign_other (inRange : lexer.InRange) (next : lexer.rest = c :: rest)
    (other : ¬ (c = '+' ∨ c = '-')) : Gives eatSign lexer ((), lexer) := by
  refine .peek inRange next ?_
  rw [List.head?_cons, if_neg (by simpa using other)]
  exact .pure _ _

theorem gives_scanExponent (inRange : lexer.InRange) (next : lexer.rest = rest) :
    Gives scanExponent lexer ((), lexer.past (Literal.scanExponent rest)) := by
  refine .peek inRange next ?_
  cases rest with
  | nil =>
      rw [Literal.scanExponent, past_nil next]
      exact .pure _ _
  | cons mark rest =>
      simp only [Literal.scanExponent, List.head?_cons, Option.some.injEq]
      by_cases marks : mark = 'e' ∨ mark = 'E'
      · have ascii : mark.val ≤ 127 := by rcases marks with rfl | rfl <;> decide
        have second : (lexer.advance [mark] rest).InRange := inRange.advance next
        rw [if_pos marks, if_pos (by simpa using marks)]
        refine (gives_digitsFollow ascii inRange next).bind ?_
        cases rest with
        | nil =>
            rw [past_nil next]
            exact .pure _ _
        | cons c more =>
            dsimp only
            by_cases digit : isDecimalDigit c = true
            · have other : ¬ (c = '+' ∨ c = '-') := by
                rintro (rfl | rfl) <;> cases digit
              have digits := gives_advanceWhile isDigitOrSeparator second rfl
              rw [past_advance] at digits
              rw [if_pos (by simp [isExponent, digit]), if_pos digit]
              refine (gives_advance inRange next).bind ?_
              exact (gives_eatSign_other second rfl other).bind digits
            rw [if_neg digit]
            by_cases signs : ((c = '+' || c = '-') && more.head?.any isDecimalDigit) = true
            · have third : ((lexer.advance [mark] (c :: more)).advance [c] more).InRange :=
                second.advance rfl
              have digits := gives_advanceWhile isDigitOrSeparator third rfl
              rw [past_advance, past_advance] at digits
              rw [if_pos (by simp only [isExponent, signs, Bool.or_true]), if_pos signs]
              simp only [Bool.and_eq_true, Bool.or_eq_true, decide_eq_true_eq] at signs
              refine (gives_advance inRange next).bind ?_
              exact (gives_eatSign second rfl signs.1).bind digits
            · have absent : ¬ isExponent (c :: more) = true := by
                rw [isExponent, Bool.or_eq_true]
                exact not_or.2 ⟨digit, signs⟩
              rw [if_neg absent, if_neg signs, past_nil next]
              exact .pure _ _
      · rw [if_neg marks, if_neg (by simpa using marks), past_nil next]
        exact .pure _ _

theorem fraction_append (first : Char) (text : Text) :
    (if first = '.' then ([], text) else Literal.scanFraction text).1 ++
      (if first = '.' then ([], text) else Literal.scanFraction text).2 = text := by
  split
  · rfl
  · exact Literal.scanFraction_append text

theorem gives_scanDecimal {start : Lexer} (inRange : start.InRange)
    (next : start.rest = first :: rest) (digit : isDecimalDigit first = true ∨ first = '.') :
    Gives (scanDecimal start.position) (start.advance [first] rest)
      (.number (String.ofList (Literal.scanDecimal (first :: rest)).1),
        start.past (Literal.scanDecimal (first :: rest))) := by
  have second : (start.advance [first] rest).InRange := inRange.advance next
  have third := second.past (Literal.span_append isDigitOrSeparator rest)
  have fourth := third.past (fraction_append first _)
  have fifth := fourth.past (Literal.scanExponent_append _)
  have moves : start.Passes (Literal.scanDecimal (first :: rest)).1
      (start.past (Literal.scanDecimal (first :: rest))) :=
    passes_advance (next.trans (Literal.scanDecimal_append _).symm)
  obtain ⟨found, suffix⟩ := gives_eat_suffix fifth rfl
  refine (gives_advanceWhile isDigitOrSeparator second rfl).bind ?_
  refine (gives_scanFraction inRange next digit third rfl rfl).bind ?_
  refine (gives_scanExponent fourth rfl).bind (suffix.bind ?_)
  have number := gives_rawNumber inRange moves
  simp only [past_advance, past_past]
  simp only [Literal.scanDecimal] at number ⊢
  exact number

theorem gives_scanNumber {start : Lexer} (inRange : start.InRange)
    (next : start.rest = first :: rest) (digit : isDecimalDigit first = true) :
    Gives (scanNumber start.position) (start.advance [first] rest)
      (.number (String.ofList (Literal.scanNumber (first :: rest)).1),
        start.past (Literal.scanNumber (first :: rest))) := by
  have second : (start.advance [first] rest).InRange := inRange.advance next
  have ascii := ascii_of_digit (.inl digit)
  have isZero : first.val.toUInt8 = 48 ↔ first = '0' :=
    Text.toUInt8_inj (d := '0') ascii (by decide)
  have decimal := gives_scanDecimal inRange next (.inl digit)
  have byte : Gives (byteAt start.position) (start.advance [first] rest)
      (first.val.toUInt8, start.advance [first] rest) := gives_byteAt inRange next ascii rfl
  refine byte.bind ?_
  by_cases zero : first = '0'
  · rw [if_pos (isZero.2 zero)]
    subst zero
    cases rest with
    | nil => exact .peek second rfl decimal
    | cons mark more =>
        refine .peek second (rest_advance _ _ _) ?_
        rw [Literal.scanNumber, List.head?_cons, Option.bind_some]
        cases radix : Literal.radixDigit? mark with
        | none => exact decimal
        | some isDigit =>
            have third : ((start.advance ['0'] (mark :: more)).advance [mark] more).InRange :=
              second.advance rfl
            have fourth := third.past (Literal.span_append (fun c => isDigit c || c = '_') more)
            obtain ⟨found, suffix⟩ := gives_eat_suffix fourth rfl
            refine (gives_advance second rfl).bind ?_
            refine (gives_advanceWhile _ third rfl).bind (suffix.bind ?_)
            have moves : start.Passes (Literal.scanNumber ('0' :: mark :: more)).1
                (start.past (Literal.scanNumber ('0' :: mark :: more))) :=
              passes_advance (next.trans (Literal.scanNumber_append _).symm)
            have number := gives_rawNumber inRange moves
            simp only [past_advance, past_past]
            simp only [Literal.scanNumber, radix] at number
            exact number
  · rw [if_neg (mt isZero.1 zero)]
    have other : Literal.scanNumber (first :: rest) = Literal.scanDecimal (first :: rest) := by
      unfold Literal.scanNumber
      split
      · next same => exact absurd (List.cons.inj same).1 zero
      · rfl
    rw [other]
    exact decimal

end Ecmascript.Cursor
