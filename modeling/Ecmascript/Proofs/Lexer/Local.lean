import Mathlib.Data.List.Nodup
import Mathlib.Data.List.TakeWhile
import Ecmascript.Proofs.Lexer.Scan

/-!
# Scanners look no further than one character

A scanner that has read a whole text reads the same part of a longer text, provided that the
character behind it does not continue what it read. A delimited literal ends at its delimiter, so
nothing is asked of what follows it.
-/

set_option autoImplicit false

namespace Ecmascript

open Character

/-- No text continues with a character of a class. -/
def Text.Stops (p : Char → Bool) (tail : Text) : Prop :=
  ∀ c ∈ tail.head?, p c = false

namespace Text.Stops

variable {p q : Char → Bool} {tail : Text}

theorem nil : Stops p [] := by
  nofun

theorem cons {c : Char} {rest : Text} (stops : p c = false) : Stops p (c :: rest) := by
  intro other same
  cases same
  exact stops

theorem mono (stops : Stops p tail) (less : ∀ c, q c = true → p c = true) : Stops q tail := by
  intro c same
  cases inside : q c with
  | false => rfl
  | true =>
      have outside := stops c same
      rw [less c inside] at outside
      cases outside

end Text.Stops

namespace Literal

/-! ## Words and numbers -/

theorem span_right {p : Char → Bool} (front : Text) {tail : Text} (stops : tail.Stops p) :
    (front ++ tail).span p = ((front.span p).1, (front.span p).2 ++ tail) := by
  simp only [List.span_eq_takeWhile_dropWhile]
  induction front with
  | nil =>
      cases tail with
      | nil => rfl
      | cons c rest =>
          have outside := stops c rfl
          simp [outside]
  | cons c front ih =>
      simp only [List.cons_append, List.takeWhile_cons, List.dropWhile_cons]
      cases p c with
      | true =>
          simp only [Prod.mk.injEq] at ih
          simp [ih.1, ih.2]
      | false => simp

theorem scanWord_right (front : Text) {tail : Text} (stops : tail.Stops isIdentifierPart) :
    scanWord (front ++ tail) = ((scanWord front).1, (scanWord front).2 ++ tail) :=
  span_right front stops

/-- A word goes as far as there are characters that may continue it. -/
theorem scanWord_eq_iff {text word left : Text} : scanWord text = (word, left) ↔
    text = word ++ left ∧ (∀ c ∈ word, isIdentifierPart c = true) ∧
      left.Stops isIdentifierPart := by
  constructor
  · intro scans
    have whole := scanWord_append text
    rw [scans] at whole
    rw [scanWord, List.span_eq_takeWhile_dropWhile, Prod.mk.injEq] at scans
    obtain ⟨rfl, rfl⟩ := scans
    refine ⟨whole.symm, fun c member => List.mem_takeWhile_imp member, fun c member => ?_⟩
    have stops := List.head?_dropWhile_not isIdentifierPart text
    rw [Option.mem_def.1 member] at stops
    exact stops
  · rintro ⟨rfl, inner, stops⟩
    rw [scanWord, List.span_eq_takeWhile_dropWhile, List.takeWhile_append_of_pos inner,
      List.dropWhile_append_of_pos inner]
    cases left with
    | nil => simp
    | cons c left => simp [stops c rfl]

/-- Characters that may continue a number that is complete. -/
def continuesNumber (c : Char) : Bool :=
  isDigitOrSeparator c || isHexDigit c || (radixDigit? c).isSome || c = 'n' || c = '.'

theorem scanBigSuffix_right (front : Text) {tail : Text} (stops : tail.Stops continuesNumber) :
    scanBigSuffix (front ++ tail) = ((scanBigSuffix front).1, (scanBigSuffix front).2 ++ tail) := by
  cases front with
  | nil =>
      cases tail with
      | nil => rfl
      | cons c rest =>
          have other : c ≠ 'n' := by
            rintro rfl
            exact absurd (stops 'n' rfl) (by decide)
          simp [scanBigSuffix, other]
  | cons c front =>
      by_cases suffix : c = 'n'
      · subst suffix
        rfl
      · simp [scanBigSuffix, suffix]

theorem scanFraction_right (front : Text) {tail : Text} (stops : tail.Stops continuesNumber) :
    scanFraction (front ++ tail) = ((scanFraction front).1, (scanFraction front).2 ++ tail) := by
  have digits : tail.Stops isDigitOrSeparator := stops.mono fun c inside => by
    simp [continuesNumber, inside]
  cases front with
  | nil =>
      cases tail with
      | nil => rfl
      | cons c rest =>
          have other : c ≠ '.' := by
            rintro rfl
            exact absurd (stops '.' rfl) (by decide)
          simp [scanFraction, other]
  | cons c front =>
      by_cases dot : c = '.'
      · subst dot
        simp only [scanFraction, List.cons_append, span_right front digits]
      · simp [scanFraction, dot]

/-- An exponent needs a digit behind its mark, so a mark by itself is no part of a number. -/
theorem scanExponent_right (front : Text) {tail : Text} (stops : tail.Stops continuesNumber)
    (complete : front ≠ ['e'] ∧ front ≠ ['E']) :
    scanExponent (front ++ tail) = ((scanExponent front).1, (scanExponent front).2 ++ tail) := by
  have digits : tail.Stops isDigitOrSeparator := stops.mono fun c inside => by
    simp [continuesNumber, inside]
  have decimal : tail.Stops isDecimalDigit := stops.mono fun c inside => by
    simp only [isDecimalDigit] at inside
    simp [continuesNumber, isDigitOrSeparator, inside]
  match front with
  | [] =>
      cases tail with
      | nil => rfl
      | cons c rest =>
          have other := stops c rfl
          have not_mark : (c = 'e' || c = 'E') = false := by
            rw [Bool.eq_false_iff]
            intro mark
            rw [Bool.or_eq_true, decide_eq_true_eq, decide_eq_true_eq] at mark
            rcases mark with rfl | rfl <;> exact absurd other (by decide)
          simp [scanExponent, not_mark]
  | [mark] =>
      have not_mark : (mark = 'e' || mark = 'E') = false := by
        rw [Bool.eq_false_iff]
        intro marks
        rw [Bool.or_eq_true, decide_eq_true_eq, decide_eq_true_eq] at marks
        rcases marks with rfl | rfl
        · exact complete.1 rfl
        · exact complete.2 rfl
      simp [scanExponent, not_mark]
  | mark :: next :: more =>
      have sign : (more ++ tail).head?.any isDecimalDigit = more.head?.any isDecimalDigit := by
        cases more with
        | cons c more => rfl
        | nil =>
            cases tail with
            | nil => rfl
            | cons c rest => simp [decimal c rfl]
      have first := span_right (next :: more) digits
      rw [List.cons_append] at first
      have second := span_right more digits
      simp only [scanExponent, List.cons_append, sign, first, second]
      split
      · split
        · rfl
        · split <;> rfl
      · rfl

/-- The mark of an exponent is not left over by a number that is read whole. -/
theorem not_mark_of_complete {front : Text}
    (complete : (scanBigSuffix (scanExponent front).2).2 = []) :
    front ≠ ['e'] ∧ front ≠ ['E'] := by
  constructor
  · rintro rfl
    exact absurd complete (by decide)
  · rintro rfl
    exact absurd complete (by decide)

theorem scanDecimal_right (front : Text) {tail : Text} (stops : tail.Stops continuesNumber)
    (nonempty : front ≠ []) (complete : (scanDecimal front).2 = []) :
    scanDecimal (front ++ tail) = ((scanDecimal front).1, tail) := by
  have digits : tail.Stops isDigitOrSeparator := stops.mono fun c inside => by
    simp [continuesNumber, inside]
  cases front with
  | nil => exact absurd rfl nonempty
  | cons first rest =>
      have whole := span_right rest digits
      have fraction (left : Text) :
          (if first = '.' then ([], left ++ tail) else scanFraction (left ++ tail)) =
            ((if first = '.' then ([], left) else scanFraction left).1,
              (if first = '.' then ([], left) else scanFraction left).2 ++ tail) := by
        split
        · rfl
        · exact scanFraction_right left stops
      simp only [scanDecimal] at complete
      have exponent := scanExponent_right _ stops (not_mark_of_complete complete)
      simp only [scanDecimal, List.cons_append, whole, fraction, exponent,
        scanBigSuffix_right _ stops, complete, List.nil_append]

/-- The digits behind any radix mark are hexadecimal ones. -/
theorem isHexDigit_of_radixDigit {mark : Char} {isDigit : Char → Bool}
    (radix : radixDigit? mark = some isDigit) (c : Char) (digit : isDigit c = true) :
    isHexDigit c = true := by
  have octal (c : Char) (digit : isOctalDigit c = true) : isHexDigit c = true := by
    simp only [isOctalDigit, Bool.and_eq_true, decide_eq_true_eq] at digit
    have nine : c ≤ '9' := Char.le_trans digit.2 (by decide)
    simp [isHexDigit, Unicode.isAsciiDigit, digit.1, nine]
  have binary (c : Char) (digit : isBinaryDigit c = true) : isHexDigit c = true := by
    simp only [isBinaryDigit, Bool.or_eq_true, decide_eq_true_eq] at digit
    rcases digit with rfl | rfl <;> decide
  simp only [radixDigit?] at radix
  split at radix
  · cases radix
    exact digit
  split at radix
  · cases radix
    exact octal c digit
  split at radix
  · cases radix
    exact binary c digit
  · cases radix

theorem scanNumber_right (front : Text) {tail : Text} (stops : tail.Stops continuesNumber)
    (nonempty : front ≠ []) (complete : (scanNumber front).2 = []) :
    scanNumber (front ++ tail) = ((scanNumber front).1, tail) := by
  have no_radix : tail.Stops fun c => (radixDigit? c).isSome := stops.mono fun c inside => by
    simp [continuesNumber, inside]
  match front with
  | [] => exact absurd rfl nonempty
  | [first] =>
      have alone : scanNumber [first] = scanDecimal [first] := by
        unfold scanNumber
        split
        · rename_i same
          cases same
        · rfl
      have longer : scanNumber ([first] ++ tail) = scanDecimal ([first] ++ tail) := by
        unfold scanNumber
        split
        · rename_i mark rest same
          cases same
          have none : radixDigit? mark = none := by simpa using no_radix mark rfl
          simp [none]
        · rfl
      rw [alone] at complete
      rw [longer, alone]
      exact scanDecimal_right [first] stops nonempty complete
  | first :: mark :: rest =>
      by_cases zero : first = '0'
      · subst zero
        cases radix : radixDigit? mark with
        | none =>
            have decimal (text : Text) :
                scanNumber ('0' :: mark :: text) = scanDecimal ('0' :: mark :: text) := by
              simp [scanNumber, radix]
            rw [decimal] at complete
            rw [List.cons_append, List.cons_append, decimal, decimal]
            exact scanDecimal_right _ stops nonempty complete
        | some isDigit =>
            have digits : tail.Stops fun c => isDigit c || c = '_' := stops.mono fun c inside => by
              simp only [Bool.or_eq_true, decide_eq_true_eq] at inside
              rcases inside with digit | rfl
              · simp [continuesNumber, isHexDigit_of_radixDigit radix c digit]
              · decide
            simp only [scanNumber, radix] at complete
            simp only [scanNumber, radix, List.cons_append, span_right rest digits,
              scanBigSuffix_right _ stops, complete, List.nil_append]
      · have decimal (text : Text) :
            scanNumber (first :: mark :: text) = scanDecimal (first :: mark :: text) := by
          simp [scanNumber, zero]
        rw [decimal] at complete
        rw [List.cons_append, List.cons_append, decimal, decimal]
        exact scanDecimal_right _ stops nonempty complete

/-! ## Delimited literals -/

/-- A scan in a text that goes on. -/
def extend (scan : Scan) (tail : Text) : Scan :=
  { scan with rest := scan.rest ++ tail }

theorem scanString_right {quote : Char} (plain : quote ≠ '\\') (text tail : Text)
    (closed : (scanString quote text).closed = true) :
    scanString quote (text ++ tail) = extend (scanString quote text) tail := by
  fun_induction scanString quote text with
  | case1 => cases closed
  | case2 rest ih =>
      simp only [List.cons_append, scanString]
      rw [ih closed]
      rfl
  | case3 c rest next ih =>
      rw [List.cons_append, List.cons_append, scanString]
      · rw [ih closed]
        rfl
      · intro more first second
        cases rest with
        | nil => cases closed
        | cons d rest =>
            injection second with second _
            exact next rest first (by rw [second])
  | case4 rest =>
      rw [List.cons_append, scanString]
      · simp [extend]
      · exact fun _ same => absurd same plain
      · exact fun _ _ same => absurd same plain
  | case5 => cases closed
  | case6 c rest _ alone other goes_on ih =>
      have not_escape : c ≠ '\\' := by
        intro escape
        cases rest with
        | nil => cases closed
        | cons d rest => exact alone d rest escape rfl
      rw [List.cons_append, scanString]
      · rw [if_neg other, if_neg goes_on, ih closed]
        rfl
      · exact fun _ same => absurd same not_escape
      · exact fun _ _ same => absurd same not_escape

theorem scanRegexBody_right (inClass : Bool) (text tail : Text)
    (closed : (scanRegexBody inClass text).closed = true) :
    scanRegexBody inClass (text ++ tail) = extend (scanRegexBody inClass text) tail := by
  fun_induction scanRegexBody inClass text with
  | case1 => cases closed
  | case2 inClass c rest ends => cases closed
  | case3 inClass c rest goes_on ih =>
      rw [List.cons_append, List.cons_append, scanRegexBody, if_neg goes_on, ih closed]
      rfl
  | case4 inClass c rest alone closes =>
      have slash : c ≠ '\\' := by
        rintro rfl
        simp at closes
      rw [List.cons_append, scanRegexBody]
      · rw [if_pos closes]
        rfl
      · exact fun _ _ same => absurd same slash
  | case5 inClass c rest _ goes ends => cases closed
  | case6 inClass c rest alone goes on next ih =>
      have not_escape : c ≠ '\\' := by
        intro escape
        cases rest with
        | nil => cases closed
        | cons d rest => exact alone d rest escape rfl
      rw [List.cons_append, scanRegexBody]
      · rw [if_neg goes, if_neg on]
        exact congrArg (Scan.prepend [c]) (ih closed)
      · exact fun _ _ same => absurd same not_escape

theorem scanRegex_right (text : Text) {tail : Text} (stops : tail.Stops isIdentifierPart)
    (closed : (scanRegex text).closed = true) :
    scanRegex (text ++ tail) = extend (scanRegex text) tail := by
  have body_closed : (scanRegexBody false text).closed = true := by
    by_contra open_
    simp only [scanRegex] at closed
    rw [if_neg open_] at closed
    exact open_ closed
  have body := scanRegexBody_right false text tail body_closed
  simp only [scanRegex, body, extend, body_closed, if_true, scanWord_right _ stops]

end Literal

namespace Punctuator

/-- No spelling stands before one that it begins. -/
theorem all_ordered :
    all.Pairwise fun first second => ¬first.spelling.toList <+: second.spelling.toList := by
  decide +kernel

theorem spelling_ne {first second : Punctuator} (different : first ≠ second) :
    first.spelling.toList ≠ second.spelling.toList := by
  have distinct : (all.map fun mark => mark.spelling.toList).Nodup := by
    refine List.pairwise_map.2 (all_ordered.imp fun apart same => apart ?_)
    exact same ▸ List.prefix_rfl
  exact fun same => different
    (List.inj_on_of_nodup_map distinct (all_complete first) (all_complete second) same)

theorem longest?_eq (text : Text) :
    longest? text = all.find? fun mark => begins (mark.spelling.toList, mark) text := by
  simp [longest?, table, List.find?_map, Function.comp_def, Option.map_map]

/-- A punctuator is read where it begins the text and none that is longer does. -/
theorem longest?_of_maximal {mark : Punctuator} {text : Text}
    (here : begins (mark.spelling.toList, mark) text = true)
    (maximal : ∀ other : Punctuator, mark.spelling.toList <+: other.spelling.toList →
      other ≠ mark → begins (other.spelling.toList, other) text = false) :
    longest? text = some mark := by
  rw [longest?_eq]
  cases found : all.find? fun mark => begins (mark.spelling.toList, mark) text with
  | none => exact absurd here (List.find?_eq_none.1 found mark (all_complete mark))
  | some other =>
      by_cases same : other = mark
      · rw [same]
      exfalso
      obtain ⟨first, before, after, split, earlier⟩ := List.find?_eq_some_iff_append.1 found
      have initial (mark : Punctuator) (begins : begins (mark.spelling.toList, mark) text = true) :
          mark.spelling.toList <+: text := by
        simp only [Punctuator.begins, Bool.and_eq_true] at begins
        exact List.isPrefixOf_iff_prefix.1 begins.1
      rcases List.prefix_or_prefix_of_prefix (initial mark here) (initial other first) with
        longer | shorter
      · rw [maximal other longer same] at first
        cases first
      · have listed := all_complete mark
        have ordered := all_ordered
        rw [split] at listed ordered
        rcases List.mem_append.1 listed with sooner | later
        · have fails := earlier mark sooner
          rw [here] at fails
          cases fails
        · rcases List.mem_cons.1 later with same' | later
          · exact same same'.symm
          · have split_order := (List.pairwise_append.1 ordered).2.1
            exact (List.pairwise_cons.1 split_order).1 mark later shorter

/-- Whether a character behind a punctuator makes it a longer one, or the beginning of one. -/
def continues (mark : Punctuator) (c : Char) : Bool :=
  all.any fun other => (mark.spelling.toList ++ [c]).isPrefixOf other.spelling.toList

theorem longest?_right {mark : Punctuator} (plain : mark ≠ .optionalChain) {tail : Text}
    (stops : tail.Stops mark.continues) :
    longest? (mark.spelling.toList ++ tail) = some mark := by
  have here : begins (mark.spelling.toList, mark) (mark.spelling.toList ++ tail) = true := by
    simp [begins, plain]
  refine longest?_of_maximal here fun other longer different => ?_
  rw [Bool.eq_false_iff]
  intro begins
  simp only [Punctuator.begins, Bool.and_eq_true] at begins
  obtain ⟨more, spelled⟩ := longer
  have further := List.isPrefixOf_iff_prefix.1 begins.1
  rw [← spelled, List.prefix_append_right_inj] at further
  cases more with
  | nil => exact spelling_ne different (by simpa using spelled.symm)
  | cons c more =>
      obtain ⟨rest, rfl⟩ := further
      have inside : mark.continues c = true := by
        refine List.any_eq_true.2 ⟨other, all_complete other, ?_⟩
        rw [List.isPrefixOf_iff_prefix, ← spelled]
        exact ⟨more, by simp⟩
      rw [stops c rfl] at inside
      cases inside

/-- Before a dot and a digit, a question mark is not an optional chain. -/
theorem longest?_question {digit : Char} (decimal : isDecimalDigit digit = true) (rest : Text) :
    longest? ('?' :: '.' :: digit :: rest) = some .question := by
  refine longest?_of_maximal rfl fun other longer different => ?_
  have choices : other = .optionalChain ∨ other = .nullish ∨ other = .nullishAssign := by
    revert longer different
    cases other <;> decide
  rcases choices with rfl | rfl | rfl
  · simp [begins, decimal]
  · rfl
  · rfl

end Punctuator

end Ecmascript
