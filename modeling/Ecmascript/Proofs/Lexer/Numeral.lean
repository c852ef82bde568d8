import Mathlib.Computability.RegularExpressions
import Ecmascript.Proofs.Lexer.LongestMatch

/-!
# Numbers

The texts of numbers are a regular language. Reading a number takes the longest text of that
language that is there, although the reader decides character by character: a part that a number may
leave out begins with a character that nothing behind it begins with, so a part that is there is
never left out for a longer number.
-/

set_option autoImplicit false

namespace Ecmascript

open Character

/-! ## The longest text of a language -/

/-- Of the texts of a language that a text begins with, the longest. -/
structure Text.Longest (language : Language Char) (text front : Text) : Prop where
  begins : front <+: text
  member : front ∈ language
  longest : ∀ other ∈ language, other <+: text → other.length ≤ front.length

/-- No text of a language begins with a character of a class. -/
def Text.Avoids (p : Char → Bool) (language : Language Char) : Prop :=
  ∀ text ∈ language, Text.Stops p text

/-- Every text of a language begins with a character of a class. -/
def Text.Opens (p : Char → Bool) (language : Language Char) : Prop :=
  ∀ text ∈ language, ∃ c rest, text = c :: rest ∧ p c = true

namespace Text

variable {p : Char → Bool} {language language' : Language Char} {text front rest : Text} {c : Char}

theorem Stops.append {front back : Text} (first : Stops p front) (second : Stops p back) :
    Stops p (front ++ back) := by
  cases front with
  | nil => exact second
  | cons c front => exact first

namespace Avoids

theorem one : Avoids p 1 := by
  rintro _ rfl
  exact .nil

theorem add (first : Avoids p language) (second : Avoids p language') :
    Avoids p (language + language') := by
  rintro text (member | member)
  · exact first text member
  · exact second text member

theorem mul (first : Avoids p language) (second : Avoids p language') :
    Avoids p (language * language') := by
  rintro _ ⟨front, member, back, member', rfl⟩
  exact (first front member).append (second back member')

/-- A text that begins with a character that a language avoids begins with no text of it but the
empty one. -/
theorem eq_nil (avoids : Avoids p language) (inside : p c = true) (member : front ∈ language)
    (begins : front <+: c :: rest) : front = [] := by
  cases front with
  | nil => rfl
  | cons first front =>
      obtain ⟨rfl, _⟩ := List.cons_prefix_cons.1 begins
      have outside := avoids _ member first rfl
      rw [inside] at outside
      cases outside

end Avoids

namespace Opens

theorem mul (opens : Opens p language) (language' : Language Char) :
    Opens p (language * language') := by
  rintro _ ⟨front, member, back, _, rfl⟩
  obtain ⟨c, rest, rfl, inside⟩ := opens front member
  exact ⟨c, rest ++ back, rfl, inside⟩

/-- A text that does not begin like the texts of a language begins with none of them. -/
theorem absent (opens : Opens p language) (stops : text.Stops p) (member : front ∈ language) :
    ¬ front <+: text := by
  obtain ⟨c, rest, rfl, inside⟩ := opens front member
  rintro ⟨back, rfl⟩
  have outside := stops c rfl
  rw [inside] at outside
  cases outside

end Opens

namespace Longest

theorem nil (member : [] ∈ language) (none : ∀ other ∈ language, other <+: text → other = []) :
    Longest language text [] := by
  refine ⟨List.nil_prefix, member, fun other member' begins => ?_⟩
  rw [none other member' begins]

/-- The longest text of one language is the longest one of two languages when the other has none
that is longer. -/
theorem left (longest : Longest language text front)
    (shorter : ∀ other ∈ language', other <+: text → other.length ≤ front.length) :
    Longest (language + language') text front := by
  refine ⟨longest.begins, .inl longest.member, ?_⟩
  rintro other (member | member) begins
  · exact longest.longest other member begins
  · exact shorter other member begins

theorem right (longest : Longest language text front)
    (shorter : ∀ other ∈ language', other <+: text → other.length ≤ front.length) :
    Longest (language' + language) text front := by
  rw [add_comm]
  exact longest.left shorter

/-- Behind a single character that is there goes on the longest text. -/
theorem cons (longest : Longest language rest front) (single : ∀ one ∈ language', ∃ d, one = [d])
    (here : [c] ∈ language') : Longest (language' * language) (c :: rest) (c :: front) := by
  refine ⟨List.cons_prefix_cons.2 ⟨rfl, longest.begins⟩,
    ⟨[c], here, front, longest.member, rfl⟩, ?_⟩
  rintro _ ⟨one, first, other, member, rfl⟩ begins
  obtain ⟨d, rfl⟩ := single one first
  have further := longest.longest other member (List.cons_prefix_cons.1 begins).2
  exact Nat.succ_le_succ further

/-- A part that may be left out is left out where it is not there. -/
theorem skip (longest : Longest language text front)
    (absent : ∀ other ∈ language' * language, ¬ other <+: text) :
    Longest ((1 + language') * language) text front := by
  rw [add_mul, one_mul]
  exact longest.left fun other member begins => absurd begins (absent other member)

/-- A part that may be left out is taken where what follows it cannot begin. -/
theorem take (longest : Longest (language' * language) text front)
    (shorter : ∀ other ∈ language, other <+: text → other = []) :
    Longest ((1 + language') * language) text front := by
  rw [add_mul, one_mul]
  refine longest.right fun other member begins => ?_
  rw [shorter other member begins]
  exact Nat.zero_le _

end Longest

end Text

/-! ## Numbers as a regular language -/

namespace Numeral

open RegularExpression Text

/-- One of some characters. -/
def anyOf (characters : String) : RegularExpression Char :=
  (characters.toList.map char).sum

/-- A part that may be left out. -/
def optional (part : RegularExpression Char) : RegularExpression Char :=
  1 + part

/-- The decimal digits and the separator, any number of them. -/
def digits : RegularExpression Char :=
  star (anyOf "0123456789_")

/-- The mark of integers of any size. -/
def bigSuffix : RegularExpression Char :=
  optional (char 'n')

/-- An integer behind a zero and a radix mark, which may be all of it. -/
def radix (marks digits : String) : RegularExpression Char :=
  char '0' * anyOf marks * star (anyOf digits) * bigSuffix

/-- An exponent: a mark, a sign that may be left out, and at least one digit. -/
def exponent : RegularExpression Char :=
  anyOf "eE" * optional (anyOf "+-") * anyOf "0123456789" * digits

/-- A decimal number that begins with a digit. -/
def decimal : RegularExpression Char :=
  anyOf "0123456789" * digits * optional (char '.' * digits) * optional exponent * bigSuffix

/-- A decimal number that begins with its fraction. -/
def fraction : RegularExpression Char :=
  char '.' * anyOf "0123456789" * digits * optional exponent * bigSuffix

/-- An integer with one of the three radices. -/
def based : RegularExpression Char :=
  radix "xX" "0123456789abcdefABCDEF_" + radix "oO" "01234567_" + radix "bB" "01_"

/-- A number. -/
def number : RegularExpression Char :=
  based + decimal + fraction

/-- The texts that a decimal number may end with. -/
def ends : Language Char :=
  (optional exponent).matches' * bigSuffix.matches'

/-- The texts that a decimal number may go on with behind its whole part. -/
def follows : Language Char :=
  (optional (char '.' * digits)).matches' * ends

variable {text front rest left : Text} {c : Char} {characters : String} {p : Char → Bool}
  {language : Language Char}

theorem mem_anyOf : text ∈ (anyOf characters).matches' ↔ ∃ c ∈ characters.toList, text = [c] := by
  unfold anyOf
  induction characters.toList with
  | nil => simp [Language.notMem_zero]
  | cons c characters ih =>
      rw [List.map_cons, List.sum_cons, matches'_add, Language.mem_add, ih,
        List.exists_mem_cons_iff]
      exact or_congr_left Iff.rfl

theorem mem_star_anyOf : text ∈ (star (anyOf characters)).matches' ↔
    ∀ c ∈ text, c ∈ characters.toList := by
  rw [matches'_star, Language.mem_kstar]
  constructor
  · rintro ⟨parts, rfl, each⟩ c member
    obtain ⟨part, inside, member⟩ := List.mem_flatten.1 member
    obtain ⟨d, listed, rfl⟩ := mem_anyOf.1 (each part inside)
    rwa [List.mem_singleton.1 member]
  · intro inside
    refine ⟨text.map ([·]), List.flatMap_singleton' text |>.symm, ?_⟩
    intro part member
    obtain ⟨c, inner, rfl⟩ := List.mem_map.1 member
    exact mem_anyOf.2 ⟨c, inside c inner, rfl⟩

/-- What holds of some characters is decided for each of them in turn. Characters are finitely many,
so without this all of them would be tried. -/
theorem of_each {holds : Char → Prop} [DecidablePred holds]
    (each : (characters.toList.all fun c => decide (holds c)) = true) :
    ∀ c ∈ characters.toList, holds c :=
  fun c listed => of_decide_eq_true (List.all_eq_true.1 each c listed)

/-! ## The parts of a number -/

/-- The characters of a list are those of a class. -/
def Lists (characters : String) (p : Char → Bool) : Prop :=
  ∀ c, c ∈ characters.toList ↔ p c = true

/-- Classes of ASCII characters are compared character by character. -/
theorem lists_of_ascii (listed : ∀ c ∈ characters.toList, c.toNat < 128)
    (inside : ∀ c, p c = true → c.toNat < 128)
    (same : ∀ n < 128, (Char.ofNat n ∈ characters.toList ↔ p (Char.ofNat n) = true)) :
    Lists characters p := by
  intro c
  constructor
  · intro member
    have at_ := same c.toNat (listed c member)
    rw [Char.ofNat_toNat] at at_
    exact at_.1 member
  · intro holds
    have at_ := same c.toNat (inside c holds)
    rw [Char.ofNat_toNat] at at_
    exact at_.2 holds

theorem lists_decimal : Lists "0123456789" isDecimalDigit := by
  apply lists_of_ascii
  · exact of_each (by decide)
  · intro c inside
    simp only [isDecimalDigit, Unicode.isAsciiDigit, Bool.and_eq_true, decide_eq_true_eq] at inside
    exact Nat.lt_of_le_of_lt inside.2 (by decide)
  · decide +kernel

theorem lists_separated {isDigit : Char → Bool} (lists : Lists characters isDigit) :
    Lists (characters ++ "_") fun c => isDigit c || c = '_' := by
  intro c
  simp [lists c]

theorem lists_hexadecimal : Lists "0123456789abcdefABCDEF" isHexDigit := by
  apply lists_of_ascii
  · exact of_each (by decide)
  · intro c inside
    simp only [isHexDigit, Unicode.isAsciiDigit, Bool.or_eq_true, Bool.and_eq_true,
      decide_eq_true_eq] at inside
    rcases inside with (inside | inside) | inside
    all_goals exact Nat.lt_of_le_of_lt inside.2 (by decide)
  · decide +kernel

theorem lists_octal : Lists "01234567" isOctalDigit := by
  apply lists_of_ascii
  · exact of_each (by decide)
  · intro c inside
    simp only [isOctalDigit, Bool.and_eq_true, decide_eq_true_eq] at inside
    exact Nat.lt_of_le_of_lt inside.2 (by decide)
  · decide +kernel

theorem lists_binary : Lists "01" isBinaryDigit := by
  intro c
  simp [isBinaryDigit]

/-! ## What parts of a number begin with -/

theorem opens_anyOf (each : ∀ c ∈ characters.toList, p c = true) :
    Opens p (anyOf characters).matches' := by
  intro text member
  obtain ⟨c, listed, rfl⟩ := mem_anyOf.1 member
  exact ⟨c, [], rfl, each c listed⟩

theorem opens_char (inside : p c = true) : Opens p (char c).matches' := by
  rintro _ rfl
  exact ⟨c, [], rfl, inside⟩

theorem avoids_star (each : ∀ c ∈ characters.toList, p c = false) :
    Avoids p (star (anyOf characters)).matches' := by
  intro text member c first
  exact each c (mem_star_anyOf.1 member c (List.mem_of_mem_head? first))

theorem avoids_char (apart : p c = false) : Avoids p (char c).matches' := by
  rintro _ rfl
  exact .cons apart

theorem avoids_bigSuffix (apart : p 'n' = false) : Avoids p bigSuffix.matches' :=
  Avoids.one.add (avoids_char apart)

theorem avoids_ends (apart : ∀ c ∈ "eE".toList, p c = false) (suffix : p 'n' = false) :
    Avoids p ends := by
  have marks : Avoids p exponent.matches' := by
    rintro text member
    simp only [exponent, matches'_mul, mul_assoc] at member
    obtain ⟨front, mark, back, _, rfl⟩ := member
    obtain ⟨c, listed, rfl⟩ := mem_anyOf.1 mark
    exact .cons (apart c listed)
  exact (Avoids.one.add marks).mul (avoids_bigSuffix suffix)

theorem avoids_follows (dot : p '.' = false) (apart : ∀ c ∈ "eE".toList, p c = false)
    (suffix : p 'n' = false) : Avoids p follows := by
  have point : Avoids p (char '.' * digits).matches' := by
    rintro _ ⟨_, rfl, back, _, rfl⟩
    exact .cons dot
  exact (Avoids.one.add point).mul (avoids_ends apart suffix)

theorem lists_digits : Lists "0123456789_" isDigitOrSeparator :=
  lists_separated lists_decimal

/-! ## The longest parts -/

theorem longest_char (longest : Longest language rest front) :
    Longest ((char c).matches' * language) (c :: rest) (c :: front) := by
  refine longest.cons ?_ rfl
  rintro _ rfl
  exact ⟨c, rfl⟩

theorem longest_anyOf (listed : c ∈ characters.toList) (longest : Longest language rest front) :
    Longest ((anyOf characters).matches' * language) (c :: rest) (c :: front) := by
  refine longest.cons (fun text member => ?_) (mem_anyOf.2 ⟨c, listed, rfl⟩)
  obtain ⟨d, _, rfl⟩ := mem_anyOf.1 member
  exact ⟨d, rfl⟩

/-- A run of characters of a class is taken as far as it goes when nothing that may follow begins
with one of them. -/
theorem longest_span (lists : Lists characters p) (avoids : Avoids p language)
    (longest : Longest language (text.span p).2 front) :
    Longest ((star (anyOf characters)).matches' * language) text ((text.span p).1 ++ front) := by
  rw [List.span_eq_takeWhile_dropWhile] at longest ⊢
  dsimp only at longest ⊢
  have empty : [] ∈ (star (anyOf characters)).matches' := mem_star_anyOf.2 (List.forall_mem_nil _)
  induction text with
  | nil =>
      obtain rfl := List.prefix_nil.1 longest.begins
      exact .nil ⟨[], empty, [], longest.member, rfl⟩ fun other _ begins =>
        List.prefix_nil.1 begins
  | cons c rest ih =>
      cases inside : p c with
      | true =>
          rw [List.dropWhile_cons_of_pos inside] at longest
          have further := ih longest
          rw [List.takeWhile_cons_of_pos inside]
          obtain ⟨run, runs, back, member, same⟩ := further.member
          have runs := mem_star_anyOf.1 runs
          have listed := (lists c).2 inside
          refine ⟨List.cons_prefix_cons.2 ⟨rfl, further.begins⟩, ⟨c :: run,
            mem_star_anyOf.2 (List.forall_mem_cons.2 ⟨listed, runs⟩), back, member,
            congrArg (c :: ·) same⟩, ?_⟩
          rintro _ ⟨run', runs', back', member', rfl⟩ begins
          cases run' with
          | nil =>
              obtain rfl := avoids.eq_nil inside member' begins
              exact Nat.zero_le _
          | cons d run' =>
              have runs' := (List.forall_mem_cons.1 (mem_star_anyOf.1 runs')).2
              have shorter := further.longest (run' ++ back')
                ⟨run', mem_star_anyOf.2 runs', back', member', rfl⟩
                (List.cons_prefix_cons.1 begins).2
              exact Nat.succ_le_succ shorter
      | false =>
          have outside : ¬ p c = true := Bool.eq_false_iff.1 inside
          rw [List.dropWhile_cons_of_neg outside] at longest
          rw [List.takeWhile_cons_of_neg outside]
          refine ⟨longest.begins, ⟨[], empty, front, longest.member, rfl⟩, ?_⟩
          rintro _ ⟨run, runs, back, member, rfl⟩ begins
          cases run with
          | nil => exact longest.longest back member begins
          | cons d run =>
              obtain ⟨rfl, _⟩ := List.cons_prefix_cons.1 begins
              have listed := (List.forall_mem_cons.1 (mem_star_anyOf.1 runs)).1
              exact absurd ((lists d).1 listed) outside

theorem longest_bigSuffix (text : Text) :
    Longest bigSuffix.matches' text (Literal.scanBigSuffix text).1 := by
  unfold Literal.scanBigSuffix
  split
  · next rest =>
    refine ⟨List.prefix_append ['n'] rest, .inr rfl, ?_⟩
    rintro _ (rfl | rfl) _
    · exact Nat.zero_le 1
    · exact Nat.le_refl 1
  · next other =>
    refine .nil (.inl rfl) ?_
    rintro _ (rfl | rfl) begins
    · rfl
    · obtain ⟨rest, same⟩ := begins
      exact absurd same.symm (other rest)

/-- Digits behind a first one, and what may follow them. -/
theorem longest_digits {first : Char} (decimal : isDecimalDigit first = true)
    (avoids : Avoids isDigitOrSeparator language)
    (longest : Longest language (rest.span isDigitOrSeparator).2 front) :
    Longest ((anyOf "0123456789").matches' * (digits.matches' * language)) (first :: rest)
      (first :: ((rest.span isDigitOrSeparator).1 ++ front)) :=
  longest_anyOf ((lists_decimal first).2 decimal) (longest_span lists_digits avoids longest)

/-- An exponent stands only where its digits follow. -/
theorem isExponent_of_begins {mark : Char} {other : Text}
    (member : other ∈ exponent.matches' * language) (begins : other <+: mark :: rest) :
    Cursor.isExponent rest = true := by
  simp only [exponent, matches'_mul, mul_assoc] at member
  obtain ⟨marks, listed, _, ⟨sign, signs, _, ⟨digit, decimal, back, _, rfl⟩, rfl⟩, rfl⟩ := member
  obtain ⟨_, _, rfl⟩ := mem_anyOf.1 listed
  obtain ⟨d, listed, rfl⟩ := mem_anyOf.1 decimal
  have decimal := (lists_decimal d).1 listed
  obtain ⟨left, rfl⟩ := (List.cons_prefix_cons.1 begins).2
  rcases signs with rfl | signs
  · simp [Cursor.isExponent, decimal]
  · obtain ⟨plus, listed, rfl⟩ := mem_anyOf.1 signs
    have either : plus = '+' ∨ plus = '-' := by simpa using listed
    simp [Cursor.isExponent, decimal, either]

/-- The marks of an exponent. -/
def isMark (c : Char) : Bool :=
  c = 'e' || c = 'E'

theorem opens_exponent (language : Language Char) :
    Opens isMark (exponent.matches' * language) := by
  simp only [exponent, matches'_mul, mul_assoc]
  exact (opens_anyOf (of_each (by decide))).mul _

/-- Without its digits, or without its mark, there is no exponent. -/
theorem scanExponent_absent {mark : Char}
    (absent : isMark mark = false ∨ Cursor.isExponent rest = false) :
    Literal.scanExponent (mark :: rest) = ([], mark :: rest) := by
  unfold Literal.scanExponent
  dsimp only
  split
  · next marks =>
    have missing := absent.resolve_left fun other => absurd (other.symm.trans marks) nofun
    cases rest with
    | nil => rfl
    | cons next more =>
        rw [Cursor.isExponent, Bool.or_eq_false_iff] at missing
        simp [missing.1, missing.2]
  · rfl

theorem span_cons {next : Char} (inside : p next = true) :
    (next :: rest).span p = (next :: (rest.span p).1, (rest.span p).2) := by
  simp only [List.span_eq_takeWhile_dropWhile, List.takeWhile_cons_of_pos inside,
    List.dropWhile_cons_of_pos inside]

theorem isDigitOrSeparator_of_digit (digit : isDecimalDigit c = true) :
    isDigitOrSeparator c = true := by
  rw [isDecimalDigit] at digit
  rw [isDigitOrSeparator, digit, Bool.true_or]

theorem scanExponent_digit {mark digit : Char} (marks : isMark mark = true)
    (decimal : isDecimalDigit digit = true) :
    Literal.scanExponent (mark :: digit :: rest) =
      (mark :: digit :: (rest.span isDigitOrSeparator).1, (rest.span isDigitOrSeparator).2) := by
  rw [isMark] at marks
  unfold Literal.scanExponent
  dsimp only
  rw [if_pos marks, if_pos decimal, span_cons (isDigitOrSeparator_of_digit decimal)]

theorem scanExponent_sign {mark sign digit : Char} (marks : isMark mark = true)
    (signs : sign = '+' ∨ sign = '-') (decimal : isDecimalDigit digit = true) :
    Literal.scanExponent (mark :: sign :: digit :: rest) =
      (mark :: sign :: digit :: (rest.span isDigitOrSeparator).1,
        (rest.span isDigitOrSeparator).2) := by
  have plain : ¬ isDecimalDigit sign = true := by rcases signs with rfl | rfl <;> decide
  rw [isMark] at marks
  unfold Literal.scanExponent
  dsimp only
  rw [if_pos marks, if_neg plain, if_pos (by simp [signs, decimal]),
    span_cons (isDigitOrSeparator_of_digit decimal)]

/-- What a number goes on with where an exponent has its digits. -/
theorem longest_exponent {mark : Char} (marks : isMark mark = true)
    (follows : Cursor.isExponent rest = true) :
    Longest (exponent.matches' * bigSuffix.matches') (mark :: rest)
      ((Literal.scanExponent (mark :: rest)).1 ++
        (Literal.scanBigSuffix (Literal.scanExponent (mark :: rest)).2).1) := by
  have listed : mark ∈ "eE".toList := by simpa [isMark] using marks
  have avoids : Avoids isDigitOrSeparator bigSuffix.matches' := avoids_bigSuffix (by decide)
  have behind {digit : Char} {more : Text} (decimal : isDecimalDigit digit = true) :=
    longest_digits decimal avoids (longest_bigSuffix (more.span isDigitOrSeparator).2)
  simp only [exponent, matches'_mul, mul_assoc]
  cases rest with
  | nil => cases follows
  | cons next more =>
      rw [Cursor.isExponent, Bool.or_eq_true] at follows
      rcases follows with decimal | signed
      · rw [scanExponent_digit marks decimal]
        refine longest_anyOf listed ((behind decimal).skip fun _ member => ?_)
        have opens : Opens (fun c => c = '+' || c = '-') (anyOf "+-").matches' :=
          opens_anyOf (of_each (by decide))
        refine (opens.mul _).absent (.cons ?_) member
        rw [Bool.eq_false_iff]
        intro sign
        rw [Bool.or_eq_true, decide_eq_true_eq, decide_eq_true_eq] at sign
        rcases sign with rfl | rfl <;> cases decimal
      · rw [Bool.and_eq_true, Bool.or_eq_true, decide_eq_true_eq, decide_eq_true_eq] at signed
        obtain ⟨signs, digit⟩ := signed
        cases more with
        | nil => cases digit
        | cons digit' more =>
            have decimal : isDecimalDigit digit' = true := digit
            rw [scanExponent_sign marks signs decimal]
            refine longest_anyOf listed (Longest.take ?_ fun _ member begins => ?_)
            · exact longest_anyOf (by simpa using signs) (behind decimal)
            · have opens : Opens isDecimalDigit (anyOf "0123456789").matches' :=
                opens_anyOf fun c => (lists_decimal c).1
              refine absurd begins ((opens.mul _).absent (.cons ?_) member)
              rcases signs with rfl | rfl <;> decide

/-- The end of a decimal number: an exponent and the mark of integers of any size. -/
def scanEnd (text : Text) : Text :=
  (Literal.scanExponent text).1 ++ (Literal.scanBigSuffix (Literal.scanExponent text).2).1

theorem longest_end (text : Text) : Longest ends text (scanEnd text) := by
  have opens := opens_exponent bigSuffix.matches'
  cases text with
  | nil =>
      have suffix := longest_bigSuffix []
      exact suffix.skip fun _ member => opens.absent .nil member
  | cons mark rest =>
      have suffix := longest_bigSuffix (mark :: rest)
      unfold scanEnd
      cases marks : isMark mark with
      | false =>
          rw [scanExponent_absent (.inl marks)]
          exact suffix.skip fun _ member => opens.absent (.cons marks) member
      | true =>
          cases present : Cursor.isExponent rest with
          | false =>
              rw [scanExponent_absent (.inr present)]
              refine suffix.skip fun _ member begins => ?_
              rw [isExponent_of_begins member begins] at present
              cases present
          | true =>
              refine (longest_exponent marks present).take fun _ member begins => ?_
              refine Avoids.eq_nil (avoids_bigSuffix ?_) marks member begins
              decide

theorem longest_follows (text : Text) :
    Longest follows text
      ((Literal.scanFraction text).1 ++ scanEnd (Literal.scanFraction text).2) := by
  unfold Literal.scanFraction
  split
  · next rest =>
    have behind := longest_span lists_digits (avoids_ends (of_each (by decide)) (by decide))
      (longest_end (rest.span isDigitOrSeparator).2)
    rw [follows, optional, matches'_add, matches'_mul]
    refine Longest.take ?_ fun _ member begins => ?_
    · rw [mul_assoc]
      exact longest_char behind
    · have avoids : Avoids (· = '.') ends := avoids_ends (of_each (by decide)) (by decide)
      exact avoids.eq_nil (decide_eq_true rfl) member begins
  · next other =>
    refine (longest_end text).skip fun _ member begins => ?_
    obtain ⟨_, ⟨_, rfl, _, _, rfl⟩, _, _, rfl⟩ := member
    obtain ⟨rest, same⟩ := begins
    exact other _ same.symm

/-! ## The longest number -/

theorem longest_decimal {first : Char} (digit : isDecimalDigit first = true) :
    Longest decimal.matches' (first :: rest) (Literal.scanDecimal (first :: rest)).1 := by
  have plain : ¬ first = '.' := by
    rintro rfl
    cases digit
  have avoids : Avoids isDigitOrSeparator follows :=
    avoids_follows (by decide) (of_each (by decide)) (by decide)
  have longest :=
    longest_digits digit avoids (longest_follows (rest.span isDigitOrSeparator).2)
  have reads : (Literal.scanDecimal (first :: rest)).1 =
      first :: ((rest.span isDigitOrSeparator).1 ++
        ((Literal.scanFraction (rest.span isDigitOrSeparator).2).1 ++
          scanEnd (Literal.scanFraction (rest.span isDigitOrSeparator).2).2)) := by
    simp only [Literal.scanDecimal, if_neg plain, scanEnd, List.cons_append, List.append_assoc]
  rw [reads]
  simp only [decimal, matches'_mul, mul_assoc]
  exact longest

theorem longest_fraction {digit : Char} (decimal : isDecimalDigit digit = true) :
    Longest fraction.matches' ('.' :: digit :: rest)
      (Literal.scanDecimal ('.' :: digit :: rest)).1 := by
  have avoids : Avoids isDigitOrSeparator ends := avoids_ends (of_each (by decide)) (by decide)
  have longest := longest_digits decimal avoids (longest_end (rest.span isDigitOrSeparator).2)
  have reads : (Literal.scanDecimal ('.' :: digit :: rest)).1 =
      '.' :: digit :: ((rest.span isDigitOrSeparator).1 ++
        scanEnd (rest.span isDigitOrSeparator).2) := by
    simp only [Literal.scanDecimal, span_cons (isDigitOrSeparator_of_digit decimal), if_true,
      scanEnd, List.cons_append, List.append_assoc, List.nil_append]
  rw [reads]
  simp only [fraction, matches'_mul, mul_assoc]
  exact longest_char longest

theorem longest_radix {marks : String} {mark : Char} (rest : Text) (listed : mark ∈ marks.toList)
    (lists : Lists characters p) (suffix : p 'n' = false) :
    Longest (radix marks characters).matches' ('0' :: mark :: rest)
      ('0' :: mark :: ((rest.span p).1 ++ (Literal.scanBigSuffix (rest.span p).2).1)) := by
  have behind := longest_span lists (avoids_bigSuffix suffix) (longest_bigSuffix (rest.span p).2)
  simp only [radix, matches'_mul, mul_assoc]
  exact longest_char (longest_anyOf listed behind)

/-- A number with a radix is there only behind a zero and one of its marks. -/
theorem absent_radix {marks : String} {other : Text}
    (plain : ∀ mark rest, text = '0' :: mark :: rest → mark ∉ marks.toList)
    (member : other ∈ (radix marks characters).matches') : ¬ other <+: text := by
  simp only [radix, matches'_mul, mul_assoc] at member
  obtain ⟨_, rfl, _, ⟨_, one, back, _, rfl⟩, rfl⟩ := member
  obtain ⟨mark, listed, rfl⟩ := mem_anyOf.1 one
  rintro ⟨rest, rfl⟩
  exact plain mark (back ++ rest) rfl listed

theorem absent_fraction {first : Char} {other : Text} (digit : isDecimalDigit first = true)
    (member : other ∈ fraction.matches') : ¬ other <+: first :: rest := by
  have opens : Opens (· = '.') fraction.matches' := by
    simp only [fraction, matches'_mul, mul_assoc]
    exact (opens_char (decide_eq_true rfl)).mul _
  refine opens.absent (.cons ?_) member
  rw [decide_eq_false_iff_not]
  rintro rfl
  cases digit

theorem absent_decimal {other : Text} (member : other ∈ decimal.matches') :
    ¬ other <+: '.' :: rest := by
  have opens : Opens isDecimalDigit decimal.matches' := by
    simp only [decimal, matches'_mul, mul_assoc]
    exact (opens_anyOf fun c => (lists_decimal c).1).mul _
  exact opens.absent (.cons (by decide)) member

/-- In front of a radix mark a decimal number is nothing but the zero. -/
theorem length_decimal {first mark : Char} {other : Text}
    (marks : (Literal.radixDigit? mark).isSome = true) (member : other ∈ decimal.matches')
    (begins : other <+: first :: mark :: rest) : other.length ≤ 1 := by
  have avoids : Avoids (fun c => (Literal.radixDigit? c).isSome) (digits.matches' * follows) :=
    (avoids_star (of_each (by decide))).mul
      (avoids_follows (by decide) (of_each (by decide)) (by decide))
  have parts : decimal.matches' =
      (anyOf "0123456789").matches' * (digits.matches' * follows) := by
    simp only [decimal, follows, ends, matches'_mul, mul_assoc]
  rw [parts] at member
  obtain ⟨_, one, back, member, rfl⟩ := member
  obtain ⟨d, _, rfl⟩ := mem_anyOf.1 one
  rw [avoids.eq_nil marks member (List.cons_prefix_cons.1 begins).2]
  exact Nat.le_refl 1

/-- Behind a zero and a radix mark stands an integer with that radix. -/
theorem longest_based {mark : Char} {isDigit : Char → Bool} (rest : Text)
    (radix : Literal.radixDigit? mark = some isDigit) :
    Longest based.matches' ('0' :: mark :: rest)
      (Literal.scanNumber ('0' :: mark :: rest)).1 := by
  have reads : (Literal.scanNumber ('0' :: mark :: rest)).1 =
      '0' :: mark :: ((rest.span fun c => isDigit c || c = '_').1 ++
        (Literal.scanBigSuffix (rest.span fun c => isDigit c || c = '_').2).1) := by
    simp only [Literal.scanNumber, radix, List.cons_append]
  rw [reads]
  -- The three radices have different marks, so numbers with another radix are not there.
  have other {marks marks' digits : String} {front : Text} (listed : mark ∈ marks.toList)
      (apart : ∀ mark ∈ marks.toList, mark ∉ marks'.toList) :
      ∀ other ∈ (Numeral.radix marks' digits).matches', other <+: '0' :: mark :: rest →
        other.length ≤ front.length := by
    intro other member begins
    refine absurd begins (absent_radix ?_ member)
    rintro _ _ ⟨⟩
    exact apart mark listed
  unfold Literal.radixDigit? at radix
  split at radix
  · next marks =>
    cases radix
    have listed : mark ∈ "xX".toList := by simpa using marks
    have here := longest_radix rest listed (lists_separated lists_hexadecimal) (by decide)
    refine (here.left ?_).left ?_
    · exact other listed (of_each (by decide))
    · exact other listed (of_each (by decide))
  split at radix
  · next marks =>
    cases radix
    have listed : mark ∈ "oO".toList := by simpa using marks
    have here := longest_radix rest listed (lists_separated lists_octal) (by decide)
    refine (here.right ?_).left ?_
    · exact other listed (of_each (by decide))
    · exact other listed (of_each (by decide))
  split at radix
  · next marks =>
    cases radix
    have listed : mark ∈ "bB".toList := by simpa using marks
    have here := longest_radix rest listed (lists_separated lists_binary) (by decide)
    refine here.right ?_
    rintro _ (member | member)
    · exact other listed (of_each (by decide)) _ member
    · exact other listed (of_each (by decide)) _ member
  · cases radix

/-- Without a zero and a radix mark there is no integer with a radix. -/
theorem absent_based {other : Text}
    (plain : ∀ mark rest, text = '0' :: mark :: rest → Literal.radixDigit? mark = none)
    (member : other ∈ based.matches') : ¬ other <+: text := by
  have outside {marks : String} (each : ∀ mark ∈ marks.toList, Literal.radixDigit? mark ≠ none) :
      ∀ mark rest, text = '0' :: mark :: rest → mark ∉ marks.toList :=
    fun mark rest whole listed => each mark listed (plain mark rest whole)
  rcases member with (member | member) | member
  · exact absent_radix (outside (of_each (by decide))) member
  · exact absent_radix (outside (of_each (by decide))) member
  · exact absent_radix (outside (of_each (by decide))) member

/-- A number begins with a digit, or with a dot and a digit. -/
def Begins (first : Char) (rest : Text) : Prop :=
  isDecimalDigit first = true ∨ first = '.' ∧ rest.head?.any isDecimalDigit = true

/-- Of all numbers that a text begins with, the longest is read. -/
theorem longest_number {first : Char} (begins : Begins first rest) :
    Longest number.matches' (first :: rest) (Literal.scanNumber (first :: rest)).1 := by
  rcases begins with digit | ⟨rfl, digit⟩
  · have fraction : ∀ other ∈ fraction.matches', other <+: first :: rest →
        other.length ≤ (Literal.scanNumber (first :: rest)).1.length :=
      fun other member begins => absurd begins (absent_fraction digit member)
    by_cases radix : ∃ mark more, first :: rest = '0' :: mark :: more ∧
        (Literal.radixDigit? mark).isSome = true
    · obtain ⟨mark, more, whole, marks⟩ := radix
      obtain ⟨rfl, rfl⟩ := List.cons.inj whole
      obtain ⟨isDigit, radix⟩ := Option.isSome_iff_exists.1 marks
      have based := longest_based more radix
      refine (based.left fun other member begins => ?_).left fraction
      obtain ⟨_, filled⟩ := @Lexer.scanNumber_cons '0' (mark :: more)
      rw [filled]
      exact Nat.le_trans (length_decimal marks member begins) (Nat.le_add_left _ _)
    · have plain : ∀ mark more, first :: rest = '0' :: mark :: more →
          Literal.radixDigit? mark = none := by
        intro mark more whole
        rw [← Option.not_isSome_iff_eq_none]
        exact fun marks => radix ⟨mark, more, whole, marks⟩
      have reads : Literal.scanNumber (first :: rest) = Literal.scanDecimal (first :: rest) := by
        unfold Literal.scanNumber
        split
        · next mark more same => simp only [plain mark more same]
        · rfl
      rw [reads] at fraction ⊢
      exact ((longest_decimal digit).right fun other member begins =>
        absurd begins (absent_based plain member)).left fraction
  · cases rest with
    | nil => cases digit
    | cons next rest =>
        have reads : Literal.scanNumber ('.' :: next :: rest) =
            Literal.scanDecimal ('.' :: next :: rest) := rfl
        rw [reads]
        refine (longest_fraction digit).right ?_
        rintro other (member | member) begins
        · exact absurd begins (absent_based (fun _ _ => nofun) member)
        · exact absurd begins (absent_decimal member)

end Numeral

/-! ## Reading a number -/

namespace Lexer

variable {lexer : Lexer} {gap rest : Text} {first : Char}

theorem readKind_of_begins (begins : Numeral.Begins first rest) :
    lexer.readKind first rest =
      (.ok (.number (String.ofList (Literal.scanNumber (first :: rest)).1)),
        lexer.advance (Literal.scanNumber (first :: rest)).1
          (Literal.scanNumber (first :: rest)).2) := by
  have digits : ∀ c ∈ "0123456789".toList, isIdentifierStart c = false :=
    Numeral.of_each (by decide)
  rcases begins with digit | ⟨rfl, digit⟩
  · refine readKind_number (digits first ((Numeral.lists_decimal first).2 digit)) ?_
    rw [digit, Bool.true_or]
  · refine readKind_number (by decide) ?_
    rw [digit]
    decide

/-- Where a number begins, a token is read that covers the longest number. -/
theorem reads_number (reaches : lexer.Reaches gap (first :: rest))
    (begins : Numeral.Begins first rest) :
    ∃ digits token after, lexer.next = (.ok token, after) ∧ lexer.Covers gap digits token after ∧
      token.kind = .number (String.ofList digits) ∧
      Text.Longest Numeral.number.matches' (first :: rest) digits := by
  obtain ⟨newline, skips⟩ := reaches.skips
  have longest := Numeral.longest_number begins
  cases scan : Literal.scanNumber (first :: rest) with
  | mk digits left =>
      rw [scan] at longest
      have whole := Literal.scanNumber_append (first :: rest)
      rw [scan] at whole
      let begin := lexer.position + gap.byteLength
      let kind : TokenKind := .number (String.ofList digits)
      have reads : lexer.next = (.ok ⟨kind, begin, begin + digits.byteLength, newline⟩,
          { lexer with
            position := begin + digits.byteLength
            rest := left
            regexAllowed := !kind.endsOperand }) := by
        unfold next nextWith
        rw [skips]
        dsimp only
        rw [readKind_of_begins begins, scan]
        rfl
      rw [← whole] at reaches
      exact ⟨digits, _, _, reads, ⟨reaches, rfl, rfl, rfl⟩, rfl, longest⟩

/-- Where a number begins behind blanks and comments, reading succeeds and takes the longest text
of the language of numbers, also by a reader that looks at single bytes behind the mark of an
exponent. -/
theorem next_number (lexer : Lexer) :
    (∀ gap first rest, lexer.Reaches gap (first :: rest) → Numeral.Begins first rest →
      ∃ digits token after, lexer.next = (.ok token, after) ∧ lexer.Covers gap digits token after ∧
        token.kind = .number (String.ofList digits) ∧
        Text.Longest Numeral.number.matches' (first :: rest) digits) ∧
    (lexer.InRange → Cursor.next lexer.cursor = Part.some (lexer.next.1, lexer.next.2.cursor)) :=
  ⟨fun _ _ _ => reads_number, Cursor.gives_next⟩

/-- A fraction without digits and an exponent belong to a number, a second fraction does not. -/
theorem next_number_exponent :
    let lexer := ofText " 1.e5n.".toList
    (∃ digits token after, lexer.next = (.ok token, after) ∧ lexer.Covers [' '] digits token after ∧
      token.kind = .number (String.ofList digits) ∧
      Text.Longest Numeral.number.matches' "1.e5n.".toList digits) ∧
    Cursor.next lexer.cursor = Part.some (lexer.next.1, lexer.next.2.cursor) := by
  intro lexer
  constructor
  · have reaches : lexer.Reaches [' '] ('1' :: ".e5n.".toList) := by
      refine ⟨rfl, .blank (by decide) .nil, ?_⟩
      rintro _ _ ⟨⟩
      exact ⟨by decide, nofun⟩
    exact (next_number lexer).1 [' '] '1' ".e5n.".toList reaches (.inl rfl)
  · exact (next_number lexer).2 ⟨placed_ofText _, by decide⟩

/-- The mark of an exponent without digits is left to the next token. -/
example : (ofText "1e+".toList).next.1 = .ok ⟨.number "1", 0, 1, false⟩ := by
  decide

end Lexer

end Ecmascript
