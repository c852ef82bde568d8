import Mathlib.Data.List.TakeDrop
import Ecmascript.Lexer.Basic

/-!
# What scanners read

Every scanner splits a text: what it read and what is left are together the text it was given.
-/

set_option autoImplicit false

namespace Ecmascript

open Character

namespace Text

theorem byteLength_append (front back : Text) :
    byteLength (front ++ back) = byteLength front + byteLength back := by
  induction front with
  | nil => simp [byteLength]
  | cons c front ih => simp [byteLength, ih, Nat.add_assoc]

/-- An initial part of a text is dropped with as many bytes as it has. -/
theorem dropBytes_byteLength_append (front back : Text) :
    dropBytes (byteLength front) (front ++ back) = back := by
  induction front with
  | nil => simp [byteLength, dropBytes]
  | cons c front ih =>
      obtain ⟨size, positive⟩ : ∃ size, c.utf8Size = size + 1 :=
        ⟨c.utf8Size - 1, (Nat.sub_add_cancel c.utf8Size_pos).symm⟩
      have total : byteLength (c :: front) = size + byteLength front + 1 := by
        simp only [byteLength, positive]; omega
      rw [total, List.cons_append, dropBytes, positive]
      rw [show size + byteLength front + 1 - (size + 1) = byteLength front by omega, ih]

end Text

namespace Literal

theorem scanWord_append (text : Text) : (scanWord text).1 ++ (scanWord text).2 = text := by
  simp [scanWord, List.span_eq_takeWhile_dropWhile]

theorem span_append (p : Char → Bool) (text : Text) :
    (text.span p).1 ++ (text.span p).2 = text := by
  simp [List.span_eq_takeWhile_dropWhile]

theorem scanBigSuffix_append (text : Text) :
    (scanBigSuffix text).1 ++ (scanBigSuffix text).2 = text := by
  unfold scanBigSuffix
  split <;> rfl

theorem scanFraction_append (text : Text) :
    (scanFraction text).1 ++ (scanFraction text).2 = text := by
  unfold scanFraction
  split
  · simp only [List.cons_append, span_append]
  · rfl

theorem scanExponent_append (text : Text) :
    (scanExponent text).1 ++ (scanExponent text).2 = text := by
  cases text with
  | nil => rfl
  | cons mark rest =>
      simp only [scanExponent]
      split
      · cases rest with
        | nil => rfl
        | cons next more =>
            dsimp only
            split
            · simp only [List.cons_append, span_append]
            · split
              · simp only [List.cons_append, span_append]
              · rfl
      · rfl

theorem scanDecimal_append (text : Text) :
    (scanDecimal text).1 ++ (scanDecimal text).2 = text := by
  cases text with
  | nil => rfl
  | cons first rest =>
      have fraction (left : Text) :
          (if first = '.' then ([], left) else scanFraction left).1 ++
            (if first = '.' then ([], left) else scanFraction left).2 = left := by
        split
        · rfl
        · exact scanFraction_append left
      simp only [scanDecimal, List.cons_append, List.append_assoc, scanBigSuffix_append,
        scanExponent_append, fraction, span_append]

theorem scanNumber_append (text : Text) : (scanNumber text).1 ++ (scanNumber text).2 = text := by
  unfold scanNumber
  split
  · split
    · simp only [List.cons_append, List.append_assoc, scanBigSuffix_append, span_append]
    · exact scanDecimal_append _
  · exact scanDecimal_append _

theorem prepend_append {scan : Scan} {front text : Text} (whole : scan.lexeme ++ scan.rest = text) :
    (scan.prepend front).lexeme ++ (scan.prepend front).rest = front ++ text := by
  simp [Scan.prepend, ← whole]

theorem scanString_append (quote : Char) (text : Text) :
    (scanString quote text).lexeme ++ (scanString quote text).rest = text := by
  fun_induction scanString quote text with
  | case1 => rfl
  | case2 rest ih => exact prepend_append ih
  | case3 c rest _ ih => exact prepend_append ih
  | case4 => rfl
  | case5 => rfl
  | case6 c rest _ _ _ _ ih => exact prepend_append ih

theorem scanChunk_append (text : Text) :
    (scanChunk text).raw ++ ((scanChunk text).stop.delimiter ++ (scanChunk text).rest) = text := by
  fun_induction scanChunk text with
  | case1 => rfl
  | case2 rest => rfl
  | case3 rest => rfl
  | case4 c rest ih => simp [Chunk.prepend, ih]
  | case5 c rest _ _ _ ih => simp [Chunk.prepend, ih]

theorem scanRegexBody_append (inClass : Bool) (text : Text) :
    (scanRegexBody inClass text).lexeme ++ (scanRegexBody inClass text).rest = text := by
  fun_induction scanRegexBody inClass text with
  | case1 => rfl
  | case2 inClass c rest ends => rfl
  | case3 inClass c rest goes ih => exact prepend_append ih
  | case4 inClass c rest _ closes => rfl
  | case5 inClass c rest _ goes ends => rfl
  | case6 inClass c rest _ goes on next ih => exact prepend_append ih

theorem scanRegex_append (text : Text) :
    (scanRegex text).lexeme ++ (scanRegex text).rest = text := by
  simp only [scanRegex]
  split
  · rw [List.append_assoc, scanWord_append, scanRegexBody_append]
  · exact scanRegexBody_append false text

end Literal

namespace Punctuator

theorem all_complete (mark : Punctuator) : mark ∈ all := by
  cases mark <;> decide

/-- The text begins with the punctuator that is read from it. -/
theorem spelling_prefix_of_longest {text : Text} {mark : Punctuator}
    (found : longest? text = some mark) : mark.spelling.toList <+: text := by
  unfold longest? at found
  rw [Option.map_eq_some_iff] at found
  obtain ⟨entry, found, rfl⟩ := found
  have begins := List.find?_some found
  have listed := List.mem_of_find?_eq_some found
  simp only [table, List.mem_map] at listed
  obtain ⟨mark, _, rfl⟩ := listed
  simp only [Punctuator.begins, Bool.and_eq_true] at begins
  exact List.isPrefixOf_iff_prefix.1 begins.1

end Punctuator

/-! ## Blanks and comments -/

namespace Trivia

/-- What is skipped stands in front of what is left, and the position moves by its length. -/
theorem skipFrom_skipped {mode : Mode} {position after : Nat} {newline newline' : Bool}
    {text rest : Text}
    (skips : skipFrom mode position newline text = .skipped after rest newline') :
    ∃ blanks, text = blanks ++ rest ∧ after = position + Text.byteLength blanks := by
  have further (front : Text) {left : Text} {start stop : Nat}
      (moved : start = stop + Text.byteLength front)
      (found : ∃ blanks, left = blanks ++ rest ∧ after = start + Text.byteLength blanks) :
      ∃ blanks, front ++ left = blanks ++ rest ∧ after = stop + Text.byteLength blanks := by
    obtain ⟨blanks, rfl, rfl⟩ := found
    refine ⟨front ++ blanks, by simp, ?_⟩
    rw [Text.byteLength_append, moved, Nat.add_assoc]
  fun_induction skipFrom mode position newline text with
  | case1 position newline => cases skips; exact ⟨[], rfl, rfl⟩
  | case2 position newline rest ih => exact further ['/', '/'] rfl (ih skips)
  | case3 position newline rest ih => exact further ['/', '*'] rfl (ih skips)
  | case4 position newline c rest _ _ ends ih => exact further [c] rfl (ih skips)
  | case5 position newline c rest _ _ _ blank ih => exact further [c] rfl (ih skips)
  | case6 position newline c rest => cases skips; exact ⟨[], rfl, rfl⟩
  | case7 position newline => cases skips; exact ⟨[], rfl, rfl⟩
  | case8 position newline c rest ends ih => exact further [c] rfl (ih skips)
  | case9 position newline c rest goes ih => exact further [c] rfl (ih skips)
  | case10 start position newline => cases skips
  | case11 start position newline rest ih => exact further ['*', '/'] rfl (ih skips)
  | case12 start position newline c rest _ ih => exact further [c] rfl (ih skips)

/-- A slash at which skipping stops begins no comment. -/
theorem slash_of_skipFrom {mode : Mode} {position after : Nat} {newline newline' : Bool}
    {text rest : Text}
    (skips : skipFrom mode position newline text = .skipped after ('/' :: rest) newline') :
    rest.head? ≠ some '/' ∧ rest.head? ≠ some '*' := by
  fun_induction skipFrom mode position newline text with
  | case2 _ _ _ ih | case3 _ _ _ ih => exact ih skips
  | case4 _ _ _ _ _ _ _ ih | case5 _ _ _ _ _ _ _ _ ih => exact ih skips
  | case6 position newline c left lineComment blockComment =>
      cases skips
      cases rest with
      | nil => exact ⟨nofun, nofun⟩
      | cons next rest =>
          rw [List.head?_cons, Ne, Ne, Option.some.injEq, Option.some.injEq]
          exact ⟨fun slash => lineComment rest rfl (by rw [slash]),
            fun star => blockComment rest rfl (by rw [star])⟩
  | case8 _ _ _ _ _ ih | case9 _ _ _ _ _ ih => exact ih skips
  | case11 _ _ _ _ ih | case12 _ _ _ _ _ _ ih => exact ih skips
  | _ => cases skips

end Trivia

end Ecmascript
