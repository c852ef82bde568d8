import Ecmascript.Json.Basic
import Ecmascript.Proofs.Record.Digits

/-!
# Texts and numbers in JSON

The string that spells a text reads back as the text, so no two texts share a string, and no two
numbers share their digits.
-/

set_option autoImplicit false

namespace Ecmascript.Json

variable {c : Char}

theorem decodeBody_plain (plain : c ≠ '\\') (rest : Text) :
    decodeBody (c :: rest) = (decodeBody rest).map (c :: ·) := by
  rw [decodeBody]
  · simp only [plain, if_false]
    cases decodeBody rest <;> rfl
  · rintro _ _ _ _ _ rfl
    exact absurd rfl plain
  · rintro _ _ rfl
    exact absurd rfl plain

theorem decodeBody_short {letter : Char} (short : shortEscape? letter = some c)
    (rest : Text) : decodeBody ('\\' :: letter :: rest) = (decodeBody rest).map (c :: ·) := by
  rw [decodeBody]
  · simp only [short]
    cases decodeBody rest <;> rfl
  · rintro _ _ _ _ _ rfl
    cases short

theorem decodeBody_code (control : c.toNat < 0x20) (rest : Text) :
    decodeBody ('\\' :: 'u' :: '0' :: '0' :: hexDigit (c.toNat / 16) :: hexDigit (c.toNat % 16) ::
      rest) = (decodeBody rest).map (c :: ·) := by
  have unit : ∀ n < 0x20, hexUnit? '0' '0' (hexDigit (n / 16)) (hexDigit (n % 16)) = some n := by
    decide
  have low : ¬0xd800 ≤ c.toNat := by omega
  have high : ¬0xdc00 ≤ c.toNat := by omega
  rw [decodeBody, unit _ control]
  simp only [Option.bind_eq_bind, Option.bind_some, low, high, decide_false, Bool.false_and,
    Bool.false_eq_true, if_false, Char.ofNat_toNat]
  cases decodeBody rest <;> rfl

/-- Each escape stands for the character that it was made of. -/
theorem decodeBody_escapeCharacter (c : Char) (rest : Text) :
    decodeBody (escapeCharacter c ++ rest) = (decodeBody rest).map (c :: ·) := by
  unfold escapeCharacter
  split
  · next quote =>
      subst quote
      exact decodeBody_short rfl rest
  split
  · next backslash =>
      subst backslash
      exact decodeBody_short rfl rest
  split
  · next backspace =>
      subst backspace
      exact decodeBody_short rfl rest
  split
  · next formFeed =>
      subst formFeed
      exact decodeBody_short rfl rest
  split
  · next lineFeed =>
      subst lineFeed
      exact decodeBody_short rfl rest
  split
  · next carriageReturn =>
      subst carriageReturn
      exact decodeBody_short rfl rest
  split
  · next tab =>
      subst tab
      exact decodeBody_short rfl rest
  split
  · next control => exact decodeBody_code control rest
  · exact decodeBody_plain ‹_› rest

@[simp] theorem decode?_escape (value : String) : decode? (escape value) = some value := by
  have all (chars : Text) : decodeBody (chars.flatMap escapeCharacter) = some chars := by
    induction chars with
    | nil => rfl
    | cons c rest ih => rw [List.flatMap_cons, decodeBody_escapeCharacter, ih]; rfl
  rw [decode?, escape, String.toList_ofList, all, Option.map_some, String.ofList_toList]

@[simp] theorem text?_text (value : String) : (text value).text? = some value :=
  decode?_escape value

@[simp] theorem text_inj {value value' : String} : text value = text value' ↔ value = value' := by
  refine ⟨fun same => ?_, congrArg text⟩
  have texts := congrArg Json.text? same
  rwa [text?_text, text?_text, Option.some_inj] at texts

@[simp] theorem nat_inj {value value' : Nat} : nat value = nat value' ↔ value = value' := by
  rw [nat, nat, number.injEq]
  exact toString_inj

end Ecmascript.Json
