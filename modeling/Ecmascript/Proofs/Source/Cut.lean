import Mathlib.Order.Bounds.Basic
import Ecmascript.Proofs.Lexer.Lossless

/-!
# Boundaries and slices

The boundary that an offset is moved to is the largest one that is not above it. A slice is in range
when its offsets are boundaries in order, and nothing is moved then.
-/

set_option autoImplicit false

namespace Ecmascript.Text

variable {text before middle after : Text} {offset start stop : Nat}

/-! ## The boundary at or below an offset -/

theorem byteLength_takeBytes_le (offset : Nat) (text : Text) :
    (takeBytes offset text).byteLength ≤ offset := by
  induction text generalizing offset with
  | nil => exact Nat.zero_le _
  | cons c rest ih =>
      rw [takeBytes]
      split
      · next fits =>
        have := ih (offset - c.utf8Size)
        rw [byteLength]
        omega
      · exact Nat.zero_le _

/-- What an offset reaches past a part of the text is taken from the rest. -/
theorem takeBytes_append (reaches : before.byteLength ≤ offset) :
    takeBytes offset (before ++ after) =
      before ++ takeBytes (offset - before.byteLength) after := by
  induction before generalizing offset with
  | nil => rfl
  | cons c before ih =>
      rw [byteLength] at reaches ⊢
      rw [List.cons_append, takeBytes, if_pos (by omega), ih (by omega), Nat.sub_add_eq]
      rfl

/-- An initial part of the text with what is left behind it. -/
theorem takeBytes_append_rest (offset : Nat) (text : Text) :
    ∃ after, text = takeBytes offset text ++ after := by
  induction text generalizing offset with
  | nil => exact ⟨[], rfl⟩
  | cons c rest ih =>
      rw [takeBytes]
      split
      · obtain ⟨after, whole⟩ := ih (offset - c.utf8Size)
        exact ⟨after, congrArg (c :: ·) whole⟩
      · exact ⟨c :: rest, rfl⟩

theorem takeBytes_floorBoundary (offset : Nat) (text : Text) :
    takeBytes (floorBoundary offset text) text = takeBytes offset text := by
  obtain ⟨after, whole⟩ := takeBytes_append_rest offset text
  rw [floorBoundary]
  generalize takeBytes offset text = before at whole
  rw [whole, takeBytes_byteLength_append]

theorem isGreatest_floorBoundary (offset : Nat) (text : Text) :
    IsGreatest {boundary | text.IsBoundary boundary ∧ boundary ≤ offset}
      (text.floorBoundary offset) := by
  constructor
  · obtain ⟨after, whole⟩ := takeBytes_append_rest offset text
    exact ⟨⟨_, after, whole, rfl⟩, byteLength_takeBytes_le offset text⟩
  · rintro _ ⟨⟨before, after, rfl, rfl⟩, reaches⟩
    rw [floorBoundary, takeBytes_append reaches, byteLength_append]
    exact Nat.le_add_right _ _

theorem isBoundary_iff_floorBoundary :
    text.IsBoundary offset ↔ text.floorBoundary offset = offset := by
  constructor
  · intro boundary
    exact Nat.le_antisymm (byteLength_takeBytes_le offset text)
      ((isGreatest_floorBoundary offset text).2 ⟨boundary, Nat.le_refl _⟩)
  · intro same
    exact same ▸ (isGreatest_floorBoundary offset text).1.1

instance (text : Text) (offset : Nat) : Decidable (text.IsBoundary offset) :=
  decidable_of_iff _ isBoundary_iff_floorBoundary.symm

/-! ## Slices in range -/

/-- The text between two offsets, if they are boundaries in order. -/
def cut? (start stop : Nat) (text : Text) : Option Text :=
  if text.IsBoundary start ∧ text.IsBoundary stop ∧ start ≤ stop then some (slice start stop text)
  else none

theorem cut?_append (whole : text = before ++ (middle ++ after))
    (starts : start = before.byteLength) (stops : stop = start + middle.byteLength) :
    cut? start stop text = some middle := by
  obtain ⟨first, last⟩ := isBoundary_append whole
  subst stops starts
  rw [cut?, if_pos ⟨first, last, Nat.le_add_right _ _⟩, whole, slice_append]

theorem cut?_eq_some : cut? start stop text = some middle ↔
    ∃ before after, text = before ++ (middle ++ after) ∧ start = before.byteLength ∧
      stop = start + middle.byteLength := by
  constructor
  · intro cuts
    rw [cut?] at cuts
    split at cuts
    · next inRange =>
      obtain ⟨⟨before, after, rfl, rfl⟩, ⟨before', after', same, rfl⟩, ordered⟩ := inRange
      obtain ⟨between, rfl, rfl⟩ :
          ∃ between, before' = before ++ between ∧ after = between ++ after' := by
        rcases List.append_eq_append_iff.1 same with found | ⟨between, rfl, rfl⟩
        · exact found
        · cases between with
          | nil => exact ⟨[], by simp⟩
          | cons c between =>
              have := byteLength_pos (List.cons_ne_nil c between)
              rw [byteLength_append] at ordered
              omega
      rw [byteLength_append, slice_append] at cuts
      obtain rfl := Option.some.inj cuts
      exact ⟨before, after', rfl, rfl, byteLength_append _ _⟩
    · cases cuts
  · rintro ⟨before, after, whole, starts, stops⟩
    exact cut?_append whole starts stops

end Ecmascript.Text
