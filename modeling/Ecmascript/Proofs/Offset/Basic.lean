import Ecmascript.Proofs.Offset.Cursor

/-!
# Cursors give what lexers give

Wherever a lexer can stand in a source whose offsets fit into 32 bits, a scanner has a result, and it is
the lexer's. So all slices and indices are in range, and all loops come to an end. The relation
between the two composes along `bind`, and every scanner has its own lemma.
-/

set_option autoImplicit false

namespace Ecmascript

open Character

/-- The lexer behind the first part of what it has left. -/
def Lexer.past (lexer : Lexer) (split : Text × Text) : Lexer :=
  lexer.advance split.1 split.2

/-- The place of a lexer, without what is left of the source. -/
def Lexer.cursor (lexer : Lexer) : Cursor :=
  ⟨lexer.source, lexer.position, lexer.regexAllowed, lexer.templates⟩

/-- A lexer that stands in a source whose offsets fit into 32 bits. -/
structure Lexer.InRange (lexer : Lexer) : Prop where
  placed : lexer.Placed
  small : lexer.source.byteLength < UInt32.size

variable {lexer after : Lexer} {front rest : Text}

namespace Lexer.InRange

theorem passes (inRange : lexer.InRange) (moves : lexer.Passes front after) : after.InRange :=
  ⟨inRange.placed.passes moves, moves.source ▸ inRange.small⟩

theorem advance (inRange : lexer.InRange) (next : lexer.rest = front ++ rest) :
    (lexer.advance front rest).InRange :=
  inRange.passes (passes_advance next)

theorem past {split : Text × Text} (inRange : lexer.InRange)
    (whole : split.1 ++ split.2 = lexer.rest) : (lexer.past split).InRange :=
  inRange.advance whole.symm

theorem whole (inRange : lexer.InRange) :
    ∃ before, lexer.source = before ++ lexer.rest ∧ lexer.position = before.byteLength := by
  obtain ⟨before, passed⟩ := inRange.placed
  exact ⟨before, passed.rest, passed.position.trans (Nat.zero_add _)⟩

end Lexer.InRange

theorem Lexer.rest_advance (lexer : Lexer) (front rest : Text) :
    (lexer.advance front rest).rest = rest :=
  rfl

theorem Lexer.past_nil (next : lexer.rest = rest) : lexer.past ([], rest) = lexer := by
  subst next
  rfl

theorem Lexer.advance_advance (lexer : Lexer) (front back rest last : Text) :
    (lexer.advance front rest).advance back last = lexer.advance (front ++ back) last := by
  simp [Lexer.advance, Text.byteLength_append, Nat.add_assoc]

theorem Lexer.past_advance (lexer : Lexer) (front rest : Text) (split : Text × Text) :
    (lexer.advance front rest).past split = lexer.past (front ++ split.1, split.2) :=
  lexer.advance_advance front split.1 rest split.2

theorem Lexer.past_past (lexer : Lexer) (split further : Text × Text) :
    (lexer.past split).past further = lexer.past (split.1 ++ further.1, further.2) :=
  lexer.past_advance split.1 split.2 further

namespace Cursor

open Lexer

/-- At the place of a lexer, a scanner gives a value and leads to the place of another lexer. -/
def Gives {α : Type} (scanner : Scanner α) (lexer : Lexer) (answer : α × Lexer) : Prop :=
  scanner lexer.cursor = Part.some (answer.1, answer.2.cursor)

variable {α β σ : Type} {scanner : Scanner α} {then_ : α → Scanner β}
  {answer : α × Lexer} {result : β × Lexer}

theorem Gives.pure (value : α) (lexer : Lexer) :
    Gives (Pure.pure value : Scanner α) lexer (value, lexer) :=
  rfl

theorem Gives.bind (first : Gives scanner lexer answer)
    (second : Gives (then_ answer.1) answer.2 result) : Gives (scanner >>= then_) lexer result := by
  change ((scanner lexer.cursor).bind fun reading => then_ reading.1 reading.2) = _
  rw [first, Part.bind_some]
  exact second

/-! ## Loops -/

/-- What follows a round of a loop. -/
def proceed (round : σ → Scanner (σ ⊕ β)) : σ ⊕ β → Scanner β
  | .inl state => loop round state
  | .inr value => pure value

theorem loop_eq (round : σ → Scanner (σ ⊕ β)) (state : σ) :
    loop round state = round state >>= proceed round := by
  funext cursor
  refine Part.ext fun answer => ?_
  have bound : (round state >>= proceed round) cursor =
      (round state cursor).bind fun reading => proceed round reading.1 reading.2 := rfl
  rw [bound, loop, PFun.mem_fix_iff, Part.mem_bind_iff]
  simp only [step, Part.mem_map_iff]
  constructor
  · rintro (⟨⟨turn, behind⟩, reads, ends⟩ | ⟨_, ⟨⟨turn, behind⟩, reads, goes⟩, further⟩)
    · cases turn with
      | inl state => cases ends
      | inr value =>
          cases ends
          exact ⟨_, reads, Part.mem_some _⟩
    · cases turn with
      | inl state =>
          cases goes
          exact ⟨_, reads, further⟩
      | inr value => cases goes
  · rintro ⟨⟨turn, behind⟩, reads, further⟩
    cases turn with
    | inl state => exact .inr ⟨_, ⟨_, reads, rfl⟩, further⟩
    | inr value =>
        obtain rfl : answer = (value, behind) := Part.mem_some_iff.1 further
        exact .inl ⟨_, reads, rfl⟩

variable {round : σ → Scanner (σ ⊕ β)} {state next : σ}

theorem Gives.unroll (further : Gives (round state >>= proceed round) lexer result) :
    Gives (loop round state) lexer result :=
  loop_eq round state ▸ further

/-- A round that is not the last. -/
theorem Gives.again (first : Gives (round state) lexer (.inl next, after))
    (further : Gives (loop round next) after result) : Gives (loop round state) lexer result :=
  .unroll (first.bind further)

/-- The last round. -/
theorem Gives.over (last : Gives (round state) lexer (.inr result.1, result.2)) :
    Gives (loop round state) lexer result :=
  .unroll (last.bind (.pure _ _))

theorem Gives.again_bind {then_ : α → Scanner β} {round : σ → Scanner (σ ⊕ α)}
    (first : Gives (round state) lexer (.inl next, after))
    (further : Gives (loop round next >>= then_) after result) :
    Gives (loop round state >>= then_) lexer result := by
  rw [loop_eq, bind_assoc]
  exact first.bind further

theorem Gives.over_bind {then_ : α → Scanner β} {round : σ → Scanner (σ ⊕ α)} {value : α}
    (last : Gives (round state) lexer (.inr value, after))
    (further : Gives (then_ value) after result) : Gives (loop round state >>= then_) lexer result :=
  by
  have ends : Gives (loop round state) lexer (value, after) := .over last
  exact ends.bind further

/-! ## Looking at the source -/

variable {c : Char}

theorem gives_get (lexer : Lexer) : Gives get lexer (lexer.cursor, lexer) :=
  rfl

theorem gives_here (lexer : Lexer) : Gives here lexer (lexer.position, lexer) :=
  (gives_get lexer).bind (.pure _ _)

theorem Gives.get {then_ : Cursor → Scanner β} (further : Gives (then_ lexer.cursor) lexer result) :
    Gives (MonadState.get >>= then_) lexer result :=
  (gives_get lexer).bind further

theorem gives_look {find : Cursor → Option α} {value : α} (found : find lexer.cursor = some value) :
    Gives (look find) lexer (value, lexer) := by
  rw [Gives, look, found]
  rfl

theorem gives_cut {start : Lexer} (inRange : start.InRange) (moves : start.Passes front lexer) :
    Gives (cut start.position lexer.position) lexer (front, lexer) := by
  obtain ⟨before, whole, stands⟩ := inRange.whole
  rw [moves.rest] at whole
  have cuts := Text.cut?_append whole stands moves.position
  rw [← moves.source] at cuts
  exact gives_look cuts

theorem gives_ahead (inRange : lexer.InRange) : Gives ahead lexer (lexer.rest, lexer) := by
  obtain ⟨before, whole, stands⟩ := inRange.whole
  have cuts : lexer.source.cut? lexer.position lexer.source.byteLength = some lexer.rest := by
    have toEnd : lexer.source = before ++ (lexer.rest ++ []) := by rw [List.append_nil, ← whole]
    refine Text.cut?_append toEnd stands ?_
    rw [whole, Text.byteLength_append, ← stands]
  have sees : Gives (cut lexer.position lexer.source.byteLength) lexer (lexer.rest, lexer) :=
    gives_look cuts
  exact (gives_here lexer).bind (.get sees)

theorem Gives.peek {then_ : Option Char → Scanner β} (inRange : lexer.InRange)
    (next : lexer.rest = rest) (further : Gives (then_ rest.head?) lexer result) :
    Gives (Cursor.peek >>= then_) lexer result := by
  subst next
  have peeks : Gives Cursor.peek lexer (lexer.rest.head?, lexer) :=
    (gives_ahead inRange).bind (.pure _ _)
  exact peeks.bind further

theorem Gives.peekNext {then_ : Option Char → Scanner β} (inRange : lexer.InRange)
    (next : lexer.rest = rest) (further : Gives (then_ rest.tail.head?) lexer result) :
    Gives (Cursor.peekNext >>= then_) lexer result := by
  subst next
  have peeks : Gives Cursor.peekNext lexer (lexer.rest.tail.head?, lexer) :=
    (gives_ahead inRange).bind (.pure _ _)
  exact peeks.bind further

theorem gives_moveTo (inRange : after.InRange)
    (same : after.cursor = { lexer.cursor with position := after.position }) :
    Gives (moveTo after.position) lexer ((), after) := by
  obtain ⟨before, whole, stands⟩ := inRange.whole
  have fits : after.position < UInt32.size := by
    have := inRange.small
    rw [whole, Text.byteLength_append] at this
    omega
  rw [Gives, moveTo, if_pos fits, same]
  rfl

theorem gives_modify {f : Cursor → Cursor} (same : after.cursor = f lexer.cursor) :
    Gives (modify f) lexer ((), after) :=
  congrArg (fun cursor => Part.some ((), cursor)) same.symm

theorem gives_advance (inRange : lexer.InRange) (next : lexer.rest = c :: rest) :
    Gives advance lexer (some c, lexer.advance [c] rest) := by
  have beyond : (lexer.advance [c] rest).InRange := inRange.advance next
  refine .peek inRange next ?_
  exact (gives_here lexer).bind ((gives_moveTo beyond rfl).bind (.pure _ _))

theorem gives_advance_end (inRange : lexer.InRange) (next : lexer.rest = []) :
    Gives advance lexer (none, lexer) :=
  .peek inRange next (.pure _ _)

theorem gives_eat (inRange : lexer.InRange) (next : lexer.rest = c :: rest) :
    Gives (eat c) lexer (true, lexer.advance [c] rest) := by
  refine .peek inRange next ?_
  rw [if_pos (List.head?_cons ..)]
  exact (gives_advance inRange next).bind (.pure _ _)

theorem gives_eat_other (inRange : lexer.InRange) (other : lexer.rest.head? ≠ some c) :
    Gives (eat c) lexer (false, lexer) := by
  refine .peek inRange rfl ?_
  rw [if_neg other]
  exact .pure _ _

theorem Gives.advanceWhile_cons {p : Char → Bool} {then_ : Unit → Scanner β}
    (inRange : lexer.InRange) (next : lexer.rest = c :: rest) (inside : p c = true)
    (further : Gives (advanceWhile p >>= then_) (lexer.advance [c] rest) result) :
    Gives (advanceWhile p >>= then_) lexer result := by
  refine .again_bind (.peek inRange next ?_) further
  simp only [List.head?_cons, Option.any_some, inside, if_true]
  exact (gives_advance inRange next).bind (.pure _ _)

theorem gives_advanceWhile_stop {p : Char → Bool} (inRange : lexer.InRange)
    (outside : lexer.rest.head?.any p = false) : Gives (advanceWhile p) lexer ((), lexer) := by
  refine .over (.peek inRange rfl ?_)
  simp only [outside, Bool.false_eq_true, if_false]
  exact .pure _ _

theorem gives_advanceWhile (p : Char → Bool) (inRange : lexer.InRange)
    (next : lexer.rest = rest) :
    Gives (advanceWhile p) lexer ((), lexer.past (rest.span p)) := by
  simp only [List.span_eq_takeWhile_dropWhile]
  induction rest generalizing lexer with
  | nil =>
      rw [List.takeWhile_nil, List.dropWhile_nil, past_nil next]
      exact gives_advanceWhile_stop inRange (by rw [next]; rfl)
  | cons c rest ih =>
      rw [List.takeWhile_cons, List.dropWhile_cons]
      cases inside : p c with
      | true =>
          have second : (lexer.advance [c] rest).InRange := inRange.advance next
          have further := ih second rfl
          rw [past_advance] at further
          rw [← bind_pure (advanceWhile p)]
          exact .advanceWhile_cons inRange next inside (further.bind (.pure _ _))
      | false =>
          simp only [Bool.false_eq_true, if_false, past_nil next]
          exact gives_advanceWhile_stop inRange (by rw [next]; exact inside)

theorem gives_byteAt {start : Lexer} (inRange : start.InRange) (next : start.rest = c :: rest)
    (ascii : c.val ≤ 127) (same : lexer.source = start.source) :
    Gives (byteAt start.position) lexer (c.val.toUInt8, lexer) := by
  obtain ⟨before, whole, stands⟩ := inRange.whole
  have found : lexer.source.bytes[start.position]? = some c.val.toUInt8 := by
    rw [← List.head?_drop, same, whole, stands, Text.drop_bytes, next, Text.bytes_cons ascii]
    rfl
  exact gives_look found

theorem gives_bytesFrom (inRange : lexer.InRange) (next : lexer.rest = front ++ rest) :
    Gives (bytesFrom (lexer.position + Text.byteLength front)) lexer (Text.bytes rest, lexer) := by
  obtain ⟨before, whole, stands⟩ := inRange.whole
  rw [next, ← List.append_assoc] at whole
  have inside := Text.drop_bytes (before ++ front) rest
  have reaches : (before ++ front).byteLength ≤ (Text.bytes (before ++ front ++ rest)).length := by
    rw [Text.length_bytes, Text.byteLength_append (before ++ front)]
    exact Nat.le_add_right _ _
  rw [← whole, Text.byteLength_append, ← stands] at inside reaches
  refine gives_look ?_
  rw [show lexer.cursor.source = lexer.source from rfl, if_pos reaches, inside]

/-- What was read between two lexers is cut out of the source. -/
theorem gives_lexeme (inRange : lexer.InRange) (moves : lexer.Passes front after) (f : Text → α) :
    Gives (do return f (← cut lexer.position (← here))) after (f front, after) :=
  (gives_here after).bind ((gives_cut inRange moves).bind (.pure _ _))

end Cursor

end Ecmascript
