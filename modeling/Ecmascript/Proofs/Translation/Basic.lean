import Ecmascript.Proofs.Cover.Reads
import Ecmascript.Proofs.Error.Contract
import Ecmascript.Proofs.Lexer.Behind
import Ecmascript.Tree.Rebuild

/-!
# Runs behind a text

The run of the parser on a source is compared with the run on the same source behind another text.
Offsets are greater by the bytes of the text in front, in the state, in the trees and in the
errors; everything else is equal. The one exception is the first token, which may be found behind a
line break that the text in front ends with, and behind which no token has been read. So a parser
that looks at line breaks, or at the end of the token before, is only compared where a token has
been read.

Where the run on the source rejects it, the error points at something in the source.
-/

set_option autoImplicit false

namespace Ecmascript

/-- An attempt moved by a distance. -/
def Attempt.shift (distance : Nat) (attempt : Attempt) : Attempt :=
  { attempt with start := attempt.start + distance }

theorem Attempt.shift_inj {distance : Nat} {first second : Attempt} :
    first.shift distance = second.shift distance ↔ first = second := by
  constructor
  · intro same
    obtain ⟨start, kind, context⟩ := first
    obtain ⟨start', kind', context'⟩ := second
    simp only [shift, mk.injEq, Nat.add_right_cancel_iff] at same ⊢
    exact same
  · exact congrArg (shift distance)

namespace Parser

/-! ## Values -/

/-- Values that may hold offsets, which can be moved by a distance. -/
class Shifts (α : Type) where
  shift : Nat → α → α

instance : Shifts Nat := ⟨fun distance offset => offset + distance⟩
instance : Shifts Token := ⟨Token.shift⟩
instance {category : Category} : Shifts (Node category) := ⟨Node.shift⟩
instance {α : Type} [Shifts α] : Shifts (Option α) :=
  ⟨fun distance => Option.map (Shifts.shift distance)⟩
instance {α β : Type} [Shifts α] [Shifts β] : Shifts (α × β) :=
  ⟨fun distance => Prod.map (Shifts.shift distance) (Shifts.shift distance)⟩
instance : Shifts (Option String) := ⟨fun _ => id⟩
instance : Shifts (Option MethodKind) := ⟨fun _ => id⟩
instance : Shifts Unit := ⟨fun _ => id⟩
instance : Shifts Bool := ⟨fun _ => id⟩
instance : Shifts String := ⟨fun _ => id⟩
instance : Shifts TokenKind := ⟨fun _ => id⟩
instance : Shifts Context := ⟨fun _ => id⟩
instance : Shifts MethodKind := ⟨fun _ => id⟩
instance : Shifts Modifiers := ⟨fun _ => id⟩

/-! ## States and replies -/

/-- A source, a text in front of it, and the setup under which the source is parsed by itself and
behind that text. -/
structure Translation where
  setup : Setup
  front : Text
  source : Text

/-- Where the next token stands: it may be the first of the text, or a token has been read. -/
inductive Place where
  | first | later

/-- The place behind an attempt that began at a place. -/
def Place.attempted {α : Type} (place : Place) : Option α → Place
  | none => place
  | some _ => later

namespace Translation

variable (c : Translation)

/-- By how much offsets are greater. -/
abbrev distance : Nat :=
  c.front.byteLength

/-- What is left the same by a run that fails: the depth, and which attempts have failed. -/
structure Left (s t : State) : Prop where
  depth : t.depth = s.depth
  failed : t.failed.map Prod.fst = s.failed.map fun failure => failure.1.shift c.distance

/-- The substitutions around a state begin before it, also where its slash is read again. -/
structure Inside (s : State) : Prop where
  here : s.lexer.Inside s.current.stop
  slash : s.current.kind.isSlash = true → s.lexer.Inside s.current.start

/-- The second state is the first one behind the text in front. -/
structure Related (place : Place) (s t : State) : Prop extends Left c s t where
  stands : Stands s.scope s
  inside : Inside s
  source : s.lexer.source = c.source
  lexer : t.lexer = s.lexer.behind c.front
  kind : t.current.kind = s.current.kind
  start : t.current.start = s.current.start + c.distance
  stop : t.current.stop = s.current.stop + c.distance
  context : t.context = s.context
  settled : place = .later → t.current.newlineBefore = s.current.newlineBefore ∧
    t.previous.stop = s.previous.stop + c.distance

/-- The second reply is the first one behind the text in front. -/
inductive Matches {α : Type} [Shifts α] (after : α → Place) : Reply α → Reply α → Prop
  | ok {value : α} {s t : State} (related : c.Related (after value) s t) :
      Matches after (.ok value s) (.ok (Shifts.shift c.distance value) t)
  | reject {e e' : SyntaxError} {s t : State} (fault : e.At c.source) (moves : e.Moves c.distance e')
      (left : c.Left s t) : Matches after (.reject e s) (.reject e' t)
  | exhausted : Matches after .exhausted .exhausted

/-- The second parser runs behind the text in front like the first one on the source. -/
def Follows {α : Type} [Shifts α] (place : Place) (m m' : Parser α) (after : α → Place) : Prop :=
  ∀ s t, c.Related place s t → c.Matches after (m c.setup s) (m' c.setup t)

/-- A value that a parser yields in the source. -/
def Yielded {α : Type} (m : Parser α) (value : α) : Prop :=
  ∃ s s', Stands s.scope s ∧ s.lexer.source = c.source ∧ m c.setup s = .ok value s'

variable {c} {place : Place} {s t s' t' : State} {α β : Type}

/-- The substitutions stay the same where a slash is read again. -/
theorem Inside.again {σ : Scope} (inside : Inside s) (slash : s.current.kind.isSlash = true)
    (reads : Reads σ s [] s') (templates : s'.lexer.templates = s.lexer.templates) :
    Inside s' := by
  have here : s'.lexer.Inside s'.current.start := by
    unfold Lexer.Inside
    rw [templates, reads.source, (reads.still rfl).1]
    exact inside.slash slash
  exact ⟨here.mono reads.stands.written.forward, fun _ => here⟩

namespace Related

theorem anywhere (related : c.Related .later s t) : c.Related place s t :=
  { related with settled := fun _ => related.settled rfl }

theorem written (related : c.Related place s t) : s.current.Written c.source := by
  rw [← related.source]
  exact related.stands.written

/-- What is asked for where the next token is read. -/
theorem reading (related : c.Related place s t) : s.lexer.Inside s.lexer.position := by
  rw [← related.stands.stop]
  exact related.inside.here

/-- The next token moved, except that it may stand behind a line break. -/
theorem current (related : c.Related place s t) : t.current =
    { s.current.shift c.distance with newlineBefore := t.current.newlineBefore } := by
  have kind := related.kind
  have start := related.start
  have stop := related.stop
  generalize t.current = token at kind start stop
  obtain ⟨_, _, _, newline⟩ := token
  dsimp only at kind start stop
  subst kind start stop
  rfl

theorem recontext (related : c.Related place s t) (context : Context) :
    c.Related place { s with context } { t with context } :=
  { related with
    stands := related.stands.beside ⟨rfl, rfl, rfl⟩ rfl
    inside := ⟨related.inside.here, related.inside.slash⟩
    context := rfl }

theorem redepth (related : c.Related place s t) (change : Nat → Nat) :
    c.Related place { s with depth := change s.depth } { t with depth := change t.depth } :=
  { related with
    stands := related.stands.beside ⟨rfl, rfl, rfl⟩ rfl
    inside := ⟨related.inside.here, related.inside.slash⟩
    depth := congrArg change related.depth }

end Related

/-! ## Putting parsers together -/

variable [Shifts α] [Shifts β] {after : α → Place} {last : β → Place} {m m' : Parser α}

/-- Where a parser goes on with what another one yielded in two related states. -/
theorem Matches.bind {f f' : α → Parser β} (first : c.Matches after (m c.setup s) (m' c.setup t))
    (next : ∀ value s' t', m c.setup s = .ok value s' → c.Related (after value) s' t' →
      c.Matches last (f value c.setup s') (f' (Shifts.shift c.distance value) c.setup t')) :
    c.Matches last ((m >>= f) c.setup s) ((m' >>= f') c.setup t) := by
  change c.Matches last (andThen m f c.setup s) (andThen m' f' c.setup t)
  unfold andThen
  generalize outcome : m c.setup s = r at first ⊢
  generalize m' c.setup t = r' at first ⊢
  cases first with
  | ok related => exact next _ _ _ outcome related
  | reject fault moves left => exact .reject fault moves left
  | exhausted => exact .exhausted

namespace Follows

theorem bind {f f' : α → Parser β} (first : c.Follows place m m' after)
    (next : ∀ value, c.Follows (after value) (f value) (f' (Shifts.shift c.distance value)) last) :
    c.Follows place (m >>= f) (m' >>= f') last :=
  fun s t related => (first s t related).bind fun value s' t' _ => next value s' t'

/-- What comes second may rely on where the value comes from. -/
theorem bindYielded {f f' : α → Parser β} (first : c.Follows place m m' after)
    (next : ∀ value, c.Yielded m value →
      c.Follows (after value) (f value) (f' (Shifts.shift c.distance value)) last) :
    c.Follows place (m >>= f) (m' >>= f') last :=
  fun s t related => (first s t related).bind fun value s' t' outcome =>
    next value ⟨s, s', related.stands, related.source, outcome⟩ s' t'

theorem answer (after : α → Place) (value : α) :
    c.Follows (after value) (Pure.pure value : Parser α)
      (Pure.pure (Shifts.shift c.distance value)) after :=
  fun _ _ related => .ok related

theorem pure (value : α) : c.Follows place (Pure.pure value : Parser α)
    (Pure.pure (Shifts.shift c.distance value)) fun _ => place :=
  answer (fun _ => place) value

theorem ite {condition : Prop} [Decidable condition] {n n' : Parser α}
    (yes : c.Follows place m m' after) (no : c.Follows place n n' after) :
    c.Follows place (if condition then m else n) (if condition then m' else n') after := by
  split
  · exact yes
  · exact no

/-- Where a token has been read, more is known than where it may not have been. -/
theorem anywhere (follows : c.Follows place m m' fun _ => .later) :
    c.Follows place m m' after := by
  intro s t related
  have matched := follows s t related
  generalize m c.setup s = r at matched ⊢
  generalize m' c.setup t = r' at matched ⊢
  cases matched with
  | ok related' => exact .ok related'.anywhere
  | reject fault moves left => exact .reject fault moves left
  | exhausted => exact .exhausted

theorem exhaust : c.Follows place (Parser.exhaust : Parser α) Parser.exhaust after :=
  fun _ _ _ => .exhausted

/-- A parser that answers from the state alone and leaves it as it is. -/
theorem view (view : State → α) (answers : ∀ setup s, m setup s = .ok (view s) s)
    (moves : ∀ s t, c.Related place s t → view t = Shifts.shift c.distance (view s)) :
    c.Follows place m m fun _ => place := by
  intro s t related
  rw [answers, answers, moves s t related]
  exact .ok related

end Follows

end Translation

end Parser

end Ecmascript
