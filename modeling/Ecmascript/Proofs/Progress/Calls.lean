import Ecmascript.Proofs.Lexer.Written
import Ecmascript.Proofs.Parallel.Steps
import Ecmascript.Proofs.Progress.Run

/-!
# Calls inside each other

Every round of a loop of the grammar and every step of its recursion is a call of a goal from the
production of another one. A call is made further on in the text, or at the same place of a goal
that comes earlier in the order in which goals begin with each other. So what comes back to a goal
has read something, and there are no more calls inside each other than the bound that parsing
starts with.
-/

set_option autoImplicit false

namespace Ecmascript

namespace Parser

variable {α β : Type} {self self' : Grammar} {setup : Setup} {s t : State}

/-! ## Places in a text -/

/-- The next token begins at a character of the source. -/
theorem Sound.boundary (sound : Sound s) : s.lexer.source.IsBoundary s.current.start := by
  obtain ⟨lexeme, moves, _⟩ := sound.token
  obtain ⟨before, passed⟩ := sound.placed
  have here : s.lexer.source.dropBytes s.current.start = lexeme ++ s.lexer.rest := moves.rest
  have whole : s.lexer.source = before ++ s.lexer.rest := passed.rest
  have position : s.lexer.position = s.current.start + Text.byteLength lexeme := moves.position
  have position' : s.lexer.position = 0 + Text.byteLength before := passed.position
  obtain ⟨front, split⟩ := Text.dropBytes_suffix s.current.start s.lexer.source
  refine ⟨front, _, split.symm, ?_⟩
  have same : before = front ++ lexeme := by
    rw [here, ← List.append_assoc] at split
    exact List.append_cancel_right (whole.symm.trans split.symm)
  rw [same, Text.byteLength_append] at position'
  omega

/-- Two parsers agree in the states over a text, and stay over it. -/
def Confined (source : Text) (m m' : Parser α) : Prop :=
  ∀ setup s, s.lexer.source = source → m setup s = m' setup s ∧
    ∀ value s', m' setup s = .ok value s' → s'.lexer.source = source

namespace Confined

variable {source : Text}

/-- A parser that changes the lexer, if at all, to another one over the same text. -/
theorem of_source {m : Parser α} (stays : ∀ setup s value s', m setup s = .ok value s' →
    s'.lexer.source = s.lexer.source) : Confined source m m :=
  fun setup s same => ⟨rfl, fun value s' outcome => (stays setup s value s' outcome).trans same⟩

theorem pure (value : α) : Confined source (Pure.pure value) (Pure.pure value) :=
  of_source fun _ _ _ _ outcome => by cases outcome; rfl

theorem fail (error : SyntaxError) :
    Confined source (Parser.fail error : Parser α) (Parser.fail error) :=
  of_source fun _ _ _ _ outcome => by cases outcome

theorem getState : Confined source Parser.getState Parser.getState :=
  of_source fun _ _ _ _ outcome => by cases outcome; rfl

theorem advance : Confined source Parser.advance Parser.advance := by
  refine of_source fun setup s _ s' outcome => ?_
  unfold Parser.advance at outcome
  split at outcome
  · rename_i token lexer reads
    obtain ⟨_, _, moves, _⟩ := Lexer.nextWith_passes reads
    cases outcome
    exact moves.source
  · cases outcome

theorem peek : Confined source Parser.peek Parser.peek := by
  refine of_source fun setup s _ s' outcome => ?_
  unfold Parser.peek at outcome
  split at outcome <;> cases outcome
  rfl

theorem slashAsRegex : Confined source Parser.slashAsRegex Parser.slashAsRegex := by
  refine of_source fun setup s _ s' outcome => ?_
  by_cases slash : s.current.kind = .punctuator .slash ∨ s.current.kind = .punctuator .slashAssign
  · rw [slashAsRegex_of_slash setup slash] at outcome
    split at outcome
    · rename_i token lexer reads
      cases outcome
      exact Lexer.rescanRegex_source reads
    · cases outcome
  · rw [slashAsRegex_of_not_slash setup slash] at outcome
    cases outcome
    rfl

theorem slashAsDivide : Confined source Parser.slashAsDivide Parser.slashAsDivide := by
  refine of_source fun setup s _ s' outcome => ?_
  unfold Parser.slashAsDivide at outcome
  split at outcome <;> cases outcome <;> rfl

theorem bind {first first' : Parser α} {next next' : α → Parser β}
    (before : Confined source first first')
    (behind : ∀ value, Confined source (next value) (next' value)) :
    Confined source (first >>= next) (first' >>= next') := by
  intro setup s same
  change andThen first next setup s = andThen first' next' setup s ∧
    ∀ value s', andThen first' next' setup s = .ok value s' → s'.lexer.source = source
  unfold andThen
  obtain ⟨agree, stays⟩ := before setup s same
  rw [agree]
  cases outcome : first' setup s with
  | ok value t => exact behind value setup t (stays value t outcome)
  | reject error t => exact ⟨rfl, fun _ _ outcome => nomatch outcome⟩
  | exhausted => exact ⟨rfl, fun _ _ outcome => nomatch outcome⟩

theorem withContext {inner inner' : Parser α} (context : Context)
    (inside : Confined source inner inner') :
    Confined source (Parser.withContext context inner) (Parser.withContext context inner') := by
  intro setup s same
  unfold Parser.withContext
  obtain ⟨agree, stays⟩ := inside setup { s with context } same
  rw [agree]
  cases outcome : inner' setup { s with context } with
  | ok value t => exact ⟨rfl, fun _ _ same => by cases same; exact stays value t outcome⟩
  | reject error t => exact ⟨rfl, fun _ _ outcome => nomatch outcome⟩
  | exhausted => exact ⟨rfl, fun _ _ outcome => nomatch outcome⟩

theorem nested {inner inner' : Parser α} (inside : Confined source inner inner') :
    Confined source (Parser.nested inner) (Parser.nested inner') := by
  intro setup s same
  unfold Parser.nested
  obtain ⟨agree, stays⟩ := inside setup { s with depth := s.depth + 1 } same
  rw [agree]
  split
  · exact ⟨rfl, fun _ _ outcome => nomatch outcome⟩
  cases outcome : inner' setup { s with depth := s.depth + 1 } with
  | ok value t => exact ⟨rfl, fun _ _ same => by cases same; exact stays value t outcome⟩
  | reject error t => exact ⟨rfl, fun _ _ outcome => nomatch outcome⟩
  | exhausted => exact ⟨rfl, fun _ _ outcome => nomatch outcome⟩

theorem attempt {inner inner' : Parser α} (kind : AttemptKind)
    (inside : Confined source inner inner') :
    Confined source (Parser.attempt kind inner) (Parser.attempt kind inner') := by
  intro setup s same
  unfold Parser.attempt
  dsimp only
  obtain ⟨agree, stays⟩ := inside setup s same
  rw [agree]
  split
  · exact ⟨rfl, fun _ _ outcome => by cases outcome; exact same⟩
  cases outcome : inner' setup s with
  | ok value t => exact ⟨rfl, fun _ _ same => by cases same; exact stays value t outcome⟩
  | reject error t => exact ⟨rfl, fun _ _ outcome => by cases outcome; exact same⟩
  | exhausted => exact ⟨rfl, fun _ _ outcome => nomatch outcome⟩

end Confined

theorem Parallel.confined {source : Text} {m m' : Parser α} (parallel : Parallel self self' m m')
    (goals : ∀ goal, Confined source (self goal) (self' goal)) : Confined source m m' := by
  induction parallel with
  | goal goal => exact goals goal
  | pure value => exact .pure value
  | bind _ _ first next => exact .bind first next
  | fail error => exact .fail error
  | getState => exact .getState
  | advance => exact .advance
  | peek => exact .peek
  | slashAsRegex => exact .slashAsRegex
  | slashAsDivide => exact .slashAsDivide
  | withContext context _ inside => exact .withContext context inside
  | nested _ inside => exact .nested inside
  | attempt kind _ inside => exact .attempt kind inside

theorem confined_run {source : Text} (steps : Nat) :
    ∀ goal, Confined source (run steps goal) (run steps goal) := by
  induction steps with
  | zero => exact fun _ _ _ _ => ⟨rfl, fun _ _ outcome => nomatch outcome⟩
  | succ steps ih => exact fun goal => (Parallel.production goal).confined ih

/-! ## Calls -/

open Classical in
/-- A grammar in which one call is short of steps. -/
noncomputable def interrupt (self : Grammar) (goal : Goal) (s : State) : Grammar :=
  fun goal' setup s' => if goal' = goal ∧ s' = s then .exhausted else self goal' setup s'

/-- The production of a goal in a state calls another goal in another state: when that call alone
is short of steps, so is the production, however many steps there are. -/
def Calls (setup : Setup) (outer inner : Goal × State) : Prop :=
  ∀ steps, production (interrupt (run steps) inner.1 inner.2) outer.1 setup outer.2 = .exhausted

/-- One call is made further on in the text than another, or at the same place of a goal that comes
earlier in the order in which goals begin with each other. -/
def Descends (outer inner : Goal × State) : Prop :=
  outer.2.current.start < inner.2.current.start ∨
    outer.2.current.start = inner.2.current.start ∧ inner.1.rank < outer.1.rank

/-- The steps that a call needs. -/
def need (call : Goal × State) : Nat :=
  Goal.ranks * call.2.remaining + call.1.rank

variable {outer inner : Goal × State}

theorem interrupt_of_ne {goal : Goal} (other : ¬(goal = inner.1 ∧ t = inner.2)) :
    interrupt self inner.1 inner.2 goal setup t = self goal setup t :=
  if_neg other

/-- A production is not short of steps when the calls that it might make are not: of any goal where
less of the text remains, and of the goals it may begin with. -/
theorem production_ne_exhausted {self : Grammar} (sound : Sound outer.2)
    (enough : ∀ goal t, Sound t →
      t.remaining < outer.2.remaining ∨
        t.remaining ≤ outer.2.remaining ∧ goal.rank < outer.1.rank →
      Spent t.remaining (fun _ => goal.eats) (self goal setup t)) :
    production self outer.1 setup outer.2 ≠ .exhausted := by
  have later : Later setup self outer.2.remaining := fun left less goal t _ sound within =>
    enough goal t sound (.inl (Nat.lt_of_le_of_lt within less))
  have eats := production_eats later outer.1 fun goal before t _ sound within =>
    enough goal t sound (.inr ⟨within, before⟩)
  have spent := eats outer.2 trivial sound (Nat.le_refl _)
  intro short
  rw [short] at spent
  exact spent

/-- With as many steps as the caller needs, the goals that it may call are not short of them. -/
theorem run_spent {goal : Goal} (sound : Sound t)
    (less : t.remaining < outer.2.remaining ∨
      t.remaining ≤ outer.2.remaining ∧ goal.rank < outer.1.rank) :
    Spent t.remaining (fun _ => goal.eats) (run (need outer) goal setup t) := by
  refine run_eats (need outer) t.remaining goal ?_ t trivial sound (Nat.le_refl _)
  have highest := goal.rank_lt_ranks
  unfold need
  rcases less with less | ⟨less, before⟩
  · have room : Goal.ranks * (t.remaining + 1) ≤ Goal.ranks * outer.2.remaining :=
      Nat.mul_le_mul_left _ less
    rw [Nat.mul_add] at room
    omega
  · have room : Goal.ranks * t.remaining ≤ Goal.ranks * outer.2.remaining :=
      Nat.mul_le_mul_left _ less
    omega

/-- A call is made in a sound state with less of the text left, or of a goal that comes earlier. -/
theorem Calls.less (calls : Calls setup outer inner) (sound : Sound outer.2) :
    Sound inner.2 ∧ (inner.2.remaining < outer.2.remaining ∨
      inner.2.remaining ≤ outer.2.remaining ∧ inner.1.rank < outer.1.rank) := by
  by_contra otherwise
  refine production_ne_exhausted sound (fun goal t sound' less => ?_) (calls (need outer))
  have other : ¬(goal = inner.1 ∧ t = inner.2) := by
    rintro ⟨rfl, rfl⟩
    exact otherwise ⟨sound', less⟩
  rw [interrupt_of_ne other]
  exact run_spent sound' less

/-- A call is made over the same text. -/
theorem Calls.source (calls : Calls setup outer inner) (sound : Sound outer.2) :
    inner.2.lexer.source = outer.2.lexer.source := by
  by_contra elsewhere
  have parallel : Parallel (interrupt (run (need outer)) inner.1 inner.2) (run (need outer)) _ _ :=
    .production outer.1
  have confined : Confined outer.2.lexer.source _ _ := parallel.confined fun goal setup t same => by
    have other : ¬(goal = inner.1 ∧ t = inner.2) := by
      rintro ⟨_, rfl⟩
      exact elsewhere same
    rw [interrupt_of_ne other]
    exact confined_run _ goal setup t same
  have enough : production (run (need outer)) outer.1 setup outer.2 ≠ .exhausted :=
    production_ne_exhausted sound fun goal t sound' less => run_spent sound' less
  exact enough ((confined setup outer.2 rfl).1.symm.trans (calls (need outer)))

theorem Descends.trans {middle : Goal × State} (first : Descends outer middle)
    (second : Descends middle inner) : Descends outer inner := by
  unfold Descends at *
  omega

end Parser

end Ecmascript
