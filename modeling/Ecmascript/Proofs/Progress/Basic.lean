import Ecmascript.Proofs.Sound

/-!
# Progress

How much of the text a parser reads. A parser that keeps to a bound is never short of steps where
no more than that many characters remain, and tells how many of them it reads at least. The
productions call each other either behind a token that they have read, or in an order that has no
cycle, so a bound on the steps that grows with the text suffices.
-/

set_option autoImplicit false

namespace Ecmascript.Parser

/-- A reply that is not short of steps. A value comes behind at least as many characters as it is
said to take. -/
def Spent {α : Type} (before : Nat) (eaten : α → Nat) : Reply α → Prop
  | .ok value s => Sound s ∧ s.remaining + eaten value ≤ before
  | .reject _ _ => True
  | .exhausted => False

/-- A parser reads at least some characters, where no more remain than a bound. -/
def Eats {α : Type} (setup : Setup) (pre : State → Prop) (bound : Nat) (eaten : α → Nat)
    (m : Parser α) : Prop :=
  ∀ s, pre s → Sound s → s.remaining ≤ bound → Spent s.remaining eaten (m setup s)

/-- Any state. -/
abbrev Anywhere : State → Prop :=
  fun _ => True

/-- The states before a token of a kind. -/
abbrev Next (kind : TokenKind) : State → Prop :=
  fun s => s.current.kind = kind

namespace Eats

variable {setup : Setup} {pre pre' : State → Prop} {bound : Nat} {α β : Type}
  {eaten eaten' : α → Nat}

theorem weaken {m : Parser α} (eats : Eats setup pre bound eaten m)
    (before : ∀ s, pre' s → pre s) (less : ∀ value, eaten' value ≤ eaten value) :
    Eats setup pre' bound eaten' m := by
  intro s holds sound within
  have spent := eats s (before s holds) sound within
  cases outcome : m setup s with
  | ok value after =>
      rw [outcome] at spent
      have := less value
      exact ⟨spent.1, by have := spent.2; omega⟩
  | reject error after => trivial
  | exhausted => rw [outcome] at spent; exact spent

theorem within {m : Parser α} {left : Nat} (eats : Eats setup Anywhere bound eaten m)
    (le : left ≤ bound) : Eats setup pre left eaten m :=
  fun s _ sound within => eats s trivial sound (Nat.le_trans within le)

/-- The same parser where even less remains, told to read no more than it does. -/
theorem atMost {m : Parser α} {left : Nat} (eats : Eats setup Anywhere bound eaten m)
    (le : left ≤ bound) (less : ∀ value, eaten' value ≤ eaten value) :
    Eats setup pre left eaten' m :=
  (eats.within le).weaken (fun _ _ => trivial) less

/-- What comes second starts with what the first has left. -/
theorem bind {m : Parser α} {f : α → Parser β} {total : β → Nat}
    (first : Eats setup pre bound eaten m)
    (next : ∀ value left, left + eaten value ≤ bound →
      Eats setup Anywhere left (fun result => total result - eaten value) (f value)) :
    Eats setup pre bound total (m >>= f) := by
  intro s holds sound within
  have spent := first s holds sound within
  change Spent s.remaining total (andThen m f setup s)
  unfold andThen
  cases outcome : m setup s with
  | ok value after =>
      rw [outcome] at spent
      obtain ⟨sound', less⟩ := spent
      have more := next value after.remaining (Nat.le_trans less within) after trivial sound'
        (Nat.le_refl _)
      dsimp only
      cases outcome' : f value setup after with
      | ok result last =>
          rw [outcome'] at more
          obtain ⟨sound'', less'⟩ := more
          refine ⟨sound'', ?_⟩
          dsimp only at less'
          omega
      | reject error last => trivial
      | exhausted => rw [outcome'] at more; exact more
  | reject error after => trivial
  | exhausted => rw [outcome] at spent; exact spent

theorem pure {value : α} (nothing : eaten value = 0) :
    Eats setup pre bound eaten (Pure.pure value) := by
  intro s _ sound _
  exact ⟨sound, by rw [nothing]; exact Nat.le_refl _⟩

theorem fail {error : SyntaxError} : Eats setup pre bound eaten (Parser.fail error) :=
  fun _ _ _ _ => trivial

theorem unexpected : Eats setup pre bound eaten Parser.unexpected :=
  fun _ _ _ _ => trivial

theorem reservedWord : Eats setup pre bound eaten Parser.reservedWord :=
  fun _ _ _ _ => trivial

theorem ite {condition : Bool} {m n : Parser α}
    (yes : condition = true → Eats setup pre bound eaten m)
    (no : condition = false → Eats setup pre bound eaten n) :
    Eats setup pre bound eaten (if condition = true then m else n) := by
  cases condition with
  | true => simpa using yes rfl
  | false => simpa using no rfl

theorem ifDecided {condition : Prop} [Decidable condition] {m n : Parser α}
    (yes : condition → Eats setup pre bound eaten m)
    (no : ¬condition → Eats setup pre bound eaten n) :
    Eats setup pre bound eaten (if condition then m else n) := by
  split
  · exact yes ‹_›
  · exact no ‹_›

/-! ## Looking at the state -/

/-- A look at the state. -/
theorem look {m : Parser α} {k : α → Parser β} {total : β → Nat} (view : State → α)
    (answers : ∀ state, m setup state = .ok (view state) state)
    (next : ∀ value, Eats setup (fun s => pre s ∧ value = view s) bound total (k value)) :
    Eats setup pre bound total (m >>= k) := by
  intro s holds sound within
  change Spent s.remaining total (andThen m k setup s)
  unfold andThen
  rw [answers]
  exact next (view s) s ⟨holds, rfl⟩ sound within

/-- A look at the state that does not matter. -/
theorem glance {m : Parser α} {k : α → Parser β} {total : β → Nat} (view : State → α)
    (answers : ∀ state, m setup state = .ok (view state) state)
    (next : ∀ value, Eats setup pre bound total (k value)) :
    Eats setup pre bound total (m >>= k) :=
  look view answers fun value =>
    (next value).weaken (fun _ holds => holds.1) fun _ => Nat.le_refl _

theorem position {k : Nat → Parser α} (next : ∀ start, Eats setup pre bound eaten (k start)) :
    Eats setup pre bound eaten (Parser.position >>= k) :=
  glance _ (fun _ => rfl) next

theorem context {k : Context → Parser α}
    (next : ∀ context, Eats setup pre bound eaten (k context)) :
    Eats setup pre bound eaten (Parser.context >>= k) :=
  glance _ (fun _ => rfl) next

theorem ask {kind : TokenKind} {k : Bool → Parser α}
    (next : ∀ answer, Eats setup pre bound eaten (k answer)) :
    Eats setup pre bound eaten (at? kind >>= k) :=
  glance _ (fun _ => rfl) next

theorem kind {k : TokenKind → Parser α}
    (next : ∀ kind, Eats setup (Next kind) bound eaten (k kind)) :
    Eats setup pre bound eaten (currentKind >>= k) :=
  look _ (fun _ => rfl) fun kind =>
    (next kind).weaken (fun _ holds => holds.2.symm) fun _ => Nat.le_refl _

theorem token {k : Token → Parser α}
    (next : ∀ token : Token, Eats setup (Next token.kind) bound eaten (k token)) :
    Eats setup pre bound eaten (current >>= k) :=
  look _ (fun _ => rfl) fun token =>
    (next token).weaken (fun _ holds => congrArg Token.kind holds.2.symm) fun _ => Nat.le_refl _

theorem peek {k : Token → Parser α} (next : ∀ token, Eats setup pre bound eaten (k token)) :
    Eats setup pre bound eaten (Parser.peek >>= k) := by
  intro s holds sound within
  change Spent s.remaining eaten (andThen Parser.peek k setup s)
  unfold andThen Parser.peek
  cases s.lexer.nextWith setup.endsOperand with
  | mk outcome after =>
      cases outcome with
      | ok token => exact next token s holds sound within
      | error error => trivial

theorem finish {category : Category} {eaten : Located category → Nat} {start : Nat}
    {item : Node category} (nothing : ∀ value, eaten value = 0) :
    Eats setup pre bound eaten (Parser.finish start item) :=
  fun _ _ sound _ => ⟨sound, by rw [nothing]; exact Nat.le_refl _⟩

/-! ## Reading tokens -/

theorem advance_ne_exhausted {s : State} : Parser.advance setup s ≠ .exhausted := by
  unfold Parser.advance
  split <;> nofun

/-- Reading a token that is not the end of input takes characters. -/
theorem advance (goes_on : ∀ s, pre s → s.current.kind ≠ .endOfInput) :
    Eats setup pre bound (fun _ => 1) Parser.advance := by
  intro s holds sound within
  have less := sound.rest_lt_remaining (goes_on s holds)
  cases outcome : Parser.advance setup s with
  | ok value after =>
      obtain ⟨sound', left⟩ := sound.advance outcome
      exact ⟨sound', Nat.le_trans (Nat.add_le_add_right left 1) less⟩
  | reject error after => trivial
  | exhausted => exact advance_ne_exhausted outcome

/-- Reading any token. -/
theorem step : Eats setup pre bound (fun _ => 0) Parser.advance := by
  intro s holds sound within
  cases outcome : Parser.advance setup s with
  | ok value after =>
      obtain ⟨sound', left⟩ := sound.advance outcome
      exact ⟨sound', Nat.le_trans left sound.rest_le_remaining⟩
  | reject error after => trivial
  | exhausted => exact advance_ne_exhausted outcome

theorem advanceFrom {kind : TokenKind} (goes_on : kind ≠ .endOfInput) :
    Eats setup (Next kind) bound (fun _ => 1) Parser.advance :=
  advance fun _ same => same ▸ goes_on

theorem ifKind {kind : TokenKind} {m n : Parser α} (yes : Eats setup (Next kind) bound eaten m)
    (no : Eats setup pre bound eaten n) :
    Eats setup pre bound eaten (at? kind >>= fun answer => if answer = true then m else n) := by
  refine look (fun s => decide (s.current.kind = kind)) (fun _ => rfl) fun answer => ?_
  refine ite (fun found => yes.weaken (fun s holds => ?_) fun _ => Nat.le_refl _)
    fun _ => no.weaken (fun s holds => holds.1) fun _ => Nat.le_refl _
  simpa [found] using holds.2.symm

theorem ifEat {kind : TokenKind} (goes_on : kind ≠ .endOfInput) {m n : Parser α}
    (yes : ∀ left, left < bound → Eats setup Anywhere left (fun value => eaten value - 1) m)
    (no : Eats setup Anywhere bound eaten n) :
    Eats setup pre bound eaten
      ((at? kind >>= fun answer =>
        if answer = true then Parser.advance >>= fun _ => Pure.pure true else Pure.pure false)
          >>= fun answer => if answer = true then m else n) := by
  have first : Eats setup pre bound (fun answer => if answer = true then 1 else 0)
      (at? kind >>= fun answer =>
        if answer = true then Parser.advance >>= fun _ => Pure.pure true else Pure.pure false) :=
    ifKind ((advanceFrom goes_on).bind fun _ left le => pure rfl) (pure rfl)
  refine first.bind fun answer left le => ?_
  · refine ite (fun found => ?_) fun missed => ?_
    · subst found
      exact yes left le
    · subst missed
      exact no.atMost le (by simp)

theorem eat {kind : TokenKind} :
    Eats setup pre bound (fun _ => 0)
      (at? kind >>= fun answer =>
        if answer = true then Parser.advance >>= fun _ => Pure.pure true else Pure.pure false) :=
  ifKind (step.bind fun _ _ _ => pure rfl) (pure rfl)

theorem expect {kind : TokenKind} (goes_on : kind ≠ .endOfInput) :
    Eats setup pre bound (fun _ => 1)
      (at? kind >>= fun answer => if answer = true then Parser.advance else Parser.unexpected) :=
  ifKind (advanceFrom goes_on) unexpected

theorem ifMark (mark : Punctuator) {m n : Parser α}
    (yes : Eats setup (Next (.punctuator mark)) bound eaten m)
    (no : Eats setup pre bound eaten n) :
    Eats setup pre bound eaten (atMark mark >>= fun answer => if answer = true then m else n) :=
  ifKind yes no

theorem ifKeyword (word : Keyword) {m n : Parser α}
    (yes : Eats setup (Next (.keyword word)) bound eaten m)
    (no : Eats setup pre bound eaten n) :
    Eats setup pre bound eaten
      (atKeyword word >>= fun answer => if answer = true then m else n) :=
  ifKind yes no

theorem ifName (name : String) {m n : Parser α}
    (yes : Eats setup (Next (.identifier name)) bound eaten m)
    (no : Eats setup pre bound eaten n) :
    Eats setup pre bound eaten (atName name >>= fun answer => if answer = true then m else n) :=
  ifKind yes no

theorem ifEatMark (mark : Punctuator) {m n : Parser α}
    (yes : ∀ left, left < bound → Eats setup Anywhere left (fun value => eaten value - 1) m)
    (no : Eats setup Anywhere bound eaten n) :
    Eats setup pre bound eaten (eatMark mark >>= fun answer => if answer = true then m else n) :=
  ifEat (by nofun) yes no

theorem ifEatKeyword (word : Keyword) {m n : Parser α}
    (yes : ∀ left, left < bound → Eats setup Anywhere left (fun value => eaten value - 1) m)
    (no : Eats setup Anywhere bound eaten n) :
    Eats setup pre bound eaten
      (eatKeyword word >>= fun answer => if answer = true then m else n) :=
  ifEat (by nofun) yes no

theorem eatMark (mark : Punctuator) :
    Eats setup pre bound (fun _ => 0) (Parser.eatMark mark) :=
  eat

theorem expectMark (mark : Punctuator) :
    Eats setup pre bound (fun _ => 1) (Parser.expectMark mark) :=
  expect (by nofun)

theorem expectKeyword (word : Keyword) :
    Eats setup pre bound (fun _ => 1) (Parser.expectKeyword word) :=
  expect (by nofun)

theorem expectSemicolon : Eats setup pre bound (fun _ => 0) Parser.expectSemicolon := by
  refine ifEatMark .semicolon (fun left _ => pure rfl) ?_
  exact glance _ (fun _ => rfl) fun ends => ite (fun _ => pure rfl) fun _ => unexpected

/-! ## Deciding about a slash -/

theorem slashAsRegex : Eats setup pre bound (fun _ => 0) Parser.slashAsRegex := by
  intro s _ sound _
  cases outcome : Parser.slashAsRegex setup s with
  | ok value after =>
      obtain ⟨sound', same⟩ := sound.slashAsRegex outcome
      exact ⟨sound', Nat.le_of_eq same⟩
  | reject error after => trivial
  | exhausted =>
      unfold Parser.slashAsRegex at outcome
      split at outcome
      · split at outcome <;> cases outcome
      · split at outcome <;> cases outcome
      · cases outcome

theorem slashAsDivide : Eats setup pre bound (fun _ => 0) Parser.slashAsDivide := by
  intro s _ sound _
  cases outcome : Parser.slashAsDivide setup s with
  | ok value after =>
      obtain ⟨sound', same⟩ := sound.slashAsDivide outcome
      exact ⟨sound', Nat.le_of_eq same⟩
  | reject error after => trivial
  | exhausted =>
      unfold Parser.slashAsDivide at outcome
      split at outcome <;> cases outcome

/-! ## Scopes and attempts -/

theorem withContext {m : Parser α} {context : Context}
    (eats : Eats setup Anywhere bound eaten m) :
    Eats setup pre bound eaten (Parser.withContext context m) := by
  intro s _ sound within
  have spent := eats { s with context } trivial ⟨sound.placed, sound.slash, sound.token⟩ within
  unfold Parser.withContext
  cases outcome : m setup { s with context } with
  | ok value after =>
      rw [outcome] at spent
      exact ⟨⟨spent.1.placed, spent.1.slash, spent.1.token⟩, spent.2⟩
  | reject error after => trivial
  | exhausted => rw [outcome] at spent; exact spent

theorem withIn {m : Parser α} {allowIn : Bool} (eats : Eats setup Anywhere bound eaten m) :
    Eats setup pre bound eaten (Parser.withIn allowIn m) :=
  context fun _ => withContext eats

theorem nested {m : Parser α} (eats : Eats setup Anywhere bound eaten m) :
    Eats setup pre bound eaten (Parser.nested m) := by
  intro s _ sound within
  unfold Parser.nested
  split
  · trivial
  have spent := eats { s with depth := s.depth + 1 } trivial
    ⟨sound.placed, sound.slash, sound.token⟩ within
  cases outcome : m setup { s with depth := s.depth + 1 } with
  | ok value after =>
      rw [outcome] at spent
      exact ⟨⟨spent.1.placed, spent.1.slash, spent.1.token⟩, spent.2⟩
  | reject error after => trivial
  | exhausted => rw [outcome] at spent; exact spent

/-- An attempt that fails reads nothing. -/
theorem attempt {m : Parser α} {kind : AttemptKind} (eats : Eats setup pre bound eaten m) :
    Eats setup pre bound (fun
      | some value => eaten value
      | none => 0) (Parser.attempt kind m) := by
  intro s holds sound within
  have spent := eats s holds sound within
  unfold Parser.attempt
  dsimp only
  split
  · exact ⟨sound, Nat.le_refl _⟩
  cases outcome : m setup s with
  | ok value after => rw [outcome] at spent; exact spent
  | reject error after => exact ⟨⟨sound.placed, sound.slash, sound.token⟩, Nat.le_refl _⟩
  | exhausted => rw [outcome] at spent; exact spent

/-! ## Names -/

theorem bindingName : Eats setup pre bound (fun _ => 1) Parser.bindingName := by
  refine token fun token => ?_
  cases token.kind with
  | identifier name =>
      refine context fun context => ite (fun _ => reservedWord) fun _ => ?_
      exact (advanceFrom (by nofun)).bind fun _ left le => pure rfl
  | keyword word => exact reservedWord
  | _ => exact unexpected

theorem propertyName : Eats setup pre bound (fun _ => 1) Parser.propertyName := by
  refine token fun token => ?_
  cases named : propertyName? token.kind with
  | some name =>
      have goes_on : token.kind ≠ .endOfInput := by
        intro ends
        rw [ends] at named
        cases named
      exact (advanceFrom goes_on).bind fun _ left le => pure rfl
  | none => exact unexpected

end Eats

end Ecmascript.Parser
