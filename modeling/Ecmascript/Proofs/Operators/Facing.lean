import Ecmascript.Parser.Program
import Ecmascript.Proofs.Operators.Adjacent

/-!
# Parsers in front of known tokens

A state faces tokens when these are what the parser reads from it, up to the end of input, and they
stand side by side as in a formula. What a parser gives from such a state is told by the value and
the tokens that are left.
-/

set_option autoImplicit false

namespace Ecmascript

/-! ## Neighbours of a token -/

namespace Adjacent

variable {first second : TokenKind}

theorem follows_of_ends (adjacent : Adjacent first second) (ends : first.endsPhrase = true)
    (closed : first.opensOperand = false) : second.followsOperand = true := by
  cases adjacent with
  | operand opens _ => exact absurd (closed.symm.trans opens) nofun
  | follower _ follows _ => exact follows
  | empty => cases ends
  | property _ => cases ends
  | finish => cases ends

theorem starts_of_opens (adjacent : Adjacent first second) (opens : first.opensOperand = true)
    (inner : first.endsPhrase = false) :
    second.startsOperand = true ∨ second = .punctuator .rightParen := by
  cases adjacent with
  | operand _ starts => exact .inl starts
  | follower ends _ _ => exact absurd (inner.symm.trans ends) nofun
  | empty => exact .inr rfl
  | property _ => cases opens
  | finish => cases opens

end Adjacent

namespace Parser

/-! ## What a parser gives -/

/-- A parser gives a value and a state of which a condition holds, unless it ends with an error
that is allowed. -/
def Gives {α : Type} (allowed : SyntaxError → Prop) (setup : Setup) (m : Parser α) (s : State)
    (post : α → State → Prop) : Prop :=
  match m setup s with
  | .ok value after => post value after
  | .reject error _ => allowed error
  | .exhausted => True

/-- Any error. -/
abbrev AnyError : SyntaxError → Prop :=
  fun _ => True

/-- The error that phrases are nested too deep. -/
def IsTooDeep (error : SyntaxError) : Prop :=
  ∃ start stop, error = .invalid start stop .nestingTooDeep

namespace Gives

variable {α β : Type} {allowed : SyntaxError → Prop} {setup : Setup} {m : Parser α} {s : State}
  {post post' : α → State → Prop}

theorem weaken (gives : Gives allowed setup m s post)
    (holds : ∀ value after, post value after → post' value after) :
    Gives allowed setup m s post' := by
  unfold Gives at gives ⊢
  cases outcome : m setup s with
  | ok value after =>
      rw [outcome] at gives
      exact holds value after gives
  | reject error after =>
      rw [outcome] at gives
      exact gives
  | exhausted => trivial

theorem bind {f : α → Parser β} {total : β → State → Prop} (first : Gives allowed setup m s post)
    (next : ∀ value after, post value after → Gives allowed setup (f value) after total) :
    Gives allowed setup (m >>= f) s total := by
  unfold Gives at first
  change Gives allowed setup (andThen m f) s total
  unfold Gives andThen
  cases outcome : m setup s with
  | ok value after =>
      rw [outcome] at first
      exact next value after first
  | reject error after =>
      rw [outcome] at first
      exact first
  | exhausted => trivial

/-- A look at the state, or a step that is known. -/
theorem step {f : α → Parser β} {total : β → State → Prop} {value : α} {after : State}
    (runs : m setup s = .ok value after) (next : Gives allowed setup (f value) after total) :
    Gives allowed setup (m >>= f) s total := by
  change Gives allowed setup (andThen m f) s total
  unfold Gives andThen
  rw [runs]
  exact next

theorem pure {value : α} (holds : post value s) : Gives allowed setup (Pure.pure value) s post :=
  holds

theorem exhaust : Gives allowed setup Parser.exhaust s post :=
  trivial

theorem ifTrue {condition : Bool} {n : Parser α} (true_ : condition = true)
    (gives : Gives allowed setup m s post) :
    Gives allowed setup (if condition = true then m else n) s post := by
  rw [if_pos true_]
  exact gives

theorem ifFalse {condition : Bool} {n : Parser α} (false_ : condition = false)
    (gives : Gives allowed setup n s post) :
    Gives allowed setup (if condition = true then m else n) s post := by
  rw [if_neg (by rw [false_]; nofun)]
  exact gives

/-- One level deeper there may be too many. -/
theorem nested (gives : Gives IsTooDeep setup m { s with depth := s.depth + 1 } fun value after =>
      post value { after with depth := after.depth - 1 }) :
    Gives IsTooDeep setup (Parser.nested m) s post := by
  unfold Gives Parser.nested
  split
  · rename_i outcome
    split at outcome
    · cases outcome
    · unfold Gives at gives
      split at outcome
      · rename_i inner
        cases outcome
        rw [inner] at gives
        exact gives
      · cases outcome
      · cases outcome
  · rename_i outcome
    split at outcome
    · cases outcome
      exact ⟨_, _, rfl⟩
    · unfold Gives at gives
      split at outcome
      · cases outcome
      · rename_i inner
        cases outcome
        rw [inner] at gives
        exact gives
      · cases outcome
  · trivial

theorem withContext {context : Context}
    (gives : Gives allowed setup m { s with context } fun value after =>
      post value { after with context := s.context }) :
    Gives allowed setup (Parser.withContext context m) s post := by
  unfold Gives at gives ⊢
  unfold Parser.withContext
  cases outcome : m setup { s with context } with
  | ok value after =>
      rw [outcome] at gives
      exact gives
  | reject error after =>
      rw [outcome] at gives
      exact gives
  | exhausted => trivial

/-- An attempt that never gives a value changes nothing but the memory of what has failed and the
depth. -/
theorem attempt {kind : AttemptKind} {post : Option α → State → Prop}
    (refuses : Gives AnyError setup m s fun _ _ => False)
    (holds : ∀ failed depth, post none { s with failed, depth }) :
    Gives allowed setup (Parser.attempt kind m) s post := by
  unfold Gives at refuses ⊢
  unfold Parser.attempt
  dsimp only
  split
  · rename_i outcome
    split at outcome
    · cases outcome
      exact holds s.failed s.depth
    · cases inner : m setup s with
      | ok value after =>
          rw [inner] at refuses
          exact refuses.elim
      | reject error after =>
          rw [inner] at outcome
          cases outcome
          exact holds _ _
      | exhausted =>
          rw [inner] at outcome
          cases outcome
  · rename_i outcome
    split at outcome
    · cases outcome
    · cases inner : m setup s with
      | ok value after =>
          rw [inner] at outcome
          cases outcome
      | reject error after =>
          rw [inner] at outcome
          cases outcome
      | exhausted =>
          rw [inner] at outcome
          cases outcome
  · trivial

end Gives

/-! ## What a state faces -/

/-- The tokens from the next one on are known. They stand side by side as in a formula. -/
structure Faces (setup : Setup) (kinds : List TokenKind) (s : State) : Prop where
  stands : ∃ kind rest last, kinds = kind :: rest ∧ Lexer.Stands s.current s.lexer kind last ∧
    Lexer.Ahead setup.endsOperand last rest
  chain : kinds.IsChain Adjacent
  ends : kinds.getLast? = some .endOfInput
  context : s.context = Context.script

namespace Faces

variable {allowed : SyntaxError → Prop} {setup : Setup} {s : State} {kind next : TokenKind}
  {kinds rest : List TokenKind}

theorem scope (faces : Faces setup kinds s) (failed : List (Attempt × SyntaxError)) (depth : Nat) :
    Faces setup kinds { s with failed, depth } :=
  ⟨faces.stands, faces.chain, faces.ends, faces.context⟩

/-- The next token has the kind that stands first, unless it is a division that has been taken for
a regular expression. -/
theorem kind_or (faces : Faces setup (kind :: rest) s) :
    s.current.kind = kind ∨ kind = .punctuator .slash ∧ ∃ raw, s.current.kind = .regex raw := by
  obtain ⟨first, more, last, split, stands, _⟩ := faces.stands
  cases split
  generalize s.lexer = lexer at stands
  cases stands with
  | plain => exact .inl rfl
  | misread regex _ _ => exact .inr ⟨rfl, _, regex⟩

theorem kind_eq (faces : Faces setup (kind :: rest) s) (undivided : kind ≠ .punctuator .slash) :
    s.current.kind = kind := by
  rcases faces.kind_or with same | ⟨slash, _⟩
  · exact same
  · exact absurd slash undivided

/-- The next token is none that the first is not, if it is no regular expression. -/
theorem kind_ne (faces : Faces setup (kind :: rest) s) {other : TokenKind} (differs : kind ≠ other)
    (unread : ∀ raw, other ≠ .regex raw) : s.current.kind ≠ other := by
  rcases faces.kind_or with same | ⟨_, raw, regex⟩
  · rw [same]
    exact differs
  · rw [regex]
    exact fun same => unread raw same.symm

/-- There is a next token behind every token but the end. -/
theorem cons (faces : Faces setup (kind :: kinds) s) (goes_on : kind ≠ .endOfInput) :
    ∃ next rest, kinds = next :: rest ∧ Adjacent kind next := by
  cases kinds with
  | nil =>
      have last := faces.ends
      cases last
      exact absurd rfl goes_on
  | cons next rest => exact ⟨next, rest, rfl, (List.isChain_cons_cons.1 faces.chain).1⟩

theorem tail (faces : Faces setup (kind :: next :: rest) s) {after : State}
    (stands : ∃ first more last, next :: rest = first :: more ∧
      Lexer.Stands after.current after.lexer first last ∧ Lexer.Ahead setup.endsOperand last more)
    (context : after.context = s.context) : Faces setup (next :: rest) after :=
  ⟨stands, (List.isChain_cons_cons.1 faces.chain).2, faces.ends, context.trans faces.context⟩

/-! ### Reading a token -/

theorem advance (faces : Faces setup (kind :: next :: rest) s) (same : s.current.kind = kind) :
    ∃ after, Parser.advance setup s = .ok () after ∧
      Faces setup (next :: rest) after := by
  obtain ⟨first, more, last, split, stands, ahead⟩ := faces.stands
  cases split
  have here : last = s.lexer := by
    generalize s.lexer = lexer at stands ⊢
    cases stands with
    | plain => rfl
    | misread regex _ _ => rw [regex] at same; cases same
  subst here
  cases ahead with
  | cons reads stands' ahead' =>
      unfold Parser.advance
      rw [reads]
      exact ⟨_, rfl, faces.tail ⟨_, _, _, rfl, stands', ahead'⟩ rfl⟩

/-- The token behind the next one. -/
theorem peek (faces : Faces setup (kind :: next :: rest) s) (same : s.current.kind = kind) :
    ∃ token, Parser.peek setup s = .ok token s ∧
      (token.kind = next ∨ next = .punctuator .slash ∧ ∃ raw, token.kind = .regex raw) := by
  obtain ⟨after, runs, faces'⟩ := faces.advance same
  have kinds := faces'.kind_or
  unfold Parser.advance at runs
  unfold Parser.peek
  split at runs
  · cases runs
    exact ⟨_, by rfl, kinds⟩
  · cases runs

/-- Deciding for a division makes the next token what stands first. -/
theorem divide (faces : Faces setup (kind :: rest) s) (unread : ∀ raw, kind ≠ .regex raw) :
    ∃ after, slashAsDivide setup s = .ok () after ∧ Faces setup (kind :: rest) after ∧
      after.current.kind = kind := by
  obtain ⟨first, more, last, split, stands, ahead⟩ := faces.stands
  cases split
  rcases faces.kind_or with same | ⟨rfl, raw, regex⟩
  · refine ⟨s, ?_, faces, same⟩
    unfold slashAsDivide
    split
    · rename_i raw regex
      exact absurd (same.symm.trans regex) (unread raw)
    · rfl
  · generalize lexer : s.lexer = before at stands
    generalize divided : TokenKind.punctuator .slash = division at stands
    cases stands with
    | plain => rw [regex] at divided; cases divided
    | @misread _ slash _ _ _ _ divides corrected =>
        refine ⟨{ s with lexer := last, current := slash }, ?_, ?_, corrected⟩
        · unfold slashAsDivide
          rw [regex, lexer]
          dsimp only
          rw [divides]
        · refine ⟨⟨_, _, _, rfl, ?_, ahead⟩, faces.chain, faces.ends, faces.context⟩
          rw [← corrected]
          exact .plain slash _

end Faces

/-! ## Marks and words -/

namespace Gives

variable {α β : Type} {allowed : SyntaxError → Prop} {setup : Setup} {s : State}
  {kind next : TokenKind} {rest : List TokenKind} {mark : Punctuator} {total : β → State → Prop}

theorem atTrue {f : Bool → Parser β} (faces : Faces setup (kind :: rest) s)
    (undivided : kind ≠ .punctuator .slash) (gives : Gives allowed setup (f true) s total) :
    Gives allowed setup (at? kind >>= f) s total := by
  have runs : at? kind setup s = .ok true s := by
    change Reply.ok (decide (s.current.kind = kind)) s = _
    rw [faces.kind_eq undivided, decide_eq_true rfl]
  exact .step runs gives

theorem atFalse {f : Bool → Parser β} {other : TokenKind} (faces : Faces setup (kind :: rest) s)
    (differs : kind ≠ other) (unread : ∀ raw, other ≠ .regex raw)
    (gives : Gives allowed setup (f false) s total) :
    Gives allowed setup (at? other >>= f) s total := by
  have runs : at? other setup s = .ok false s := by
    change Reply.ok (decide (s.current.kind = other)) s = _
    rw [decide_eq_false (faces.kind_ne differs unread)]
  exact .step runs gives

theorem advance {f : Unit → Parser β} (faces : Faces setup (kind :: next :: rest) s)
    (same : s.current.kind = kind)
    (gives : ∀ after, Faces setup (next :: rest) after → Gives allowed setup (f ()) after total) :
    Gives allowed setup (Parser.advance >>= f) s total := by
  obtain ⟨after, runs, faces'⟩ := faces.advance same
  exact .step runs (gives after faces')

/-- Reads a punctuator that is there. -/
theorem eat {f : Bool → Parser β} (faces : Faces setup (.punctuator mark :: next :: rest) s)
    (undivided : mark ≠ .slash)
    (gives : ∀ after, Faces setup (next :: rest) after →
      Gives allowed setup (f true) after total) :
    Gives allowed setup (eatMark mark >>= f) s total := by
  have same : s.current.kind = .punctuator mark :=
    faces.kind_eq fun slash => undivided (TokenKind.punctuator.inj slash)
  obtain ⟨after, runs, faces'⟩ := faces.advance same
  have eats : eatMark mark setup s = .ok true after := by
    change (if decide (s.current.kind = .punctuator mark) = true then
      (do Parser.advance; return true : Parser Bool) else return false) setup s = _
    rw [same, decide_eq_true rfl, if_pos rfl]
    change andThen Parser.advance _ setup s = _
    unfold andThen
    rw [runs]
    rfl
  exact .step eats (gives after faces')

/-- Leaves a token that is another one. -/
theorem skip {f : Bool → Parser β} (faces : Faces setup (kind :: rest) s)
    (differs : kind ≠ .punctuator mark) (gives : Gives allowed setup (f false) s total) :
    Gives allowed setup (eatMark mark >>= f) s total := by
  have leaves : eatMark mark setup s = .ok false s := by
    change (if decide (s.current.kind = .punctuator mark) = true then
      (do Parser.advance; return true : Parser Bool) else return false) setup s = _
    rw [decide_eq_false (faces.kind_ne differs nofun), if_neg nofun]
    rfl
  exact .step leaves gives

/-- Reads a token that must be there, and is. -/
theorem expectToken (faces : Faces setup (kind :: next :: rest) s)
    (undivided : kind ≠ .punctuator .slash) :
    Gives allowed setup (do if ← at? kind then Parser.advance else unexpected) s fun _ after =>
      Faces setup (next :: rest) after := by
  refine .atTrue faces undivided (.ifTrue rfl ?_)
  obtain ⟨after, runs, faces'⟩ := faces.advance (faces.kind_eq undivided)
  unfold Gives
  rw [runs]
  exact faces'

theorem expectMark (faces : Faces setup (.punctuator mark :: next :: rest) s)
    (undivided : mark ≠ .slash) :
    Gives allowed setup (Parser.expectMark mark) s fun _ after =>
      Faces setup (next :: rest) after :=
  expectToken faces fun slash => undivided (TokenKind.punctuator.inj slash)

theorem expect {f : Unit → Parser β} (faces : Faces setup (.punctuator mark :: next :: rest) s)
    (undivided : mark ≠ .slash)
    (gives : ∀ after, Faces setup (next :: rest) after → Gives allowed setup (f ()) after total) :
    Gives allowed setup (Parser.expectMark mark >>= f) s total :=
  (expectMark faces undivided).bind fun _ after faces' => gives after faces'

theorem expectWord {f : Unit → Parser β} {word : Keyword}
    (faces : Faces setup (.keyword word :: next :: rest) s)
    (gives : ∀ after, Faces setup (next :: rest) after → Gives allowed setup (f ()) after total) :
    Gives allowed setup (expectKeyword word >>= f) s total :=
  (expectToken faces nofun).bind fun _ after faces' => gives after faces'

/-- A punctuator that must be there may be missing where any error is allowed. -/
theorem expectAny (mark : Punctuator) (faces : Faces setup (kind :: rest) s)
    (undivided : mark ≠ .slash) :
    Gives AnyError setup (Parser.expectMark mark) s fun _ after => kind = .punctuator mark ∧
      ∃ next more, rest = next :: more ∧ Adjacent kind next ∧
        Faces setup (next :: more) after := by
  by_cases here : kind = .punctuator mark
  · subst here
    obtain ⟨next, more, rfl, adjacent⟩ := faces.cons nofun
    exact (expectMark faces undivided).weaken fun _ after faces' =>
      ⟨rfl, next, more, rfl, adjacent, faces'⟩
  · exact .atFalse faces here nofun (.ifFalse rfl trivial)

/-- Where the operator `in` may stand already, it may stand. -/
theorem withIn {m : Parser α} {post : α → State → Prop} {kinds : List TokenKind}
    (faces : Faces setup kinds s) (gives : Gives allowed setup m s post)
    (kept : ∀ value after, post value after → after.context = Context.script) :
    Gives allowed setup (Parser.withIn true m) s post := by
  have here : { s with context := { s.context with allowIn := true } } = s := by
    obtain ⟨lexer, current, previous, context, failed, depth⟩ := s
    obtain rfl : context = Context.script := faces.context
    rfl
  refine .step (rfl : Parser.context setup s = .ok s.context s) (.withContext ?_)
  rw [here]
  refine gives.weaken fun value after holds => ?_
  have same : { after with context := s.context } = after := by
    obtain ⟨lexer, current, previous, context, failed, depth⟩ := after
    have here := kept value _ holds
    dsimp only at here
    rw [here, faces.context]
  rw [same]
  exact holds

end Gives

end Parser

end Ecmascript
