import Ecmascript.Proofs.Cover.Rules
import Ecmascript.Proofs.Parallel.Balance
import Ecmascript.Proofs.Progress.Basic

/-!
# The tokens that a parser reads

A parser that succeeds has read the tokens between two states. The elementary parsers are inverted
here, one lemma each: what a successful run of them did. From these lemmas follows, production by
production, that the tokens which were read hold the phrase that was built.
-/

set_option autoImplicit false

namespace Ecmascript.Parser

variable {setup : Setup} {σ : Scope} {s s' s'' t : State} {ts ts' : List Token} {α β : Type}

/-- The scope in which a state is. -/
def State.scope (s : State) : Scope :=
  { inFunction := s.context.inFunction, inGenerator := s.context.inGenerator,
    inAsync := s.context.inAsync, depth := s.depth }

/-- The next token is written in the source in front of the lexer. -/
structure Stands (σ : Scope) (s : State) : Prop where
  sound : Sound s
  written : s.current.Written s.lexer.source
  stop : s.current.stop = s.lexer.position
  scope : s.scope = σ

/-- The tokens that were read between two states. -/
structure Reads (σ : Scope) (s : State) (ts : List Token) (s' : State) : Prop where
  stands : Stands σ s'
  source : s'.lexer.source = s.lexer.source
  forward : s.current.start ≤ s'.current.start
  between : Token.Between s.lexer.source s.current.start ts s'.current.start
  first : ∀ token ∈ ts.head?, token.start = s.current.start
  last : ∀ token ∈ ts.getLast?, s'.previous = token
  still : ts = [] → s'.current.start = s.current.start ∧ s'.previous = s.previous

/-- Two states are at the same place of the text. -/
structure State.Beside (s t : State) : Prop where
  lexer : s.lexer = t.lexer
  current : s.current = t.current
  previous : s.previous = t.previous

theorem Stands.beside (stands : Stands σ s) {σ' : Scope} (beside : t.Beside s)
    (scope : t.scope = σ') : Stands σ' t := by
  obtain ⟨lexer, current, previous, context, failed, depth⟩ := s
  obtain ⟨lexer', current', previous', context', failed', depth'⟩ := t
  obtain ⟨rfl, rfl, rfl⟩ := beside
  exact ⟨stands.sound.scope context' depth' failed', stands.written, stands.stop, scope⟩

namespace Reads

theorem refl (stands : Stands σ s) : Reads σ s [] s where
  stands := stands
  source := rfl
  forward := Nat.le_refl _
  between := ⟨nofun, .nil⟩
  first := nofun
  last := nofun
  still _ := ⟨rfl, rfl⟩

theorem trans (first : Reads σ s ts s') (second : Reads σ s' ts' s'') :
    Reads σ s (ts ++ ts') s'' where
  stands := second.stands
  source := second.source.trans first.source
  forward := Nat.le_trans first.forward second.forward
  between := by
    have later := second.between
    rw [first.source] at later
    exact first.between.append later first.forward second.forward
  first token head := by
    cases ts with
    | nil => exact (second.first token head).trans (first.still rfl).1
    | cons token' rest => exact first.first token head
  last token final := by
    cases ts' with
    | nil =>
        rw [List.append_nil] at final
        exact (second.still rfl).2.trans (first.last token final)
    | cons token' rest =>
        rw [List.getLast?_append_of_ne_nil _ (List.cons_ne_nil token' rest)] at final
        exact second.last token final
  still empty := by
    obtain ⟨rfl, rfl⟩ := List.append_eq_nil_iff.1 empty
    have ⟨start, previous⟩ := first.still rfl
    have ⟨start', previous'⟩ := second.still rfl
    exact ⟨start'.trans start, previous'.trans previous⟩

theorem beside (reads : Reads σ s ts s') {σ' : Scope} {t' : State} (before : t.Beside s)
    (after : t'.Beside s') (scope : t'.scope = σ') : Reads σ' t ts t' := by
  have stands := reads.stands.beside after scope
  obtain ⟨lexer, current, previous⟩ := before
  obtain ⟨lexer', current', previous'⟩ := after
  exact ⟨stands, by rw [lexer, lexer', reads.source], by rw [current, current']; exact reads.forward,
    by rw [lexer, current, current']; exact reads.between, by rw [current]; exact reads.first,
    by rw [previous']; exact reads.last, by
      rw [current, current', previous, previous']; exact reads.still⟩

/-- The tokens that were read span the text up to the end of the last one. -/
theorem spans (reads : Reads σ s ts s') (nonempty : ts ≠ []) :
    Token.Spans ts s.current.start s'.previous.stop := by
  obtain ⟨token, rest, rfl⟩ := List.exists_cons_of_ne_nil nonempty
  have final := List.getLast?_eq_some_getLast (List.cons_ne_nil token rest)
  exact ⟨token, _, rfl, final, (reads.first token rfl).symm,
    congrArg Token.stop (reads.last _ final)⟩

/-- A phrase that ends where reading has come to. -/
theorem finish (reads : Reads σ s ts s') {σ' : Scope} {role : Role} {category : Category}
    {item : Node category} (inside : Covers σ' role ts item) (nonempty : ts ≠ []) :
    Covers σ' role ts (.located s.current.start s'.previous.stop item) :=
  .located (reads.spans nonempty) inside

end Reads

/-! ## Reading tokens -/

/-- A state behind a token that has been read stands in the source. -/
theorem Stands.of_reads {lexer : Lexer} {endsOperand : TokenKind → Bool} (placed : lexer.Placed)
    (reads : lexer.nextWith endsOperand = (.ok s.current, s.lexer)) (scope : s.scope = σ) :
    Stands σ s := by
  obtain ⟨written, stop, _⟩ := placed.reads_written reads
  obtain ⟨_, _, moves, _⟩ := Lexer.nextWith_passes reads
  refine ⟨(sound_of_reads placed reads).1, ?_, stop, scope⟩
  rw [moves.source]
  exact written

/-- A token that is next is not empty, unless it is the end of input. -/
theorem Stands.filled (stands : Stands σ s) (goes_on : s.current.kind ≠ .endOfInput) :
    s.current.start < s.current.stop := by
  obtain ⟨lexeme, moves, kind⟩ := stands.sound.token
  have position : s.lexer.position = s.current.start + Text.byteLength lexeme := moves.position
  rcases kind with nonempty | ends
  · have := Text.byteLength_pos nonempty
    have := stands.stop
    omega
  · exact absurd ends goes_on

theorem Stands.advance (stands : Stands σ s) (goes_on : s.current.kind ≠ .endOfInput)
    (outcome : advance setup s = .ok () s') : Reads σ s [s.current] s' := by
  have filled := stands.filled goes_on
  have stop := stands.stop
  unfold Parser.advance at outcome
  split at outcome
  · rename_i token lexer reads
    cases outcome
    obtain ⟨_, _, behind⟩ := stands.sound.placed.reads_written reads
    obtain ⟨_, _, moves, _⟩ := Lexer.nextWith_passes reads
    rw [← stop] at behind
    refine ⟨.of_reads stands.sound.placed reads stands.scope, moves.source,
      Nat.le_trans (Nat.le_of_lt filled) behind, ⟨?_, List.pairwise_singleton _ _⟩, ?_, ?_, nofun⟩
    · simpa using ⟨behind, filled, stands.written⟩
    · simp
    · simp
  · cases outcome

/-! ## Inverting runs -/

theorem bind_ok {m : Parser α} {f : α → Parser β} {value : β}
    (outcome : (m >>= f) setup s = .ok value s') :
    ∃ middle t, m setup s = .ok middle t ∧ f middle setup t = .ok value s' := by
  change andThen m f setup s = .ok value s' at outcome
  unfold andThen at outcome
  cases first : m setup s with
  | ok middle t =>
      rw [first] at outcome
      exact ⟨middle, t, rfl, outcome⟩
  | reject error t =>
      rw [first] at outcome
      cases outcome
  | exhausted =>
      rw [first] at outcome
      cases outcome

section Looks

variable {value : β}

theorem position_bind (f : Nat → Parser β) :
    (position >>= f) setup s = f s.current.start setup s := rfl

theorem current_bind (f : Token → Parser β) :
    (current >>= f) setup s = f s.current setup s := rfl

theorem currentKind_bind (f : TokenKind → Parser β) :
    (currentKind >>= f) setup s = f s.current.kind setup s := rfl

theorem context_bind (f : Context → Parser β) :
    (context >>= f) setup s = f s.context setup s := rfl

theorem atNewline_bind (f : Bool → Parser β) :
    (atNewline >>= f) setup s = f s.current.newlineBefore setup s := rfl

theorem atName_bind (name : String) (f : Bool → Parser β) :
    (atName name >>= f) setup s = f (s.current.kind = .identifier name) setup s := rfl

theorem atMark_bind (mark : Punctuator) (f : Bool → Parser β) :
    (atMark mark >>= f) setup s = f (s.current.kind = .punctuator mark) setup s := rfl

end Looks

theorem ite_ok {condition : Bool} {yes no : Parser α} {value : α}
    (outcome : (if condition = true then yes else no) setup s = .ok value s') :
    (condition = true ∧ yes setup s = .ok value s') ∨
      (condition = false ∧ no setup s = .ok value s') := by
  cases condition with
  | true => exact .inl ⟨rfl, outcome⟩
  | false => exact .inr ⟨rfl, outcome⟩

theorem ifMark_ok {mark : Punctuator} {yes no : Parser α} {value : α}
    (outcome : (atMark mark >>= fun answer => if answer = true then yes else no) setup s =
      .ok value s') :
    (s.current.kind = .punctuator mark ∧ yes setup s = .ok value s') ∨
      (s.current.kind ≠ .punctuator mark ∧ no setup s = .ok value s') := by
  rcases ite_ok outcome with ⟨next, outcome⟩ | ⟨other, outcome⟩
  · exact .inl ⟨of_decide_eq_true next, outcome⟩
  · exact .inr ⟨of_decide_eq_false other, outcome⟩

theorem ifKeyword_ok {word : Keyword} {yes no : Parser α} {value : α}
    (outcome : (atKeyword word >>= fun answer => if answer = true then yes else no) setup s =
      .ok value s') :
    (s.current.kind = .keyword word ∧ yes setup s = .ok value s') ∨
      (s.current.kind ≠ .keyword word ∧ no setup s = .ok value s') := by
  rcases ite_ok outcome with ⟨next, outcome⟩ | ⟨other, outcome⟩
  · exact .inl ⟨of_decide_eq_true next, outcome⟩
  · exact .inr ⟨of_decide_eq_false other, outcome⟩

/-- Asking for a punctuator reads it, or nothing. -/
theorem Stands.eatMark (stands : Stands σ s) {mark : Punctuator} {answer : Bool}
    (outcome : eatMark mark setup s = .ok answer s') :
    (answer = true ∧ s.current.kind = .punctuator mark ∧ Reads σ s [s.current] s') ∨
      (answer = false ∧ s.current.kind ≠ .punctuator mark ∧ s' = s) := by
  rcases ifMark_ok outcome with ⟨next, outcome⟩ | ⟨other, outcome⟩
  · obtain ⟨_, t, moved, outcome⟩ := bind_ok outcome
    cases outcome
    exact .inl ⟨rfl, next, stands.advance (by rw [next]; nofun) moved⟩
  · cases outcome
    exact .inr ⟨rfl, other, rfl⟩

theorem Stands.eaten (stands : Stands σ s) {mark : Punctuator} {answer : Bool}
    (outcome : Parser.eatMark mark setup s = .ok answer s') : ∃ ts, Reads σ s ts s' := by
  rcases stands.eatMark outcome with ⟨_, _, reads⟩ | ⟨_, _, rfl⟩
  · exact ⟨_, reads⟩
  · exact ⟨_, .refl stands⟩

theorem Stands.eatKeyword (stands : Stands σ s) {word : Keyword} {answer : Bool}
    (outcome : eatKeyword word setup s = .ok answer s') :
    (answer = true ∧ Reads σ s [s.current] s') ∨ (answer = false ∧ s' = s) := by
  rcases ifKeyword_ok outcome with ⟨next, outcome⟩ | ⟨other, outcome⟩
  · obtain ⟨_, t, moved, outcome⟩ := bind_ok outcome
    cases outcome
    exact .inl ⟨rfl, stands.advance (by rw [next]; nofun) moved⟩
  · cases outcome
    exact .inr ⟨rfl, rfl⟩

/-- Deciding by a punctuator that is read where it is found. -/
theorem Stands.ifEatMark (stands : Stands σ s) {mark : Punctuator} {yes no : Parser α} {value : α}
    (outcome : (Parser.eatMark mark >>= fun answer => if answer = true then yes else no) setup s =
      .ok value s') :
    (∃ t, Reads σ s [s.current] t ∧ yes setup t = .ok value s') ∨
      (s.current.kind ≠ .punctuator mark ∧ no setup s = .ok value s') := by
  obtain ⟨answer, t, first, last⟩ := bind_ok outcome
  rcases stands.eatMark first with ⟨rfl, _, reads⟩ | ⟨rfl, other, rfl⟩
  · exact .inl ⟨t, reads, last⟩
  · exact .inr ⟨other, last⟩

theorem Stands.ifEatKeyword (stands : Stands σ s) {word : Keyword} {yes no : Parser α} {value : α}
    (outcome : (Parser.eatKeyword word >>= fun answer => if answer = true then yes else no) setup s =
      .ok value s') :
    (∃ t, Reads σ s [s.current] t ∧ yes setup t = .ok value s') ∨
      no setup s = .ok value s' := by
  obtain ⟨answer, t, first, last⟩ := bind_ok outcome
  rcases stands.eatKeyword first with ⟨rfl, reads⟩ | ⟨rfl, rfl⟩
  · exact .inl ⟨t, reads, last⟩
  · exact .inr last

/-- What is run, as a parser of its own that a case distinction can be made about. -/
theorem run_ok {m : Parser α} {value : α} (outcome : m setup s = .ok value s') :
    ∃ n, m = n ∧ n setup s = .ok value s' :=
  ⟨m, rfl, outcome⟩

theorem not_unexpected {value : α} : (unexpected : Parser α) setup s ≠ .ok value s' := nofun

theorem Stands.expectMark (stands : Stands σ s) {mark : Punctuator}
    (outcome : expectMark mark setup s = .ok () s') :
    s.current.kind = .punctuator mark ∧ Reads σ s [s.current] s' := by
  rcases ifMark_ok outcome with ⟨next, outcome⟩ | ⟨_, outcome⟩
  · exact ⟨next, stands.advance (by rw [next]; nofun) outcome⟩
  · exact absurd outcome not_unexpected

theorem Stands.expectKeyword (stands : Stands σ s) {word : Keyword}
    (outcome : expectKeyword word setup s = .ok () s') : Reads σ s [s.current] s' := by
  rcases ifKeyword_ok outcome with ⟨next, outcome⟩ | ⟨_, outcome⟩
  · exact stands.advance (by rw [next]; nofun) outcome
  · exact absurd outcome not_unexpected

/-- The end of a statement is a semicolon, or nothing. -/
theorem Stands.expectSemicolon (stands : Stands σ s)
    (outcome : expectSemicolon setup s = .ok () s') : ∃ ts, Reads σ s ts s' := by
  rcases stands.ifEatMark outcome with ⟨t, reads, outcome⟩ | ⟨_, outcome⟩
  · cases outcome
    exact ⟨_, reads⟩
  · obtain ⟨ends, t, looks, outcome⟩ := bind_ok outcome
    cases looks
    rcases ite_ok outcome with ⟨_, outcome⟩ | ⟨_, outcome⟩
    · cases outcome
      exact ⟨_, .refl stands⟩
    · exact absurd outcome not_unexpected

theorem Stands.separator (stands : Stands σ s) {close : Punctuator}
    (outcome : separator close setup s = .ok () s') : ∃ ts, Reads σ s ts s' := by
  rcases ifMark_ok outcome with ⟨_, outcome⟩ | ⟨_, outcome⟩
  · cases outcome
    exact ⟨_, .refl stands⟩
  · exact ⟨_, (stands.expectMark outcome).2⟩

/-- A look at the token behind the next one reads nothing. -/
theorem peek_ok {f : Token → Parser α} {value : α}
    (outcome : (peek >>= f) setup s = .ok value s') :
    ∃ token, peek setup s = .ok token s ∧ f token setup s = .ok value s' := by
  obtain ⟨token, t, ahead, rest⟩ := bind_ok outcome
  unfold peek at ahead ⊢
  split at ahead <;> cases ahead
  exact ⟨_, rfl, rest⟩

/-- The token behind the next one is next when that one is read. -/
theorem current_of_peek {token : Token} (ahead : peek setup s = .ok token s)
    (outcome : advance setup s = .ok () s') : s'.current = token := by
  unfold Parser.peek at ahead
  unfold Parser.advance at outcome
  split at ahead
  · rename_i token' lexer reads
    rw [reads] at outcome
    cases ahead
    cases outcome
    rfl
  · cases ahead

/-! ## Deciding about a slash -/

/-- A slash that is read again is another token at the same place. -/
theorem Stands.decided (stands : Stands σ s) {token : Token} {after : Lexer}
    (sound : Sound { s with lexer := after, current := token })
    (written : token.Written s.lexer.source) (stop : token.stop = after.position)
    (start : token.start = s.current.start) (source : after.source = s.lexer.source) :
    Reads σ s [] { s with lexer := after, current := token } where
  stands := by
    refine ⟨sound, ?_, stop, stands.scope⟩
    change token.Written after.source
    rw [source]
    exact written
  source := source
  forward := Nat.le_of_eq start.symm
  between := ⟨nofun, .nil⟩
  first := nofun
  last := nofun
  still _ := ⟨start, rfl⟩

theorem Stands.slashAsRegex (stands : Stands σ s) (outcome : slashAsRegex setup s = .ok () s') :
    Reads σ s [] s' := by
  have sound := (stands.sound.slashAsRegex outcome).1
  by_cases slash : s.current.kind = .punctuator .slash ∨ s.current.kind = .punctuator .slashAssign
  · have begins : s.current.kind.isSlash = true := by
      rcases slash with slash | slash <;> rw [slash] <;> rfl
    rw [slashAsRegex_of_slash setup slash] at outcome
    split at outcome
    · rename_i token lexer reads
      cases outcome
      obtain ⟨⟨_, _, moves⟩, start, _⟩ :=
        Lexer.rescanRegex_passes (stands.sound.slash begins) reads
      obtain ⟨written, stop⟩ := Lexer.rescanRegex_written (stands.sound.slash begins) reads
      exact stands.decided sound written stop start moves.source
    · cases outcome
  · rw [slashAsRegex_of_not_slash setup slash] at outcome
    cases outcome
    exact .refl stands

theorem Stands.slashAsDivide (stands : Stands σ s) (outcome : slashAsDivide setup s = .ok () s') :
    Reads σ s [] s' := by
  have sound := (stands.sound.slashAsDivide outcome).1
  unfold Parser.slashAsDivide at outcome
  split at outcome
  · have slash : s.current.kind.isSlash = true := by rw [‹s.current.kind = _›]; rfl
    cases outcome
    obtain ⟨⟨_, _, moves⟩, start, _⟩ := Lexer.rescanDivide_passes (stands.sound.slash slash)
    obtain ⟨written, stop⟩ := Lexer.rescanDivide_written (stands.sound.slash slash)
    exact stands.decided sound written stop start moves.source
  · cases outcome
    exact .refl stands

/-! ## Scopes and attempts -/

theorem withContext_ok {context : Context} {m : Parser α} {value : α}
    (outcome : withContext context m setup s = .ok value s') :
    ∃ t, m setup { s with context } = .ok value t ∧ s' = { t with context := s.context } := by
  unfold withContext at outcome
  cases first : m setup { s with context } with
  | ok value' t =>
      rw [first] at outcome
      cases outcome
      exact ⟨t, rfl, rfl⟩
  | reject error t =>
      rw [first] at outcome
      cases outcome
  | exhausted =>
      rw [first] at outcome
      cases outcome

theorem nested_ok {m : Parser α} {value : α} (outcome : nested m setup s = .ok value s') :
    s.depth < maxNesting ∧ ∃ t, m setup { s with depth := s.depth + 1 } = .ok value t ∧
      s' = { t with depth := t.depth - 1 } := by
  unfold nested at outcome
  split at outcome
  · cases outcome
  · rename_i room
    refine ⟨Nat.lt_of_not_le room, ?_⟩
    cases first : m setup { s with depth := s.depth + 1 } with
    | ok value' t =>
        rw [first] at outcome
        cases outcome
        exact ⟨t, rfl, rfl⟩
    | reject error t =>
        rw [first] at outcome
        cases outcome
    | exhausted =>
        rw [first] at outcome
        cases outcome

/-- An attempt either succeeds or leaves the place as it is. -/
theorem attempt_ok {kind : AttemptKind} {m : Parser α} {result : Option α} (balanced : Balanced m)
    (outcome : attempt kind m setup s = .ok result s') :
    (∃ value, result = some value ∧ m setup s = .ok value s') ∨
      (result = none ∧ s'.Beside s ∧ s'.scope = s.scope) := by
  unfold attempt at outcome
  dsimp only at outcome
  split at outcome
  · cases outcome
    exact .inr ⟨rfl, ⟨rfl, rfl, rfl⟩, rfl⟩
  · cases first : m setup s with
    | ok value t =>
        rw [first] at outcome
        cases outcome
        exact .inl ⟨value, rfl, rfl⟩
    | reject error t =>
        rw [first] at outcome
        cases outcome
        refine .inr ⟨rfl, ⟨rfl, rfl, rfl⟩, ?_⟩
        simp only [State.scope, (balanced.reject first).depth]
    | exhausted =>
        rw [first] at outcome
        cases outcome

/-- A place that is looked at again. -/
theorem Stands.again (stands : Stands σ s) (beside : t.Beside s) (scope : t.scope = s.scope) :
    Reads σ s [] t :=
  (Reads.refl stands).beside ⟨rfl, rfl, rfl⟩ beside (scope.trans stands.scope)

end Ecmascript.Parser
