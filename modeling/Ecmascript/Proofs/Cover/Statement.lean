import Ecmascript.Proofs.Cover.Operand

/-!
# Tokens of statements

The productions of statements read the tokens of the statement that they build. The head of a loop
that is a pattern stands in front of `in` or `of`, so no loop with three parts begins with one.
-/

set_option autoImplicit false

namespace Ecmascript

/-- Whether a token is the word between the two sides of a loop. -/
def TokenKind.isLoopWord (kind : TokenKind) : Prop :=
  kind = .keyword .inWord ∨ kind = .identifier "of"

namespace Parser

variable {setup : Setup} {self : Grammar} {σ : Scope} {s s' : State}

theorem Stands.parenthesized {value : Located .expression} (keeps : Keeps setup self)
    (stands : Stands σ s) (outcome : Parser.parenthesized self setup s = .ok value s') :
    Built σ .phrase s value s' := by
  obtain ⟨_, t₁, opens, outcome⟩ := bind_ok outcome
  have opened := (stands.expectMark opens).2
  obtain ⟨inner, t₂, first, outcome⟩ := bind_ok outcome
  obtain ⟨ts, reads, inside⟩ := keeps.goals .expression opened.stands first
  obtain ⟨_, t₃, closes, outcome⟩ := bind_ok outcome
  have closed := (reads.stands.expectMark closes).2
  cases outcome
  exact ⟨_, opened.trans (reads.trans closed), inside.wider _ _ rfl⟩

/-! ## Declarations -/

theorem goes_on_of_variableKind {kind : TokenKind} {which : VariableKind}
    (declares : variableKind? kind = some which) : kind ≠ .endOfInput := by
  rintro rfl
  cases declares

theorem Stands.declarator {value : Located .declarator} (keeps : Keeps setup self)
    (stands : Stands σ s) (outcome : Parser.declarator self setup s = .ok value s') :
    Built σ .phrase s value s' := by
  unfold Parser.declarator at outcome
  rw [position_bind] at outcome
  obtain ⟨id, t₁, first, outcome⟩ := bind_ok outcome
  obtain ⟨ts, reads, inside⟩ := keeps.goals (.target .binding) stands first
  have nonempty := inside.ne_nil rfl
  rcases reads.stands.ifEatMark outcome with ⟨t₂, signed, outcome⟩ | ⟨_, outcome⟩
  · obtain ⟨value, t₃, second, outcome⟩ := bind_ok outcome
    obtain ⟨ts', reads', inside'⟩ := keeps.goals .assignment signed.stands second
    cases outcome
    have whole := reads.trans (signed.trans reads')
    exact ⟨_, whole, whole.finish (inside.declarator (inside'.behind _ rfl).some) (by simp)⟩
  · cases outcome
    have covers : Covers σ .phrase (ts ++ []) (.declarator id .none) := inside.declarator .none
    rw [List.append_nil] at covers
    exact ⟨ts, reads, reads.finish covers nonempty⟩

theorem Keeps.declarators (keeps : Keeps setup self) :
    Goal.declarators.Meets setup (Parser.declarators self) := by
  intro σ s value s' stands outcome
  unfold Parser.declarators at outcome
  obtain ⟨declarator, t₁, first, outcome⟩ := bind_ok outcome
  obtain ⟨ts, reads, inside⟩ := stands.declarator keeps first
  rcases reads.stands.ifEatMark outcome with ⟨t₂, comma, outcome⟩ | ⟨_, outcome⟩
  · obtain ⟨rest, t₃, second, outcome⟩ := bind_ok outcome
    obtain ⟨⟨ts', reads', inside'⟩, _⟩ := keeps.goals .declarators comma.stands second
    cases outcome
    exact ⟨⟨_, reads.trans (comma.trans reads'), .cons inside (inside'.behind _ rfl)⟩,
      Nat.le_add_left 1 _⟩
  · cases outcome
    exact ⟨⟨ts, reads, .last inside⟩, Nat.le_refl 1⟩

theorem Stands.declaration {value : Many (.located .declarator)} (keeps : Keeps setup self)
    (stands : Stands σ s) (goes_on : s.current.kind ≠ .endOfInput)
    (outcome : Parser.declaration self setup s = .ok value s') :
    ∃ ts, Reads σ s ts s' ∧ Covers σ .phrase ts value ∧ 1 ≤ value.count ∧ ts ≠ [] := by
  obtain ⟨_, t, moved, outcome⟩ := bind_ok outcome
  have started := stands.advance goes_on moved
  obtain ⟨⟨ts, reads, inside⟩, declares⟩ := keeps.goals .declarators started.stands outcome
  exact ⟨_, started.trans reads, inside.behind _ rfl, declares, by simp⟩

theorem Stands.variableStatement {kind : VariableKind} {value : Located .statement}
    (keeps : Keeps setup self) (stands : Stands σ s) (goes_on : s.current.kind ≠ .endOfInput)
    (outcome : Parser.variableStatement self kind setup s = .ok value s') :
    Built σ .inner s value s' := by
  unfold Parser.variableStatement at outcome
  rw [position_bind] at outcome
  obtain ⟨declarators, t₁, first, outcome⟩ := bind_ok outcome
  obtain ⟨ts, reads, inside, declares, nonempty⟩ := stands.declaration keeps goes_on first
  obtain ⟨_, t₂, ends, outcome⟩ := bind_ok outcome
  obtain ⟨back, ended⟩ := reads.stands.expectSemicolon ends
  cases outcome
  have whole := reads.trans ended
  have covers : Covers σ .inner _ (.variableStatement kind declarators) :=
    .variableStatement declares (inside.before back rfl)
  exact ⟨_, whole, whole.finish covers (by simp [nonempty])⟩

/-- The tokens of a function are those of its declaration. -/
theorem Reads.functionStatement {s₀ : State} {front : List Token} {isAsync : Bool}
    {value : Located .statement} (reads : Reads σ s₀ front s) (keeps : Keeps setup self)
    (outcome : Parser.functionStatement self s₀.current.start isAsync setup s = .ok value s') :
    ∃ ts, Reads σ s ts s' ∧ Covers σ .inner (front ++ ts) value := by
  obtain ⟨definition, t, inner, outcome⟩ := bind_ok outcome
  obtain ⟨ts, reads', inside⟩ := reads.function keeps inner
  cases outcome
  cases definition with
  | located start stop item => exact ⟨ts, reads', .wraps (.functionDeclaration item) inside⟩

theorem Stands.classStatement {value : Located .statement} (keeps : Keeps setup self)
    (stands : Stands σ s) (outcome : Parser.classStatement self setup s = .ok value s') :
    Built σ .inner s value s' := by
  obtain ⟨definition, t, inner, outcome⟩ := bind_ok outcome
  obtain ⟨ts, reads, inside⟩ := stands.classDefinition keeps inner
  cases outcome
  cases definition with
  | located start stop item => exact ⟨ts, reads, .wraps (.classDeclaration item) inside⟩

/-! ## Simple statements -/

theorem Stands.blockStatement {value : Located .statement} (keeps : Keeps setup self)
    (stands : Stands σ s) (outcome : Parser.blockStatement self setup s = .ok value s') :
    Built σ .inner s value s' := by
  obtain ⟨block, t, inner, rest⟩ := bind_ok outcome
  obtain ⟨ts, reads, inside⟩ := stands.block keeps inner
  cases block with
  | located start stop item =>
      cases item with
      | block body =>
          cases rest
          exact ⟨ts, reads, .wraps (.blockStatement body) inside⟩

theorem Stands.expressionStatement {value : Located .statement} (keeps : Keeps setup self)
    (stands : Stands σ s) (outcome : Parser.expressionStatement self setup s = .ok value s') :
    Built σ .inner s value s' := by
  unfold Parser.expressionStatement at outcome
  rw [position_bind] at outcome
  obtain ⟨expression, t₁, first, outcome⟩ := bind_ok outcome
  obtain ⟨ts, reads, inside⟩ := keeps.goals .expression stands first
  have nonempty := inside.ne_nil rfl
  obtain ⟨_, t₂, ends, outcome⟩ := bind_ok outcome
  obtain ⟨back, ended⟩ := reads.stands.expectSemicolon ends
  cases outcome
  have whole := reads.trans ended
  have covers := (inside.before back rfl).expressionStatement
  exact ⟨_, whole, whole.finish covers (by simp [nonempty])⟩

theorem Stands.wordStatement {value : Located .statement} (keeps : Keeps setup self)
    (stands : Stands σ s) (goes_on : s.current.kind ≠ .endOfInput)
    (outcome : Parser.wordStatement self setup s = .ok value s') :
    Built σ .inner s value s' := by
  unfold Parser.wordStatement at outcome
  rw [position_bind] at outcome
  obtain ⟨next, ahead, outcome⟩ := peek_ok outcome
  rw [atName_bind] at outcome
  rcases ite_ok outcome with ⟨_, outcome⟩ | ⟨_, outcome⟩
  · obtain ⟨_, t, moved, outcome⟩ := bind_ok outcome
    have started := stands.advance goes_on moved
    obtain ⟨ts, reads, inside⟩ := started.functionStatement keeps outcome
    exact ⟨_, started.trans reads, inside⟩
  obtain ⟨m, same, outcome⟩ := run_ok outcome
  split at same <;> subst same
  case isTrue colon =>
    obtain ⟨label, t₁, first, outcome⟩ := bind_ok outcome
    obtain ⟨reads, inside⟩ := stands.bindingName first
    obtain ⟨_, t₂, moved, outcome⟩ := bind_ok outcome
    have next : t₁.current.kind ≠ .endOfInput := by
      rw [current_of_peek ahead (advance_of_bindingName first), colon]
      nofun
    have parted := reads.stands.advance next moved
    obtain ⟨body, t₃, second, outcome⟩ := bind_ok outcome
    obtain ⟨ts, reads', inside'⟩ := keeps.goals .statement parted.stands second
    cases outcome
    have whole := reads.trans (parted.trans reads')
    exact ⟨_, whole, whole.finish (inside.labeledStatement (inside'.behind _ rfl)) (by simp)⟩
  case isFalse => exact stands.expressionStatement keeps outcome

theorem Stands.returnValue {value : Optional (.located .expression)} (keeps : Keeps setup self)
    (stands : Stands σ s) (outcome : Parser.returnValue self setup s = .ok value s') :
    Built σ .phrase s value s' := by
  obtain ⟨ends, t, looks, outcome⟩ := bind_ok outcome
  cases looks
  rcases ite_ok outcome with ⟨_, outcome⟩ | ⟨_, outcome⟩
  · cases outcome
    exact ⟨[], .refl stands, .none⟩
  · obtain ⟨expression, t, inner, outcome⟩ := bind_ok outcome
    obtain ⟨ts, reads, inside⟩ := keeps.goals .expression stands inner
    cases outcome
    exact ⟨ts, reads, inside.some⟩

theorem Stands.returnStatement {value : Located .statement} (keeps : Keeps setup self)
    (stands : Stands σ s) (goes_on : s.current.kind ≠ .endOfInput)
    (outcome : Parser.returnStatement self setup s = .ok value s') :
    Built σ .inner s value s' := by
  unfold Parser.returnStatement at outcome
  rw [position_bind, context_bind] at outcome
  rcases ite_ok outcome with ⟨inside, outcome⟩ | ⟨_, outcome⟩
  · have inFunction : σ.inFunction = true := by
      rw [← stands.scope]
      exact inside
    obtain ⟨_, t₁, moved, outcome⟩ := bind_ok outcome
    have started := stands.advance goes_on moved
    obtain ⟨value, t₂, first, outcome⟩ := bind_ok outcome
    obtain ⟨ts, reads, inside⟩ := started.stands.returnValue keeps first
    obtain ⟨_, t₃, ends, outcome⟩ := bind_ok outcome
    obtain ⟨back, ended⟩ := reads.stands.expectSemicolon ends
    cases outcome
    have whole := started.trans (reads.trans ended)
    exact ⟨_, whole, whole.finish (.returnStatement inFunction (inside.wider _ back rfl)) (by simp)⟩
  · exact absurd outcome not_unexpected

theorem Stands.jumpLabel {label : Optional (.located .word)} (stands : Stands σ s)
    (outcome : Parser.jumpLabel setup s = .ok label s') : Built σ .phrase s label s' := by
  unfold Parser.jumpLabel at outcome
  rw [current_bind] at outcome
  obtain ⟨m, same, outcome⟩ := run_ok outcome
  split at same <;> subst same
  · rcases ite_ok outcome with ⟨_, outcome⟩ | ⟨_, outcome⟩
    · cases outcome
      exact ⟨[], .refl stands, .none⟩
    · obtain ⟨label, t, inner, outcome⟩ := bind_ok outcome
      obtain ⟨reads, inside⟩ := stands.bindingName inner
      cases outcome
      exact ⟨_, reads, inside.some⟩
  · cases outcome
    exact ⟨[], .refl stands, .none⟩

theorem Stands.jumpStatement {jump : Optional (.located .word) → Node .statement}
    {value : Located .statement} (stands : Stands σ s) (goes_on : s.current.kind ≠ .endOfInput)
    (jumps : ∀ ⦃ts label⦄, Covers σ .phrase ts label → Covers σ .inner ts (jump label))
    (outcome : Parser.jumpStatement jump setup s = .ok value s') : Built σ .inner s value s' := by
  unfold Parser.jumpStatement at outcome
  rw [position_bind] at outcome
  obtain ⟨_, t₁, moved, outcome⟩ := bind_ok outcome
  have started := stands.advance goes_on moved
  obtain ⟨label, t₂, first, outcome⟩ := bind_ok outcome
  obtain ⟨ts, reads, inside⟩ := started.stands.jumpLabel first
  obtain ⟨_, t₃, ends, outcome⟩ := bind_ok outcome
  obtain ⟨back, ended⟩ := reads.stands.expectSemicolon ends
  cases outcome
  have whole := started.trans (reads.trans ended)
  exact ⟨_, whole, whole.finish (jumps (inside.wider _ back rfl)) (by simp)⟩

theorem Stands.throwStatement {value : Located .statement} (keeps : Keeps setup self)
    (stands : Stands σ s) (goes_on : s.current.kind ≠ .endOfInput)
    (outcome : Parser.throwStatement self setup s = .ok value s') :
    Built σ .inner s value s' := by
  unfold Parser.throwStatement at outcome
  rw [position_bind] at outcome
  obtain ⟨_, t₁, moved, outcome⟩ := bind_ok outcome
  have started := stands.advance goes_on moved
  rw [atNewline_bind] at outcome
  rcases ite_ok outcome with ⟨_, outcome⟩ | ⟨_, outcome⟩
  · exact absurd outcome not_unexpected
  · obtain ⟨value, t₂, first, outcome⟩ := bind_ok outcome
    obtain ⟨ts, reads, inside⟩ := keeps.goals .expression started.stands first
    obtain ⟨_, t₃, ends, outcome⟩ := bind_ok outcome
    obtain ⟨back, ended⟩ := reads.stands.expectSemicolon ends
    cases outcome
    have whole := started.trans (reads.trans ended)
    exact ⟨_, whole, whole.finish (.throwStatement (inside.wider _ back rfl)) (by simp)⟩

theorem Stands.debuggerStatement {value : Located .statement} (stands : Stands σ s)
    (goes_on : s.current.kind ≠ .endOfInput)
    (outcome : Parser.debuggerStatement setup s = .ok value s') : Built σ .inner s value s' := by
  unfold Parser.debuggerStatement at outcome
  rw [position_bind] at outcome
  obtain ⟨_, t₁, moved, outcome⟩ := bind_ok outcome
  have started := stands.advance goes_on moved
  obtain ⟨_, t₂, ends, outcome⟩ := bind_ok outcome
  obtain ⟨back, ended⟩ := started.stands.expectSemicolon ends
  cases outcome
  have whole := started.trans ended
  exact ⟨_, whole, whole.finish .debuggerStatement (by simp)⟩

theorem Stands.emptyStatement {value : Located .statement} (stands : Stands σ s)
    (goes_on : s.current.kind ≠ .endOfInput)
    (outcome : Parser.emptyStatement setup s = .ok value s') : Built σ .inner s value s' := by
  unfold Parser.emptyStatement at outcome
  rw [position_bind] at outcome
  obtain ⟨_, t, moved, outcome⟩ := bind_ok outcome
  have started := stands.advance goes_on moved
  cases outcome
  exact ⟨_, started, started.finish .emptyStatement (by simp)⟩

/-! ## Conditionals and loops -/

theorem Stands.ifStatement {value : Located .statement} (keeps : Keeps setup self)
    (stands : Stands σ s) (goes_on : s.current.kind ≠ .endOfInput)
    (outcome : Parser.ifStatement self setup s = .ok value s') : Built σ .inner s value s' := by
  unfold Parser.ifStatement at outcome
  rw [position_bind] at outcome
  obtain ⟨_, t₁, moved, outcome⟩ := bind_ok outcome
  have started := stands.advance goes_on moved
  obtain ⟨test, t₂, first, outcome⟩ := bind_ok outcome
  obtain ⟨ts, reads, inside⟩ := started.stands.parenthesized keeps first
  obtain ⟨consequent, t₃, second, outcome⟩ := bind_ok outcome
  obtain ⟨ts', reads', inside'⟩ := keeps.goals .statement reads.stands second
  rcases reads'.stands.ifEatKeyword outcome with ⟨t₄, word, outcome⟩ | outcome
  · obtain ⟨alternate, t₅, third, outcome⟩ := bind_ok outcome
    obtain ⟨ts'', reads'', inside''⟩ := keeps.goals .statement word.stands third
    cases outcome
    have whole := started.trans (reads.trans (reads'.trans (word.trans reads'')))
    have covers := inside.ifStatement inside' (inside''.behind [t₃.current] rfl).some
    exact ⟨_, whole, whole.finish (covers.behind _ rfl) (by simp)⟩
  · cases outcome
    have whole := started.trans (reads.trans reads')
    have covers : Covers σ .inner (ts ++ (ts' ++ [])) (.ifStatement test consequent .none) :=
      inside.ifStatement inside' .none
    rw [List.append_nil] at covers
    exact ⟨_, whole, whole.finish (covers.behind _ rfl) (by simp)⟩

theorem Stands.whileStatement {value : Located .statement} (keeps : Keeps setup self)
    (stands : Stands σ s) (goes_on : s.current.kind ≠ .endOfInput)
    (outcome : Parser.whileStatement self setup s = .ok value s') :
    Built σ .inner s value s' := by
  unfold Parser.whileStatement at outcome
  rw [position_bind] at outcome
  obtain ⟨_, t₁, moved, outcome⟩ := bind_ok outcome
  have started := stands.advance goes_on moved
  obtain ⟨test, t₂, first, outcome⟩ := bind_ok outcome
  obtain ⟨ts, reads, inside⟩ := started.stands.parenthesized keeps first
  obtain ⟨body, t₃, second, outcome⟩ := bind_ok outcome
  obtain ⟨ts', reads', inside'⟩ := keeps.goals .statement reads.stands second
  cases outcome
  have whole := started.trans (reads.trans reads')
  exact ⟨_, whole, whole.finish ((inside.whileStatement inside').behind _ rfl) (by simp)⟩

theorem Stands.doStatement {value : Located .statement} (keeps : Keeps setup self)
    (stands : Stands σ s) (goes_on : s.current.kind ≠ .endOfInput)
    (outcome : Parser.doStatement self setup s = .ok value s') : Built σ .inner s value s' := by
  unfold Parser.doStatement at outcome
  rw [position_bind] at outcome
  obtain ⟨_, t₁, moved, outcome⟩ := bind_ok outcome
  have started := stands.advance goes_on moved
  obtain ⟨body, t₂, first, outcome⟩ := bind_ok outcome
  obtain ⟨ts, reads, inside⟩ := keeps.goals .statement started.stands first
  obtain ⟨_, t₃, word, outcome⟩ := bind_ok outcome
  have parted := reads.stands.expectKeyword word
  obtain ⟨test, t₄, second, outcome⟩ := bind_ok outcome
  obtain ⟨ts', reads', inside'⟩ := parted.stands.parenthesized keeps second
  obtain ⟨_, t₅, ends, outcome⟩ := bind_ok outcome
  obtain ⟨back, ended⟩ := reads'.stands.eaten ends
  cases outcome
  have whole := started.trans (reads.trans (parted.trans (reads'.trans ended)))
  have covers := inside.doStatement (inside'.wider [t₂.current] back rfl)
  exact ⟨_, whole, whole.finish (covers.behind _ rfl) (by simp)⟩

theorem Stands.loopTarget {pattern : Located .pattern} (keeps : Keeps setup self)
    (stands : Stands σ s) (outcome : Parser.loopTarget self setup s = .ok pattern s') :
    Built σ (.target .assignment) s pattern s' ∧ s'.current.kind.isLoopWord := by
  obtain ⟨left, t₁, inner, outcome⟩ := bind_ok outcome
  have built := keeps.goals (.target .assignment) stands inner
  obtain ⟨answer, t₂, looks, outcome⟩ := bind_ok outcome
  cases looks
  rcases ite_ok outcome with ⟨word, outcome⟩ | ⟨_, outcome⟩
  · cases outcome
    exact ⟨built, by simpa [TokenKind.isLoopWord] using word⟩
  · exact absurd outcome not_unexpected

theorem Stands.loopTarget? {result : Option (Located .pattern)} (keeps : Keeps setup self)
    (stands : Stands σ s) (outcome : Parser.loopTarget? self setup s = .ok result s') :
    (∃ pattern, result = some pattern ∧ Built σ (.target .assignment) s pattern s' ∧
      s'.current.kind.isLoopWord) ∨ (result = none ∧ Reads σ s [] s') := by
  have attempted {t : State}
      (outcome : attempt .loopTarget (Parser.loopTarget self) setup s = .ok result t) :
      (∃ pattern, result = some pattern ∧ Built σ (.target .assignment) s pattern t ∧
        t.current.kind.isLoopWord) ∨ (result = none ∧ Reads σ s [] t) := by
    rcases attempt_ok (keeps.of_parallel .loopTarget) outcome with
      ⟨pattern, rfl, inner⟩ | ⟨rfl, beside, scope⟩
    · exact .inl ⟨pattern, rfl, stands.loopTarget keeps inner⟩
    · exact .inr ⟨rfl, stands.again beside scope⟩
  unfold Parser.loopTarget? at outcome
  rw [currentKind_bind] at outcome
  obtain ⟨m, same, outcome⟩ := run_ok outcome
  split at same <;> subst same
  · exact attempted outcome
  · exact attempted outcome
  · cases outcome
    exact .inr ⟨rfl, .refl stands⟩

/-- The tokens of a head of a loop. An expression is kept as what it was read as, since it may
still become the target of the loop. -/
inductive CoversHead (σ : Scope) (ts : List Token) : Located .loopHead → Prop
  | expression {start stop : Nat} {item : Node .expression}
      (inside : Covers σ .phrase ts (.located start stop item)) :
      CoversHead σ ts (.located start stop (.expressionHead item))
  | pattern {start stop : Nat} {item : Node .pattern}
      (inside : Covers σ (.target .assignment) ts (.located start stop item)) :
      CoversHead σ ts (.located start stop (.patternHead item))
  | declaration {start stop : Nat} {kind : VariableKind} {items : Many (.located .declarator)}
      (inside : Covers σ .phrase ts (.located start stop (.declarationHead kind items))) :
      CoversHead σ ts (.located start stop (.declarationHead kind items))

theorem CoversHead.covers {ts : List Token} {head : Located .loopHead}
    (inside : CoversHead σ ts head) : Covers σ .phrase ts head := by
  cases inside with
  | expression inside => exact .wraps (.expressionHead _) inside
  | pattern inside => exact .wraps (.patternHead _) inside
  | declaration inside => exact inside

theorem Stands.loopHead {head : Located .loopHead} (keeps : Keeps setup self)
    (stands : Stands σ s) (outcome : Parser.loopHead self setup s = .ok head s') :
    (∃ ts, Reads σ s ts s' ∧ CoversHead σ ts head) ∧
      (head.holdsPattern = true → s'.current.kind.isLoopWord) := by
  obtain ⟨u, u', outcome, stands, ⟨_, after⟩, leave⟩ := stands.withIn outcome
  rw [after]
  rw [position_bind, currentKind_bind] at outcome
  cases declares : variableKind? u.current.kind with
  | some kind =>
      rw [declares] at outcome
      obtain ⟨declarators, t, inner, outcome⟩ := bind_ok outcome
      obtain ⟨ts, reads, inside, several, nonempty⟩ :=
        stands.declaration keeps (goes_on_of_variableKind declares) inner
      cases outcome
      have covers : Covers σ .phrase ts (.declarationHead kind declarators) :=
        inside.declarationHead several
      exact ⟨⟨ts, leave reads, .declaration (reads.finish covers nonempty)⟩, nofun⟩
  | none =>
      rw [declares] at outcome
      obtain ⟨result, t, first, rest⟩ := bind_ok outcome
      rcases stands.loopTarget? keeps first with
        ⟨pattern, rfl, ⟨ts, reads, inside⟩, word⟩ | ⟨rfl, still⟩
      · cases pattern with
        | located start stop item =>
            cases rest
            exact ⟨⟨ts, leave reads, .pattern inside⟩, fun _ => word⟩
      · obtain ⟨expression, t', second, rest⟩ := bind_ok rest
        obtain ⟨ts, reads, inside⟩ := keeps.goals .expression still.stands second
        cases expression with
        | located start stop item =>
            cases rest
            exact ⟨⟨_, leave (still.trans reads), .expression inside⟩, nofun⟩

/-- The left side of a loop has the tokens of its head and names a single target. -/
theorem CoversHead.loopLeft {ts : List Token} {head left : Located .loopHead}
    (inside : CoversHead σ ts head) (outcome : Parser.loopLeft head setup s = .ok left s') :
    s' = s ∧ Covers σ .phrase ts left ∧ left.bindsOne = true := by
  cases inside with
  | @expression start stop item inside =>
      obtain ⟨target, t, reading, rest⟩ := bind_ok outcome
      obtain ⟨rfl, inside', _⟩ := covers_targetOf inside reading
      cases rest
      cases target with
      | located start' stop' item' =>
          obtain ⟨rfl, rfl⟩ : start' = start ∧ stop' = stop := by
            cases item with
            | identifier name | memberExpression object property | computedMember object property =>
                cases reading
                exact ⟨rfl, rfl⟩
            | _ => cases reading
          exact ⟨rfl, .wraps (.patternHead item') inside', rfl⟩
  | pattern inside =>
      cases outcome
      exact ⟨rfl, .wraps (.patternHead _) inside, rfl⟩
  | declaration inside =>
      cases ‹Many (.located .declarator)› with
      | nil => cases outcome
      | cons declarator rest =>
          cases rest with
          | nil =>
              cases outcome
              exact ⟨rfl, inside, rfl⟩
          | cons _ _ => cases outcome

theorem Reads.forInRest {s₀ : State} {front : List Token} {left : Located .loopHead}
    {value : Located .statement} (keeps : Keeps setup self) (reads : Reads σ s₀ front s)
    (head : Covers σ .phrase front left) (single : left.bindsOne = true)
    (outcome : Parser.forInRest self s₀.current.start left setup s = .ok value s') :
    Built σ .inner s₀ value s' := by
  obtain ⟨right, t₁, first, outcome⟩ := bind_ok outcome
  obtain ⟨ts, reads', inside⟩ := keeps.goals .expression reads.stands first
  obtain ⟨_, t₂, closes, outcome⟩ := bind_ok outcome
  have closed := (reads'.stands.expectMark closes).2
  obtain ⟨body, t₃, second, outcome⟩ := bind_ok outcome
  obtain ⟨ts', reads'', inside'⟩ := keeps.goals .statement closed.stands second
  cases outcome
  have whole := reads.trans (reads'.trans (closed.trans reads''))
  have covers := head.forInStatement single inside (inside'.behind [t₁.current] rfl)
  exact ⟨_, whole, whole.finish covers (by simp [head.ne_nil rfl])⟩

theorem Reads.forOfRest {s₀ : State} {front : List Token} {left : Located .loopHead}
    {value : Located .statement} (keeps : Keeps setup self) (reads : Reads σ s₀ front s)
    (head : Covers σ .phrase front left) (single : left.bindsOne = true)
    (outcome : Parser.forOfRest self s₀.current.start left setup s = .ok value s') :
    Built σ .inner s₀ value s' := by
  obtain ⟨right, t₁, first, outcome⟩ := bind_ok outcome
  obtain ⟨ts, reads', inside⟩ := keeps.goals .assignment reads.stands first
  obtain ⟨_, t₂, closes, outcome⟩ := bind_ok outcome
  have closed := (reads'.stands.expectMark closes).2
  obtain ⟨body, t₃, second, outcome⟩ := bind_ok outcome
  obtain ⟨ts', reads'', inside'⟩ := keeps.goals .statement closed.stands second
  cases outcome
  have whole := reads.trans (reads'.trans (closed.trans reads''))
  have covers := head.forOfStatement single inside (inside'.behind [t₁.current] rfl)
  exact ⟨_, whole, whole.finish covers (by simp [head.ne_nil rfl])⟩

theorem Stands.optionalExpression {close : Punctuator} {value : Optional (.located .expression)}
    (keeps : Keeps setup self) (stands : Stands σ s)
    (outcome : Parser.optionalExpression self close setup s = .ok value s') :
    Built σ .phrase s value s' := by
  rcases ifMark_ok outcome with ⟨_, outcome⟩ | ⟨_, outcome⟩
  · cases outcome
    exact ⟨[], .refl stands, .none⟩
  · obtain ⟨expression, t, inner, outcome⟩ := bind_ok outcome
    obtain ⟨ts, reads, inside⟩ := keeps.goals .expression stands inner
    cases outcome
    exact ⟨ts, reads, inside.some⟩

theorem Reads.forRest {s₀ : State} {front : List Token} {head : Optional (.located .loopHead)}
    {value : Located .statement} (keeps : Keeps setup self) (reads : Reads σ s₀ front s)
    (inside : Covers σ .phrase front head) (plain : head.holdsPattern = false)
    (nonempty : front ≠ [])
    (outcome : Parser.forRest self s₀.current.start head setup s = .ok value s') :
    Built σ .inner s₀ value s' := by
  obtain ⟨_, t₁, mark, outcome⟩ := bind_ok outcome
  have parted := (reads.stands.expectMark mark).2
  obtain ⟨test, t₂, first, outcome⟩ := bind_ok outcome
  obtain ⟨ts, reads', inside'⟩ := parted.stands.optionalExpression keeps first
  obtain ⟨_, t₃, mark', outcome⟩ := bind_ok outcome
  have parted' := (reads'.stands.expectMark mark').2
  obtain ⟨update, t₄, second, outcome⟩ := bind_ok outcome
  obtain ⟨ts', readsUpdate, insideUpdate⟩ := parted'.stands.optionalExpression keeps second
  obtain ⟨_, t₅, closes, outcome⟩ := bind_ok outcome
  have closed := (readsUpdate.stands.expectMark closes).2
  obtain ⟨body, t₆, third, outcome⟩ := bind_ok outcome
  obtain ⟨ts'', readsBody, insideBody⟩ := keeps.goals .statement closed.stands third
  cases outcome
  have whole := reads.trans (parted.trans (reads'.trans (parted'.trans (readsUpdate.trans
    (closed.trans readsBody)))))
  have covers := inside.forStatement plain (inside'.behind [s.current] rfl)
    (insideUpdate.behind [t₂.current] rfl) (insideBody.behind [t₄.current] rfl)
  refine ⟨_, whole, whole.finish ?_ (by simp [nonempty])⟩
  simpa only [List.append_assoc] using covers

theorem Stands.forStatement {value : Located .statement} (keeps : Keeps setup self)
    (stands : Stands σ s) (goes_on : s.current.kind ≠ .endOfInput)
    (outcome : Parser.forStatement self setup s = .ok value s') :
    Built σ .inner s value s' := by
  unfold Parser.forStatement at outcome
  rw [position_bind] at outcome
  obtain ⟨_, t₁, moved, outcome⟩ := bind_ok outcome
  have started := stands.advance goes_on moved
  obtain ⟨_, t₂, opens, outcome⟩ := bind_ok outcome
  have opened := started.trans (started.stands.expectMark opens).2
  rcases ifMark_ok outcome with ⟨_, outcome⟩ | ⟨_, outcome⟩
  · exact opened.forRest keeps .none rfl (by simp) outcome
  obtain ⟨head, t₃, first, outcome⟩ := bind_ok outcome
  obtain ⟨⟨ts, reads, inside⟩, word⟩ := opened.stands.loopHead keeps first
  have front := opened.trans reads
  have sided {left : Located .loopHead} {t : State} (next : t₃.current.kind ≠ .endOfInput)
      (side : Parser.loopLeft head setup t₃ = .ok left t) {t' : State}
      (moved : Parser.advance setup t = .ok () t') :
      ∃ ts', Reads σ s ts' t' ∧ Covers σ .phrase ts' left ∧ left.bindsOne = true := by
    obtain ⟨rfl, covers, single⟩ := inside.loopLeft side
    have parted := front.stands.advance next moved
    exact ⟨_, front.trans parted, (covers.behind _ rfl).before _ rfl, single⟩
  rcases ifKeyword_ok outcome with ⟨next, outcome⟩ | ⟨other, outcome⟩
  · obtain ⟨left, t₄, side, outcome⟩ := bind_ok outcome
    obtain ⟨_, t₅, moved, outcome⟩ := bind_ok outcome
    obtain ⟨ts', reads', covers, single⟩ := sided (by rw [next]; nofun) side moved
    exact reads'.forInRest keeps covers single outcome
  rw [atName_bind] at outcome
  rcases ite_ok outcome with ⟨next, outcome⟩ | ⟨other', outcome⟩
  · have next := of_decide_eq_true next
    obtain ⟨left, t₄, side, outcome⟩ := bind_ok outcome
    obtain ⟨_, t₅, moved, outcome⟩ := bind_ok outcome
    obtain ⟨ts', reads', covers, single⟩ := sided (by rw [next]; nofun) side moved
    exact reads'.forOfRest keeps covers single outcome
  · have plain : head.holdsPattern = false := by
      rw [Bool.eq_false_iff]
      intro pattern
      rcases word pattern with isIn | isOf
      · exact other isIn
      · exact of_decide_eq_false other' isOf
    exact front.forRest keeps (inside.covers.behind _ rfl).some plain (by simp) outcome

/-! ## Clauses -/

theorem Stands.handlerParameter {value : Optional (.located .pattern)} (keeps : Keeps setup self)
    (stands : Stands σ s) (outcome : Parser.handlerParameter self setup s = .ok value s') :
    Built σ (.target .binding) s value s' := by
  rcases stands.ifEatMark outcome with ⟨t₁, opened, outcome⟩ | ⟨_, outcome⟩
  · obtain ⟨parameter, t₂, inner, outcome⟩ := bind_ok outcome
    obtain ⟨ts, reads, inside⟩ := keeps.goals (.target .binding) opened.stands inner
    obtain ⟨_, t₃, closes, outcome⟩ := bind_ok outcome
    have closed := (reads.stands.expectMark closes).2
    cases outcome
    exact ⟨_, opened.trans (reads.trans closed), (inside.wider _ _ rfl).some⟩
  · cases outcome
    exact ⟨[], .refl stands, .none⟩

theorem Stands.catchClause {value : Optional (.located .handler)} (keeps : Keeps setup self)
    (stands : Stands σ s) (outcome : Parser.catchClause self setup s = .ok value s') :
    Built σ .phrase s value s' := by
  unfold Parser.catchClause at outcome
  rw [position_bind] at outcome
  rcases stands.ifEatKeyword outcome with ⟨t₁, word, outcome⟩ | outcome
  · obtain ⟨parameter, t₂, first, outcome⟩ := bind_ok outcome
    obtain ⟨ts, reads, inside⟩ := word.stands.handlerParameter keeps first
    obtain ⟨body, t₃, second, outcome⟩ := bind_ok outcome
    obtain ⟨ts', reads', inside'⟩ := reads.stands.block keeps second
    cases outcome
    have whole := word.trans (reads.trans reads')
    exact ⟨_, whole, (whole.finish ((inside.handler inside').behind _ rfl) (by simp)).some⟩
  · cases outcome
    exact ⟨[], .refl stands, .none⟩

theorem Stands.finallyBlock {value : Optional (.located .block)} (keeps : Keeps setup self)
    (stands : Stands σ s) (outcome : Parser.finallyBlock self setup s = .ok value s') :
    Built σ .phrase s value s' := by
  rcases stands.ifEatKeyword outcome with ⟨t₁, word, outcome⟩ | outcome
  · obtain ⟨body, t₂, inner, outcome⟩ := bind_ok outcome
    obtain ⟨ts, reads, inside⟩ := word.stands.block keeps inner
    cases outcome
    exact ⟨_, word.trans reads, (inside.behind _ rfl).some⟩
  · cases outcome
    exact ⟨[], .refl stands, .none⟩

theorem Stands.tryStatement {value : Located .statement} (keeps : Keeps setup self)
    (stands : Stands σ s) (goes_on : s.current.kind ≠ .endOfInput)
    (outcome : Parser.tryStatement self setup s = .ok value s') :
    Built σ .inner s value s' := by
  unfold Parser.tryStatement at outcome
  rw [position_bind] at outcome
  obtain ⟨_, t₁, moved, outcome⟩ := bind_ok outcome
  have started := stands.advance goes_on moved
  obtain ⟨body, t₂, first, outcome⟩ := bind_ok outcome
  obtain ⟨ts, reads, inside⟩ := started.stands.block keeps first
  obtain ⟨clause, t₃, second, outcome⟩ := bind_ok outcome
  obtain ⟨ts', reads', inside'⟩ := reads.stands.catchClause keeps second
  obtain ⟨finalizer, t₄, third, outcome⟩ := bind_ok outcome
  obtain ⟨ts'', reads'', inside''⟩ := reads'.stands.finallyBlock keeps third
  have whole := started.trans (reads.trans (reads'.trans reads''))
  have covers (handled : clause ≠ .none ∨ finalizer ≠ .none) :=
    (inside.tryStatement handled inside' inside'').behind [s.current] rfl
  cases clause with
  | some clause =>
      cases outcome
      exact ⟨_, whole, whole.finish (covers (.inl nofun)) (by simp)⟩
  | none =>
      cases finalizer with
      | some finalizer =>
          cases outcome
          exact ⟨_, whole, whole.finish (covers (.inr nofun)) (by simp)⟩
      | none => cases outcome

theorem Stands.caseTest {value : Optional (.located .expression)} (keeps : Keeps setup self)
    (stands : Stands σ s) (outcome : Parser.caseTest self setup s = .ok value s') :
    ∃ ts, Reads σ s ts s' ∧ Covers σ .phrase ts value ∧ ts ≠ [] := by
  rcases stands.ifEatKeyword outcome with ⟨t₁, word, outcome⟩ | outcome
  · obtain ⟨test, t₂, inner, outcome⟩ := bind_ok outcome
    obtain ⟨ts, reads, inside⟩ := keeps.goals .expression word.stands inner
    cases outcome
    exact ⟨_, word.trans reads, (inside.behind _ rfl).some, by simp⟩
  rcases stands.ifEatKeyword outcome with ⟨t₁, word, outcome⟩ | outcome
  · cases outcome
    exact ⟨_, word, .none, by simp⟩
  · exact absurd outcome not_unexpected

theorem Stands.switchCase {value : Located .switchCase} (keeps : Keeps setup self)
    (stands : Stands σ s) (outcome : Parser.switchCase self setup s = .ok value s') :
    Built σ .phrase s value s' := by
  unfold Parser.switchCase at outcome
  rw [position_bind] at outcome
  obtain ⟨test, t₁, first, outcome⟩ := bind_ok outcome
  obtain ⟨ts, reads, inside, nonempty⟩ := stands.caseTest keeps first
  obtain ⟨_, t₂, colon, outcome⟩ := bind_ok outcome
  have parted := (reads.stands.expectMark colon).2
  obtain ⟨consequent, t₃, second, outcome⟩ := bind_ok outcome
  obtain ⟨ts', reads', inside'⟩ := keeps.goals (.statements .clause) parted.stands second
  cases outcome
  have whole := reads.trans (parted.trans reads')
  exact ⟨_, whole, whole.finish (inside.switchCase (inside'.behind _ rfl)) (by simp)⟩

theorem Keeps.switchCases (keeps : Keeps setup self) :
    Goal.switchCases.Meets setup (Parser.switchCases self) := by
  intro σ s value s' stands outcome
  unfold Parser.switchCases at outcome
  rcases ifMark_ok outcome with ⟨_, outcome⟩ | ⟨_, outcome⟩
  · cases outcome
    exact ⟨[], .refl stands, .nil⟩
  · obtain ⟨clause, t₁, first, outcome⟩ := bind_ok outcome
    obtain ⟨ts, reads, inside⟩ := stands.switchCase keeps first
    obtain ⟨rest, t₂, second, outcome⟩ := bind_ok outcome
    obtain ⟨ts', reads', inside'⟩ := keeps.goals .switchCases reads.stands second
    cases outcome
    exact ⟨_, reads.trans reads', .cons inside inside'⟩

theorem Stands.switchStatement {value : Located .statement} (keeps : Keeps setup self)
    (stands : Stands σ s) (goes_on : s.current.kind ≠ .endOfInput)
    (outcome : Parser.switchStatement self setup s = .ok value s') :
    Built σ .inner s value s' := by
  unfold Parser.switchStatement at outcome
  rw [position_bind] at outcome
  obtain ⟨_, t₁, moved, outcome⟩ := bind_ok outcome
  have started := stands.advance goes_on moved
  obtain ⟨discriminant, t₂, first, outcome⟩ := bind_ok outcome
  obtain ⟨ts, reads, inside⟩ := started.stands.parenthesized keeps first
  obtain ⟨_, t₃, opens, outcome⟩ := bind_ok outcome
  have opened := (reads.stands.expectMark opens).2
  obtain ⟨cases', t₄, second, outcome⟩ := bind_ok outcome
  obtain ⟨ts', reads', inside'⟩ := keeps.goals .switchCases opened.stands second
  obtain ⟨_, t₅, closes, outcome⟩ := bind_ok outcome
  have closed := (reads'.stands.expectMark closes).2
  cases outcome
  have whole := started.trans (reads.trans (opened.trans (reads'.trans closed)))
  have covers := inside.switchStatement (inside'.wider [t₂.current] [t₄.current] rfl)
  exact ⟨_, whole, whole.finish (covers.behind _ rfl) (by simp)⟩

/-! ## Statements of any kind -/

theorem Stands.keywordStatement {word : Keyword} {value : Located .statement}
    (keeps : Keeps setup self) (stands : Stands σ s) (next : s.current.kind = .keyword word)
    (outcome : Parser.keywordStatement self word setup s = .ok value s') :
    Built σ .inner s value s' := by
  have goes_on : s.current.kind ≠ .endOfInput := by
    rw [next]
    nofun
  cases word with
  | varWord | letWord | constWord => exact stands.variableStatement keeps goes_on outcome
  | functionWord =>
      obtain ⟨ts, reads, inside⟩ := (Reads.refl stands).functionStatement keeps outcome
      exact ⟨ts, reads, inside⟩
  | classWord => exact stands.classStatement keeps outcome
  | ifWord => exact stands.ifStatement keeps goes_on outcome
  | whileWord => exact stands.whileStatement keeps goes_on outcome
  | doWord => exact stands.doStatement keeps goes_on outcome
  | forWord => exact stands.forStatement keeps goes_on outcome
  | returnWord => exact stands.returnStatement keeps goes_on outcome
  | breakWord => exact stands.jumpStatement goes_on (fun _ _ => .breakStatement) outcome
  | continueWord => exact stands.jumpStatement goes_on (fun _ _ => .continueStatement) outcome
  | throwWord => exact stands.throwStatement keeps goes_on outcome
  | tryWord => exact stands.tryStatement keeps goes_on outcome
  | switchWord => exact stands.switchStatement keeps goes_on outcome
  | debuggerWord => exact stands.debuggerStatement goes_on outcome
  | _ => exact stands.expressionStatement keeps outcome

theorem Keeps.statement (keeps : Keeps setup self) :
    Goal.statement.Meets setup (Parser.statement self) := by
  intro σ s value s' stands outcome
  obtain ⟨room, t, t', outcome, stands', _, leave⟩ := stands.nested outcome
  have built : Built σ.deeper .inner t value t' := by
    rw [currentKind_bind] at outcome
    obtain ⟨m, same, outcome⟩ := run_ok outcome
    split at same <;> subst same
    · exact stands'.blockStatement keeps outcome
    · exact stands'.emptyStatement (by rw [‹t.current.kind = _›]; nofun) outcome
    · exact stands'.keywordStatement keeps ‹_› outcome
    · exact stands'.wordStatement keeps (by rw [‹t.current.kind = _›]; nofun) outcome
    · exact stands'.expressionStatement keeps outcome
  obtain ⟨ts, reads, inside⟩ := built
  cases value with
  | located start stop item => exact ⟨ts, leave reads, .statement room inside⟩

theorem Keeps.statements (keeps : Keeps setup self) {stop : StatementsEnd} :
    (Goal.statements stop).Meets setup (Parser.statements self stop) := by
  intro σ s value s' stands outcome
  unfold Parser.statements at outcome
  rw [currentKind_bind] at outcome
  rcases ite_ok outcome with ⟨_, outcome⟩ | ⟨_, outcome⟩
  · cases outcome
    exact ⟨[], .refl stands, .nil⟩
  · obtain ⟨statement, t₁, first, outcome⟩ := bind_ok outcome
    obtain ⟨ts, reads, inside⟩ := keeps.goals .statement stands first
    obtain ⟨rest, t₂, second, outcome⟩ := bind_ok outcome
    obtain ⟨ts', reads', inside'⟩ := keeps.goals (.statements stop) reads.stands second
    cases outcome
    exact ⟨_, reads.trans reads', .cons inside inside'⟩

end Parser

end Ecmascript
