import Ecmascript.Proofs.Cover.Function

/-!
# Tokens of expressions

The productions from sequences down to unary operators read the tokens of the expression that they
build. An attempt that fails leaves the place as it is, so what is read is what the expression is
made of, whichever way it was recognized.
-/

set_option autoImplicit false

namespace Ecmascript.Parser

variable {setup : Setup} {self : Grammar} {σ : Scope} {s s' : State}

/-! ## Sequences -/

theorem Keeps.moreExpressions (keeps : Keeps setup self) :
    Goal.moreExpressions.Meets setup (Parser.moreExpressions self) := by
  intro σ s expressions s' stands outcome
  unfold Parser.moreExpressions at outcome
  rcases stands.ifEatMark outcome with ⟨t, comma, outcome⟩ | ⟨other, outcome⟩
  · obtain ⟨next, t₁, first, outcome⟩ := bind_ok outcome
    obtain ⟨ts, reads, inside⟩ := keeps.goals .assignment comma.stands first
    obtain ⟨rest, t₂, second, outcome⟩ := bind_ok outcome
    obtain ⟨⟨ts', reads', inside'⟩, _⟩ := keeps.goals .moreExpressions reads.stands second
    cases outcome
    have covers : Covers σ .phrase _ (.cons next rest) := .cons inside inside'
    exact ⟨⟨_, comma.trans (reads.trans reads'), covers.behind _ rfl⟩,
      fun _ => by simp [Node.count]⟩
  · cases outcome
    exact ⟨⟨[], .refl stands, .nil⟩, fun next => absurd next other⟩

theorem Keeps.expression (keeps : Keeps setup self) :
    Goal.expression.Meets setup (Parser.expression self) := by
  intro σ s value s' stands outcome
  unfold Parser.expression at outcome
  rw [position_bind] at outcome
  obtain ⟨first, t, inner, outcome⟩ := bind_ok outcome
  obtain ⟨ts, reads, inside⟩ := keeps.goals .assignment stands inner
  rcases ifMark_ok outcome with ⟨comma, outcome⟩ | ⟨_, outcome⟩
  · obtain ⟨rest, t', second, outcome⟩ := bind_ok outcome
    obtain ⟨⟨ts', reads', inside'⟩, more⟩ := keeps.goals .moreExpressions reads.stands second
    cases outcome
    have several : 2 ≤ (Node.cons first rest).count := Nat.succ_le_succ (more comma)
    have whole := reads.trans reads'
    have covers := Covers.sequenceExpression several (.cons inside inside')
    exact ⟨_, whole, whole.finish covers (by simp [inside.ne_nil rfl])⟩
  · cases outcome
    exact ⟨ts, reads, inside⟩

/-! ## Generators -/

theorem Stands.delegateStar {answer : Bool} (stands : Stands σ s)
    (outcome : Parser.delegateStar setup s = .ok answer s') : ∃ ts, Reads σ s ts s' := by
  unfold Parser.delegateStar at outcome
  rw [atNewline_bind] at outcome
  rcases ite_ok outcome with ⟨_, outcome⟩ | ⟨_, outcome⟩
  · cases outcome
    exact ⟨[], .refl stands⟩
  · exact stands.eaten outcome

theorem Stands.yieldExpression {value : Located .expression} (keeps : Keeps setup self)
    (stands : Stands σ s) (inGenerator : σ.inGenerator = true)
    (next : s.current.kind = .identifier "yield")
    (outcome : Parser.yieldExpression self setup s = .ok value s') : Built σ .phrase s value s' := by
  unfold Parser.yieldExpression at outcome
  rw [position_bind] at outcome
  obtain ⟨_, t, moved, outcome⟩ := bind_ok outcome
  have word := stands.advance (by rw [next]; nofun) moved
  obtain ⟨isDelegate, t', star, outcome⟩ := bind_ok outcome
  obtain ⟨stars, starred⟩ := word.stands.delegateStar star
  obtain ⟨continues, t'', looks, outcome⟩ := bind_ok outcome
  cases looks
  have front := word.trans starred
  rcases ite_ok outcome with ⟨_, outcome⟩ | ⟨_, outcome⟩
  · obtain ⟨argument, t₃, inner, outcome⟩ := bind_ok outcome
    obtain ⟨ts, reads, inside⟩ := keeps.goals .assignment starred.stands inner
    cases outcome
    have whole := front.trans reads
    have covers : Covers σ .phrase ts (.yieldExpression (.some argument) isDelegate) :=
      .yieldExpression inGenerator inside.some
    exact ⟨_, whole, whole.finish (covers.behind _ rfl) (by simp)⟩
  · cases outcome
    exact ⟨_, front, front.finish (.yieldExpression inGenerator .none) (by simp)⟩

/-! ## Arrow functions -/

/-- A name by itself is a list of parameters. -/
theorem covers_single {ts : List Token} {name : Located .word} (inside : Covers σ .phrase ts name) :
    Covers σ (.item .binding) ts (.single (bindingOf name)) :=
  .last (covers_bindingOf inside).element.item

theorem Stands.arrowParameters {parameters : Many (.located .pattern)} (keeps : Keeps setup self)
    (stands : Stands σ s) (outcome : Parser.arrowParameters self setup s = .ok parameters s') :
    ∃ ts, Reads σ s ts s' ∧ Covers σ (.item .binding) ts parameters ∧ ts ≠ [] := by
  unfold Parser.arrowParameters at outcome
  rcases ifMark_ok outcome with ⟨_, outcome⟩ | ⟨_, outcome⟩
  · exact stands.formalParameters keeps outcome
  · obtain ⟨name, t, inner, outcome⟩ := bind_ok outcome
    obtain ⟨reads, inside⟩ := stands.bindingName inner
    cases outcome
    exact ⟨_, reads, covers_single inside, by simp⟩

theorem Stands.arrowHead {parameters : Many (.located .pattern)} (keeps : Keeps setup self)
    (stands : Stands σ s) (outcome : Parser.arrowHead self setup s = .ok parameters s') :
    ∃ ts, Reads σ s ts s' ∧ Covers σ (.item .binding) ts parameters ∧ ts ≠ [] := by
  unfold Parser.arrowHead at outcome
  obtain ⟨parameters, t, inner, outcome⟩ := bind_ok outcome
  obtain ⟨ts, reads, inside, nonempty⟩ := stands.arrowParameters keeps inner
  rw [current_bind] at outcome
  rcases ite_ok outcome with ⟨arrow, outcome⟩ | ⟨_, outcome⟩
  · simp only [Bool.and_eq_true, decide_eq_true_eq] at arrow
    obtain ⟨_, t', moved, outcome⟩ := bind_ok outcome
    cases outcome
    have reads' := reads.stands.advance (by rw [arrow.1]; nofun) moved
    exact ⟨_, reads.trans reads', inside.before _ rfl, by simp [nonempty]⟩
  · exact absurd outcome not_unexpected

/-- The tokens of a head of an arrow function, if one begins here. -/
def Head (σ : Scope) (s : State) (head : Option (Bool × Many (.located .pattern)))
    (s' : State) : Prop :=
  match head with
  | some (_, parameters) =>
      ∃ ts, Reads σ s ts s' ∧ Covers σ (.item .binding) ts parameters ∧ ts ≠ []
  | none => Reads σ s [] s'

theorem Stands.asyncArrowHead {head : Bool × Many (.located .pattern)} (keeps : Keeps setup self)
    (stands : Stands σ s) (next : s.current.kind = .identifier "async")
    (outcome : Parser.asyncArrowHead self setup s = .ok head s') : Head σ s (some head) s' := by
  obtain ⟨_, t, moved, outcome⟩ := bind_ok outcome
  have word := stands.advance (by rw [next]; nofun) moved
  obtain ⟨parameters, t', inner, outcome⟩ := bind_ok outcome
  obtain ⟨ts, reads, inside, _⟩ := word.stands.arrowHead keeps inner
  cases outcome
  exact ⟨_, word.trans reads, inside.behind _ rfl, by simp⟩

theorem Stands.wordArrowHead? {head : Option (Bool × Many (.located .pattern))}
    (keeps : Keeps setup self) (stands : Stands σ s)
    (outcome : Parser.wordArrowHead? self setup s = .ok head s') : Head σ s head s' := by
  obtain ⟨next, ahead, outcome⟩ := peek_ok outcome
  rcases ite_ok outcome with ⟨arrow, outcome⟩ | ⟨_, outcome⟩
  · simp only [Bool.and_eq_true, decide_eq_true_eq] at arrow
    obtain ⟨name, t, inner, outcome⟩ := bind_ok outcome
    obtain ⟨reads, inside⟩ := stands.bindingName inner
    obtain ⟨_, t', moved, outcome⟩ := bind_ok outcome
    have next := current_of_peek ahead (advance_of_bindingName inner)
    have reads' := reads.stands.advance (by rw [next, arrow.1]; nofun) moved
    cases outcome
    exact ⟨_, reads.trans reads', (covers_single inside).before _ rfl, by simp⟩
  · rw [atName_bind] at outcome
    rcases ite_ok outcome with ⟨async, outcome⟩ | ⟨_, outcome⟩
    · simp only [Bool.and_eq_true, decide_eq_true_eq] at async
      rcases attempt_ok (keeps.of_parallel .asyncArrowHead) outcome with ⟨found, rfl, success⟩ | ⟨rfl, beside, scope⟩
      · exact stands.asyncArrowHead keeps async.1.1 success
      · exact stands.again beside scope
    · cases outcome
      exact .refl stands

theorem Stands.arrowHead? {head : Option (Bool × Many (.located .pattern))}
    (keeps : Keeps setup self) (stands : Stands σ s)
    (outcome : Parser.arrowHead? self setup s = .ok head s') : Head σ s head s' := by
  unfold Parser.arrowHead? at outcome
  rw [currentKind_bind] at outcome
  obtain ⟨m, same, outcome⟩ := run_ok outcome
  split at same <;> subst same
  · obtain ⟨found, t, inner, outcome⟩ := bind_ok outcome
    cases outcome
    rcases attempt_ok (keeps.of_parallel .arrowHead) inner with ⟨parameters, rfl, success⟩ | ⟨rfl, beside, scope⟩
    · exact stands.arrowHead keeps success
    · exact stands.again beside scope
  · exact stands.wordArrowHead? keeps outcome
  · cases outcome
    exact .refl stands

theorem Stands.arrowBody {body : Node .arrowBody} (keeps : Keeps setup self) (stands : Stands σ s)
    (outcome : Parser.arrowBody self setup s = .ok body s') : Built σ .phrase s body s' := by
  unfold Parser.arrowBody at outcome
  rcases ifMark_ok outcome with ⟨_, outcome⟩ | ⟨_, outcome⟩
  · obtain ⟨block, t, inner, outcome⟩ := bind_ok outcome
    obtain ⟨u, u', inner, stands', _, leave⟩ := stands.withIn inner
    obtain ⟨ts, reads, inside⟩ := stands'.block keeps inner
    cases outcome
    exact ⟨ts, leave reads, inside.blockBody⟩
  · obtain ⟨value, t, inner, outcome⟩ := bind_ok outcome
    obtain ⟨ts, reads, inside⟩ := keeps.goals .assignment stands inner
    cases outcome
    exact ⟨ts, reads, inside.expressionBody⟩

/-- The parameters of an arrow function stand in the scope around it, its body in its own. -/
theorem Reads.arrowRest {s₀ : State} {front : List Token} {isAsync : Bool}
    {parameters : Many (.located .pattern)} {value : Located .expression}
    (reads : Reads σ s₀ front s) (keeps : Keeps setup self)
    (inside : Covers σ (.item .binding) front parameters) (nonempty : front ≠ [])
    (outcome : Parser.arrowRest self s₀.current.start isAsync parameters setup s = .ok value s') :
    Built σ .phrase s₀ value s' := by
  unfold Parser.arrowRest at outcome
  rw [context_bind] at outcome
  obtain ⟨body, t, inner, outcome⟩ := bind_ok outcome
  have scope : State.scope { s with context := arrowContext isAsync s.context } =
      σ.function isAsync false := by
    rw [← reads.stands.scope]
    rfl
  obtain ⟨u, u', inner, stands, _, leave⟩ := reads.stands.withContext inner scope
  obtain ⟨ts, reads', inside'⟩ := stands.arrowBody keeps inner
  cases outcome
  have whole := reads.trans (leave reads')
  exact ⟨_, whole, whole.finish (inside.arrowFunction inside') (by simp [nonempty])⟩

/-! ## Assignments -/

theorem Stands.destructuringTarget {pattern : Located .pattern} (keeps : Keeps setup self)
    (stands : Stands σ s) (outcome : Parser.destructuringTarget self setup s = .ok pattern s') :
    Built σ (.target .assignment) s pattern s' ∧ s'.current.kind = .punctuator .assign := by
  obtain ⟨left, t, inner, outcome⟩ := bind_ok outcome
  have built := keeps.goals (.target .assignment) stands inner
  rcases ifMark_ok outcome with ⟨sign, outcome⟩ | ⟨_, outcome⟩
  · cases outcome
    exact ⟨built, sign⟩
  · exact absurd outcome not_unexpected

theorem Stands.destructuringTarget? {result : Option (Located .pattern)} (keeps : Keeps setup self)
    (stands : Stands σ s) (outcome : Parser.destructuringTarget? self setup s = .ok result s') :
    (∃ pattern, result = some pattern ∧ Built σ (.target .assignment) s pattern s' ∧
      s'.current.kind = .punctuator .assign) ∨ (result = none ∧ Reads σ s [] s') := by
  have attempted {t : State}
      (outcome : attempt .assignmentTarget (Parser.destructuringTarget self) setup s =
        .ok result t) :
      (∃ pattern, result = some pattern ∧ Built σ (.target .assignment) s pattern t ∧
        t.current.kind = .punctuator .assign) ∨ (result = none ∧ Reads σ s [] t) := by
    rcases attempt_ok (keeps.of_parallel .destructuringTarget) outcome with
      ⟨pattern, rfl, inner⟩ | ⟨rfl, beside, scope⟩
    · exact .inl ⟨pattern, rfl, stands.destructuringTarget keeps inner⟩
    · exact .inr ⟨rfl, stands.again beside scope⟩
  unfold Parser.destructuringTarget? at outcome
  rw [currentKind_bind] at outcome
  obtain ⟨m, same, outcome⟩ := run_ok outcome
  split at same <;> subst same
  · exact attempted outcome
  · exact attempted outcome
  · cases outcome
    exact .inr ⟨rfl, .refl stands⟩

theorem Stands.conditional {value : Located .expression} (keeps : Keeps setup self)
    (stands : Stands σ s) (outcome : Parser.conditional self setup s = .ok value s') :
    Built σ .phrase s value s' := by
  unfold Parser.conditional at outcome
  rw [position_bind] at outcome
  obtain ⟨test, t₁, first, outcome⟩ := bind_ok outcome
  obtain ⟨ts, reads, inside⟩ := keeps.goals (.binary 0) stands first
  rcases reads.stands.ifEatMark outcome with ⟨t₂, question, outcome⟩ | ⟨_, outcome⟩
  · obtain ⟨consequent, t₃, second, outcome⟩ := bind_ok outcome
    have yields : Yields setup .phrase (self .assignment) := keeps.goals .assignment
    obtain ⟨ts', reads', inside'⟩ := yields.withIn true question.stands second
    obtain ⟨_, t₄, colon, outcome⟩ := bind_ok outcome
    have parted := (reads'.stands.expectMark colon).2
    obtain ⟨alternate, t₅, third, outcome⟩ := bind_ok outcome
    obtain ⟨ts'', reads'', inside''⟩ := keeps.goals .assignment parted.stands third
    cases outcome
    have whole := reads.trans (question.trans (reads'.trans (parted.trans reads'')))
    have covers := inside.conditionalExpression (inside'.behind [t₁.current] rfl)
      (inside''.behind [t₃.current] rfl)
    refine ⟨_, whole, whole.finish ?_ (by simp [inside.ne_nil rfl])⟩
    simpa only [List.append_assoc] using covers
  · cases outcome
    exact ⟨ts, reads, inside⟩

/-- An assignment sign is no end of input. -/
theorem goes_on_of_assignment {kind : TokenKind} {operator : AssignmentOperator}
    (sign : kind.assignmentOperator? = some operator) : kind ≠ .endOfInput := by
  rintro rfl
  cases sign

theorem Stands.simpleAssignment {value : Located .expression} (keeps : Keeps setup self)
    (stands : Stands σ s)
    (outcome : Parser.simpleAssignment self s.current.start setup s = .ok value s') :
    Built σ .phrase s value s' := by
  unfold Parser.simpleAssignment at outcome
  obtain ⟨left, t₁, first, outcome⟩ := bind_ok outcome
  obtain ⟨ts, reads, inside⟩ := stands.conditional keeps first
  rw [currentKind_bind] at outcome
  cases sign : t₁.current.kind.assignmentOperator? with
  | none =>
      rw [sign] at outcome
      cases outcome
      exact ⟨ts, reads, inside⟩
  | some operator =>
      rw [sign] at outcome
      obtain ⟨target, t₂, reading, rest⟩ := bind_ok outcome
      obtain ⟨rfl, inside', simple⟩ := covers_targetOf inside reading
      obtain ⟨_, t₃, moved, outcome⟩ := bind_ok rest
      have signed := reads.stands.advance (goes_on_of_assignment sign) moved
      obtain ⟨right, t₄, second, outcome⟩ := bind_ok outcome
      obtain ⟨ts', reads', inside''⟩ := keeps.goals .assignment signed.stands second
      cases outcome
      have whole := reads.trans (signed.trans reads')
      have covers : Covers σ .phrase _ (.assignmentExpression operator target right) :=
        .assignmentExpression (.inr simple) inside' (inside''.behind [t₂.current] rfl)
      exact ⟨_, whole, whole.finish covers (by simp [inside.ne_nil rfl])⟩

theorem Stands.arrowOrAssignment {value : Located .expression} (keeps : Keeps setup self)
    (stands : Stands σ s) (outcome : Parser.arrowOrAssignment self setup s = .ok value s') :
    Built σ .phrase s value s' := by
  unfold Parser.arrowOrAssignment at outcome
  rw [position_bind] at outcome
  obtain ⟨head, t₁, first, outcome⟩ := bind_ok outcome
  have headed := stands.arrowHead? keeps first
  cases head with
  | some head =>
      obtain ⟨isAsync, parameters⟩ := head
      obtain ⟨ts, reads, inside, nonempty⟩ := headed
      exact reads.arrowRest keeps inside nonempty outcome
  | none =>
      have still : Reads σ s [] t₁ := headed
      obtain ⟨start, _⟩ := still.still rfl
      obtain ⟨result, t₂, second, outcome⟩ := bind_ok outcome
      rcases still.stands.destructuringTarget? keeps second with
        ⟨pattern, rfl, ⟨ts, reads, inside⟩, sign⟩ | ⟨rfl, still'⟩
      · obtain ⟨_, t₃, moved, outcome⟩ := bind_ok outcome
        have signed := reads.stands.advance (by rw [sign]; nofun) moved
        obtain ⟨right, t₄, third, outcome⟩ := bind_ok outcome
        obtain ⟨ts', reads', inside'⟩ := keeps.goals .assignment signed.stands third
        cases outcome
        have whole := still.trans (reads.trans (signed.trans reads'))
        have covers :=
          Covers.assignmentExpression (.inl rfl) inside (inside'.behind [t₂.current] rfl)
        exact ⟨_, whole, whole.finish covers (by simp [inside.ne_nil rfl])⟩
      · have still := still.trans still'
        rw [← (still.still rfl).1] at outcome
        obtain ⟨ts, reads, inside⟩ := still.stands.simpleAssignment keeps outcome
        exact ⟨_, still.trans reads, inside⟩

theorem Keeps.assignment (keeps : Keeps setup self) :
    Goal.assignment.Meets setup (Parser.assignment self) := by
  intro σ s value s' stands outcome
  obtain ⟨_, t, t', outcome, stands', ⟨same, _⟩, leave⟩ := stands.nested outcome
  rw [atName_bind, context_bind] at outcome
  rcases ite_ok outcome with ⟨yields, outcome⟩ | ⟨_, outcome⟩
  · simp only [Bool.and_eq_true, decide_eq_true_eq] at yields
    have inGenerator : σ.deeper.inGenerator = true := by
      rw [← stands'.scope]
      exact yields.1
    obtain ⟨ts, reads, inside⟩ := stands'.yieldExpression keeps inGenerator yields.2 outcome
    exact ⟨ts, leave reads, inside.deeper⟩
  · obtain ⟨ts, reads, inside⟩ := stands'.arrowOrAssignment keeps outcome
    exact ⟨ts, leave reads, inside.deeper⟩

/-! ## Operators -/

theorem covers_combine {ts ts' : List Token} {left right : Located .expression}
    (operator : InfixOperator) (first : Covers σ .phrase ts left)
    (second : Covers σ .phrase ts' right) :
    Covers σ .phrase (ts ++ ts') (operator.combine left right) := by
  cases operator with
  | binary operator => exact first.binaryExpression second
  | logical operator => exact first.logicalExpression second

theorem Keeps.binaryRest (keeps : Keeps setup self) {minimum start : Nat}
    {left : Located .expression} :
    (Goal.binaryRest minimum start left).Meets setup
      (Parser.binaryRest self minimum start left) := by
  intro σ s₀ ts s value s' reads same inside outcome
  unfold Parser.binaryRest at outcome
  obtain ⟨_, t₁, slash, outcome⟩ := bind_ok outcome
  have still := reads.stands.slashAsDivide slash
  rw [currentKind_bind, context_bind] at outcome
  rcases ite_ok outcome with ⟨_, outcome⟩ | ⟨_, outcome⟩
  · cases outcome
    exact ⟨[], still, by simpa using inside⟩
  · cases found : t₁.current.kind.infixOperator? with
    | none =>
        rw [found] at outcome
        cases outcome
        exact ⟨[], still, by simpa using inside⟩
    | some operator =>
        rw [found] at outcome
        obtain ⟨_, t₂, moved, outcome⟩ := bind_ok outcome
        have goes_on : t₁.current.kind ≠ .endOfInput := by
          intro ends
          rw [ends] at found
          cases found
        have signed := still.stands.advance goes_on moved
        obtain ⟨right, t₃, first, outcome⟩ := bind_ok outcome
        obtain ⟨ts', reads', inside'⟩ := keeps.goals (.binary _) signed.stands first
        obtain ⟨combined, t₄, finished, outcome⟩ := bind_ok outcome
        cases finished
        have further := still.trans (signed.trans reads')
        have whole := reads.trans further
        have covers := covers_combine operator inside (inside'.behind [t₁.current] rfl)
        have located := whole.finish covers (by simp [inside.ne_nil rfl])
        rw [← same] at located
        obtain ⟨ts'', reads'', inside''⟩ :=
          keeps.goals (.binaryRest minimum start _) whole same located outcome
        exact ⟨_, further.trans reads'', by simpa only [List.append_assoc] using inside''⟩

theorem Keeps.binary (keeps : Keeps setup self) {minimum : Nat} :
    (Goal.binary minimum).Meets setup (Parser.binary self minimum) := by
  intro σ s value s' stands outcome
  unfold Parser.binary at outcome
  rw [position_bind] at outcome
  obtain ⟨left, t, first, outcome⟩ := bind_ok outcome
  obtain ⟨ts, reads, inside⟩ := keeps.goals .power stands first
  obtain ⟨ts', reads', inside'⟩ := keeps.goals (.binaryRest minimum _ left) reads rfl inside outcome
  exact ⟨_, reads.trans reads', inside'⟩

theorem Keeps.power (keeps : Keeps setup self) : Goal.power.Meets setup (Parser.power self) := by
  intro σ s value s' stands outcome
  unfold Parser.power Parser.powerOf at outcome
  rw [position_bind, atName_bind, currentKind_bind, context_bind] at outcome
  obtain ⟨left, t₁, first, outcome⟩ := bind_ok outcome
  obtain ⟨ts, reads, inside⟩ := keeps.goals .unary stands first
  rw [current_bind] at outcome
  obtain ⟨m, same, outcome⟩ := run_ok outcome
  split at same
  · rename_i next
    subst same
    rcases ite_ok outcome with ⟨_, outcome⟩ | ⟨_, outcome⟩
    · cases outcome
    · obtain ⟨_, t₂, moved, outcome⟩ := bind_ok outcome
      have signed := reads.stands.advance (by rw [next]; nofun) moved
      obtain ⟨right, t₃, second, outcome⟩ := bind_ok outcome
      obtain ⟨ts', reads', inside'⟩ := keeps.goals .power signed.stands second
      cases outcome
      have whole := reads.trans (signed.trans reads')
      have covers : Covers σ .phrase _ (.binaryExpression .power left right) :=
        .binaryExpression inside (inside'.behind [t₁.current] rfl)
      exact ⟨_, whole, whole.finish covers (by simp [inside.ne_nil rfl])⟩
  · subst same
    cases outcome
    exact ⟨ts, reads, inside⟩

theorem expectUpdateTarget_ok {expression : Located .expression}
    (outcome : expectUpdateTarget expression setup s = .ok () s') :
    s' = s ∧ expression.item.isSimpleTarget = true := by
  cases expression with
  | located start stop item =>
      rcases ite_ok outcome with ⟨simple, outcome⟩ | ⟨_, outcome⟩
      · cases outcome
        exact ⟨rfl, simple⟩
      · cases outcome

/-- An operator is no end of input. -/
theorem goes_on_of_update {kind : TokenKind} {operator : UpdateOperator}
    (sign : kind.updateOperator? = some operator) : kind ≠ .endOfInput := by
  rintro rfl
  cases sign

theorem Stands.postfixUpdate {value : Located .expression} (keeps : Keeps setup self)
    (stands : Stands σ s) (outcome : Parser.postfixUpdate self setup s = .ok value s') :
    Built σ .phrase s value s' := by
  unfold Parser.postfixUpdate at outcome
  rw [position_bind] at outcome
  obtain ⟨argument, t₁, first, outcome⟩ := bind_ok outcome
  obtain ⟨ts, reads, inside⟩ := keeps.goals .leftHandSide stands first
  rw [current_bind] at outcome
  cases sign : t₁.current.kind.updateOperator? with
  | none =>
      rw [sign] at outcome
      cases outcome
      exact ⟨ts, reads, inside⟩
  | some operator =>
      rw [sign] at outcome
      rcases ite_ok outcome with ⟨_, outcome⟩ | ⟨_, outcome⟩
      · cases outcome
        exact ⟨ts, reads, inside⟩
      · obtain ⟨_, t₂, checks, rest⟩ := bind_ok outcome
        obtain ⟨rfl, simple⟩ := expectUpdateTarget_ok checks
        obtain ⟨_, t₃, moved, outcome⟩ := bind_ok rest
        have signed := reads.stands.advance (goes_on_of_update sign) moved
        cases outcome
        have whole := reads.trans signed
        have covers : Covers σ .phrase _ (.updateExpression operator false argument) :=
          .postfixUpdate simple (inside.before [t₂.current] rfl)
        exact ⟨_, whole, whole.finish covers (by simp)⟩

/-- The operand of an operator in front of it, one level of nesting deeper. -/
theorem Stands.operand {value : Located .expression} (keeps : Keeps setup self)
    (stands : Stands σ s) (outcome : Parser.nested (self .unary) setup s = .ok value s') :
    σ.depth < maxNesting ∧ ∃ ts, Reads σ s ts s' ∧ Covers σ.deeper .phrase ts value := by
  obtain ⟨room, t, t', outcome, stands', _, leave⟩ := stands.nested outcome
  obtain ⟨ts, reads, inside⟩ := keeps.goals .unary stands' outcome
  exact ⟨room, ts, leave reads, inside⟩

theorem Keeps.unary (keeps : Keeps setup self) : Goal.unary.Meets setup (Parser.unary self) := by
  intro σ s value s' stands outcome
  unfold Parser.unary at outcome
  rw [position_bind, currentKind_bind] at outcome
  cases sign : s.current.kind.unaryOperator? with
  | some operator =>
      rw [sign] at outcome
      obtain ⟨_, t₁, moved, outcome⟩ := bind_ok outcome
      have goes_on : s.current.kind ≠ .endOfInput := by
        intro ends
        rw [ends] at sign
        cases sign
      have signed := stands.advance goes_on moved
      obtain ⟨argument, t₂, inner, outcome⟩ := bind_ok outcome
      obtain ⟨room, ts, reads, inside⟩ := signed.stands.operand keeps inner
      cases outcome
      have whole := signed.trans reads
      have covers : Covers σ .phrase ts (.unaryExpression operator argument) :=
        .unaryExpression room inside
      exact ⟨_, whole, whole.finish (covers.behind _ rfl) (by simp)⟩
  | none =>
      rw [sign] at outcome
      cases update : s.current.kind.updateOperator? with
      | some operator =>
          rw [update] at outcome
          obtain ⟨_, t₁, moved, outcome⟩ := bind_ok outcome
          have signed := stands.advance (goes_on_of_update update) moved
          obtain ⟨argument, t₂, inner, outcome⟩ := bind_ok outcome
          obtain ⟨room, ts, reads, inside⟩ := signed.stands.operand keeps inner
          obtain ⟨_, t₃, checks, rest⟩ := bind_ok outcome
          obtain ⟨rfl, simple⟩ := expectUpdateTarget_ok checks
          cases rest
          have whole := signed.trans reads
          have covers : Covers σ .phrase ts (.updateExpression operator true argument) :=
            .prefixUpdate room simple inside
          exact ⟨_, whole, whole.finish (covers.behind _ rfl) (by simp)⟩
      | none =>
          rw [update] at outcome
          dsimp only at outcome
          rw [context_bind] at outcome
          rcases ite_ok outcome with ⟨awaits, outcome⟩ | ⟨_, outcome⟩
          · simp only [Bool.and_eq_true, decide_eq_true_eq] at awaits
            obtain ⟨_, t₁, moved, outcome⟩ := bind_ok outcome
            have word := stands.advance (by rw [awaits.2]; nofun) moved
            obtain ⟨argument, t₂, inner, outcome⟩ := bind_ok outcome
            obtain ⟨room, ts, reads, inside⟩ := word.stands.operand keeps inner
            cases outcome
            have inAsync : σ.inAsync = true := by
              rw [← stands.scope]
              exact awaits.1
            have whole := word.trans reads
            have covers := Covers.awaitExpression inAsync room inside
            exact ⟨_, whole, whole.finish (covers.behind _ rfl) (by simp)⟩
          · exact stands.postfixUpdate keeps outcome

end Ecmascript.Parser
