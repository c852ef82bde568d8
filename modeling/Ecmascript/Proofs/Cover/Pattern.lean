import Ecmascript.Proofs.Cover.Reads

/-!
# Tokens of patterns

What the goals of the grammar promise about the tokens that they read, and that the productions of
patterns keep these promises when the goals do.
-/

set_option autoImplicit false

namespace Ecmascript.Parser

variable {setup : Setup} {self : Grammar} {σ : Scope} {s s' : State} {use : PatternUse}

/-- The tokens that were read hold a phrase. -/
def Built (σ : Scope) (role : Role) (s : State) {category : Category} (value : Node category)
    (s' : State) : Prop :=
  ∃ ts, Reads σ s ts s' ∧ Covers σ role ts value

/-- What a parser reads holds the phrase that it builds. -/
def Yields (setup : Setup) (role : Role) {category : Category} (m : Parser (Node category)) :
    Prop :=
  ∀ ⦃σ s value s'⦄, Stands σ s → m setup s = .ok value s' → Built σ role s value s'

/-- What a parser reads goes on with a phrase that begins earlier. -/
def Extends (setup : Setup) (start : Nat) (left : Located .expression)
    (m : Parser (Located .expression)) : Prop :=
  ∀ ⦃σ s₀ ts s value s'⦄, Reads σ s₀ ts s → start = s₀.current.start → Covers σ .phrase ts left →
    m setup s = .ok value s' → ∃ ts', Reads σ s ts' s' ∧ Covers σ .phrase (ts ++ ts') value

/-- What a goal promises about the tokens that it reads. -/
def Goal.Meets (setup : Setup) : (goal : Goal) → Parser goal.Result → Prop
  | .statement, m => Yields setup .phrase m
  | .statements _, m => Yields setup .phrase m
  | .declarators, m => ∀ ⦃σ s value s'⦄, Stands σ s → m setup s = .ok value s' →
      Built σ .phrase s value s' ∧ 1 ≤ value.count
  | .switchCases, m => Yields setup .phrase m
  | .classMembers, m => Yields setup .phrase m
  | .expression, m => Yields setup .phrase m
  | .moreExpressions, m => ∀ ⦃σ s value s'⦄, Stands σ s → m setup s = .ok value s' →
      Built σ .phrase s value s' ∧ (s.current.kind = .punctuator .comma → 1 ≤ value.count)
  | .assignment, m => Yields setup .phrase m
  | .binary _, m => Yields setup .phrase m
  | .binaryRest _ start left, m => Extends setup start left m
  | .power, m => Yields setup .phrase m
  | .unary, m => Yields setup .phrase m
  | .leftHandSide, m => Yields setup .phrase m
  | .newExpression, m => Yields setup .phrase m
  | .memberRest start object _, m => Extends setup start object m
  | .arguments, m => Yields setup .argument m
  | .arrayElements, m => Yields setup .argument m
  | .objectMembers, m => Yields setup .phrase m
  | .templateRest, m => ∀ ⦃σ s value s'⦄, Stands σ s → m setup s = .ok value s' →
      ∃ ts, Reads σ s ts s' ∧ ∀ ⦃front chunk⦄, Covers σ .chunk front chunk →
        Covers σ .phrase (front ++ ts) (.template (.cons chunk value.1) value.2)
  | .target use, m => Yields setup (.target use) m
  | .targetElements use, m => Yields setup (.item use) m
  | .targetProperties use, m => Yields setup (.item use) m
  | .parameters, m => Yields setup (.item .binding) m

/-- Every goal keeps its promise, and is balanced. -/
structure Keeps (setup : Setup) (grammar : Grammar) : Prop where
  goals : ∀ goal : Goal, goal.Meets setup (grammar goal)
  balanced : ∀ goal : Goal, Balanced (grammar goal)

theorem Keeps.of_parallel {α : Type} {m : Parser α} (keeps : Keeps setup self)
    (composed : Composed self m) : Balanced m :=
  Parallel.balanced composed keeps.balanced

/-! ## Scopes -/

/-- A run in another scope, between two states beside those outside of it. -/
def Entered (setup : Setup) {α : Type} (σ σ' : Scope) (s : State) (m : Parser α) (value : α)
    (s' : State) : Prop :=
  ∃ t t', m setup t = .ok value t' ∧ Stands σ' t ∧
    (t.current = s.current ∧ s'.current = t'.current) ∧
    ∀ ⦃ts⦄, Reads σ' t ts t' → Reads σ s ts s'

theorem Stands.withContext {α : Type} {context : Context} {m : Parser α} {value : α}
    (stands : Stands σ s) (outcome : withContext context m setup s = .ok value s') {σ' : Scope}
    (scope : State.scope { s with context } = σ') : Entered setup σ σ' s m value s' := by
  obtain ⟨t, inner, rfl⟩ := withContext_ok outcome
  refine ⟨_, t, inner, stands.beside ⟨rfl, rfl, rfl⟩ scope, ⟨rfl, rfl⟩, fun ts reads => ?_⟩
  have before := stands.scope
  have after := reads.stands.scope
  refine reads.beside ⟨rfl, rfl, rfl⟩ ⟨rfl, rfl, rfl⟩ ?_
  subst before scope
  simp only [State.scope, Scope.mk.injEq, true_and] at after ⊢
  exact after.2.2.2

theorem Stands.nested {α : Type} {m : Parser α} {value : α} (stands : Stands σ s)
    (outcome : nested m setup s = .ok value s') :
    σ.depth < maxNesting ∧ Entered setup σ σ.deeper s m value s' := by
  obtain ⟨room, t, inner, rfl⟩ := nested_ok outcome
  have before := stands.scope
  subst before
  refine ⟨room, _, t, inner, stands.beside ⟨rfl, rfl, rfl⟩ rfl, ⟨rfl, rfl⟩, fun ts reads => ?_⟩
  have after := reads.stands.scope
  refine reads.beside ⟨rfl, rfl, rfl⟩ ⟨rfl, rfl, rfl⟩ ?_
  simp only [State.scope, Scope.deeper, Scope.mk.injEq] at after ⊢
  exact ⟨after.1, after.2.1, after.2.2.1, congrArg (· - 1) after.2.2.2⟩

/-- The operator `in` does not matter to the rules. -/
theorem Stands.withIn {α : Type} {allowIn : Bool} {m : Parser α} {value : α}
    (stands : Stands σ s) (outcome : withIn allowIn m setup s = .ok value s') :
    Entered setup σ σ s m value s' :=
  stands.withContext outcome stands.scope

theorem Yields.withIn {role : Role} {category : Category} {m : Parser (Node category)}
    (yields : Yields setup role m) (allowIn : Bool) : Yields setup role (withIn allowIn m) := by
  intro σ s value s' stands outcome
  obtain ⟨t, t', inner, stands', _, leave⟩ := stands.withIn outcome
  obtain ⟨ts, reads, inside⟩ := yields stands' inner
  exact ⟨ts, leave reads, inside⟩

/-! ## Names and keys -/

/-- A name is a single token, and no reserved word. -/
theorem Stands.bindingName {name : Located .word} (stands : Stands σ s)
    (outcome : Parser.bindingName setup s = .ok name s') :
    Reads σ s [s.current] s' ∧ Covers σ .phrase [s.current] name := by
  unfold Parser.bindingName at outcome
  rw [current_bind] at outcome
  cases kind : s.current.kind with
  | identifier text =>
      rw [kind] at outcome
      rcases ite_ok outcome with ⟨_, outcome⟩ | ⟨_, outcome⟩
      · cases outcome
      · obtain ⟨_, t, moved, outcome⟩ := bind_ok outcome
        cases outcome
        have named : propertyName? s.current.kind = some text := by rw [kind]; rfl
        have reads := stands.advance (by rw [kind]; nofun) moved
        exact ⟨reads, .located ⟨_, _, rfl, rfl, rfl, rfl⟩ (.word named)⟩
  | _ =>
      rw [kind] at outcome
      cases outcome

/-- Reading a name is reading the next token. -/
theorem advance_of_bindingName {name : Located .word}
    (outcome : Parser.bindingName setup s = .ok name s') : advance setup s = .ok () s' := by
  unfold Parser.bindingName at outcome
  rw [current_bind] at outcome
  cases kind : s.current.kind with
  | identifier text =>
      rw [kind] at outcome
      rcases ite_ok outcome with ⟨_, outcome⟩ | ⟨_, outcome⟩
      · cases outcome
      · obtain ⟨_, t, moved, outcome⟩ := bind_ok outcome
        cases outcome
        exact moved
  | _ =>
      rw [kind] at outcome
      cases outcome

theorem Stands.propertyName {name : Located .word} (stands : Stands σ s)
    (outcome : Parser.propertyName setup s = .ok name s') : Built σ .phrase s name s' := by
  unfold Parser.propertyName at outcome
  rw [current_bind] at outcome
  cases named : propertyName? s.current.kind with
  | none =>
      rw [named] at outcome
      cases outcome
  | some text =>
      rw [named] at outcome
      obtain ⟨_, t, moved, outcome⟩ := bind_ok outcome
      cases outcome
      have goes_on : s.current.kind ≠ .endOfInput := by
        intro ends
        rw [ends] at named
        cases named
      exact ⟨_, stands.advance goes_on moved, .located ⟨_, _, rfl, rfl, rfl, rfl⟩ (.word named)⟩

/-- The pattern that binds a name has the tokens of the name. -/
theorem covers_bindingOf {ts : List Token} {name : Located .word}
    (inside : Covers σ .phrase ts name) : Covers σ (.target use) ts (bindingOf name) := by
  cases name with
  | located start stop item =>
      cases item with
      | word text => exact .wraps (.bindingName use text) inside

/-- The target that an expression is read as has the tokens of the expression. -/
theorem covers_targetOf {ts : List Token} {expression : Located .expression}
    {pattern : Located .pattern} (inside : Covers σ .phrase ts expression)
    (outcome : targetOf expression setup s = .ok pattern s') :
    s' = s ∧ Covers σ (.target .assignment) ts pattern ∧ pattern.isSimplePattern = true := by
  cases expression with
  | located start stop item =>
      cases item with
      | identifier name =>
          cases outcome
          exact ⟨rfl, .wraps (.identifierTarget name) inside, rfl⟩
      | memberExpression object property =>
          cases outcome
          exact ⟨rfl, .wraps (.memberTarget object property) inside, rfl⟩
      | computedMember object property =>
          cases outcome
          exact ⟨rfl, .wraps (.computedTarget object property) inside, rfl⟩
      | _ => cases outcome

theorem Stands.plainKey {key : Node .key} (stands : Stands σ s)
    (plain : plainKey? s.current.kind = some key) (moved : Parser.advance setup s = .ok () s') :
    Reads σ s [s.current] s' ∧ Covers σ .phrase [s.current] key := by
  have goes_on : s.current.kind ≠ .endOfInput := by
    intro ends
    rw [ends] at plain
    cases plain
  exact ⟨stands.advance goes_on moved, .plainKey plain⟩

theorem Stands.propertyKey {key : Located .key} (keeps : Keeps setup self) (stands : Stands σ s)
    (outcome : Parser.propertyKey self setup s = .ok key s') : Built σ .phrase s key s' := by
  unfold Parser.propertyKey at outcome
  rw [position_bind] at outcome
  rcases stands.ifEatMark outcome with ⟨t, opened, outcome⟩ | ⟨_, outcome⟩
  · obtain ⟨expression, t', inner, outcome⟩ := bind_ok outcome
    obtain ⟨ts, reads, inside⟩ := (keeps.goals .assignment).withIn true opened.stands inner
    obtain ⟨_, t'', closes, outcome⟩ := bind_ok outcome
    have closed := (reads.stands.expectMark closes).2
    cases outcome
    have whole := opened.trans (reads.trans closed)
    exact ⟨_, whole, whole.finish ((inside.before _ rfl).behind _ rfl).computedKey (by simp)⟩
  · rw [currentKind_bind] at outcome
    cases plain : plainKey? s.current.kind with
    | none =>
        rw [plain] at outcome
        cases outcome
    | some item =>
        rw [plain] at outcome
        obtain ⟨_, t, moved, outcome⟩ := bind_ok outcome
        cases outcome
        obtain ⟨reads, inside⟩ := stands.plainKey plain moved
        exact ⟨_, reads, reads.finish inside (by simp)⟩

/-- A key that is an identifier is a single token. -/
theorem Stands.identifierKey {key : Located .key} {name : String} (stands : Stands σ s)
    (named : s.current.kind = .identifier name)
    (outcome : Parser.propertyKey self setup s = .ok key s') :
    Reads σ s [s.current] s' ∧
      key = .located s.current.start s.current.stop (.nameKey name) := by
  unfold Parser.propertyKey at outcome
  rw [position_bind] at outcome
  obtain ⟨answer, t, first, outcome⟩ := bind_ok outcome
  rcases stands.eatMark first with ⟨_, next, _⟩ | ⟨rfl, _, same⟩
  · rw [named] at next
    cases next
  · subst same
    have plain : plainKey? t.current.kind = some (.nameKey name) := by rw [named]; rfl
    rw [if_neg Bool.false_ne_true, currentKind_bind, plain] at outcome
    obtain ⟨_, t'', moved, outcome⟩ := bind_ok outcome
    cases outcome
    have reads := stands.advance (by rw [named]; nofun) moved
    exact ⟨reads, by rw [reads.last t.current rfl]⟩

theorem currentName?_ok {name : Option String} (outcome : currentName? setup s = .ok name s') :
    s' = s ∧ ∀ text, name = some text → s.current.kind = .identifier text := by
  unfold currentName? at outcome
  rw [currentKind_bind] at outcome
  cases kind : s.current.kind with
  | identifier text =>
      rw [kind] at outcome
      cases outcome
      refine ⟨rfl, fun text same => ?_⟩
      cases same
      rfl
  | _ =>
      rw [kind] at outcome
      cases outcome
      exact ⟨rfl, nofun⟩

/-! ## Elements -/

theorem Stands.targetElement {pattern : Located .pattern} (keeps : Keeps setup self)
    (stands : Stands σ s) (outcome : Parser.targetElement self use setup s = .ok pattern s') :
    Built σ (.element use) s pattern s' := by
  unfold Parser.targetElement at outcome
  rw [position_bind] at outcome
  obtain ⟨left, t, first, outcome⟩ := bind_ok outcome
  obtain ⟨ts, reads, inside⟩ := keeps.goals (.target use) stands first
  rcases reads.stands.ifEatMark outcome with ⟨t', signed, outcome⟩ | ⟨_, outcome⟩
  · obtain ⟨right, t'', second, outcome⟩ := bind_ok outcome
    obtain ⟨ts', reads', inside'⟩ := (keeps.goals .assignment).withIn true signed.stands second
    cases outcome
    have whole := reads.trans (signed.trans reads')
    exact ⟨_, whole, whole.finish (inside.defaultPattern (inside'.behind _ rfl)) (by simp)⟩
  · cases outcome
    exact ⟨ts, reads, inside.element⟩

theorem Stands.targetRest {pattern : Located .pattern} (keeps : Keeps setup self)
    (stands : Stands σ s) (outcome : Parser.targetRest self use setup s = .ok pattern s') :
    Built σ (.item use) s pattern s' := by
  unfold Parser.targetRest at outcome
  rw [position_bind] at outcome
  obtain ⟨_, t, dots, outcome⟩ := bind_ok outcome
  have spread := (stands.expectMark dots).2
  obtain ⟨argument, t', inner, outcome⟩ := bind_ok outcome
  obtain ⟨ts, reads, inside⟩ := keeps.goals (.target use) spread.stands inner
  cases outcome
  have whole := spread.trans reads
  exact ⟨_, whole, whole.finish (inside.behind _ rfl).restPattern (by simp)⟩

/-! ## Lists of targets -/

theorem Keeps.targetElements (keeps : Keeps setup self) :
    (Goal.targetElements use).Meets setup (Parser.targetElements self use) := by
  intro σ s elements s' stands outcome
  unfold Parser.targetElements at outcome
  rcases ifMark_ok outcome with ⟨_, outcome⟩ | ⟨_, outcome⟩
  · cases outcome
    exact ⟨[], .refl stands, .nil⟩
  rcases stands.ifEatMark outcome with ⟨t, hole, outcome⟩ | ⟨_, outcome⟩
  · obtain ⟨rest, t', inner, outcome⟩ := bind_ok outcome
    obtain ⟨ts, reads, inside⟩ := keeps.goals (.targetElements use) hole.stands inner
    cases outcome
    exact ⟨_, hole.trans reads, .cons .none inside⟩
  rcases ifMark_ok outcome with ⟨_, outcome⟩ | ⟨_, outcome⟩
  · obtain ⟨last, t, inner, outcome⟩ := bind_ok outcome
    obtain ⟨ts, reads, inside⟩ := stands.targetRest keeps inner
    cases outcome
    exact ⟨ts, reads, .last (.some inside)⟩
  · obtain ⟨element, t, first, outcome⟩ := bind_ok outcome
    obtain ⟨ts, reads, inside⟩ := stands.targetElement keeps first
    obtain ⟨_, t', comma, outcome⟩ := bind_ok outcome
    obtain ⟨ts', reads'⟩ := reads.stands.separator comma
    obtain ⟨rest, t'', second, outcome⟩ := bind_ok outcome
    obtain ⟨ts'', reads'', inside'⟩ := keeps.goals (.targetElements use) reads'.stands second
    cases outcome
    exact ⟨_, reads.trans (reads'.trans reads''), .cons (.some inside) (inside'.behind ts' rfl)⟩

theorem Keeps.parameters (keeps : Keeps setup self) :
    Goal.parameters.Meets setup (Parser.parameters self) := by
  intro σ s parameters s' stands outcome
  unfold Parser.parameters at outcome
  rcases ifMark_ok outcome with ⟨_, outcome⟩ | ⟨_, outcome⟩
  · cases outcome
    exact ⟨[], .refl stands, .nil⟩
  rcases ifMark_ok outcome with ⟨_, outcome⟩ | ⟨_, outcome⟩
  · obtain ⟨last, t, inner, outcome⟩ := bind_ok outcome
    obtain ⟨ts, reads, inside⟩ := stands.targetRest keeps inner
    cases outcome
    exact ⟨ts, reads, .last inside⟩
  · obtain ⟨parameter, t, first, outcome⟩ := bind_ok outcome
    obtain ⟨ts, reads, inside⟩ := stands.targetElement keeps first
    obtain ⟨_, t', comma, outcome⟩ := bind_ok outcome
    obtain ⟨ts', reads'⟩ := reads.stands.separator comma
    obtain ⟨rest, t'', second, outcome⟩ := bind_ok outcome
    obtain ⟨ts'', reads'', inside'⟩ := keeps.goals .parameters reads'.stands second
    cases outcome
    exact ⟨_, reads.trans (reads'.trans reads''), .cons inside (inside'.behind ts' rfl)⟩

theorem Stands.formalParameters {parameters : Many (.located .pattern)} (keeps : Keeps setup self)
    (stands : Stands σ s) (outcome : Parser.formalParameters self setup s = .ok parameters s') :
    ∃ ts, Reads σ s ts s' ∧ Covers σ (.item .binding) ts parameters ∧ ts ≠ [] := by
  obtain ⟨_, t, opens, outcome⟩ := bind_ok outcome
  have opened := (stands.expectMark opens).2
  obtain ⟨parameters, t', inner, outcome⟩ := bind_ok outcome
  obtain ⟨ts, reads, inside⟩ := keeps.goals .parameters opened.stands inner
  obtain ⟨_, t'', closes, outcome⟩ := bind_ok outcome
  have closed := (reads.stands.expectMark closes).2
  cases outcome
  exact ⟨_, opened.trans (reads.trans closed), inside.wider _ _ rfl, by simp⟩

/-- The value of a shorthand property begins with the token of its key. -/
theorem Stands.shorthandTarget {name : String} {token : Token} {value : Located .pattern}
    {t : State} (keeps : Keeps setup self) (reads : Reads σ s [token] t)
    (named : token.kind = .identifier name)
    (outcome : Parser.shorthandTarget self (.located token.start token.stop (.nameKey name)) name setup t =
      .ok value s') :
    ∃ ts, Reads σ s (token :: ts) s' ∧ Covers σ (.element use) (token :: ts) value := by
  unfold Parser.shorthandTarget at outcome
  have left : Covers σ (.target use) [token]
      (.located token.start token.stop (.bindingIdentifier name)) :=
    .located ⟨_, _, rfl, rfl, rfl, rfl⟩ (.bindingIdentifier named)
  have start := reads.first token rfl
  rcases reads.stands.ifEatMark outcome with ⟨t', signed, outcome⟩ | ⟨_, outcome⟩
  · obtain ⟨right, t'', second, outcome⟩ := bind_ok outcome
    obtain ⟨ts', reads', inside'⟩ := (keeps.goals .assignment).withIn true signed.stands second
    cases outcome
    have whole := reads.trans (signed.trans reads')
    refine ⟨_, whole, ?_⟩
    have spans := whole.spans (by simp)
    rw [← start] at spans
    exact .located spans (left.defaultPattern (inside'.behind _ rfl))
  · cases outcome
    exact ⟨[], reads, left.element⟩

theorem Stands.targetProperty {property : Located .patternProperty} (keeps : Keeps setup self)
    (stands : Stands σ s) (outcome : Parser.targetProperty self use setup s = .ok property s') :
    Built σ (.element use) s property s' := by
  unfold Parser.targetProperty at outcome
  rw [position_bind] at outcome
  obtain ⟨shorthand, t, looks, outcome⟩ := bind_ok outcome
  obtain ⟨rfl, named⟩ := currentName?_ok looks
  obtain ⟨key, t', first, outcome⟩ := bind_ok outcome
  obtain ⟨ts, reads, inside⟩ := stands.propertyKey keeps first
  rcases reads.stands.ifEatMark outcome with ⟨t'', colon, outcome⟩ | ⟨_, outcome⟩
  · obtain ⟨value, t''', second, outcome⟩ := bind_ok outcome
    obtain ⟨ts', reads', inside'⟩ := colon.stands.targetElement keeps second
    cases outcome
    have whole := reads.trans (colon.trans reads')
    exact ⟨_, whole, whole.finish (inside.bindingProperty (inside'.behind _ rfl)) (by simp)⟩
  · cases shorthand with
    | none => cases outcome
    | some name =>
        have named := named name rfl
        obtain ⟨single, rfl⟩ := stands.identifierKey named first
        obtain ⟨value, t'', second, outcome⟩ := bind_ok outcome
        obtain ⟨ts', reads', inside'⟩ := Stands.shorthandTarget keeps single named second
        cases outcome
        exact ⟨_, reads', reads'.finish (inside'.shorthandBinding named) (by simp)⟩

theorem Keeps.targetProperties (keeps : Keeps setup self) :
    (Goal.targetProperties use).Meets setup (Parser.targetProperties self use) := by
  intro σ s properties s' stands outcome
  unfold Parser.targetProperties at outcome
  rw [position_bind] at outcome
  rcases ifMark_ok outcome with ⟨_, outcome⟩ | ⟨_, outcome⟩
  · cases outcome
    exact ⟨[], .refl stands, .nil⟩
  rcases stands.ifEatMark outcome with ⟨t, dots, outcome⟩ | ⟨_, outcome⟩
  · obtain ⟨argument, t', inner, outcome⟩ := bind_ok outcome
    obtain ⟨ts, reads, inside⟩ := keeps.goals (.target use) dots.stands inner
    cases outcome
    have whole := dots.trans reads
    exact ⟨_, whole, .last (whole.finish (inside.behind _ rfl).restProperty (by simp))⟩
  · obtain ⟨property, t, first, outcome⟩ := bind_ok outcome
    obtain ⟨ts, reads, inside⟩ := stands.targetProperty keeps first
    obtain ⟨_, t', comma, outcome⟩ := bind_ok outcome
    obtain ⟨ts', reads'⟩ := reads.stands.separator comma
    obtain ⟨rest, t'', second, outcome⟩ := bind_ok outcome
    obtain ⟨ts'', reads'', inside'⟩ := keeps.goals (.targetProperties use) reads'.stands second
    cases outcome
    exact ⟨_, reads.trans (reads'.trans reads''), .cons inside (inside'.behind ts' rfl)⟩

/-! ## Targets -/

theorem Stands.arrayPattern {pattern : Located .pattern} (keeps : Keeps setup self)
    (stands : Stands σ s) (outcome : Parser.nested (Parser.arrayPattern self use) setup s = .ok pattern s') :
    Built σ (.target use) s pattern s' := by
  obtain ⟨room, t₀, t₁, outcome, stands, _, leave⟩ := stands.nested outcome
  unfold Parser.arrayPattern at outcome
  rw [position_bind] at outcome
  obtain ⟨_, t, opens, outcome⟩ := bind_ok outcome
  have opened := (stands.expectMark opens).2
  obtain ⟨elements, t', inner, outcome⟩ := bind_ok outcome
  obtain ⟨ts, reads, inside⟩ := keeps.goals (.targetElements use) opened.stands inner
  obtain ⟨_, t'', closes, outcome⟩ := bind_ok outcome
  have closed := (reads.stands.expectMark closes).2
  cases outcome
  have whole := opened.trans (reads.trans closed)
  exact ⟨_, leave whole, whole.finish (.arrayPattern room (inside.wider _ _ rfl)) (by simp)⟩

theorem Stands.objectPattern {pattern : Located .pattern} (keeps : Keeps setup self)
    (stands : Stands σ s) (outcome : Parser.nested (Parser.objectPattern self use) setup s = .ok pattern s') :
    Built σ (.target use) s pattern s' := by
  obtain ⟨room, t₀, t₁, outcome, stands, _, leave⟩ := stands.nested outcome
  unfold Parser.objectPattern at outcome
  rw [position_bind] at outcome
  obtain ⟨_, t, opens, outcome⟩ := bind_ok outcome
  have opened := (stands.expectMark opens).2
  obtain ⟨properties, t', inner, outcome⟩ := bind_ok outcome
  obtain ⟨ts, reads, inside⟩ := keeps.goals (.targetProperties use) opened.stands inner
  obtain ⟨_, t'', closes, outcome⟩ := bind_ok outcome
  have closed := (reads.stands.expectMark closes).2
  cases outcome
  have whole := opened.trans (reads.trans closed)
  exact ⟨_, leave whole, whole.finish (.objectPattern room (inside.wider _ _ rfl)) (by simp)⟩

theorem Keeps.target (keeps : Keeps setup self) :
    (Goal.target use).Meets setup (Parser.target self use) := by
  intro σ s pattern s' stands outcome
  unfold Parser.target at outcome
  rw [currentKind_bind] at outcome
  obtain ⟨m, same, outcome⟩ := run_ok outcome
  split at same <;> subst same
  · exact stands.arrayPattern keeps outcome
  · exact stands.objectPattern keeps outcome
  · cases use with
    | binding =>
        obtain ⟨name, t, inner, outcome⟩ := bind_ok outcome
        obtain ⟨reads, inside⟩ := stands.bindingName inner
        cases outcome
        exact ⟨_, reads, covers_bindingOf inside⟩
    | assignment =>
        obtain ⟨expression, t, inner, outcome⟩ := bind_ok outcome
        obtain ⟨ts, reads, inside⟩ := keeps.goals .leftHandSide stands inner
        obtain ⟨rfl, inside, _⟩ := covers_targetOf inside outcome
        exact ⟨ts, reads, inside⟩

end Ecmascript.Parser
