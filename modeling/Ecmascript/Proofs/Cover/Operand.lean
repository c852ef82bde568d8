import Ecmascript.Proofs.Cover.Expression

/-!
# Tokens of operands

The productions of literals, members, calls and templates read the tokens of the expression that
they build. An expression in parentheses keeps its own offsets, while what follows it begins at the
parenthesis.
-/

set_option autoImplicit false

namespace Ecmascript.Parser

variable {setup : Setup} {self : Grammar} {σ : Scope} {s s' : State}

/-! ## Arguments and elements -/

theorem Stands.spreadOrAssignment {value : Located .expression} (keeps : Keeps setup self)
    (stands : Stands σ s) (outcome : Parser.spreadOrAssignment self setup s = .ok value s') :
    Built σ .argument s value s' := by
  unfold Parser.spreadOrAssignment spread at outcome
  rcases ifMark_ok outcome with ⟨_, outcome⟩ | ⟨_, outcome⟩
  · rw [position_bind] at outcome
    obtain ⟨_, t, dots, outcome⟩ := bind_ok outcome
    have spread := (stands.expectMark dots).2
    obtain ⟨argument, t', inner, outcome⟩ := bind_ok outcome
    obtain ⟨ts, reads, inside⟩ := keeps.goals .assignment spread.stands inner
    cases outcome
    have whole := spread.trans reads
    exact ⟨_, whole, whole.finish (inside.behind _ rfl).spreadExpression (by simp)⟩
  · obtain ⟨ts, reads, inside⟩ := keeps.goals .assignment stands outcome
    exact ⟨ts, reads, inside.argument⟩

theorem Keeps.arguments (keeps : Keeps setup self) :
    Goal.arguments.Meets setup (argumentList self) := by
  intro σ s arguments s' stands outcome
  unfold argumentList at outcome
  rcases ifMark_ok outcome with ⟨_, outcome⟩ | ⟨_, outcome⟩
  · cases outcome
    exact ⟨[], .refl stands, .nil⟩
  · obtain ⟨argument, t₁, first, outcome⟩ := bind_ok outcome
    obtain ⟨ts, reads, inside⟩ := stands.spreadOrAssignment keeps first
    obtain ⟨_, t₂, comma, outcome⟩ := bind_ok outcome
    obtain ⟨ts', reads'⟩ := reads.stands.separator comma
    obtain ⟨rest, t₃, second, outcome⟩ := bind_ok outcome
    obtain ⟨ts'', reads'', inside'⟩ := keeps.goals .arguments reads'.stands second
    cases outcome
    exact ⟨_, reads.trans (reads'.trans reads''), .cons inside (inside'.behind ts' rfl)⟩

theorem Keeps.arrayElements (keeps : Keeps setup self) :
    Goal.arrayElements.Meets setup (Parser.arrayElements self) := by
  intro σ s elements s' stands outcome
  unfold Parser.arrayElements at outcome
  rcases ifMark_ok outcome with ⟨_, outcome⟩ | ⟨_, outcome⟩
  · cases outcome
    exact ⟨[], .refl stands, .nil⟩
  rcases stands.ifEatMark outcome with ⟨t, hole, outcome⟩ | ⟨_, outcome⟩
  · obtain ⟨rest, t', inner, outcome⟩ := bind_ok outcome
    obtain ⟨ts, reads, inside⟩ := keeps.goals .arrayElements hole.stands inner
    cases outcome
    exact ⟨_, hole.trans reads, .cons .none inside⟩
  · obtain ⟨element, t₁, first, outcome⟩ := bind_ok outcome
    obtain ⟨ts, reads, inside⟩ := stands.spreadOrAssignment keeps first
    obtain ⟨_, t₂, comma, outcome⟩ := bind_ok outcome
    obtain ⟨ts', reads'⟩ := reads.stands.separator comma
    obtain ⟨rest, t₃, second, outcome⟩ := bind_ok outcome
    obtain ⟨ts'', reads'', inside'⟩ := keeps.goals .arrayElements reads'.stands second
    cases outcome
    exact ⟨_, reads.trans (reads'.trans reads''), .cons (.some inside) (inside'.behind ts' rfl)⟩

/-- A list between two punctuators. -/
theorem Stands.enclosed {role : Role} {category : Category} {opening closing : Punctuator}
    {m : Parser (Many category)} {value : Many category} (yields : Yields setup role m)
    (stands : Stands σ s)
    (outcome : (Parser.expectMark opening >>= fun _ => Parser.withIn true m >>= fun value =>
      Parser.expectMark closing >>= fun _ => pure value) setup s = .ok value s') :
    ∃ ts, Reads σ s ts s' ∧ Covers σ role ts value ∧ ts ≠ [] := by
  obtain ⟨_, t₁, opens, outcome⟩ := bind_ok outcome
  have opened := (stands.expectMark opens).2
  obtain ⟨value, t₂, inner, outcome⟩ := bind_ok outcome
  obtain ⟨ts, reads, inside⟩ := yields.withIn true opened.stands inner
  obtain ⟨_, t₃, closes, outcome⟩ := bind_ok outcome
  have closed := (reads.stands.expectMark closes).2
  cases outcome
  exact ⟨_, opened.trans (reads.trans closed), inside.wider _ _ rfl, by simp⟩

theorem Stands.callArguments {arguments : Many (.located .expression)} (keeps : Keeps setup self)
    (stands : Stands σ s) (outcome : Parser.callArguments self setup s = .ok arguments s') :
    Built σ .argument s arguments s' := by
  obtain ⟨ts, reads, inside, _⟩ := stands.enclosed (keeps.goals .arguments) outcome
  exact ⟨ts, reads, inside⟩

theorem Stands.arrayLiteral {value : Located .expression} (keeps : Keeps setup self)
    (stands : Stands σ s) (outcome : Parser.arrayLiteral self setup s = .ok value s') :
    Built σ .phrase s value s' := by
  unfold Parser.arrayLiteral at outcome
  rw [position_bind] at outcome
  obtain ⟨_, t₁, opens, outcome⟩ := bind_ok outcome
  have opened := (stands.expectMark opens).2
  obtain ⟨elements, t₂, inner, outcome⟩ := bind_ok outcome
  have yields : Yields setup .argument (self .arrayElements) := keeps.goals .arrayElements
  obtain ⟨ts, reads, inside⟩ := yields.withIn true opened.stands inner
  obtain ⟨_, t₃, closes, outcome⟩ := bind_ok outcome
  have closed := (reads.stands.expectMark closes).2
  cases outcome
  have whole := opened.trans (reads.trans closed)
  exact ⟨_, whole, whole.finish (inside.wider _ _ rfl).arrayExpression (by simp)⟩

/-! ## Objects -/

theorem Stands.namedMember {value : Located .property} (keeps : Keeps setup self)
    (stands : Stands σ s)
    (outcome : Parser.namedMember self s.current.start setup s = .ok value s') :
    Built σ .phrase s value s' := by
  unfold Parser.namedMember at outcome
  obtain ⟨modifiers, t₁, first, outcome⟩ := bind_ok outcome
  obtain ⟨front, reads₁, fits⟩ := stands.modifiers first
  obtain ⟨shorthand, t₂, looks, rest⟩ := bind_ok outcome
  obtain ⟨rfl, named⟩ := currentName?_ok looks
  obtain ⟨key, t₃, second, rest⟩ := bind_ok rest
  obtain ⟨ts, reads₂, inside⟩ := reads₁.stands.propertyKey keeps second
  have nonempty := inside.ne_nil rfl
  rw [atMark_bind] at rest
  rcases ite_ok rest with ⟨_, rest⟩ | ⟨other, rest⟩
  · obtain ⟨value, t₄, third, rest⟩ := bind_ok rest
    obtain ⟨⟨ts', reads₃, inside'⟩, plain⟩ := reads₂.stands.method keeps third
    cases rest
    have whole := reads₁.trans (reads₂.trans reads₃)
    have suits : (modifiers.accessor.getD .method).Suits value := by
      refine fits.suits (fun which => ?_) plain
      cases accessor : modifiers.accessor with
      | some kind => rfl
      | none =>
          rw [accessor] at which
          rcases which with same | same <;> cases same
    have ordinary : modifiers.accessor.getD .method ≠ .constructor := by
      cases accessor : modifiers.accessor with
      | some kind =>
          obtain ⟨which, _⟩ := fits.accessor kind accessor
          rcases which with rfl | rfl <;> nofun
      | none => nofun
    have covers := inside.methodProperty ordinary suits inside'
    exact ⟨_, whole, whole.finish (covers.behind front rfl) (by simp [nonempty])⟩
  rcases reads₂.stands.ifEatMark rest with ⟨t₄, colon, rest⟩ | ⟨_, rest⟩
  · obtain ⟨value, t₅, third, rest⟩ := bind_ok rest
    obtain ⟨ts', reads₃, inside'⟩ := keeps.goals .assignment colon.stands third
    cases rest
    have whole := reads₁.trans (reads₂.trans (colon.trans reads₃))
    have covers := inside.valueProperty (inside'.behind [t₃.current] rfl)
    exact ⟨_, whole, whole.finish (covers.behind front rfl) (by simp [nonempty])⟩
  · cases shorthand with
    | none => cases rest
    | some name =>
        cases rest
        simp only [Bool.or_eq_false_iff] at other
        obtain rfl := fits.still other.1
        have named := named name rfl
        obtain ⟨single, _⟩ := stands.identifierKey named second
        exact ⟨_, single, single.finish (.shorthandProperty named) (by simp)⟩

theorem Stands.objectMember {value : Located .property} (keeps : Keeps setup self)
    (stands : Stands σ s) (outcome : Parser.objectMember self setup s = .ok value s') :
    Built σ .phrase s value s' := by
  unfold Parser.objectMember at outcome
  rw [position_bind] at outcome
  rcases stands.ifEatMark outcome with ⟨t, dots, outcome⟩ | ⟨_, outcome⟩
  · obtain ⟨argument, t', inner, outcome⟩ := bind_ok outcome
    obtain ⟨ts, reads, inside⟩ := keeps.goals .assignment dots.stands inner
    cases outcome
    have whole := dots.trans reads
    exact ⟨_, whole, whole.finish (inside.behind _ rfl).spreadProperty (by simp)⟩
  · exact stands.namedMember keeps outcome

theorem Keeps.objectMembers (keeps : Keeps setup self) :
    Goal.objectMembers.Meets setup (Parser.objectMembers self) := by
  intro σ s properties s' stands outcome
  unfold Parser.objectMembers at outcome
  rcases ifMark_ok outcome with ⟨_, outcome⟩ | ⟨_, outcome⟩
  · cases outcome
    exact ⟨[], .refl stands, .nil⟩
  · obtain ⟨property, t₁, first, outcome⟩ := bind_ok outcome
    obtain ⟨ts, reads, inside⟩ := stands.objectMember keeps first
    obtain ⟨_, t₂, comma, outcome⟩ := bind_ok outcome
    obtain ⟨ts', reads'⟩ := reads.stands.separator comma
    obtain ⟨rest, t₃, second, outcome⟩ := bind_ok outcome
    obtain ⟨ts'', reads'', inside'⟩ := keeps.goals .objectMembers reads'.stands second
    cases outcome
    exact ⟨_, reads.trans (reads'.trans reads''), .cons inside (inside'.behind ts' rfl)⟩

theorem Stands.objectLiteral {value : Located .expression} (keeps : Keeps setup self)
    (stands : Stands σ s) (outcome : Parser.objectLiteral self setup s = .ok value s') :
    Built σ .phrase s value s' := by
  unfold Parser.objectLiteral at outcome
  rw [position_bind] at outcome
  obtain ⟨_, t₁, opens, outcome⟩ := bind_ok outcome
  have opened := (stands.expectMark opens).2
  obtain ⟨properties, t₂, inner, outcome⟩ := bind_ok outcome
  have yields : Yields setup .phrase (self .objectMembers) := keeps.goals .objectMembers
  obtain ⟨ts, reads, inside⟩ := yields.withIn true opened.stands inner
  obtain ⟨_, t₃, closes, outcome⟩ := bind_ok outcome
  have closed := (reads.stands.expectMark closes).2
  cases outcome
  have whole := opened.trans (reads.trans closed)
  exact ⟨_, whole, whole.finish (inside.wider _ _ rfl).objectExpression (by simp)⟩

/-! ## Templates -/

/-- A chunk of template text is its token without the delimiters. -/
theorem covers_chunkOf {token : Token} {part : TemplatePart} {raw : String}
    (kind : token.kind = .template part raw) (closing : Nat)
    (size : closing = part.closing.byteLength) :
    Covers σ .chunk [token] (chunkOf token closing raw) := by
  subst size
  exact .chunk kind

theorem Keeps.templateRest (keeps : Keeps setup self) :
    Goal.templateRest.Meets setup (Parser.templateRest self) := by
  intro σ s value s' stands outcome
  unfold Parser.templateRest at outcome
  obtain ⟨expression, t₁, first, outcome⟩ := bind_ok outcome
  have yields : Yields setup .phrase (self .expression) := keeps.goals .expression
  obtain ⟨ts, reads, inside⟩ := yields.withIn true stands first
  rw [current_bind] at outcome
  obtain ⟨m, same, outcome⟩ := run_ok outcome
  split at same
  · rename_i raw kind
    subst same
    obtain ⟨_, t₂, moved, outcome⟩ := bind_ok outcome
    have read := reads.stands.advance (by rw [kind]; nofun) moved
    obtain ⟨⟨chunks, expressions⟩, t₃, second, outcome⟩ := bind_ok outcome
    obtain ⟨ts', reads', inside'⟩ := keeps.goals .templateRest read.stands second
    cases outcome
    refine ⟨_, reads.trans (read.trans reads'), fun front chunk covers => ?_⟩
    exact covers.longerTemplate inside (inside' (covers_chunkOf kind 2 rfl))
  · rename_i raw kind
    subst same
    obtain ⟨_, t₂, moved, outcome⟩ := bind_ok outcome
    have read := reads.stands.advance (by rw [kind]; nofun) moved
    cases outcome
    refine ⟨_, reads.trans read, fun front chunk covers => ?_⟩
    exact covers.longerTemplate inside (covers_chunkOf kind 1 rfl).wholeTemplate
  · subst same
    exact absurd outcome not_unexpected

theorem Stands.templateLiteral {value : Located .template} (keeps : Keeps setup self)
    (stands : Stands σ s) (outcome : Parser.templateLiteral self setup s = .ok value s') :
    Built σ .phrase s value s' := by
  unfold Parser.templateLiteral at outcome
  rw [position_bind, current_bind] at outcome
  obtain ⟨m, same, outcome⟩ := run_ok outcome
  split at same
  · rename_i raw kind
    subst same
    obtain ⟨_, t₁, moved, outcome⟩ := bind_ok outcome
    have read := stands.advance (by rw [kind]; nofun) moved
    cases outcome
    exact ⟨_, read, read.finish (covers_chunkOf kind 1 rfl).wholeTemplate (by simp)⟩
  · rename_i raw kind
    subst same
    obtain ⟨_, t₁, moved, outcome⟩ := bind_ok outcome
    have read := stands.advance (by rw [kind]; nofun) moved
    obtain ⟨⟨chunks, expressions⟩, t₂, second, outcome⟩ := bind_ok outcome
    obtain ⟨ts, reads, inside⟩ := keeps.goals .templateRest read.stands second
    cases outcome
    have whole := read.trans reads
    exact ⟨_, whole, whole.finish (inside (covers_chunkOf kind 2 rfl)) (by simp)⟩
  · subst same
    exact absurd outcome not_unexpected

/-! ## Operands -/

theorem Stands.plainExpression {value : Located .expression} (stands : Stands σ s)
    (outcome : Parser.plainExpression setup s = .ok value s') : Built σ .phrase s value s' := by
  unfold Parser.plainExpression at outcome
  rw [position_bind, currentKind_bind] at outcome
  cases plain : plainExpression? s.current.kind with
  | none =>
      rw [plain] at outcome
      exact absurd outcome not_unexpected
  | some item =>
      rw [plain] at outcome
      obtain ⟨_, t, moved, outcome⟩ := bind_ok outcome
      have goes_on : s.current.kind ≠ .endOfInput := by
        intro ends
        rw [ends] at plain
        cases plain
      have reads := stands.advance goes_on moved
      cases outcome
      exact ⟨_, reads, reads.finish (.plainExpression plain) (by simp)⟩

theorem Reads.functionExpression {s₀ : State} {front : List Token} {isAsync : Bool}
    {value : Located .expression} (reads : Reads σ s₀ front s) (keeps : Keeps setup self)
    (outcome : Parser.functionExpression self s₀.current.start isAsync setup s = .ok value s') :
    ∃ ts, Reads σ s ts s' ∧ Covers σ .phrase (front ++ ts) value := by
  obtain ⟨definition, t, inner, outcome⟩ := bind_ok outcome
  obtain ⟨ts, reads', inside⟩ := reads.function keeps inner
  cases outcome
  cases definition with
  | located start stop item => exact ⟨ts, reads', .wraps (.functionExpression item) inside⟩

theorem Stands.asyncOperand {value : Located .expression} (keeps : Keeps setup self)
    (stands : Stands σ s) (next : s.current.kind = .identifier "async")
    (outcome : Parser.asyncOperand self setup s = .ok value s') : Built σ .phrase s value s' := by
  unfold Parser.asyncOperand at outcome
  rw [position_bind] at outcome
  obtain ⟨token, _, outcome⟩ := peek_ok outcome
  rcases ite_ok outcome with ⟨_, outcome⟩ | ⟨_, outcome⟩
  · obtain ⟨_, t, moved, outcome⟩ := bind_ok outcome
    have word := stands.advance (by rw [next]; nofun) moved
    obtain ⟨ts, reads, inside⟩ := word.functionExpression keeps outcome
    exact ⟨_, word.trans reads, inside⟩
  · exact stands.plainExpression outcome

theorem Stands.template {value : Located .template} (keeps : Keeps setup self)
    (stands : Stands σ s) (outcome : Parser.templateLiteral self setup s = .ok value s') :
    Built σ .phrase s
      (.located value.start value.stop (.templateExpression value.item) : Located .expression)
      s' := by
  obtain ⟨ts, reads, inside⟩ := stands.templateLiteral keeps outcome
  cases value with
  | located start stop item => exact ⟨ts, reads, .wraps (.templateExpression item) inside⟩

/-- An operand, where a slash that is next begins a regular expression. -/
theorem Stands.primary {value : Located .expression} (keeps : Keeps setup self)
    (stands : Stands σ s) (outcome : Parser.primary self setup s = .ok value s') :
    Built σ .phrase s value s' := by
  unfold Parser.primary at outcome
  obtain ⟨_, t, slash, outcome⟩ := bind_ok outcome
  have still := stands.slashAsRegex slash
  suffices built : Built σ .phrase t value s' by
    obtain ⟨ts, reads, inside⟩ := built
    exact ⟨_, still.trans reads, inside⟩
  have stands := still.stands
  rw [position_bind, currentKind_bind] at outcome
  obtain ⟨m, same, outcome⟩ := run_ok outcome
  split at same
  · rename_i paren
    subst same
    obtain ⟨_, t₁, moved, outcome⟩ := bind_ok outcome
    have opened := stands.advance (by rw [paren]; nofun) moved
    obtain ⟨inner, t₂, first, outcome⟩ := bind_ok outcome
    have yields : Yields setup .phrase (self .expression) := keeps.goals .expression
    obtain ⟨ts, reads, inside⟩ := yields.withIn true opened.stands first
    obtain ⟨_, t₃, closes, outcome⟩ := bind_ok outcome
    have closed := (reads.stands.expectMark closes).2
    cases outcome
    exact ⟨_, opened.trans (reads.trans closed), inside.wider _ _ rfl⟩
  · subst same
    exact stands.arrayLiteral keeps outcome
  · subst same
    exact stands.objectLiteral keeps outcome
  · subst same
    obtain ⟨ts, reads, inside⟩ := (Reads.refl stands).functionExpression keeps outcome
    exact ⟨ts, reads, inside⟩
  · subst same
    obtain ⟨definition, t₁, inner, outcome⟩ := bind_ok outcome
    obtain ⟨ts, reads, inside⟩ := stands.classDefinition keeps inner
    cases outcome
    cases definition with
    | located start stop item => exact ⟨ts, reads, .wraps (.classExpression item) inside⟩
  · subst same
    obtain ⟨content, t₁, inner, outcome⟩ := bind_ok outcome
    cases outcome
    exact stands.template keeps inner
  · subst same
    obtain ⟨content, t₁, inner, outcome⟩ := bind_ok outcome
    cases outcome
    exact stands.template keeps inner
  · rename_i name word
    split at same
    · rename_i async
      subst same async
      exact stands.asyncOperand keeps word outcome
    · subst same
      exact stands.plainExpression outcome
  · subst same
    exact stands.plainExpression outcome

/-! ## Members and calls -/

theorem Keeps.memberRest (keeps : Keeps setup self) {start : Nat} {object : Located .expression}
    {allowCall : Bool} : (Goal.memberRest start object allowCall).Meets setup
      (Parser.memberRest self start object allowCall) := by
  intro σ s₀ ts s value s' reads start inside outcome
  have nonempty := inside.ne_nil rfl
  have ends : Reads σ s [] s := .refl reads.stands
  have stays : Covers σ .phrase (ts ++ []) object := by simpa using inside
  -- What has been read so far is the object of what follows.
  have continues {item : Node .expression} {ts' : List Token} {t : State}
      (further : Reads σ s ts' t) (covers : Covers σ .phrase (ts ++ ts') item)
      (outcome : self (.memberRest s₀.current.start
        (.located s₀.current.start t.previous.stop item) allowCall) setup t = .ok value s') :
      ∃ ts', Reads σ s ts' s' ∧ Covers σ .phrase (ts ++ ts') value := by
    have whole := reads.trans further
    have located := whole.finish covers (by simp [nonempty])
    obtain ⟨ts'', reads', inside'⟩ := keeps.goals (.memberRest _ _ allowCall) whole rfl located outcome
    exact ⟨_, further.trans reads', by simpa only [List.append_assoc] using inside'⟩
  have tagged (outcome : (Parser.templateLiteral self >>= fun quasi =>
      Parser.finish s₀.current.start (.taggedTemplate object quasi) >>= fun tagged =>
        self (.memberRest s₀.current.start tagged allowCall)) setup s = .ok value s') :
      ∃ ts', Reads σ s ts' s' ∧ Covers σ .phrase (ts ++ ts') value := by
    obtain ⟨quasi, t₁, first, outcome⟩ := bind_ok outcome
    obtain ⟨ts', reads', inside'⟩ := reads.stands.templateLiteral keeps first
    exact continues reads' (inside.taggedTemplate inside') outcome
  subst start
  unfold Parser.memberRest at outcome
  rw [currentKind_bind] at outcome
  obtain ⟨m, same, outcome⟩ := run_ok outcome
  split at same
  · rename_i dot
    subst same
    obtain ⟨_, t₁, moved, outcome⟩ := bind_ok outcome
    have dotted := reads.stands.advance (by rw [dot]; nofun) moved
    obtain ⟨property, t₂, first, outcome⟩ := bind_ok outcome
    obtain ⟨ts', reads', inside'⟩ := dotted.stands.propertyName first
    exact continues (dotted.trans reads') (inside.memberExpression (inside'.behind _ rfl)) outcome
  · rename_i bracket
    subst same
    obtain ⟨_, t₁, moved, outcome⟩ := bind_ok outcome
    have opened := reads.stands.advance (by rw [bracket]; nofun) moved
    obtain ⟨property, t₂, first, outcome⟩ := bind_ok outcome
    have yields : Yields setup .phrase (self .expression) := keeps.goals .expression
    obtain ⟨ts', reads', inside'⟩ := yields.withIn true opened.stands first
    obtain ⟨_, t₃, closes, outcome⟩ := bind_ok outcome
    have closed := (reads'.stands.expectMark closes).2
    exact continues (opened.trans (reads'.trans closed))
      (inside.computedMember (inside'.wider _ _ rfl)) outcome
  · split at same
    · subst same
      obtain ⟨arguments, t₁, first, outcome⟩ := bind_ok outcome
      obtain ⟨ts', reads', inside'⟩ := reads.stands.callArguments keeps first
      exact continues reads' (inside.callExpression inside') outcome
    · subst same
      cases outcome
      exact ⟨[], ends, stays⟩
  · subst same
    exact tagged outcome
  · subst same
    exact tagged outcome
  · subst same
    cases outcome
    exact ⟨[], ends, stays⟩

theorem Stands.newOperand {value : Located .expression} (keeps : Keeps setup self)
    (stands : Stands σ s) (outcome : Parser.newOperand self setup s = .ok value s') :
    Built σ .phrase s value s' := by
  unfold Parser.newOperand at outcome
  rcases ifKeyword_ok outcome with ⟨_, outcome⟩ | ⟨_, outcome⟩
  · obtain ⟨_, t, t', inner, stands', _, leave⟩ := stands.nested outcome
    obtain ⟨ts, reads, inside⟩ := keeps.goals .newExpression stands' inner
    exact ⟨ts, leave reads, inside.deeper⟩
  · exact stands.primary keeps outcome

theorem Stands.newArguments {arguments : Many (.located .expression)} (keeps : Keeps setup self)
    (stands : Stands σ s) (outcome : Parser.newArguments self setup s = .ok arguments s') :
    Built σ .argument s arguments s' := by
  unfold Parser.newArguments at outcome
  rcases ifMark_ok outcome with ⟨_, outcome⟩ | ⟨_, outcome⟩
  · exact stands.callArguments keeps outcome
  · cases outcome
    exact ⟨[], .refl stands, .nil⟩

theorem Keeps.newExpression (keeps : Keeps setup self) :
    Goal.newExpression.Meets setup (Parser.newExpression self) := by
  intro σ s value s' stands outcome
  unfold Parser.newExpression at outcome
  rw [position_bind] at outcome
  obtain ⟨_, t₁, word, outcome⟩ := bind_ok outcome
  have started := stands.expectKeyword word
  rw [position_bind] at outcome
  obtain ⟨operand, t₂, first, outcome⟩ := bind_ok outcome
  obtain ⟨ts, reads, inside⟩ := started.stands.newOperand keeps first
  obtain ⟨callee, t₃, second, outcome⟩ := bind_ok outcome
  obtain ⟨ts', reads', inside'⟩ := keeps.goals (.memberRest _ operand false) reads rfl inside second
  obtain ⟨arguments, t₄, third, outcome⟩ := bind_ok outcome
  obtain ⟨ts'', reads'', inside''⟩ := reads'.stands.newArguments keeps third
  cases outcome
  have whole := started.trans (reads.trans (reads'.trans reads''))
  have covers := (inside'.newExpression inside'').behind [s.current] rfl
  refine ⟨_, whole, whole.finish ?_ (by simp)⟩
  simpa only [List.append_assoc] using covers

theorem Keeps.leftHandSide (keeps : Keeps setup self) :
    Goal.leftHandSide.Meets setup (Parser.leftHandSide self) := by
  intro σ s value s' stands outcome
  unfold Parser.leftHandSide leftmostOperand at outcome
  rw [position_bind] at outcome
  obtain ⟨operand, t, first, outcome⟩ := bind_ok outcome
  have built : Built σ .phrase s operand t := by
    rcases ifKeyword_ok first with ⟨_, first⟩ | ⟨_, first⟩
    · exact keeps.goals .newExpression stands first
    · exact stands.primary keeps first
  obtain ⟨ts, reads, inside⟩ := built
  obtain ⟨ts', reads', inside'⟩ := keeps.goals (.memberRest _ operand true) reads rfl inside outcome
  exact ⟨_, reads.trans reads', inside'⟩

end Ecmascript.Parser
