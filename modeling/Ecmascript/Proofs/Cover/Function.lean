import Ecmascript.Proofs.Cover.Pattern

/-!
# Tokens of functions and classes

The productions of functions, methods and classes read the tokens of the phrase that they build.
Parameters and bodies stand in the scope of the function, the values of fields outside of all
functions.
-/

set_option autoImplicit false

namespace Ecmascript.Parser

variable {setup : Setup} {self : Grammar} {σ : Scope} {s s' : State}

/-! ## Functions -/

theorem Stands.block {value : Located .block} (keeps : Keeps setup self) (stands : Stands σ s)
    (outcome : Parser.block self setup s = .ok value s') : Built σ .phrase s value s' := by
  unfold Parser.block at outcome
  rw [position_bind] at outcome
  obtain ⟨_, t, opens, outcome⟩ := bind_ok outcome
  have opened := (stands.expectMark opens).2
  obtain ⟨body, t', inner, outcome⟩ := bind_ok outcome
  obtain ⟨ts, reads, inside⟩ := keeps.goals (.statements .block) opened.stands inner
  obtain ⟨_, t'', closes, outcome⟩ := bind_ok outcome
  have closed := (reads.stands.expectMark closes).2
  cases outcome
  have whole := opened.trans (reads.trans closed)
  exact ⟨_, whole, whole.finish (inside.wider _ _ rfl).block (by simp)⟩

theorem Stands.functionRest {isAsync isGenerator : Bool}
    {rest : Many (.located .pattern) × Located .block} (keeps : Keeps setup self)
    (stands : Stands σ s)
    (outcome : Parser.functionRest self isAsync isGenerator setup s = .ok rest s') :
    ∃ ts ts', Reads σ s (ts ++ ts') s' ∧ ts ≠ [] ∧
      Covers (σ.function isAsync isGenerator) (.item .binding) ts rest.1 ∧
      Covers (σ.function isAsync isGenerator) .phrase ts' rest.2 := by
  have scope : State.scope { s with context := functionContext isAsync isGenerator } =
      σ.function isAsync isGenerator := by
    rw [← stands.scope]
    rfl
  obtain ⟨u, u', outcome, stands', _, leave⟩ := stands.withContext outcome scope
  obtain ⟨parameters, t, first, outcome⟩ := bind_ok outcome
  obtain ⟨ts, reads, inside, nonempty⟩ := stands'.formalParameters keeps first
  obtain ⟨body, t', second, outcome⟩ := bind_ok outcome
  obtain ⟨ts', reads', inside'⟩ := reads.stands.block keeps second
  cases outcome
  exact ⟨ts, ts', leave (reads.trans reads'), nonempty, inside, inside'⟩

theorem Stands.functionName {isDeclaration : Bool} {name : Optional (.located .word)}
    (stands : Stands σ s)
    (outcome : Parser.functionName isDeclaration setup s = .ok name s') :
    Built σ .phrase s name s' := by
  unfold Parser.functionName at outcome
  rw [atMark_bind] at outcome
  rcases ite_ok outcome with ⟨_, outcome⟩ | ⟨_, outcome⟩
  · obtain ⟨name, t, inner, outcome⟩ := bind_ok outcome
    obtain ⟨reads, inside⟩ := stands.bindingName inner
    cases outcome
    exact ⟨_, reads, inside.some⟩
  · cases outcome
    exact ⟨[], .refl stands, .none⟩

/-- A function begins in front of the word `function`, which `async` may precede. -/
theorem Reads.function {s₀ : State} {front : List Token} {isAsync isDeclaration : Bool}
    {value : Located .function} (reads : Reads σ s₀ front s) (keeps : Keeps setup self)
    (outcome : Parser.function self s₀.current.start isAsync isDeclaration setup s =
      .ok value s') : ∃ ts, Reads σ s ts s' ∧ Covers σ .phrase (front ++ ts) value := by
  unfold Parser.function at outcome
  obtain ⟨_, t, word, outcome⟩ := bind_ok outcome
  have started := reads.stands.expectKeyword word
  obtain ⟨isGenerator, t', star, outcome⟩ := bind_ok outcome
  obtain ⟨stars, starred⟩ := started.stands.eaten star
  obtain ⟨name, t'', first, outcome⟩ := bind_ok outcome
  obtain ⟨ts, named, inside⟩ := starred.stands.functionName first
  obtain ⟨⟨parameters, body⟩, t''', second, outcome⟩ := bind_ok outcome
  obtain ⟨ts', ts'', rest, _, inside', inside''⟩ := named.stands.functionRest keeps second
  cases outcome
  have whole := started.trans (starred.trans (named.trans rest))
  have named := (inside.function inside' inside'').behind stars rfl
  have covers := (named.behind [s.current] rfl).behind front rfl
  exact ⟨_, whole, (reads.trans whole).finish covers (by simp)⟩

/-- The function of a method begins at its parameters. -/
theorem Stands.method {isAsync isGenerator : Bool} {value : Located .function}
    (keeps : Keeps setup self) (stands : Stands σ s)
    (outcome : Parser.method self isAsync isGenerator setup s = .ok value s') :
    Built σ .phrase s value s' ∧
      value.isPlainFunction = (!isGenerator && !isAsync) := by
  unfold Parser.method at outcome
  rw [position_bind] at outcome
  obtain ⟨⟨parameters, body⟩, t, inner, outcome⟩ := bind_ok outcome
  obtain ⟨ts, ts', reads, nonempty, inside, inside'⟩ := stands.functionRest keeps inner
  cases outcome
  have covers : Covers σ .phrase ([] ++ (ts ++ ts')) (.function .none isGenerator isAsync parameters body) :=
    .function .none inside inside'
  exact ⟨⟨_, reads, reads.finish covers (by simp [nonempty])⟩, rfl⟩

/-! ## Modifiers -/

theorem Stands.asyncModifier {answer : Bool} (stands : Stands σ s)
    (next : s.current.kind = .identifier "async")
    (outcome : Parser.asyncModifier setup s = .ok answer s') :
    ∃ ts, Reads σ s ts s' ∧ (answer = false → s' = s) := by
  obtain ⟨token, ahead, outcome⟩ := peek_ok outcome
  rcases ite_ok outcome with ⟨_, outcome⟩ | ⟨_, outcome⟩
  · obtain ⟨_, t', moved, outcome⟩ := bind_ok outcome
    cases outcome
    exact ⟨_, stands.advance (by rw [next]; nofun) moved, nofun⟩
  · cases outcome
    exact ⟨[], .refl stands, fun _ => rfl⟩

/-- Behind the word of an accessor stands no star. -/
theorem Stands.accessorModifier {kind : MethodKind} {name : String}
    {accessor : Option MethodKind} (stands : Stands σ s)
    (next : s.current.kind = .identifier name)
    (outcome : Parser.accessorModifier kind setup s = .ok accessor s') :
    (∃ ts, Reads σ s ts s') ∧ (accessor = none → s' = s) ∧
      ∀ kind', accessor = some kind' → kind' = kind ∧ s'.current.kind ≠ .punctuator .star := by
  obtain ⟨token, ahead, outcome⟩ := peek_ok outcome
  rcases ite_ok outcome with ⟨starts, outcome⟩ | ⟨_, outcome⟩
  · obtain ⟨_, t', moved, outcome⟩ := bind_ok outcome
    cases outcome
    refine ⟨⟨_, stands.advance (by rw [next]; nofun) moved⟩, nofun, fun kind' same => ?_⟩
    cases same
    rw [current_of_peek ahead moved]
    simp only [Bool.and_eq_true, decide_eq_true_eq] at starts
    exact ⟨rfl, starts.2⟩
  · cases outcome
    exact ⟨⟨[], .refl stands⟩, fun _ => rfl, nofun⟩

/-- What modifiers promise: without any, nothing has been read, and an accessor is neither
asynchronous nor a generator. -/
structure Modifiers.Fits (modifiers : Modifiers) (s s' : State) : Prop where
  still : modifiers.any = false → s' = s
  accessor : ∀ kind, modifiers.accessor = some kind →
    (kind = .get ∨ kind = .set) ∧ modifiers.isAsync = false ∧ modifiers.isGenerator = false

theorem Stands.modifiers {value : Modifiers} (stands : Stands σ s)
    (outcome : Parser.modifiers setup s = .ok value s') :
    ∃ ts, Reads σ s ts s' ∧ value.Fits s s' := by
  have accessor (kind : MethodKind) {name : String} (next : s.current.kind = .identifier name)
      (which : kind = .get ∨ kind = .set)
      (outcome : (Parser.accessorModifier kind >>= fun accessor =>
        Parser.eatMark .star >>= fun isGenerator =>
          pure ({ isAsync := false, isGenerator, accessor } : Modifiers)) setup s = .ok value s') :
      ∃ ts, Reads σ s ts s' ∧ value.Fits s s' := by
    obtain ⟨found, t, first, outcome⟩ := bind_ok outcome
    obtain ⟨⟨ts, reads⟩, still, other⟩ := stands.accessorModifier next first
    obtain ⟨isGenerator, t', star, outcome⟩ := bind_ok outcome
    cases outcome
    rcases reads.stands.eatMark star with ⟨rfl, star, reads'⟩ | ⟨rfl, _, rfl⟩
    · refine ⟨_, reads.trans reads', nofun, fun kind' same => ?_⟩
      exact absurd star (other kind' same).2
    · refine ⟨ts, reads, fun plain => still ?_, fun kind' same => ?_⟩
      · simpa [Modifiers.any] using plain
      · rw [(other kind' same).1]
        exact ⟨which, rfl, rfl⟩
  unfold Parser.modifiers at outcome
  rw [atName_bind] at outcome
  rcases ite_ok outcome with ⟨next, outcome⟩ | ⟨_, outcome⟩
  · obtain ⟨isAsync, t, first, outcome⟩ := bind_ok outcome
    obtain ⟨ts, reads, still⟩ := stands.asyncModifier (of_decide_eq_true next) first
    obtain ⟨isGenerator, t', star, outcome⟩ := bind_ok outcome
    cases outcome
    rcases reads.stands.eatMark star with ⟨rfl, _, reads'⟩ | ⟨rfl, _, rfl⟩
    · exact ⟨_, reads.trans reads', by simp [Modifiers.any], nofun⟩
    · exact ⟨ts, reads, fun plain => still (by simpa [Modifiers.any] using plain), nofun⟩
  rw [atName_bind] at outcome
  rcases ite_ok outcome with ⟨next, outcome⟩ | ⟨_, outcome⟩
  · exact accessor .get (of_decide_eq_true next) (.inl rfl) outcome
  rw [atName_bind] at outcome
  rcases ite_ok outcome with ⟨next, outcome⟩ | ⟨_, outcome⟩
  · exact accessor .set (of_decide_eq_true next) (.inr rfl) outcome
  · obtain ⟨isGenerator, t, star, outcome⟩ := bind_ok outcome
    cases outcome
    rcases stands.eatMark star with ⟨rfl, _, reads⟩ | ⟨rfl, _, rfl⟩
    · exact ⟨_, reads, by simp [Modifiers.any], nofun⟩
    · exact ⟨[], .refl stands, fun _ => rfl, nofun⟩

theorem Stands.staticModifier {answer : Bool} (stands : Stands σ s)
    (outcome : Parser.staticModifier setup s = .ok answer s') : ∃ ts, Reads σ s ts s' := by
  unfold Parser.staticModifier at outcome
  rw [atName_bind] at outcome
  rcases ite_ok outcome with ⟨next, outcome⟩ | ⟨_, outcome⟩
  · obtain ⟨token, _, outcome⟩ := peek_ok outcome
    obtain ⟨m, same, outcome⟩ := run_ok outcome
    split at same
    case h_5 =>
      subst same
      obtain ⟨_, t', moved, outcome⟩ := bind_ok outcome
      cases outcome
      exact ⟨_, stands.advance (by rw [of_decide_eq_true next]; nofun) moved⟩
    all_goals
      subst same
      cases outcome
      exact ⟨[], .refl stands⟩
  · cases outcome
    exact ⟨[], .refl stands⟩

/-! ## Members of classes -/

/-- A method of an accessor is a plain function. -/
theorem Modifiers.Fits.suits {modifiers : Modifiers} {t t' : State}
    (fits : modifiers.Fits t t') {kind : MethodKind}
    (accessor : kind = .get ∨ kind = .set → modifiers.accessor = some kind)
    {value : Located .function}
    (plain : value.isPlainFunction = (!modifiers.isGenerator && !modifiers.isAsync)) :
    kind.Suits value := by
  intro which
  obtain ⟨_, isAsync, isGenerator⟩ := fits.accessor kind (accessor which)
  rw [plain, isAsync, isGenerator]
  rfl

theorem accessor_of_classMethodKind {isStatic : Bool} {modifiers : Modifiers}
    {key : Located .key} (which : classMethodKind isStatic modifiers key = .get ∨
      classMethodKind isStatic modifiers key = .set) :
    modifiers.accessor = some (classMethodKind isStatic modifiers key) := by
  unfold classMethodKind at which ⊢
  cases accessor : modifiers.accessor with
  | some kind => rfl
  | none =>
      rw [accessor] at which
      rcases which with same | same <;> dsimp only at same <;> split at same <;> cases same

theorem Stands.fieldValue {value : Optional (.located .expression)} (keeps : Keeps setup self)
    (stands : Stands σ s) (outcome : Parser.fieldValue self setup s = .ok value s') :
    ∃ ts, Reads σ s ts s' ∧ Covers σ.field .phrase ts value := by
  unfold Parser.fieldValue at outcome
  rcases stands.ifEatMark outcome with ⟨t, signed, outcome⟩ | ⟨_, outcome⟩
  · obtain ⟨value, t', inner, outcome⟩ := bind_ok outcome
    have scope : State.scope { t with context := fieldContext } = σ.field := by
      rw [← signed.stands.scope]
      rfl
    obtain ⟨u, u', inner, stands', _, leave⟩ := signed.stands.withContext inner scope
    obtain ⟨ts, reads, inside⟩ := keeps.goals .assignment stands' inner
    cases outcome
    exact ⟨_, signed.trans (leave reads), (inside.behind _ rfl).some⟩
  · cases outcome
    exact ⟨[], .refl stands, .none⟩

theorem Stands.classMember {value : Located .member} (keeps : Keeps setup self)
    (stands : Stands σ s) (outcome : Parser.classMember self setup s = .ok value s') :
    Built σ .phrase s value s' := by
  unfold Parser.classMember at outcome
  rw [position_bind] at outcome
  obtain ⟨isStatic, t₁, first, outcome⟩ := bind_ok outcome
  obtain ⟨front, reads₁⟩ := stands.staticModifier first
  obtain ⟨modifiers, t₂, second, outcome⟩ := bind_ok outcome
  obtain ⟨front', reads₂, fits⟩ := reads₁.stands.modifiers second
  obtain ⟨key, t₃, third, outcome⟩ := bind_ok outcome
  obtain ⟨ts, reads₃, inside⟩ := reads₂.stands.propertyKey keeps third
  have nonempty := inside.ne_nil rfl
  rw [atMark_bind] at outcome
  rcases ite_ok outcome with ⟨_, outcome⟩ | ⟨_, outcome⟩
  · obtain ⟨value, t₄, fourth, outcome⟩ := bind_ok outcome
    obtain ⟨⟨ts', reads₄, inside'⟩, plain⟩ := reads₃.stands.method keeps fourth
    cases outcome
    have whole := reads₁.trans (reads₂.trans (reads₃.trans reads₄))
    have suits : (classMethodKind isStatic modifiers key).Suits value :=
      fits.suits accessor_of_classMethodKind plain
    have covers : Covers σ .phrase _ (.methodMember isStatic key _ value) :=
      .methodMember suits inside inside'
    have covers' := (covers.behind front' rfl).behind front rfl
    exact ⟨_, whole, whole.finish covers' (by simp [nonempty])⟩
  · obtain ⟨value, t₄, fourth, outcome⟩ := bind_ok outcome
    obtain ⟨ts', reads₄, inside'⟩ := reads₃.stands.fieldValue keeps fourth
    obtain ⟨_, t₅, ends, outcome⟩ := bind_ok outcome
    obtain ⟨back, reads₅⟩ := reads₄.stands.expectSemicolon ends
    cases outcome
    have whole := reads₁.trans (reads₂.trans (reads₃.trans (reads₄.trans reads₅)))
    have covers : Covers σ .phrase _ (.fieldMember isStatic key value) :=
      .fieldMember inside (inside'.before back rfl)
    have covers' := (covers.behind front' rfl).behind front rfl
    exact ⟨_, whole, whole.finish covers' (by simp [nonempty])⟩

theorem Keeps.classMembers (keeps : Keeps setup self) :
    Goal.classMembers.Meets setup (Parser.classMembers self) := by
  intro σ s members s' stands outcome
  unfold Parser.classMembers at outcome
  rcases ifMark_ok outcome with ⟨_, outcome⟩ | ⟨_, outcome⟩
  · cases outcome
    exact ⟨[], .refl stands, .nil⟩
  rcases stands.ifEatMark outcome with ⟨t, skipped, outcome⟩ | ⟨_, outcome⟩
  · obtain ⟨ts, reads, inside⟩ := keeps.goals .classMembers skipped.stands outcome
    exact ⟨_, skipped.trans reads, inside.behind _ rfl⟩
  · obtain ⟨member, t, first, outcome⟩ := bind_ok outcome
    obtain ⟨ts, reads, inside⟩ := stands.classMember keeps first
    obtain ⟨rest, t', second, outcome⟩ := bind_ok outcome
    obtain ⟨ts', reads', inside'⟩ := keeps.goals .classMembers reads.stands second
    cases outcome
    exact ⟨_, reads.trans reads', .cons inside inside'⟩

/-! ## Classes -/

theorem Stands.className {isDeclaration : Bool} {name : Optional (.located .word)}
    (stands : Stands σ s) (outcome : Parser.className isDeclaration setup s = .ok name s') :
    Built σ .phrase s name s' := by
  unfold Parser.className at outcome
  obtain ⟨named, t, looks, rest⟩ := bind_ok outcome
  obtain ⟨rfl, _⟩ := currentName?_ok looks
  rcases ite_ok rest with ⟨_, outcome⟩ | ⟨_, outcome⟩
  · obtain ⟨name, t', inner, outcome⟩ := bind_ok outcome
    obtain ⟨reads, inside⟩ := stands.bindingName inner
    cases outcome
    exact ⟨_, reads, inside.some⟩
  · cases outcome
    exact ⟨[], .refl stands, .none⟩

theorem Stands.classParent {parent : Optional (.located .expression)} (keeps : Keeps setup self)
    (stands : Stands σ s) (outcome : Parser.classParent self setup s = .ok parent s') :
    Built σ .phrase s parent s' := by
  unfold Parser.classParent at outcome
  rcases stands.ifEatKeyword outcome with ⟨t, word, outcome⟩ | outcome
  · obtain ⟨parent, t', inner, outcome⟩ := bind_ok outcome
    obtain ⟨ts, reads, inside⟩ := keeps.goals .leftHandSide word.stands inner
    cases outcome
    exact ⟨_, word.trans reads, (inside.behind _ rfl).some⟩
  · cases outcome
    exact ⟨[], .refl stands, .none⟩

theorem Stands.classBody {body : Located (.list (.located .member))} (keeps : Keeps setup self)
    (stands : Stands σ s) (outcome : Parser.classBody self setup s = .ok body s') :
    Built σ .phrase s body s' := by
  unfold Parser.classBody at outcome
  rw [position_bind] at outcome
  obtain ⟨_, t, opens, outcome⟩ := bind_ok outcome
  have opened := (stands.expectMark opens).2
  obtain ⟨members, t', inner, outcome⟩ := bind_ok outcome
  have yields : Yields setup .phrase (self .classMembers) := keeps.goals .classMembers
  obtain ⟨ts, reads, inside⟩ := yields.withIn true opened.stands inner
  obtain ⟨_, t'', closes, outcome⟩ := bind_ok outcome
  have closed := (reads.stands.expectMark closes).2
  cases outcome
  have whole := opened.trans (reads.trans closed)
  exact ⟨_, whole, whole.finish (inside.wider _ _ rfl) (by simp)⟩

theorem Stands.classDefinition {isDeclaration : Bool} {value : Located .classDefinition}
    (keeps : Keeps setup self) (stands : Stands σ s)
    (outcome : Parser.classDefinition self isDeclaration setup s = .ok value s') :
    Built σ .phrase s value s' := by
  unfold Parser.classDefinition at outcome
  rw [position_bind] at outcome
  obtain ⟨_, t, word, outcome⟩ := bind_ok outcome
  have started := stands.expectKeyword word
  obtain ⟨name, t₁, first, outcome⟩ := bind_ok outcome
  obtain ⟨ts, reads, inside⟩ := started.stands.className first
  obtain ⟨parent, t₂, second, outcome⟩ := bind_ok outcome
  obtain ⟨ts', reads', inside'⟩ := reads.stands.classParent keeps second
  obtain ⟨body, t₃, third, outcome⟩ := bind_ok outcome
  obtain ⟨ts'', reads'', inside''⟩ := reads'.stands.classBody keeps third
  cases outcome
  have whole := started.trans (reads.trans (reads'.trans reads''))
  have covers := inside.classDefinition inside' inside''
  exact ⟨_, whole, whole.finish (covers.behind _ rfl) (by simp)⟩

end Ecmascript.Parser
