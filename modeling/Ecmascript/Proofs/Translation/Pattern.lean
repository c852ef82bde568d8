import Ecmascript.Proofs.Cover.Position
import Ecmascript.Proofs.Translation.Token

/-!
# Patterns behind a text

What is compared of each goal, and the productions of patterns. A goal that reads a token, or
fails, is compared also in front of the first token; what goes on behind a token is compared
there.
-/

set_option autoImplicit false

namespace Ecmascript.Parser.Translation

variable {c : Translation} {self : Grammar} {place : Place}

/-- A parser that reads a token runs behind the text in front like on the source. -/
abbrev Begins (c : Translation) {category : Category} (m : Parser (Node category)) : Prop :=
  ∀ {place}, c.Follows place m m fun _ => .later

/-- A parser goes on behind the text in front like on the source. -/
abbrev Continues (c : Translation) {category : Category} (m m' : Parser (Node category)) : Prop :=
  c.Follows .later m m' fun _ => .later

/-- How the runs of a goal are compared. What a goal goes on with is moved too. -/
def Compares (c : Translation) (self : Grammar) : Goal → Prop
  | .statement => c.Begins (self .statement)
  | .statements stop =>
      ∀ {place}, c.Follows place (self (.statements stop)) (self (.statements stop)) fun _ => place
  | .declarators => c.Begins (self .declarators)
  | .switchCases => c.Continues (self .switchCases) (self .switchCases)
  | .classMembers => c.Continues (self .classMembers) (self .classMembers)
  | .expression => c.Begins (self .expression)
  | .moreExpressions => c.Continues (self .moreExpressions) (self .moreExpressions)
  | .assignment => c.Begins (self .assignment)
  | .binary minimum => c.Begins (self (.binary minimum))
  | .binaryRest minimum start left => c.Continues (self (.binaryRest minimum start left))
      (self (.binaryRest minimum (start + c.distance) (left.shift c.distance)))
  | .power => c.Begins (self .power)
  | .unary => c.Begins (self .unary)
  | .leftHandSide => c.Begins (self .leftHandSide)
  | .newExpression => c.Begins (self .newExpression)
  | .memberRest start object allowCall => c.Continues (self (.memberRest start object allowCall))
      (self (.memberRest (start + c.distance) (object.shift c.distance) allowCall))
  | .arguments => c.Continues (self .arguments) (self .arguments)
  | .arrayElements => c.Continues (self .arrayElements) (self .arrayElements)
  | .objectMembers => c.Continues (self .objectMembers) (self .objectMembers)
  | .templateRest => c.Follows .later (self .templateRest) (self .templateRest) fun _ => .later
  | .target use => c.Begins (self (.target use))
  | .targetElements use => c.Continues (self (.targetElements use)) (self (.targetElements use))
  | .targetProperties use =>
      c.Continues (self (.targetProperties use)) (self (.targetProperties use))
  | .parameters => c.Continues (self .parameters) (self .parameters)

/-- Every goal of a grammar runs behind the text in front like on the source. -/
structure Carries (c : Translation) (grammar : Grammar) : Prop where
  goals : ∀ goal : Goal, c.Compares grammar goal
  keeps : Keeps c.setup grammar

/-! ## Where phrases lie -/

/-- A phrase lies between two characters of a source. -/
def Lies (source : Text) {category : Category} (node : Located category) : Prop :=
  node.start ≤ node.stop ∧ source.IsBoundary node.start ∧ source.IsBoundary node.stop

/-- What tokens of the source hold lies between two of its characters. -/
theorem lies_of_covers {σ σ' : Scope} {role : Role} {s s' : State} {ts : List Token}
    {category : Category} {node : Located category} (reads : Reads σ s ts s')
    (inside : Covers σ' role ts node) : Lies s.lexer.source node := by
  obtain ⟨start, stop, item⟩ := node
  let extent : Extent := { start := s.current.start, stop := s'.current.start, isChunk := true }
  have obeys := @Covers.positions s.lexer.source _ _ _ _ _ inside extent reads.between fun _ => rfl
  obtain ⟨⟨_, forward, _, first, last, _⟩, _⟩ := Node.obeys_positions_located.1 obeys
  exact ⟨forward, first, last⟩

theorem Yielded.lies {role : Role} {category : Category} {m : Parser (Located category)}
    {node : Located category} (yielded : c.Yielded m node) (yields : Yields c.setup role m) :
    Lies c.source node := by
  obtain ⟨s, s', stands, source, outcome⟩ := yielded
  obtain ⟨ts, reads, inside⟩ := yields stands outcome
  rw [← source]
  exact lies_of_covers reads inside

namespace Follows

theorem targetOf {expression : Located .expression} (lies : Lies c.source expression) :
    c.Follows place (Parser.targetOf expression)
      (Parser.targetOf (expression.shift c.distance)) fun _ => place := by
  cases expression with
  | located start stop item =>
      obtain ⟨forward, first, last⟩ := lies
      cases item with
      | identifier _ | memberExpression _ _ | computedMember _ _ => exact .pure _
      | _ => exact .invalid forward first last

end Follows

/-- A phrase without parts holds no offset. -/
theorem shift_of_leaf {category : Category} {node : Node category} (leaf : node.parts = [])
    (distance : Nat) : node.shift distance = node := by
  cases node <;> first | rfl | cases leaf

/-! ## Productions -/

namespace Carries

variable (carries : c.Carries self)

include carries

theorem propertyKey : c.Continues (Parser.propertyKey self) (Parser.propertyKey self) := by
  refine .bind .position fun start => .bind (.eatMark _) fun _ => .ite ?_ ?_
  · exact .bind (.withIn _ (carries.goals .assignment)) fun _ =>
      .bind (.expectMark _) fun _ => .finish _ _
  · refine .kind fun kind => ?_
    cases plain : plainKey? kind with
    | some key =>
        refine .bind .advance fun _ => ?_
        have moved := @Follows.finish c _ start key
        rw [shift_of_leaf (parts_plainKey plain)] at moved
        exact moved
    | none => exact .unexpected

theorem targetElement (use : PatternUse) : c.Begins (Parser.targetElement self use) :=
  .bind .position fun _ => .bind (carries.goals (.target use)) fun _ =>
    .bind (.eatMark _) fun _ => .ite
      (.bind (.withIn _ (carries.goals .assignment)) fun _ => .finish _ _)
      (.pure _)

theorem targetRest (use : PatternUse) : c.Begins (Parser.targetRest self use) :=
  .bind .position fun _ => .bind (.expectMark _) fun _ =>
    .bind (carries.goals (.target use)) fun _ => .finish _ _

theorem targetElements (use : PatternUse) :
    c.Continues (Parser.targetElements self use) (Parser.targetElements self use) := by
  refine .bind (.atMark _) fun _ => .ite (.pure _) ?_
  refine .bind (.eatMark _) fun _ => .ite
    (.bind (carries.goals (.targetElements use)) fun _ => .pure _) ?_
  refine .bind (.atMark _) fun _ => .ite (.bind (carries.targetRest use) fun _ => .pure _) ?_
  exact .bind (carries.targetElement use) fun _ => .bind (.separator _) fun _ =>
    .bind (carries.goals (.targetElements use)) fun _ => .pure _

theorem arrayPattern (use : PatternUse) : c.Begins (Parser.arrayPattern self use) :=
  .bind .position fun _ => .bind (.expectMark _) fun _ =>
    .bind (carries.goals (.targetElements use)) fun _ => .bind (.expectMark _) fun _ =>
      .finish _ _

theorem shorthandTarget (key : Located .key) (name : String) :
    c.Continues (Parser.shorthandTarget self key name)
      (Parser.shorthandTarget self (key.shift c.distance) name) := by
  cases key with
  | located start stop item =>
      exact .bind (.eatMark _) fun _ => .ite
        (.bind (.withIn _ (carries.goals .assignment)) fun _ => .finish _ _)
        (.pure _)

theorem targetProperty (use : PatternUse) :
    c.Continues (Parser.targetProperty self use) (Parser.targetProperty self use) := by
  refine .bind .position fun _ => .bind .currentName? fun shorthand => ?_
  refine .bind carries.propertyKey fun key => .bind (.eatMark _) fun _ => .ite ?_ ?_
  · exact .bind (carries.targetElement use) fun _ => .finish _ _
  · cases shorthand with
    | some name => exact .bind (carries.shorthandTarget key name) fun _ => .finish _ _
    | none => exact .unexpected

theorem targetProperties (use : PatternUse) :
    c.Continues (Parser.targetProperties self use) (Parser.targetProperties self use) := by
  refine .bind .position fun _ => .bind (.atMark _) fun _ => .ite (.pure _) ?_
  refine .bind (.eatMark _) fun _ => .ite ?_ ?_
  · exact .bind (carries.goals (.target use)) fun _ =>
      .bind (.finish _ _) fun _ => .pure _
  · exact .bind (carries.targetProperty use) fun _ => .bind (.separator _) fun _ =>
      .bind (carries.goals (.targetProperties use)) fun _ => .pure _

theorem objectPattern (use : PatternUse) : c.Begins (Parser.objectPattern self use) :=
  .bind .position fun _ => .bind (.expectMark _) fun _ =>
    .bind (carries.goals (.targetProperties use)) fun _ => .bind (.expectMark _) fun _ =>
      .finish _ _

theorem target (use : PatternUse) : c.Begins (Parser.target self use) := by
  intro place
  refine .kind fun kind => ?_
  split
  · exact .nested (carries.arrayPattern use)
  · exact .nested (carries.objectPattern use)
  · cases use with
    | binding =>
        refine .bind .bindingName fun name => ?_
        cases name with
        | located start stop item =>
            cases item with
            | word text => exact .pure _
    | assignment =>
        exact .bindYielded (carries.goals .leftHandSide) fun expression yielded =>
          .targetOf (yielded.lies (carries.keeps.goals .leftHandSide))

theorem parameters : c.Continues (Parser.parameters self) (Parser.parameters self) := by
  refine .bind (.atMark _) fun _ => .ite (.pure _) ?_
  refine .bind (.atMark _) fun _ => .ite (.bind (carries.targetRest _) fun _ => .pure _) ?_
  exact .bind (carries.targetElement _) fun _ => .bind (.separator _) fun _ =>
    .bind (carries.goals .parameters) fun _ => .pure _

theorem formalParameters : c.Begins (Parser.formalParameters self) :=
  .bind (.expectMark _) fun _ => .bind (carries.goals .parameters) fun _ =>
    .bind (.expectMark _) fun _ => .pure _

end Carries

end Ecmascript.Parser.Translation
