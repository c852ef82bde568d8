import Ecmascript.Proofs.Coupling.Token

/-!
# Coupled runs of patterns

Scopes, names and patterns. A production is linked with itself when the grammars it is written
against agree, that is, when they link every goal.
-/

set_option autoImplicit false

namespace Ecmascript.Parser

/-- How firm the grip is behind a goal. Behind operands joined by infix operators the next token
has been asked whether it is one, which decides about a slash. -/
def Goal.grip : Goal → Grip
  | .assignment | .binary _ | .binaryRest _ _ _ => .firm
  | _ => .loose

namespace Coupling

variable {c : Coupling} {self self' : Grammar} {α : Type} {grip grip' : Grip}

/-- Two grammars agree when all their goals are linked. -/
def Agree (c : Coupling) (self self' : Grammar) : Prop :=
  ∀ goal : Goal, c.Links c.loose (self goal) (self' goal) (fun _ => c.related goal.grip)

namespace Links

theorem loosely (laws : c.Lawful) {pre : State → State → Prop} {m m' : Parser α}
    (linked : c.Links pre m m' (fun _ => c.related grip)) :
    c.Links pre m m' (fun _ => c.loose) :=
  linked.relax fun _ _ _ holds => laws.loose_of_related holds

theorem fromFirm (laws : c.Lawful) {post : α → State → State → Prop} {m m' : Parser α}
    (linked : c.Links c.loose m m' post) : c.Links (c.related grip) m m' post :=
  linked.strengthen fun _ _ holds => laws.loose_of_related holds

theorem fromBefore (laws : c.Lawful) {kind : TokenKind} {post : α → State → State → Prop}
    {m m' : Parser α} (linked : c.Links c.loose m m' post) : c.Links (c.before kind) m m' post :=
  linked.strengthen fun _ _ => laws.loose_of_before

/-! ## Scopes -/

theorem withContext (laws : c.Lawful) {m m' : Parser α} {context : Context}
    (linked : c.Links (c.related grip) m m' (fun _ => c.related grip')) :
    c.Links (c.related grip) (Parser.withContext context m) (Parser.withContext context m')
      (fun _ => c.related grip') := by
  have spoils (setup : Setup) (n : Parser α) (s : State)
      (spoils : c.Spoils (n setup { s with context })) :
      c.Spoils (Parser.withContext context n setup s) := by
    unfold Parser.withContext
    cases outcome : n setup { s with context } with
    | ok value after =>
        rw [outcome] at spoils
        exact laws.spoiltContext s.context spoils
    | reject error after =>
        rw [outcome] at spoils
        exact spoils.imp_right (laws.spoiltContext s.context)
    | exhausted => rwa [outcome] at spoils
  constructor
  · intro s t holds
    have matched := linked.replies _ _ (laws.recontext context holds)
    have spoilsLeft := spoils c.left m s
    have spoilsRight := spoils c.right m' t
    unfold Parser.withContext at spoilsLeft spoilsRight ⊢
    generalize m c.left { s with context } = r at matched spoilsLeft ⊢
    generalize m' c.right { t with context } = r' at matched spoilsRight ⊢
    cases matched with
    | ok holds' =>
        refine .ok ?_
        rw [← laws.context (laws.loose_of_related holds)]
        exact laws.recontext s.context holds'
    | reject fault dropped =>
        refine .reject fault ?_
        rw [← laws.context (laws.loose_of_related holds)]
        exact laws.dropContext s.context dropped
    | exhausted => exact .exhausted
    | leftSpoils spoils => exact .leftSpoils (spoilsLeft spoils)
    | rightSpoils spoils => exact .rightSpoils (spoilsRight spoils)
  · exact fun s spoilt =>
      spoils c.left m s (linked.spoilsLeft _ (laws.spoiltContext context spoilt))
  · exact fun t spoilt =>
      spoils c.right m' t (linked.spoilsRight _ (laws.spoiltContext context spoilt))

theorem withIn (laws : c.Lawful) {m m' : Parser α} {allowIn : Bool}
    (linked : c.Links (c.related grip) m m' (fun _ => c.related grip')) :
    c.Links (c.related grip) (Parser.withIn allowIn m) (Parser.withIn allowIn m')
      (fun _ => c.related grip') :=
  (context laws fun _ _ => laws.loose_of_related).bind fun _ => withContext laws linked

/-! ## Names -/

theorem bindingName (laws : c.Lawful) :
    c.Links c.loose Parser.bindingName Parser.bindingName (fun _ => c.loose) := by
  refine token laws (fun token => ?_) fun a b left right _ => ?_
  · cases kind : token.kind with
    | identifier name =>
        refine (context laws fun _ _ => laws.loose_of_before).bind fun context => ?_
        refine ite (fun _ => reservedWord laws fun _ _ => laws.loose_of_before) fun _ => ?_
        exact (advance laws).bind fun _ => .pure fun _ _ holds => holds
    | keyword word => exact reservedWord laws fun _ _ => laws.loose_of_before
    | _ => exact unexpected laws fun _ _ => laws.loose_of_before
  · rcases TokenKind.isSlash_cases left with left | left | ⟨raw, left⟩ <;>
    rcases TokenKind.isSlash_cases right with right | right | ⟨raw', right⟩ <;>
    simp only [left, right] <;>
    exact unexpected laws fun _ _ holds => holds

/-- The token behind a name is the next one when the name is read. -/
theorem bindingNameForeseen (laws : c.Lawful) {name : String} {token : Token}
    (plain : token.kind.isSlash = false) :
    c.Links (fun s t => c.before (.identifier name) s t ∧ c.foreseen token s t)
      Parser.bindingName Parser.bindingName (fun _ => c.before token.kind) := by
  have related (s t : State) (holds : c.before (.identifier name) s t ∧ c.foreseen token s t) :
      c.loose s t :=
    laws.loose_of_before holds.1
  refine (reading State.current (fun _ _ => rfl) fun s t holds =>
    laws.current holds.1.1).bind fun word => ?_
  refine strengthen ?_ fun _ _ holds => holds.1
  cases word.kind with
  | identifier other =>
      refine (context laws related).bind fun context => ?_
      refine ite (fun _ => reservedWord laws related) fun _ => ?_
      exact (advanceForeseen laws plain).bind fun _ => .pure fun _ _ holds => holds
  | keyword word => exact reservedWord laws related
  | _ => exact unexpected laws related

theorem propertyName (laws : c.Lawful) :
    c.Links c.loose Parser.propertyName Parser.propertyName (fun _ => c.loose) := by
  refine token laws (fun token => ?_) fun a b left right _ => ?_
  · cases propertyName? token.kind with
    | some name => exact (advance laws).bind fun _ => .pure fun _ _ holds => holds
    | none => exact unexpected laws fun _ _ => laws.loose_of_before
  · have none_of_slash (kind : TokenKind) (slash : kind.isSlash = true) :
        propertyName? kind = none := by
      rcases TokenKind.isSlash_cases slash with rfl | rfl | ⟨raw, rfl⟩ <;> rfl
    rw [none_of_slash a.kind left, none_of_slash b.kind right]
    exact unexpected laws fun _ _ holds => holds

theorem currentName? (laws : c.Lawful) :
    c.Links c.loose Parser.currentName? Parser.currentName? (fun _ => c.loose) := by
  refine kind laws (fun kind => ?_) fun a b left right => ?_
  · cases kind <;> exact .pure fun _ _ => laws.loose_of_before
  · rcases TokenKind.isSlash_cases left with rfl | rfl | ⟨raw, rfl⟩ <;>
    rcases TokenKind.isSlash_cases right with rfl | rfl | ⟨raw', rfl⟩ <;>
    exact .pure fun _ _ holds => holds

theorem separator (laws : c.Lawful) (close : Punctuator)
    (plain : (TokenKind.punctuator close).isSlash = false) :
    c.Links c.loose (Parser.separator close) (Parser.separator close) (fun _ => c.loose) :=
  ifMark laws close plain (.pure fun _ _ => laws.loose_of_before) (expectMark laws .comma rfl)

theorem targetOf (laws : c.Lawful) (expression : Located .expression)
    {pre : State → State → Prop} (related : ∀ s t, pre s t → c.loose s t) :
    c.Links pre (Parser.targetOf expression) (Parser.targetOf expression) (fun _ => pre) := by
  cases expression with
  | located start stop item =>
      cases item with
      | identifier _ => exact pure fun _ _ holds => holds
      | memberExpression _ _ => exact pure fun _ _ holds => holds
      | computedMember _ _ => exact pure fun _ _ holds => holds
      | _ => exact fail laws related

end Links

/-! ## Patterns -/

namespace Agree

theorem propertyKey (laws : c.Lawful) (agree : c.Agree self self') :
    c.Links c.loose (Parser.propertyKey self) (Parser.propertyKey self') (fun _ => c.loose) := by
  refine (Links.position laws fun _ _ holds => holds).bind fun start => ?_
  refine Links.ifEatMark laws .leftBracket rfl ?_ ?_
  · refine (Links.withIn laws (agree .assignment)).bind fun expression => ?_
    refine (Links.expectMark laws .rightBracket rfl).fromFirm laws |>.bind fun _ => ?_
    exact Links.finish laws fun _ _ holds => holds
  · refine Links.kind laws (fun kind => ?_) fun a b left right => ?_
    · cases plainKey? kind with
      | some key =>
          exact (Links.advance laws).bind fun _ => Links.finish laws fun _ _ holds => holds
      | none => exact Links.unexpected laws fun _ _ => laws.loose_of_before
    · have none_of_slash (kind : TokenKind) (slash : kind.isSlash = true) :
          plainKey? kind = none := by
        rcases TokenKind.isSlash_cases slash with rfl | rfl | ⟨raw, rfl⟩ <;> rfl
      rw [none_of_slash a left, none_of_slash b right]
      exact Links.unexpected laws fun _ _ holds => holds

theorem targetElement (laws : c.Lawful) (agree : c.Agree self self') (use : PatternUse) :
    c.Links c.loose (Parser.targetElement self use) (Parser.targetElement self' use)
      (fun _ => c.loose) := by
  refine (Links.position laws fun _ _ holds => holds).bind fun start => ?_
  refine (agree (.target use)).bind fun left => ?_
  refine Links.ifEatMark laws .assign rfl ?_ (.pure fun _ _ holds => holds)
  refine (Links.withIn laws (agree .assignment)).bind fun right => ?_
  exact (Links.finish laws fun _ _ => laws.loosen).loosely laws

theorem targetRest (laws : c.Lawful) (agree : c.Agree self self') (use : PatternUse) :
    c.Links c.loose (Parser.targetRest self use) (Parser.targetRest self' use)
      (fun _ => c.loose) := by
  refine (Links.position laws fun _ _ holds => holds).bind fun start => ?_
  refine (Links.expectMark laws .ellipsis rfl).bind fun _ => ?_
  exact (agree (.target use)).bind fun argument => Links.finish laws fun _ _ holds => holds

theorem targetElements (laws : c.Lawful) (agree : c.Agree self self') (use : PatternUse) :
    c.Links c.loose (Parser.targetElements self use) (Parser.targetElements self' use)
      (fun _ => c.loose) := by
  refine Links.ifMark laws .rightBracket rfl (.pure fun _ _ => laws.loose_of_before) ?_
  refine Links.ifEatMark laws .comma rfl ?_ ?_
  · exact (agree (.targetElements use)).bind fun rest => .pure fun _ _ holds => holds
  refine Links.ifMark laws .ellipsis rfl ?_ ?_
  · refine ((agree.targetRest laws use).fromBefore laws).bind fun last => ?_
    exact Links.pure fun _ _ holds => holds
  · refine (agree.targetElement laws use).bind fun element => ?_
    refine (Links.separator laws .rightBracket rfl).bind fun _ => ?_
    exact (agree (.targetElements use)).bind fun rest => .pure fun _ _ holds => holds

theorem arrayPattern (laws : c.Lawful) (agree : c.Agree self self') (use : PatternUse) :
    c.Links c.loose (Parser.arrayPattern self use) (Parser.arrayPattern self' use)
      (fun _ => c.loose) := by
  refine (Links.position laws fun _ _ holds => holds).bind fun start => ?_
  refine (Links.expectMark laws .leftBracket rfl).bind fun _ => ?_
  refine (agree (.targetElements use)).bind fun elements => ?_
  refine (Links.expectMark laws .rightBracket rfl).bind fun _ => ?_
  exact Links.finish laws fun _ _ holds => holds

theorem shorthandTarget (laws : c.Lawful) (agree : c.Agree self self') (key : Located .key)
    (name : String) :
    c.Links c.loose (Parser.shorthandTarget self key name) (Parser.shorthandTarget self' key name)
      (fun _ => c.loose) := by
  refine Links.ifEatMark laws .assign rfl ?_ (.pure fun _ _ holds => holds)
  refine (Links.withIn laws (agree .assignment)).bind fun right => ?_
  exact (Links.finish laws fun _ _ => laws.loosen).loosely laws

theorem targetProperty (laws : c.Lawful) (agree : c.Agree self self') (use : PatternUse) :
    c.Links c.loose (Parser.targetProperty self use) (Parser.targetProperty self' use)
      (fun _ => c.loose) := by
  refine (Links.position laws fun _ _ holds => holds).bind fun start => ?_
  refine (Links.currentName? laws).bind fun shorthand => ?_
  refine (agree.propertyKey laws).bind fun key => ?_
  refine Links.ifEatMark laws .colon rfl ?_ ?_
  · refine (agree.targetElement laws use).bind fun value => ?_
    exact Links.finish laws fun _ _ holds => holds
  cases shorthand with
  | some name =>
      refine (agree.shorthandTarget laws key name).bind fun value => ?_
      exact Links.finish laws fun _ _ holds => holds
  | none => exact Links.unexpected laws fun _ _ holds => holds

theorem targetProperties (laws : c.Lawful) (agree : c.Agree self self') (use : PatternUse) :
    c.Links c.loose (Parser.targetProperties self use) (Parser.targetProperties self' use)
      (fun _ => c.loose) := by
  refine (Links.position laws fun _ _ holds => holds).bind fun start => ?_
  refine Links.ifMark laws .rightBrace rfl (.pure fun _ _ => laws.loose_of_before) ?_
  refine Links.ifEatMark laws .ellipsis rfl ?_ ?_
  · refine (agree (.target use)).bind fun argument => ?_
    refine (Links.finish laws fun _ _ holds => holds).bind fun last => ?_
    exact Links.pure fun _ _ holds => holds
  · refine (agree.targetProperty laws use).bind fun property => ?_
    refine (Links.separator laws .rightBrace rfl).bind fun _ => ?_
    exact (agree (.targetProperties use)).bind fun rest => .pure fun _ _ holds => holds

theorem objectPattern (laws : c.Lawful) (agree : c.Agree self self') (use : PatternUse) :
    c.Links c.loose (Parser.objectPattern self use) (Parser.objectPattern self' use)
      (fun _ => c.loose) := by
  refine (Links.position laws fun _ _ holds => holds).bind fun start => ?_
  refine (Links.expectMark laws .leftBrace rfl).bind fun _ => ?_
  refine (agree (.targetProperties use)).bind fun properties => ?_
  refine (Links.expectMark laws .rightBrace rfl).bind fun _ => ?_
  exact Links.finish laws fun _ _ holds => holds

/-- What a target is where it begins with no bracket and no brace. -/
private theorem plainTarget (laws : c.Lawful) (agree : c.Agree self self') (use : PatternUse) :
    c.Links c.loose
      (match use with
        | .binding => do return bindingOf (← Parser.bindingName)
        | .assignment => do
            let expression ← self .leftHandSide
            Parser.targetOf expression)
      (match use with
        | .binding => do return bindingOf (← Parser.bindingName)
        | .assignment => do
            let expression ← self' .leftHandSide
            Parser.targetOf expression)
      (fun _ => c.loose) := by
  cases use with
  | binding => exact (Links.bindingName laws).bind fun name => .pure fun _ _ holds => holds
  | assignment =>
      exact (agree .leftHandSide).bind fun expression =>
        Links.targetOf laws expression fun _ _ holds => holds

theorem target (laws : c.Lawful) (agree : c.Agree self self') (use : PatternUse) :
    c.Links c.loose (Parser.target self use) (Parser.target self' use) (fun _ => c.loose) := by
  have plain := agree.plainTarget laws use
  refine Links.kind laws (fun kind => ?_) fun a b left right => ?_
  · refine Links.fromBefore laws ?_
    cases kind with
    | punctuator mark =>
        cases mark with
        | leftBracket => exact laws.nested (agree.arrayPattern laws use)
        | leftBrace => exact laws.nested (agree.objectPattern laws use)
        | _ => exact plain
    | _ => exact plain
  · rcases TokenKind.isSlash_cases left with rfl | rfl | ⟨raw, rfl⟩ <;>
    rcases TokenKind.isSlash_cases right with rfl | rfl | ⟨raw', rfl⟩ <;>
    exact plain

theorem parameters (laws : c.Lawful) (agree : c.Agree self self') :
    c.Links c.loose (Parser.parameters self) (Parser.parameters self') (fun _ => c.loose) := by
  refine Links.ifMark laws .rightParen rfl (.pure fun _ _ => laws.loose_of_before) ?_
  refine Links.ifMark laws .ellipsis rfl ?_ ?_
  · refine ((agree.targetRest laws .binding).fromBefore laws).bind fun last => ?_
    exact Links.pure fun _ _ holds => holds
  · refine (agree.targetElement laws .binding).bind fun parameter => ?_
    refine (Links.separator laws .rightParen rfl).bind fun _ => ?_
    exact (agree .parameters).bind fun rest => .pure fun _ _ holds => holds

theorem formalParameters (laws : c.Lawful) (agree : c.Agree self self') :
    c.Links c.loose (Parser.formalParameters self) (Parser.formalParameters self')
      (fun _ => c.loose) := by
  refine (Links.expectMark laws .leftParen rfl).bind fun _ => ?_
  refine (agree .parameters).bind fun parameters => ?_
  refine (Links.expectMark laws .rightParen rfl).bind fun _ => ?_
  exact Links.pure fun _ _ holds => holds

end Agree

end Coupling

end Ecmascript.Parser
