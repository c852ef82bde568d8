import Ecmascript.Proofs.Coupling.Pattern

/-!
# Coupled runs of functions and classes

Blocks, functions, methods and classes. Behind a block the grip is firm, because the guess about a
slash is the same behind its brace.
-/

set_option autoImplicit false

namespace Ecmascript.Parser.Coupling

variable {c : Coupling} {self self' : Grammar}

namespace Lawful

theorem firm_of_behind_brace (laws : c.Lawful) {s t : State}
    (related : c.behind (.punctuator .rightBrace) s t) : c.firm s t :=
  laws.tighten related.1 (.inl related.2)

end Lawful

namespace Links

theorem expectBrace (laws : c.Lawful) :
    c.Links c.loose (Parser.expectMark .rightBrace) (Parser.expectMark .rightBrace)
      (fun _ => c.firm) :=
  (expectKind laws rfl).relax fun _ _ _ => laws.firm_of_behind_brace

/-! ## Modifiers -/

private theorem startsKey_of_slash {kind : TokenKind} (slash : kind.isSlash = true) :
    startsKey kind = false := by
  rcases TokenKind.isSlash_cases slash with rfl | rfl | ⟨raw, rfl⟩ <;> rfl

theorem asyncModifier (laws : c.Lawful) {kind : TokenKind} :
    c.Links (c.before kind) Parser.asyncModifier Parser.asyncModifier (fun _ => c.loose) := by
  refine peek laws (fun _ _ holds => holds.1) (fun token => ?_) fun a b left right => ?_
  · refine ite (fun _ => ?_) fun _ => .pure fun _ _ holds => laws.loose_of_before holds.1
    exact ((advance laws).strengthen fun _ _ holds => holds.1).bind fun _ =>
      .pure fun _ _ holds => holds
  · simp only [startsKey_of_slash left, startsKey_of_slash right, Bool.false_and]
    exact .pure fun _ _ => laws.loose_of_before

theorem accessorModifier (laws : c.Lawful) (accessor : MethodKind) {kind : TokenKind} :
    c.Links (c.before kind) (Parser.accessorModifier accessor)
      (Parser.accessorModifier accessor) (fun _ => c.loose) := by
  refine peek laws (fun _ _ holds => holds.1) (fun token => ?_) fun a b left right => ?_
  · refine ite (fun _ => ?_) fun _ => .pure fun _ _ holds => laws.loose_of_before holds.1
    exact ((advance laws).strengthen fun _ _ holds => holds.1).bind fun _ =>
      .pure fun _ _ holds => holds
  · simp only [startsKey_of_slash left, startsKey_of_slash right, Bool.false_and]
    exact .pure fun _ _ => laws.loose_of_before

theorem modifiers (laws : c.Lawful) :
    c.Links c.loose Parser.modifiers Parser.modifiers (fun _ => c.loose) := by
  refine ifName laws "async" ?_ (ifName laws "get" ?_ (ifName laws "set" ?_ ?_))
  · refine (asyncModifier laws).bind fun isAsync => ?_
    exact (eatMark laws .star rfl).bind fun isGenerator => .pure fun _ _ holds => holds
  · refine (accessorModifier laws .get).bind fun accessor => ?_
    exact (eatMark laws .star rfl).bind fun isGenerator => .pure fun _ _ holds => holds
  · refine (accessorModifier laws .set).bind fun accessor => ?_
    exact (eatMark laws .star rfl).bind fun isGenerator => .pure fun _ _ holds => holds
  · exact (eatMark laws .star rfl).bind fun isGenerator => .pure fun _ _ holds => holds

theorem staticModifier (laws : c.Lawful) :
    c.Links c.loose Parser.staticModifier Parser.staticModifier (fun _ => c.loose) := by
  refine ifName laws "static" ?_ (.pure fun _ _ holds => holds)
  have read : c.Links (c.before (.identifier "static"))
      (do Parser.advance; return true) (do Parser.advance; return true) (fun _ => c.loose) :=
    (advance laws).bind fun _ => .pure fun _ _ holds => holds
  refine peek laws (fun _ _ holds => holds.1) (fun token => ?_) fun a b left right => ?_
  · split
    all_goals first
      | exact .pure fun _ _ holds => laws.loose_of_before holds.1
      | exact read.strengthen fun _ _ holds => holds.1
  · rcases TokenKind.isSlash_cases left with left | left | ⟨raw, left⟩ <;>
    rcases TokenKind.isSlash_cases right with right | right | ⟨raw', right⟩ <;>
    simp only [left, right] <;>
    exact read

/-! ## Names that may be left out -/

theorem functionName (laws : c.Lawful) (isDeclaration : Bool) :
    c.Links c.loose (Parser.functionName isDeclaration) (Parser.functionName isDeclaration)
      (fun _ => c.loose) := by
  refine (ask laws rfl).bind fun nameless => ?_
  refine .ite (fun _ => ?_) fun _ => .pure fun _ _ holds => holds
  exact (bindingName laws).bind fun name => .pure fun _ _ holds => holds

theorem className (laws : c.Lawful) (isDeclaration : Bool) :
    c.Links c.loose (Parser.className isDeclaration) (Parser.className isDeclaration)
      (fun _ => c.loose) := by
  refine (currentName? laws).bind fun name? => ?_
  refine .ite (fun _ => ?_) fun _ => .pure fun _ _ holds => holds
  exact (bindingName laws).bind fun name => .pure fun _ _ holds => holds

end Links

namespace Agree

theorem block (laws : c.Lawful) (agree : c.Agree self self') :
    c.Links c.loose (Parser.block self) (Parser.block self') (fun _ => c.firm) := by
  refine (Links.position laws fun _ _ holds => holds).bind fun start => ?_
  refine (Links.expectMark laws .leftBrace rfl).bind fun _ => ?_
  refine (agree (.statements .block)).bind fun body => ?_
  refine (Links.expectBrace laws).bind fun _ => ?_
  exact Links.finish laws fun _ _ => laws.loosen

/-! ## Functions -/

theorem functionRest (laws : c.Lawful) (agree : c.Agree self self') (isAsync isGenerator : Bool) :
    c.Links c.loose (Parser.functionRest self isAsync isGenerator)
      (Parser.functionRest self' isAsync isGenerator) (fun _ => c.firm) := by
  refine Links.withContext laws ?_
  refine (agree.formalParameters laws).bind fun parameters => ?_
  exact (agree.block laws).bind fun body => .pure fun _ _ holds => holds

theorem function (laws : c.Lawful) (agree : c.Agree self self') (start : Nat)
    (isAsync isDeclaration : Bool) :
    c.Links c.loose (Parser.function self start isAsync isDeclaration)
      (Parser.function self' start isAsync isDeclaration) (fun _ => c.firm) := by
  refine (Links.expectKeyword laws .functionWord).bind fun _ => ?_
  refine (Links.eatMark laws .star rfl).bind fun isGenerator => ?_
  refine (Links.functionName laws isDeclaration).bind fun name => ?_
  refine (agree.functionRest laws isAsync isGenerator).bind fun (parameters, body) => ?_
  exact Links.finish laws fun _ _ => laws.loosen

theorem method (laws : c.Lawful) (agree : c.Agree self self') (isAsync isGenerator : Bool) :
    c.Links c.loose (Parser.method self isAsync isGenerator)
      (Parser.method self' isAsync isGenerator) (fun _ => c.firm) := by
  refine (Links.position laws fun _ _ holds => holds).bind fun start => ?_
  refine (agree.functionRest laws isAsync isGenerator).bind fun (parameters, body) => ?_
  exact Links.finish laws fun _ _ => laws.loosen

/-! ## Classes -/

theorem fieldValue (laws : c.Lawful) (agree : c.Agree self self') :
    c.Links c.loose (Parser.fieldValue self) (Parser.fieldValue self') (fun _ => c.loose) := by
  refine Links.ifEatMark laws .assign rfl ?_ (.pure fun _ _ holds => holds)
  refine (Links.withContext laws (agree .assignment)).bind fun value => ?_
  exact .pure fun _ _ => laws.loosen

theorem classMember (laws : c.Lawful) (agree : c.Agree self self') :
    c.Links c.loose (Parser.classMember self) (Parser.classMember self') (fun _ => c.loose) := by
  refine (Links.position laws fun _ _ holds => holds).bind fun start => ?_
  refine (Links.staticModifier laws).bind fun isStatic => ?_
  refine (Links.modifiers laws).bind fun modifiers => ?_
  refine (agree.propertyKey laws).bind fun key => ?_
  refine (Links.ask laws rfl).bind fun callable => ?_
  refine .ite (fun _ => ?_) fun _ => ?_
  · refine (agree.method laws modifiers.isAsync modifiers.isGenerator).bind fun value => ?_
    exact (Links.finish laws fun _ _ => laws.loosen).loosely laws
  · refine (agree.fieldValue laws).bind fun value => ?_
    refine (Links.expectSemicolon laws).bind fun _ => ?_
    exact Links.finish laws fun _ _ holds => holds

theorem classMembers (laws : c.Lawful) (agree : c.Agree self self') :
    c.Links c.loose (Parser.classMembers self) (Parser.classMembers self')
      (fun _ => c.loose) := by
  refine Links.ifMark laws .rightBrace rfl (.pure fun _ _ => laws.loose_of_before) ?_
  refine Links.ifEatMark laws .semicolon rfl (agree .classMembers) ?_
  refine (agree.classMember laws).bind fun member => ?_
  exact (agree .classMembers).bind fun rest => .pure fun _ _ holds => holds

theorem classBody (laws : c.Lawful) (agree : c.Agree self self') :
    c.Links c.loose (Parser.classBody self) (Parser.classBody self') (fun _ => c.loose) := by
  refine (Links.position laws fun _ _ holds => holds).bind fun start => ?_
  refine (Links.expectMark laws .leftBrace rfl).bind fun _ => ?_
  refine (Links.withIn laws (agree .classMembers)).bind fun members => ?_
  refine (Links.expectMark laws .rightBrace rfl).bind fun _ => ?_
  exact Links.finish laws fun _ _ holds => holds

theorem classParent (laws : c.Lawful) (agree : c.Agree self self') :
    c.Links c.loose (Parser.classParent self) (Parser.classParent self') (fun _ => c.loose) := by
  refine Links.ifEatKeyword laws .extendsWord ?_ (.pure fun _ _ holds => holds)
  exact (agree .leftHandSide).bind fun parent => .pure fun _ _ holds => holds

theorem classDefinition (laws : c.Lawful) (agree : c.Agree self self') (isDeclaration : Bool) :
    c.Links c.loose (Parser.classDefinition self isDeclaration)
      (Parser.classDefinition self' isDeclaration) (fun _ => c.loose) := by
  refine (Links.position laws fun _ _ holds => holds).bind fun start => ?_
  refine (Links.expectKeyword laws .classWord).bind fun _ => ?_
  refine (Links.className laws isDeclaration).bind fun name => ?_
  refine (agree.classParent laws).bind fun parent => ?_
  refine (agree.classBody laws).bind fun body => ?_
  exact Links.finish laws fun _ _ holds => holds

end Agree

end Ecmascript.Parser.Coupling
