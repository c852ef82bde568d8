import Ecmascript.Proofs.Cover.Run

/-!
# Accepted scripts are grammatical

What the rules of the grammar ask for when they build a phrase, as a property of the tree alone:
the scope and the role of a phrase tell where in the tree it stands.
-/

set_option autoImplicit false

namespace Ecmascript

namespace Role

/-- Whether a phrase is a pattern that names variables only. -/
def isBinding : Role → Bool
  | target use | element use | item use => use = .binding
  | _ => false

/-- Whether a phrase may be a rest element. -/
def isItem : Role → Bool
  | item _ => true
  | _ => false

end Role

/-- A site that a phrase of a role in a scope may stand at. -/
structure Site.Fits (site : Site) (σ : Scope) (role : Role) : Prop where
  inFunction : site.inFunction = σ.inFunction
  inGenerator : site.inGenerator = σ.inGenerator
  inAsync : site.inAsync = σ.inAsync
  inBinding : site.inBinding = true → role.isBinding = true
  mayRest : role.isItem = true → site.mayRest = true
  maySpread : role = .argument → site.maySpread = true

variable {site : Site} {σ : Scope} {role role' : Role} {category : Category}

namespace Site.Fits

theorem deeper (fits : site.Fits σ role) : site.Fits σ.deeper role :=
  ⟨fits.inFunction, fits.inGenerator, fits.inAsync, fits.inBinding, fits.mayRest, fits.maySpread⟩

theorem plain (fits : site.Fits σ role) : site.plain.Fits σ .phrase :=
  ⟨fits.inFunction, fits.inGenerator, fits.inAsync, nofun, nofun, nofun⟩

theorem target (fits : site.Fits σ role) : site.plain.Fits σ (.target .assignment) :=
  ⟨fits.inFunction, fits.inGenerator, fits.inAsync, nofun, nofun, nofun⟩

theorem inner (fits : site.Fits σ role) : site.plain.Fits σ .inner :=
  ⟨fits.inFunction, fits.inGenerator, fits.inAsync, nofun, nofun, nofun⟩

theorem binding (fits : site.Fits σ role) : site.binding.Fits σ (.target .binding) :=
  ⟨fits.inFunction, fits.inGenerator, fits.inAsync, fun _ => rfl, nofun, nofun⟩

theorem parameters (fits : site.Fits σ role) : site.parameters.Fits σ (.item .binding) :=
  ⟨fits.inFunction, fits.inGenerator, fits.inAsync, fun _ => rfl, fun _ => rfl, nofun⟩

theorem arguments (fits : site.Fits σ role) : site.arguments.Fits σ .argument :=
  ⟨fits.inFunction, fits.inGenerator, fits.inAsync, nofun, nofun, fun _ => rfl⟩

theorem function {isAsync isGenerator : Bool} :
    (Site.function isAsync isGenerator).Fits (σ.function isAsync isGenerator) .phrase :=
  ⟨rfl, rfl, rfl, nofun, nofun, nofun⟩

theorem field : Site.script.Fits σ.field .phrase :=
  ⟨rfl, rfl, rfl, nofun, nofun, nofun⟩

theorem script : Site.script.Fits Scope.script .phrase :=
  ⟨rfl, rfl, rfl, nofun, nofun, nofun⟩

theorem weaken (fits : site.Fits σ role) (binding : role.isBinding = role'.isBinding)
    (item : role'.isItem = true → role.isItem = true)
    (argument : role' = .argument → role = .argument) : site.Fits σ role' :=
  ⟨fits.inFunction, fits.inGenerator, fits.inAsync, fun names => binding ▸ fits.inBinding names,
    fun rests => fits.mayRest (item rests), fun spreads => fits.maySpread (argument spreads)⟩

/-- What is no item may stand where no rest element may stand. -/
theorem withoutRest (fits : site.Fits σ role) (binding : role.isBinding = role'.isBinding)
    (item : role'.isItem = false) (argument : role' ≠ .argument) :
    { site with mayRest := false }.Fits σ role' :=
  ⟨fits.inFunction, fits.inGenerator, fits.inAsync, fun names => binding ▸ fits.inBinding names,
    fun rests => absurd rests (by simp [item]), fun spreads => absurd spreads argument⟩

theorem items {use : Parser.PatternUse} (fits : site.Fits σ (.target use)) :
    { site with mayRest := true }.Fits σ.deeper (.item use) :=
  ⟨fits.inFunction, fits.inGenerator, fits.inAsync, fits.inBinding, fun _ => rfl, nofun⟩

/-- The head of a list that may end in a rest element is the end of the list or no rest element. -/
theorem head {isLast : Bool} (fits : site.Fits σ role)
    (role' : Role) (front : role' = role.front ∨ role' = role ∧ isLast = true) :
    { site with mayRest := site.mayRest && isLast }.Fits σ role' := by
  obtain ⟨inFunction, inGenerator, inAsync, inBinding, mayRest, maySpread⟩ := fits
  refine ⟨inFunction, inGenerator, inAsync, ?_, ?_, ?_⟩
  · rcases front with rfl | ⟨rfl, _⟩
    · intro names
      cases role <;> exact inBinding names
    · exact inBinding
  · rcases front with rfl | ⟨rfl, rfl⟩
    · cases role <;> nofun
    · simpa using mayRest
  · rcases front with rfl | ⟨rfl, _⟩
    · cases role <;> first | exact maySpread | nofun
    · exact maySpread

end Site.Fits

theorem Node.Obeys.grammatical {node : Node category} (admits : site.Admits node)
    (parts : ∀ part ∈ node.parts, part.2.Obeys grammatical (site.inside node part.1)) :
    node.Obeys grammatical site :=
  .intro admits parts

namespace Node

theorem obeys_grammatical_located {start stop : Nat} {item : Node category} :
    (Node.located start stop item).Obeys grammatical site ↔ item.Obeys grammatical site := by
  constructor
  · intro obeys
    exact (obeys_iff.1 obeys).2 ⟨_, item⟩ (List.mem_singleton.2 rfl)
  · intro obeys
    exact .grammatical trivial (List.forall_mem_singleton.2 obeys)

/-- A phrase without parts asks for nothing. -/
theorem obeys_grammatical_leaf {node : Node category} (leaf : node.parts = []) :
    node.Obeys grammatical site := by
  refine .grammatical ?_ (by rw [leaf]; nofun)
  cases node <;> trivial

theorem obeys_grammatical_nil : (.nil : Many category).Obeys grammatical site :=
  obeys_grammatical_leaf rfl

theorem obeys_grammatical_cons {head : Node category} {tail : Many category} :
    (Node.cons head tail).Obeys grammatical site ↔
      head.Obeys grammatical { site with mayRest := site.mayRest && tail.count = 0 } ∧
        tail.Obeys grammatical site := by
  have other : category ≠ .list category := by
    intro same
    have := congrArg sizeOf same
    simp at this
  have first : site.inside (.cons head tail) category =
      { site with mayRest := site.mayRest && tail.count = 0 } := if_neg other
  have rest : site.inside (.cons head tail) (.list category) = site := if_pos rfl
  rw [← first]
  conv => rhs; rhs; rw [← rest]
  constructor
  · intro obeys
    obtain ⟨obeys, obeys'⟩ := List.forall_mem_cons.1 (obeys_iff.1 obeys).2
    exact ⟨obeys, obeys' ⟨_, tail⟩ (List.mem_singleton.2 rfl)⟩
  · rintro ⟨obeys, obeys'⟩
    exact .grammatical trivial (List.forall_mem_cons.2 ⟨obeys, List.forall_mem_singleton.2 obeys'⟩)

/-- A template has one chunk more than expressions. -/
theorem obeys_grammatical_template {chunks : Many (.located .word)}
    {expressions : Many (.located .expression)} :
    (Node.template chunks expressions).Obeys grammatical site ↔
      chunks.count = expressions.count + 1 ∧ chunks.Obeys grammatical site.plain ∧
        expressions.Obeys grammatical site.plain := by
  constructor
  · intro obeys
    obtain ⟨admits, parts⟩ := obeys_iff.1 obeys
    obtain ⟨obeys, obeys'⟩ := List.forall_mem_cons.1 parts
    exact ⟨admits, obeys, obeys' ⟨_, expressions⟩ (List.mem_singleton.2 rfl)⟩
  · rintro ⟨admits, obeys, obeys'⟩
    exact .grammatical admits (List.forall_mem_cons.2 ⟨obeys, List.forall_mem_singleton.2 obeys'⟩)

end Node

/-- Phrases of the same tokens are grammatical at the sites of their roles. -/
theorem Wraps.grammatical {inner outer : Category} {node : Node inner} {node' : Node outer}
    (wraps : Wraps role node role' node')
    (obeys : ∀ {site : Site}, site.Fits σ role → node.Obeys grammatical site)
    (fits : site.Fits σ role') : node'.Obeys grammatical site := by
  cases wraps with
  | bindingName _ _ | identifierTarget _ => exact .grammatical trivial nofun
  | blockStatement body =>
      exact .grammatical trivial (Node.obeys_iff.1 (obeys fits.plain)).2
  | memberTarget _ _ | computedTarget _ _ =>
      have names : site.inBinding = false := by
        rw [Bool.eq_false_iff]
        exact fun names => nomatch fits.inBinding names
      exact .grammatical names (List.forall_mem_singleton.2 (obeys fits.plain))
  | patternHead _ => exact .grammatical trivial (List.forall_mem_singleton.2 (obeys fits.target))
  | _ => exact .grammatical trivial (List.forall_mem_singleton.2 (obeys fits.plain))

/-- What a list of tokens holds is grammatical. -/
theorem Covers.grammatical {ts : List Token} {node : Node category}
    (inside : Covers σ role ts node) :
    ∀ {site : Site}, site.Fits σ role → node.Obeys grammatical site := by
  induction inside with
  | wider _ _ _ _ ih => exact ih
  | deeper _ ih => exact fun fits => ih fits.deeper
  | located _ _ ih => exact fun fits => Node.obeys_grammatical_located.2 (ih fits)
  | wraps wraps _ ih =>
      intro site fits
      refine Node.obeys_grammatical_located.2 (wraps.grammatical (fun fits => ?_) fits)
      exact Node.obeys_grammatical_located.1 (ih fits)
  | statement _ _ ih => exact fun fits => ih (fits.deeper.weaken rfl nofun nofun)
  | argument _ ih => exact fun fits => ih (fits.weaken rfl nofun nofun)
  | element _ ih | item _ ih => exact fun fits => ih (fits.weaken rfl nofun nofun)
  -- Lists
  | nil => exact fun _ => Node.obeys_grammatical_nil
  | cons _ _ ih ih' =>
      exact fun fits => Node.obeys_grammatical_cons.2 ⟨ih (fits.head _ (.inl rfl)), ih' fits⟩
  | last _ ih =>
      exact fun fits => Node.obeys_grammatical_cons.2
        ⟨ih (fits.head _ (.inr ⟨rfl, rfl⟩)), Node.obeys_grammatical_nil⟩
  | some _ ih => exact fun fits => .grammatical trivial (List.forall_mem_singleton.2 (ih fits))
  -- Single tokens
  | plainExpression plain => exact fun _ => Node.obeys_grammatical_leaf (parts_plainExpression plain)
  | plainKey plain => exact fun _ => Node.obeys_grammatical_leaf (parts_plainKey plain)
  | chunk _ => exact fun _ => Node.obeys_grammatical_located.2 (Node.obeys_grammatical_leaf rfl)
  | none | word _ | bindingIdentifier _ | shorthandProperty _ | emptyStatement
  | debuggerStatement => exact fun _ => Node.obeys_grammatical_leaf rfl
  -- Phrases with one part in the same function
  | expressionStatement _ ih | breakStatement _ ih | continueStatement _ ih | throwStatement _ ih
  | block _ ih | computedKey _ ih | objectExpression _ ih | expressionBody _ ih | blockBody _ ih
  | spreadProperty _ ih =>
      exact fun fits => .grammatical trivial (List.forall_mem_singleton.2 (ih fits.plain))
  | variableStatement admits _ ih | declarationHead admits _ ih | sequenceExpression admits _ ih
  | postfixUpdate admits _ ih =>
      exact fun fits => .grammatical admits (List.forall_mem_singleton.2 (ih fits.plain))
  | unaryExpression _ _ ih =>
      exact fun fits => .grammatical trivial (List.forall_mem_singleton.2 (ih fits.plain.deeper))
  | prefixUpdate _ admits _ ih =>
      exact fun fits => .grammatical admits (List.forall_mem_singleton.2 (ih fits.plain.deeper))
  | spreadExpression _ ih =>
      exact fun fits => .grammatical (fits.maySpread rfl)
        (List.forall_mem_singleton.2 (ih fits.plain))
  | arrayExpression _ ih =>
      exact fun fits => .grammatical trivial (List.forall_mem_singleton.2 (ih fits.arguments))
  | returnStatement inFunction _ ih =>
      exact fun fits => .grammatical (fits.inFunction.trans inFunction)
        (List.forall_mem_singleton.2 (ih fits.plain))
  | yieldExpression inGenerator _ ih =>
      exact fun fits => .grammatical (fits.inGenerator.trans inGenerator)
        (List.forall_mem_singleton.2 (ih fits.plain))
  | awaitExpression inAsync _ _ ih =>
      exact fun fits => .grammatical (fits.inAsync.trans inAsync)
        (List.forall_mem_singleton.2 (ih fits.plain.deeper))
  -- Phrases with several parts in the same function
  | whileStatement _ _ ih ih' | doStatement _ _ ih ih' | switchStatement _ _ ih ih'
  | labeledStatement _ _ ih ih' | switchCase _ _ ih ih' | taggedTemplate _ _ ih ih'
  | memberExpression _ _ ih ih' | computedMember _ _ ih ih' | binaryExpression _ _ ih ih'
  | logicalExpression _ _ ih ih' | valueProperty _ _ ih ih' =>
      exact fun fits => .grammatical trivial
        (List.forall_mem_cons.2 ⟨ih fits.plain, List.forall_mem_singleton.2 (ih' fits.plain)⟩)
  | methodMember admits _ _ ih ih' =>
      exact fun fits => .grammatical admits
        (List.forall_mem_cons.2 ⟨ih fits.plain, List.forall_mem_singleton.2 (ih' fits.plain)⟩)
  | methodProperty plain suits _ _ ih ih' =>
      exact fun fits => .grammatical ⟨plain, suits⟩
        (List.forall_mem_cons.2 ⟨ih fits.plain, List.forall_mem_singleton.2 (ih' fits.plain)⟩)
  | assignmentExpression admits _ _ ih ih' =>
      exact fun fits => .grammatical admits
        (List.forall_mem_cons.2 ⟨ih fits.target, List.forall_mem_singleton.2 (ih' fits.plain)⟩)
  | callExpression _ _ ih ih' | newExpression _ _ ih ih' =>
      exact fun fits => .grammatical trivial
        (List.forall_mem_cons.2 ⟨ih fits.plain, List.forall_mem_singleton.2 (ih' fits.arguments)⟩)
  | ifStatement _ _ _ ih ih' ih'' | classDefinition _ _ _ ih ih' ih''
  | conditionalExpression _ _ _ ih ih' ih'' =>
      exact fun fits => .grammatical trivial (List.forall_mem_cons.2 ⟨ih fits.plain,
        List.forall_mem_cons.2 ⟨ih' fits.plain, List.forall_mem_singleton.2 (ih'' fits.plain)⟩⟩)
  | forInStatement admits _ _ _ ih ih' ih'' | forOfStatement admits _ _ _ ih ih' ih''
  | tryStatement admits _ _ _ ih ih' ih'' =>
      exact fun fits => .grammatical admits (List.forall_mem_cons.2 ⟨ih fits.plain,
        List.forall_mem_cons.2 ⟨ih' fits.plain, List.forall_mem_singleton.2 (ih'' fits.plain)⟩⟩)
  | forStatement plain _ _ _ _ head test update body =>
      intro site fits
      refine .grammatical plain (List.forall_mem_cons.2 ⟨head fits.plain, ?_⟩)
      exact List.forall_mem_cons.2 ⟨test fits.plain, List.forall_mem_cons.2
        ⟨update fits.plain, List.forall_mem_singleton.2 (body fits.plain)⟩⟩
  | wholeTemplate _ ih =>
      intro site fits
      have front : site.plain.Fits _ .chunk := fits.plain.weaken rfl nofun nofun
      have chunks := Node.obeys_grammatical_cons.2
        ⟨ih (front.head _ (.inl rfl)), Node.obeys_grammatical_nil⟩
      exact Node.obeys_grammatical_template.2 ⟨rfl, chunks, Node.obeys_grammatical_nil⟩
  | longerTemplate _ _ _ ih ih' ih'' =>
      intro site fits
      have front : site.plain.Fits _ .chunk := fits.plain.weaken rfl nofun nofun
      obtain ⟨count, chunks, expressions⟩ := Node.obeys_grammatical_template.1 (ih'' fits)
      exact Node.obeys_grammatical_template.2 ⟨congrArg (· + 1) count,
        Node.obeys_grammatical_cons.2 ⟨ih (front.head _ (.inl rfl)), chunks⟩,
        Node.obeys_grammatical_cons.2 ⟨ih' (fits.plain.head _ (.inl rfl)), expressions⟩⟩
  -- Functions
  | function _ _ _ ih ih' ih'' =>
      exact fun fits => .grammatical trivial (List.forall_mem_cons.2 ⟨ih fits.plain,
        List.forall_mem_cons.2 ⟨ih' Site.Fits.function.parameters,
          List.forall_mem_singleton.2 (ih'' Site.Fits.function)⟩⟩)
  | arrowFunction _ _ ih ih' =>
      exact fun fits => .grammatical trivial (List.forall_mem_cons.2
        ⟨ih fits.parameters, List.forall_mem_singleton.2 (ih' Site.Fits.function)⟩)
  | fieldMember _ _ ih ih' =>
      exact fun fits => .grammatical trivial (List.forall_mem_cons.2
        ⟨ih fits.plain, List.forall_mem_singleton.2 (ih' Site.Fits.field)⟩)
  -- Patterns
  | declarator _ _ ih ih' | handler _ _ ih ih' =>
      exact fun fits => .grammatical trivial (List.forall_mem_cons.2
        ⟨ih fits.binding, List.forall_mem_singleton.2 (ih' fits.plain)⟩)
  | arrayPattern _ _ ih | objectPattern _ _ ih =>
      exact fun fits => .grammatical trivial (List.forall_mem_singleton.2 (ih fits.items))
  | defaultPattern _ _ ih ih' =>
      exact fun fits => .grammatical trivial (List.forall_mem_cons.2
        ⟨ih (fits.withoutRest rfl rfl nofun), List.forall_mem_singleton.2 (ih' fits.plain)⟩)
  | restPattern _ ih | restProperty _ ih =>
      exact fun fits => .grammatical (fits.mayRest rfl)
        (List.forall_mem_singleton.2 (ih (fits.withoutRest rfl rfl nofun)))
  | bindingProperty _ _ ih ih' =>
      exact fun fits => .grammatical trivial (List.forall_mem_cons.2
        ⟨ih fits.plain, List.forall_mem_singleton.2 (ih' (fits.withoutRest rfl rfl nofun))⟩)
  | @shorthandBinding _ _ _ _ name _ _ _ ih =>
      intro site fits
      have key : (Node.nameKey name).Obeys Ecmascript.grammatical site.plain :=
        Node.obeys_grammatical_leaf rfl
      exact .grammatical trivial (List.forall_mem_cons.2 ⟨Node.obeys_grammatical_located.2 key,
        List.forall_mem_singleton.2 (ih (fits.withoutRest rfl rfl nofun))⟩)

/-- Every accepted script is grammatical. -/
theorem parse_grammatical {source : String} {program : Program}
    (accepted : parse source = .ok program) : program.body.Obeys grammatical Site.script := by
  obtain ⟨_, _, ts, _, inside⟩ := covers_of_parseWith accepted
  exact inside.grammatical .script

/-- A generator with a rest parameter. -/
theorem parse_grammatical_generator :
    let rest : Located .pattern :=
      .located 12 16 (.restPattern (.located 15 16 (.bindingIdentifier "a")))
    let yielded : Located .statement :=
      .located 18 23 (.expressionStatement (.located 18 23 (.yieldExpression .none false)))
    let definition : Node .function := .function (.some (.located 10 11 (.word "f"))) true false
      (.single rest) (.located 17 24 (.block (.single yielded)))
    let body : Many (.located .statement) :=
      .single (.located 0 24 (.functionDeclaration definition))
    parse "function* f(...a){yield}" = .ok { start := 0, stop := 24, body } ∧
      body.Obeys grammatical Site.script := by
  intro rest yielded definition body
  have accepted : parse "function* f(...a){yield}" = .ok { start := 0, stop := 24, body } := by
    decide +kernel
  exact ⟨accepted, parse_grammatical accepted⟩

end Ecmascript
