import Ecmascript.Proofs.Cover.Grammatical
import Ecmascript.Proofs.Lowering.Rules

/-!
# Lowering reaches a normal form

No construct that the settings choose is left in a lowered script, and a script without any is left
as it is. Both rely on accepted scripts being grammatical: an expression that stands at no position
of its own is a member of an object, and a power assignment has a target that can be read.
-/

set_option autoImplicit false

namespace Ecmascript

/-- No phrase in a tree is chosen to be lowered. -/
def Settings.Spares (settings : Settings) {category : Category} (node : Node category) : Prop :=
  node.Everywhere fun node => settings.chooses node = false

variable {settings : Settings} {start stop : Nat} {category : Category} {node : Node category}

/-- Grammatical trees can be lowered. -/
theorem isLowerable_of_grammatical {site : Site} (obeys : node.Obeys grammatical site) :
    node.IsLowerable := by
  have member {site : Site} {expression : Node .expression}
      (admits : site.Admits (.expressionPattern expression)) : expression.isMember = true := by
    cases expression <;> first | rfl | cases admits
  obtain ⟨admits, parts⟩ := Node.obeys_iff.1 obeys
  cases node with
  | expressionPattern expression => exact member admits
  | assignmentExpression operator left right =>
      refine admits.imp_right fun simple => ?_
      have target := (List.forall_mem_cons.1 parts).1
      cases left with
      | located start stop pattern =>
          have inside := (Node.obeys_iff.1 (Node.obeys_grammatical_located.1 target)).1
          cases pattern with
          | bindingIdentifier name => rfl
          | expressionPattern expression => exact member inside
          | _ => cases simple
  | _ => trivial

namespace Settings

theorem chooses_eq_false (power : node.isPower = false) (arrow : node.isArrow = false) :
    settings.chooses node = false := by
  simp [chooses, power, arrow]

theorem Spares.intro (kept : settings.chooses node = false)
    (parts : ∀ part ∈ node.parts, settings.Spares part.2) : settings.Spares node :=
  Node.everywhere_iff.2 ⟨kept, parts⟩

theorem Spares.kept (spares : settings.Spares node) : settings.chooses node = false :=
  (Node.everywhere_iff.1 spares).1

theorem Spares.parts (spares : settings.Spares node) :
    ∀ part ∈ node.parts, settings.Spares part.2 :=
  (Node.everywhere_iff.1 spares).2

/-- A phrase of another kind is spared when its parts are. -/
theorem Spares.other (parts : ∀ part ∈ node.parts, settings.Spares part.2)
    (power : node.isPower = false) (arrow : node.isArrow = false) : settings.Spares node :=
  .intro (chooses_eq_false power arrow) parts

end Settings

/-! ## Trees that are spared -/

/-- Rules apply to what the settings choose. -/
theorem Rule.chooses {before after : Node .expression} (rule : Rule settings start before after) :
    settings.chooses before = true := by
  cases rule with
  | power chosen _ _ | powerAssignment chosen _ _ => simp [Settings.chooses, chosen, Node.isPower]
  | arrow chosen _ _ _ => simp [Settings.chooses, chosen, Node.isArrow]

theorem lowerExpression_eq_self {expression : Node .expression}
    (kept : settings.chooses expression = false) :
    lowerExpression settings start expression = expression := by
  rcases lowerExpression_cases expression with ⟨same, _⟩ | rule
  · exact same
  · have chosen := rule.chooses
    rw [kept] at chosen
    cases chosen

/-- A tree that is spared is left as it is. -/
theorem lower_eq_self (spares : settings.Spares node) : node.lower settings = node := by
  induction node using Node.induction_on_parts with
  | step node ih =>
      have below := spares.parts
      have same : node.mapParts (Node.lower settings) = node :=
        (Node.mapParts_congr fun part member => ih part member (below part member)).trans
          Node.mapParts_id
      cases node with
      | @located category start stop item =>
          have inside : settings.Spares item := below ⟨_, item⟩ (List.mem_singleton.2 rfl)
          have lowered : item.lower settings = item := ih ⟨_, item⟩ (List.mem_singleton.2 rfl) inside
          cases category with
          | expression =>
              rw [lower_located_expression, lowered, lowerExpression_eq_self inside.kept]
          | loopHead =>
              cases item with
              | expressionHead expression =>
                  have lowered : expression.lower settings = expression := by injection lowered
                  have spared := inside.parts ⟨_, expression⟩ (List.mem_singleton.2 rfl)
                  rw [lower_located_head, lowered, lowerExpression_eq_self spared.kept]
              | _ => exact same
          | _ => exact same
      | _ => exact same

/-! ## Lowered trees are spared -/

theorem spares_nil : settings.Spares (.nil : Many category) :=
  .other nofun rfl rfl

theorem spares_cons {head : Node category} {tail : Many category} (first : settings.Spares head)
    (rest : settings.Spares tail) : settings.Spares (.cons head tail) :=
  .other (List.forall_mem_cons.2 ⟨first, List.forall_mem_singleton.2 rest⟩) rfl rfl

theorem spares_located (start stop : Nat) (spares : settings.Spares node) :
    settings.Spares (.located start stop node) :=
  .other (List.forall_mem_singleton.2 spares) rfl rfl

/-- A call of `Math.pow` is spared when its arguments are. -/
theorem spares_mathPow (start : Nat) {left right : Located .expression}
    (first : settings.Spares left)
    (second : settings.Spares right) : settings.Spares (mathPow start left right) := by
  have word : settings.Spares (Node.word "pow") := .other nofun rfl rfl
  have object : settings.Spares (Node.identifier "Math") := .other nofun rfl rfl
  have callee : settings.Spares (.memberExpression (.located start start (.identifier "Math"))
      (.located start start (.word "pow"))) :=
    .other (List.forall_mem_cons.2 ⟨spares_located start start object,
      List.forall_mem_singleton.2 (spares_located start start word)⟩) rfl rfl
  have arguments := spares_cons first (spares_cons second spares_nil)
  exact .other (List.forall_mem_cons.2 ⟨spares_located start start callee,
    List.forall_mem_singleton.2 arguments⟩) rfl rfl

theorem ReadAs.spares {target : Located .pattern} {value : Located .expression}
    (reading : ReadAs target value) (spares : settings.Spares target) : settings.Spares value := by
  cases reading with
  | name start stop name => exact spares_located start stop (.other nofun rfl rfl)
  | member start stop expression =>
      have pattern := spares.parts ⟨_, .expressionPattern expression⟩ (List.mem_singleton.2 rfl)
      exact spares_located start stop (pattern.parts ⟨_, expression⟩ (List.mem_singleton.2 rfl))

theorem BecomesBlock.spares {body : Node .arrowBody} {block : Located .block}
    (becomes : BecomesBlock body block) (spares : settings.Spares body) :
    settings.Spares block := by
  cases becomes with
  | block => exact spares.parts ⟨_, block⟩ (List.mem_singleton.2 rfl)
  | value start stop expression =>
      have value : settings.Spares (Node.located start stop expression) :=
        spares.parts ⟨_, _⟩ (List.mem_singleton.2 rfl)
      have result : settings.Spares (Node.some (Node.located start stop expression)) :=
        .other (List.forall_mem_singleton.2 value) rfl rfl
      have returned : settings.Spares (.returnStatement (.some (.located start stop expression))) :=
        .other (List.forall_mem_singleton.2 result) rfl rfl
      have body := spares_cons (spares_located start stop returned) spares_nil
      exact spares_located start stop (.other (List.forall_mem_singleton.2 body) rfl rfl)

/-- What a rule leaves is spared when the parts of what it applied to are. -/
theorem Rule.spares {before after : Node .expression} (rule : Rule settings start before after)
    (parts : ∀ part ∈ before.parts, settings.Spares part.2) : settings.Spares after := by
  cases rule with
  | power _ left right =>
      obtain ⟨first, second⟩ := List.forall_mem_cons.1 parts
      exact spares_mathPow start first (second ⟨_, right⟩ (List.mem_singleton.2 rfl))
  | @powerAssignment _ target value reading right =>
      obtain ⟨first, second⟩ := List.forall_mem_cons.1 parts
      have right := second ⟨_, right⟩ (List.mem_singleton.2 rfl)
      have call := spares_mathPow value.start (reading.spares first) right
      exact .other (List.forall_mem_cons.2 ⟨first,
        List.forall_mem_singleton.2 (spares_located _ _ call)⟩) rfl rfl
  | @arrow _ isAsync parameters body block becomes =>
      obtain ⟨first, second⟩ := List.forall_mem_cons.1 parts
      have body := becomes.spares (second ⟨_, body⟩ (List.mem_singleton.2 rfl))
      have nameless : settings.Spares (.none : Optional (.located .word)) := .other nofun rfl rfl
      have definition : settings.Spares (.function .none false isAsync parameters block) :=
        .other (List.forall_mem_cons.2 ⟨nameless, List.forall_mem_cons.2
          ⟨first, List.forall_mem_singleton.2 body⟩⟩) rfl rfl
      exact .other (List.forall_mem_singleton.2 definition) rfl rfl

/-! ## Lowering leaves spared trees -/

/-- Whether all expressions in a phrase of a category stand at positions or are members of objects.
That is not so of a bare expression, which may be of any kind. -/
def Category.isComplete : Category → Bool
  | expression | loopHead => false
  | list item | option item => item.isComplete
  | located expression | located loopHead => true
  | located item => item.isComplete
  | _ => true

/-- What lowering a phrase achieves before its position is looked at: a bare expression may still be
chosen, but nothing in it is. -/
def Settings.Settles (settings : Settings) : {category : Category} → Node category → Prop
  | .expression, expression => ∀ part ∈ expression.parts, settings.Spares part.2
  | .loopHead, .expressionHead expression => ∀ part ∈ expression.parts, settings.Spares part.2
  | .loopHead, head => settings.Spares head
  | category, node => category.isComplete = true → settings.Spares node

theorem Settings.Settles.spares (settles : settings.Settles node)
    (complete : category.isComplete = true) : settings.Spares node := by
  cases category with
  | expression | loopHead => cases complete
  | _ => exact settles complete

theorem isMember_lower {expression : Node .expression} :
    (expression.lower settings).isMember = expression.isMember := by
  cases expression <;> rfl

theorem isReadable_lower {target : Located .pattern} :
    (target.lower settings).isReadable = target.isReadable := by
  cases target with
  | located start stop pattern =>
      cases pattern with
      | expressionPattern expression => exact isMember_lower
      | _ => rfl

theorem isLowerable_lower {expression : Node .expression} (lowerable : expression.IsLowerable) :
    (expression.lower settings).IsLowerable := by
  cases expression with
  | assignmentExpression operator left right =>
      exact Or.imp_right (fun readable => isReadable_lower.trans readable) lowerable
  | _ => trivial

/-- An expression whose parts are spared is spared once it is lowered at its position. -/
theorem spares_lowerExpression (start : Nat) {expression : Node .expression}
    (lowerable : expression.IsLowerable)
    (parts : ∀ part ∈ expression.parts, settings.Spares part.2) :
    settings.Spares (lowerExpression settings start expression) := by
  rcases lowerExpression_cases expression with ⟨same, kept⟩ | rule
  · rw [same]
    exact .intro (kept lowerable) parts
  · exact rule.spares parts

theorem settles_lower (lowerable : node.Everywhere Node.IsLowerable) :
    settings.Settles (node.lower settings) := by
  induction node using Node.induction_on_parts with
  | step node ih =>
      obtain ⟨itself, below⟩ := Node.everywhere_iff.1 lowerable
      have settles (part : Node.Part) (member : part ∈ node.parts) :
          settings.Settles (part.2.lower settings) := ih part member (below part member)
      have mapped (complete : node.parts.all (fun part => part.1.isComplete) = true) :
          ∀ part ∈ (node.mapParts (Node.lower settings)).parts, settings.Spares part.2 := by
        rw [Node.parts_mapParts]
        intro lowered member
        obtain ⟨part, among, rfl⟩ := List.mem_map.1 member
        exact (settles part among).spares (List.all_eq_true.1 complete part among)
      cases node with
      | @located category start stop item =>
          have inner := settles ⟨_, item⟩ (List.mem_singleton.2 rfl)
          obtain ⟨itself, below⟩ := Node.everywhere_iff.1 (below ⟨_, item⟩ (List.mem_singleton.2 rfl))
          cases category with
          | expression =>
              exact fun _ => spares_located start stop
                (spares_lowerExpression start (isLowerable_lower itself) inner)
          | loopHead =>
              cases item with
              | expressionHead expression =>
                  have itself := (Node.everywhere_iff.1
                    (below ⟨_, expression⟩ (List.mem_singleton.2 rfl))).1
                  have lowered := spares_lowerExpression start (isLowerable_lower itself) inner
                  exact fun _ => spares_located start stop
                    (.other (List.forall_mem_singleton.2 lowered) rfl rfl)
              | _ => exact fun _ => spares_located start stop inner
          | _ => exact fun complete => spares_located start stop (inner.spares complete)
      | cons head tail =>
          intro complete
          have first := settles ⟨_, head⟩ List.mem_cons_self
          have rest := settles ⟨_, tail⟩ (List.mem_cons_of_mem _ (List.mem_singleton.2 rfl))
          exact spares_cons (first.spares complete) (rest.spares complete)
      | some value =>
          intro complete
          have value := settles ⟨_, value⟩ (List.mem_singleton.2 rfl)
          exact .other (List.forall_mem_singleton.2 (value.spares complete)) rfl rfl
      | expressionHead expression => exact settles ⟨_, expression⟩ (List.mem_singleton.2 rfl)
      | expressionPattern expression =>
          have parts := settles ⟨_, expression⟩ (List.mem_singleton.2 rfl)
          have kept : settings.chooses (expression.lower settings) = false := by
            cases expression with
            | memberExpression object property | computedMember object property =>
                exact Settings.chooses_eq_false rfl rfl
            | _ => cases itself
          have member : settings.Spares (expression.lower settings) := .intro kept parts
          exact fun _ => .other (List.forall_mem_singleton.2 member) rfl rfl
      | patternHead _ | declarationHead _ _ => exact .other (mapped rfl) rfl rfl
      | _ => first
          | exact mapped rfl
          | exact fun _ => .other (mapped rfl) rfl rfl

/-- Accepted scripts can be lowered. -/
theorem isLowerable_of_parse {source : String} {program : Program}
    (accepted : parse source = .ok program) : program.body.Everywhere Node.IsLowerable := by
  obtain ⟨_, _, _, _, inside⟩ := covers_of_parseWith accepted
  exact (inside.grammatical .script).everywhere isLowerable_of_grammatical

theorem Settings.chooses_eq_false_iff : settings.chooses node = false ↔
    (settings.lowerPower = true → node.isPower = false) ∧
      (settings.lowerArrow = true → node.isArrow = false) := by
  simp [chooses, Bool.or_eq_false_iff, Bool.and_eq_false_imp]

/-- Lowering reaches a normal form: it applies the chosen rules at expression positions and nowhere
else, leaves nothing that is chosen, and keeps a script as it is just when nothing in it is. -/
theorem parse_lower_normal {source : String} {program : Program}
    (accepted : parse source = .ok program) (settings : Settings) :
    (program.lower settings).start = program.start ∧
      (program.lower settings).stop = program.stop ∧
      Lowers settings program.body (program.lower settings).body ∧
      (settings.lowerPower = true →
        (program.lower settings).body.Everywhere fun node => node.isPower = false) ∧
      (settings.lowerArrow = true →
        (program.lower settings).body.Everywhere fun node => node.isArrow = false) ∧
      (program.lower settings = program ↔
        program.body.Everywhere fun node =>
          (settings.lowerPower = true → node.isPower = false) ∧
            (settings.lowerArrow = true → node.isArrow = false)) := by
  have lowerable : program.body.Everywhere Node.IsLowerable := isLowerable_of_parse accepted
  have spares : settings.Spares (program.lower settings).body := (settles_lower lowerable).spares rfl
  refine ⟨rfl, rfl, lowers_lower program.body, fun chosen => ?_, fun chosen => ?_, ?_⟩
  · exact spares.mono fun kept => (Settings.chooses_eq_false_iff.1 kept).1 chosen
  · exact spares.mono fun kept => (Settings.chooses_eq_false_iff.1 kept).2 chosen
  · constructor
    · intro same
      rw [same] at spares
      exact spares.mono Settings.chooses_eq_false_iff.1
    · intro kept
      have spares : settings.Spares program.body := kept.mono Settings.chooses_eq_false_iff.2
      exact congrArg (fun body => { program with body }) (lower_eq_self spares)

/-- A power is lowered to a call. -/
theorem parse_lower_normal_power :
    let power : Node .expression :=
      .binaryExpression .power (.located 0 1 (.identifier "a")) (.located 3 4 (.identifier "b"))
    let statement : Located .statement :=
      .located 0 4 (.expressionStatement (.located 0 4 power))
    let script : Program := { start := 0, stop := 4, body := .single statement }
    parse "a**b" = .ok script ∧
      Lowers Settings.es5 script.body (script.lower Settings.es5).body ∧
      (script.lower Settings.es5).body.Everywhere fun node => node.isPower = false := by
  intro power statement script
  have accepted : parse "a**b" = .ok script := by
    decide +kernel
  obtain ⟨_, _, lowers, power, _⟩ := parse_lower_normal accepted Settings.es5
  exact ⟨accepted, lowers, power rfl⟩

end Ecmascript
