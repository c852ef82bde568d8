import Ecmascript.Proofs.Tree.Parts

/-!
# What holds throughout a tree

A rule about trees says which phrases may stand where. Where a phrase stands is handed down from
the root: each phrase knows the place that it gives to its parts. A tree obeys the rule when every
phrase in it may stand at its place.
-/

set_option autoImplicit false

namespace Ecmascript

/-- A rule about trees: which phrases a place allows, and the place that a phrase gives to its parts
of a category. -/
structure Discipline (Place : Type) where
  allows : {category : Category} → Place → Node category → Prop
  inside : {category : Category} → Place → Node category → Category → Place

namespace Node

/-- A phrase and all phrases in it are allowed at their places. -/
inductive Obeys {Place : Type} (d : Discipline Place) :
    {category : Category} → Place → Node category → Prop
  | intro {category : Category} {place : Place} {node : Node category}
      (allowed : d.allows place node)
      (parts : ∀ part ∈ node.parts, Obeys d (d.inside place node part.1) part.2) :
      Obeys d place node

variable {Place : Type} {d : Discipline Place} {category : Category} {place : Place}
  {node : Node category}

theorem obeys_iff : node.Obeys d place ↔
    d.allows place node ∧ ∀ part ∈ node.parts, part.2.Obeys d (d.inside place node part.1) := by
  constructor
  · rintro ⟨allowed, parts⟩
    exact ⟨allowed, parts⟩
  · rintro ⟨allowed, parts⟩
    exact .intro allowed parts

theorem Obeys.part (obeys : node.Obeys d place) {part : Part} (member : part ∈ node.parts) :
    part.2.Obeys d (d.inside place node part.1) :=
  (obeys_iff.1 obeys).2 part member

/-! ## Rules that are the same everywhere -/

/-- A property holds of a phrase and of all phrases in it. -/
def Everywhere (holds : {category : Category} → Node category → Prop) (node : Node category) :
    Prop :=
  node.Obeys ⟨fun _ node => holds node, fun _ _ _ => ()⟩ ()

variable {holds holds' : {category : Category} → Node category → Prop}

theorem everywhere_iff :
    node.Everywhere holds ↔ holds node ∧ ∀ part ∈ node.parts, part.2.Everywhere holds :=
  obeys_iff

theorem everywhere_cons {head : Node category} {tail : Many category} :
    (Node.cons head tail).Everywhere holds ↔
      holds (Node.cons head tail) ∧ head.Everywhere holds ∧ tail.Everywhere holds := by
  rw [everywhere_iff]
  simp [parts]

theorem everywhere_located {start stop : Nat} {item : Node category} :
    (Node.located start stop item).Everywhere holds ↔
      holds (Node.located start stop item) ∧ item.Everywhere holds := by
  rw [everywhere_iff]
  simp [parts]

theorem everywhere_template {chunks : Many (.located .word)}
    {expressions : Many (.located .expression)} :
    (Node.template chunks expressions).Everywhere holds ↔
      holds (Node.template chunks expressions) ∧ chunks.Everywhere holds ∧
        expressions.Everywhere holds := by
  rw [everywhere_iff]
  simp [parts]

/-- What follows for a phrase from a rule that it obeys holds throughout a tree that obeys it. -/
theorem Obeys.everywhere (obeys : node.Obeys d place)
    (holds_of_obeys : ∀ {category : Category} {place} {node : Node category},
      node.Obeys d place → holds node) : node.Everywhere holds := by
  induction obeys with
  | intro allowed parts ih => exact everywhere_iff.2 ⟨holds_of_obeys (.intro allowed parts), ih⟩

theorem Everywhere.mono (everywhere : node.Everywhere holds)
    (weaker : ∀ {category : Category} {node : Node category}, holds node → holds' node) :
    node.Everywhere holds' :=
  Obeys.everywhere everywhere fun obeys => weaker (obeys_iff.1 obeys).1

end Node

end Ecmascript
