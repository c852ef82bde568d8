import Ecmascript.Proofs.Cover.Run
import Ecmascript.Proofs.Lexer.Lossless

/-!
# Leaves of accepted scripts

A leaf is a single token, and its text is the text of that token. So the source has the text of
every leaf between its offsets, whatever the leaf became on its way into the tree. Names, keys,
words and literals only occur as phrases with a position, or as loop heads and targets that have
one, so no text of a tree is left out.
-/

set_option autoImplicit false

namespace Ecmascript

/-! ## Leaves and tokens -/

theorem lexeme_of_propertyName {kind : TokenKind} {name : String}
    (named : Parser.propertyName? kind = some name) : kind.lexeme = name.toList := by
  cases kind <;> cases named <;> rfl

theorem text_plainExpression {kind : TokenKind} {expression : Node .expression}
    (plain : Parser.plainExpression? kind = some expression) :
    expression.text? = some kind.lexeme := by
  unfold Parser.plainExpression? at plain
  split at plain <;> cases plain <;> rfl

theorem text_plainKey {kind : TokenKind} {key : Node .key}
    (plain : Parser.plainKey? kind = some key) : key.text? = some kind.lexeme := by
  unfold Parser.plainKey? at plain
  split at plain
  · cases plain
    rfl
  · cases plain
    rfl
  · obtain ⟨name, named, rfl⟩ := Option.map_eq_some_iff.1 plain
    rw [lexeme_of_propertyName named]
    rfl

/-- A phrase that becomes another one of the same tokens keeps its text. -/
theorem Wraps.text {role role' : Role} {inner outer : Category} {node : Node inner}
    {node' : Node outer} (wraps : Wraps role node role' node') : node'.text? = node.text? := by
  cases wraps <;> rfl

variable {σ : Scope} {role : Role} {ts : List Token} {category : Category} {node : Node category}

/-- A leaf is a single token of the same text. -/
theorem Covers.leaf (inside : Covers σ role ts node) {text : Text}
    (leaf : node.text? = Option.some text) : ∃ token, ts = [token] ∧ token.kind.lexeme = text := by
  induction inside with
  | wider _ _ _ bare _ =>
      rw [bare] at leaf
      cases leaf
  | deeper _ ih | argument _ ih | element _ ih | item _ ih => exact ih leaf
  | @word σ token name named =>
      cases leaf
      exact ⟨token, rfl, lexeme_of_propertyName named⟩
  | @plainExpression σ token expression plain =>
      rw [text_plainExpression plain] at leaf
      cases leaf
      exact ⟨token, rfl, rfl⟩
  | @plainKey σ token key plain =>
      rw [text_plainKey plain] at leaf
      cases leaf
      exact ⟨token, rfl, rfl⟩
  | @bindingIdentifier σ use token name named | @shorthandProperty σ token name named =>
      cases leaf
      exact ⟨token, rfl, by rw [named]; rfl⟩
  | _ => cases leaf

/-! ## Properties of located phrases -/

/-- A property of located phrases that is about leaves only: it holds of a leaf at the offsets of a
good token, and of a chunk of template text between its delimiters. -/
structure LeafLaw (good : Token → Prop)
    (holds : Nat → Nat → {category : Category} → Node category → Prop) : Prop where
  bare : ∀ {category : Category} {node : Node category} {start stop : Nat},
    node.text? = none → holds start stop node
  wraps : ∀ {role role' : Role} {inner outer : Category} {node : Node inner} {node' : Node outer}
    {start stop : Nat}, Wraps role node role' node' → holds start stop node →
    holds start stop node'
  leaf : ∀ {σ : Scope} {role : Role} {token : Token} {category : Category} {node : Node category},
    good token → Covers σ role [token] node → node.text? = some token.kind.lexeme →
    holds token.start token.stop node
  chunk : ∀ {token : Token} {part : TemplatePart} {raw : String}, good token →
    token.kind = .template part raw →
    holds (token.start + 1) (token.stop - part.closing.byteLength) (.word raw)

/-- What is a law of leaves at good tokens holds throughout the phrases that good tokens hold. -/
theorem Covers.everywhere_atPlaces {good : Token → Prop}
    {holds : Nat → Nat → {category : Category} → Node category → Prop} (law : LeafLaw good holds)
    (inside : Covers σ role ts node) (each : ∀ token ∈ ts, good token) :
    node.Everywhere (Node.AtPlaces holds) := by
  have single {category : Category} {node : Node category} (atPlaces : node.AtPlaces holds)
      (alone : node.parts = []) : node.Everywhere (Node.AtPlaces holds) := by
    apply Node.everywhere_iff.2
    rw [alone]
    exact ⟨atPlaces, nofun⟩
  induction inside with
  | wider _ _ _ _ ih =>
      simp only [List.forall_mem_append] at each
      exact ih each.2.1
  | deeper _ ih | statement _ _ ih | argument _ ih | element _ ih | item _ ih => exact ih each
  | @located σ role ts start stop category node spans inside ih =>
      refine Node.everywhere_located.2 ⟨?_, ih each⟩
      cases text : node.text? with
      | none => exact law.bare text
      | some lexeme =>
          obtain ⟨token, rfl, rfl⟩ := inside.leaf text
          obtain ⟨first, last, head, final, rfl, rfl⟩ := spans
          cases head
          cases final
          exact law.leaf (each token List.mem_cons_self) inside text
  | wraps wraps _ ih =>
      obtain ⟨here, inside⟩ := Node.everywhere_located.1 (ih each)
      refine Node.everywhere_located.2 ⟨law.wraps wraps here, wraps.everywhere ?_ inside⟩
      cases wraps <;> trivial
  | chunk kind =>
      have here := law.chunk (each _ List.mem_cons_self) kind
      exact Node.everywhere_located.2 ⟨here, single trivial rfl⟩
  | @plainExpression σ token expression plain =>
      have own : expression.AtPlaces holds := by cases expression <;> trivial
      exact single own (parts_plainExpression plain)
  | @plainKey σ token key plain =>
      have own : key.AtPlaces holds := by cases key <;> trivial
      exact single own (parts_plainKey plain)
  | @shorthandBinding σ use token ts name value named _ ih =>
      have plain : Parser.plainKey? token.kind = Option.some (.nameKey name) := by rw [named]; rfl
      have covers : Covers σ .phrase [token] (.nameKey name) := .plainKey plain
      have key : (Node.located token.start token.stop (.nameKey name)).Everywhere
          (Node.AtPlaces holds) := by
        refine Node.everywhere_located.2 ⟨?_, single trivial rfl⟩
        exact law.leaf (each token List.mem_cons_self) covers (text_plainKey plain)
      exact Node.everywhere_iff.2
        ⟨trivial, List.forall_mem_cons.2 ⟨key, List.forall_mem_singleton.2 (ih each)⟩⟩
  | last _ ih => exact Node.everywhere_cons.2 ⟨trivial, ih each, single trivial rfl⟩
  | wholeTemplate _ ih =>
      apply Node.everywhere_template.2
      exact ⟨trivial, Node.everywhere_cons.2 ⟨trivial, ih each, single trivial rfl⟩,
        single trivial rfl⟩
  | longerTemplate _ _ _ ih ih' ih'' =>
      simp only [List.forall_mem_append] at each
      obtain ⟨first, second, rest⟩ := each
      obtain ⟨_, chunks, expressions⟩ := Node.everywhere_template.1 (ih'' rest)
      apply Node.everywhere_template.2
      exact ⟨trivial, Node.everywhere_cons.2 ⟨trivial, ih first, chunks⟩,
        Node.everywhere_cons.2 ⟨trivial, ih' second, expressions⟩⟩
  | _ =>
      apply Node.everywhere_iff.2
      constructor
      · trivial
      · dsimp only [Node.parts]
        simp_all

/-! ## Leaves and the source -/

/-- A text stands between two offsets of a source, with characters beginning at both. -/
structure Text.Shows (source : Text) (start stop : Nat) (text : Text) : Prop where
  first : source.IsBoundary start
  last : source.IsBoundary stop
  slice : source.slice start stop = text

/-- The source has the text of a located leaf between its offsets. -/
def Node.Quotes (source : Text) {category : Category} : Node category → Prop
  | .located start stop item => ∀ text ∈ item.text?, source.Shows start stop text
  | _ => True

variable {source : Text}

theorem Token.Written.shows {token : Token} (written : token.Written source) :
    source.Shows token.start token.stop token.kind.lexeme :=
  ⟨written.boundaries.1, written.boundaries.2, written.slice⟩

/-- Leaves show the text of their tokens. -/
theorem leafLaw_shows (source : Text) : LeafLaw (Token.Written source)
    fun start stop _ node => ∀ text ∈ node.text?, source.Shows start stop text where
  bare bare text leaf := by
    rw [bare] at leaf
    cases leaf
  wraps wraps shows text leaf := shows text (wraps.text.symm.trans leaf)
  leaf {σ role token category node} written _ own text leaf := by
    obtain rfl := Option.some.inj (own.symm.trans leaf)
    exact written.shows
  chunk {token part raw} written kind text leaf := by
    have opening : Text.byteLength part.opening = 1 := by cases part <;> rfl
    have slice := written.slice_chunk kind
    rw [opening] at slice
    obtain ⟨first, last, _⟩ := written.chunk kind
    cases leaf
    exact ⟨first, last, slice⟩

/-- Every leaf among the phrases that written tokens hold is quoted. -/
theorem Covers.quotes (inside : Covers σ role ts node)
    (written : ∀ token ∈ ts, token.Written source) : node.Everywhere (Node.Quotes source) := by
  have places := inside.everywhere_atPlaces (leafLaw_shows source) written
  refine places.mono fun {category node} holds => ?_
  cases node with
  | located start stop item => exact holds
  | _ => trivial

/-- Every leaf of an accepted script holds what the source has between its offsets. -/
theorem parse_quotes {source : String} {program : Program}
    (accepted : parse source = .ok program) :
    program.body.Everywhere (Node.Quotes source.toList) := by
  obtain ⟨_, _, ts, between, inside⟩ := covers_of_parseWith accepted
  apply inside.quotes
  intro token member
  exact (between.1 token member).2.2.2

/-- A name that is the key and the value of a property, and a chunk of template text. -/
theorem parse_quotes_shorthand :
    let property : Located .patternProperty := .located 2 3
      (.bindingProperty (.located 2 3 (.nameKey "a")) (.located 2 3 (.bindingIdentifier "a")) true)
    let target : Located .pattern := .located 1 4 (.objectPattern (.single property))
    let chunk : Located .word := .located 6 7 (.word "b")
    let value : Located .expression :=
      .located 5 8 (.templateExpression (.template (.single chunk) .nil))
    let assignment : Located .expression :=
      .located 1 8 (.assignmentExpression .assign target value)
    let body : Many (.located .statement) :=
      .single (.located 0 9 (.expressionStatement assignment))
    parse "(\x7ba\x7d=`b`)" = .ok { start := 0, stop := 9, body } ∧
      body.Everywhere (Node.Quotes "(\x7ba\x7d=`b`)".toList) := by
  intro property target chunk value assignment body
  have accepted : parse "(\x7ba\x7d=`b`)" = .ok { start := 0, stop := 9, body } := by
    decide +kernel
  exact ⟨accepted, parse_quotes accepted⟩

end Ecmascript
