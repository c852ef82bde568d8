import Ecmascript.Proofs.Cover.Quoted

/-!
# Literals of accepted scripts

A literal is a single token and begins where the token does, so what holds of the tokens that have a
value holds of the literals of a tree. No token is empty: no literal of an accepted script is
without text. A string has at least its quotes, which tells it from its own contents.
-/

set_option autoImplicit false

namespace Ecmascript

/-! ## Values of tokens -/

/-- The value of a token that is a literal. -/
def TokenKind.value? : TokenKind → Option LiteralValue
  | .number raw => some (.number raw)
  | .string raw => some (.string raw)
  | .regex raw => some (.regex raw)
  | .keyword .trueWord => some (.boolean true)
  | .keyword .falseWord => some (.boolean false)
  | .keyword .nullWord => some .null
  | _ => none

theorem value_plainExpression {kind : TokenKind} {expression : Node .expression}
    (plain : Parser.plainExpression? kind = some expression) : expression.value? = kind.value? := by
  unfold Parser.plainExpression? at plain
  split at plain <;> cases plain <;> rfl

theorem value_plainKey {kind : TokenKind} {key : Node .key} {value : LiteralValue}
    (plain : Parser.plainKey? kind = some key) (literal : key.value? = some value) :
    kind.value? = some value := by
  unfold Parser.plainKey? at plain
  split at plain
  · cases plain
    exact literal
  · cases plain
    exact literal
  · obtain ⟨name, _, rfl⟩ := Option.map_eq_some_iff.1 plain
    cases literal

/-- A phrase that becomes another one of the same tokens keeps its value. -/
theorem Wraps.value {role role' : Role} {inner outer : Category} {node : Node inner}
    {node' : Node outer} (wraps : Wraps role node role' node') : node'.value? = node.value? := by
  cases wraps <;> rfl

variable {σ : Scope} {role : Role} {ts : List Token} {category : Category} {node : Node category}

/-- A literal is a single token of the same value. -/
theorem Covers.value (inside : Covers σ role ts node) {value : LiteralValue}
    (literal : node.value? = Option.some value) :
    ∃ token, ts = [token] ∧ token.kind.value? = Option.some value := by
  induction inside with
  | wider _ _ _ bare _ => cases bare.symm.trans (Node.text_of_value literal)
  | deeper _ ih | argument _ ih | element _ ih | item _ ih => exact ih literal
  | @plainExpression σ token expression plain =>
      exact ⟨token, rfl, (value_plainExpression plain).symm.trans literal⟩
  | @plainKey σ token key plain => exact ⟨token, rfl, value_plainKey plain literal⟩
  | _ => cases literal

/-! ## Places of literals -/

variable {holds : Nat → LiteralValue → Prop}

/-- The value of a token is that of a literal, with what holds of it and where it begins. -/
def Token.LiteralAt (holds : Nat → LiteralValue → Prop) (token : Token) : Prop :=
  ∀ value ∈ token.kind.value?, holds token.start value

theorem leafLaw_literals (holds : Nat → LiteralValue → Prop) :
    LeafLaw (Token.LiteralAt holds) fun start _ _ node => node.LiteralAt holds start where
  bare {category node start stop} bare value literal := by
    cases bare.symm.trans (Node.text_of_value literal)
  wraps wraps here value literal := here value (wraps.value.symm.trans literal)
  leaf {σ role token category node} good inside _ value literal := by
    obtain ⟨_, same, kind⟩ := inside.value literal
    obtain rfl := List.singleton_inj.1 same
    exact good value kind
  chunk _ _ _ literal := by cases literal

/-- What holds of the tokens that are literals holds of the literals among the phrases that they
hold. -/
theorem Covers.literals (inside : Covers σ role ts node) (start : Nat)
    (proper : category.isProper = true) (other : category.isLiteral = false)
    (each : ∀ token ∈ ts, token.LiteralAt holds) : node.Obeys (Ecmascript.literals holds) start :=
  node.obeys_literals start proper (Node.literalAt_of_category other)
    (inside.everywhere_atPlaces (leafLaw_literals holds) each)

/-! ## Literals with text -/

/-- A literal has text. -/
def Node.IsWritten : {category : Category} → Node category → Prop
  | _, .literal value | _, .literalKey value => value.text ≠ []
  | _, _ => True

theorem Token.Written.lexeme_ne_nil {source : Text} {token : Token}
    (written : token.Written source) (filled : token.start < token.stop) :
    token.kind.lexeme ≠ [] := by
  intro empty
  have stop := written.stop
  rw [empty] at stop
  exact absurd stop (Nat.ne_of_gt filled)

theorem TokenKind.lexeme_of_value {kind : TokenKind} {value : LiteralValue}
    (literal : kind.value? = some value) : kind.lexeme = value.text := by
  unfold value? at literal
  split at literal <;> cases literal <;> rfl

/-- Literals that tokens hold have text when the tokens have. -/
theorem Covers.isWritten (inside : Covers σ role ts node) (proper : category.isProper = true)
    (other : category.isLiteral = false) (nonempty : ∀ token ∈ ts, token.kind.lexeme ≠ []) :
    node.Everywhere Node.IsWritten := by
  have texts : node.Obeys (Ecmascript.literals fun _ value => value.text ≠ []) 0 := by
    refine inside.literals 0 proper other fun token member value literal => ?_
    rw [← TokenKind.lexeme_of_value literal]
    exact nonempty token member
  refine texts.everywhere fun {category start node} obeys => ?_
  have here := (Node.obeys_iff.1 obeys).1
  cases node with
  | literal value | literalKey value => exact here value rfl
  | _ => trivial

end Ecmascript
