import Mathlib.Data.List.Basic
import Ecmascript.Proofs.Lexer.Guess

/-!
# Braces and substitutions

The open braces that a lexer counts are a function of the tokens that it has given. A substitution
is entered without open braces, is left only without open braces, and no brace is closed in it that
was not opened there.
-/

set_option autoImplicit false

namespace Ecmascript

namespace TokenKind

/-- What a token does to the open braces of the substitutions around it, the innermost first. -/
def nest : TokenKind → List Nat → List Nat
  | template .head _, depths => 0 :: depths
  | template .tail _, _ :: depths => depths
  | punctuator .leftBrace, depth :: depths => (depth + 1) :: depths
  | punctuator .rightBrace, depth :: depths => (depth - 1) :: depths
  | _, depths => depths

/-- A template goes on where all braces of the substitution are closed, and a brace is closed in it
only where one is open. -/
structure NestsIn (kind : TokenKind) (depths : List Nat) : Prop where
  template : ∀ raw, kind = .template .middle raw ∨ kind = .template .tail raw →
    depths.head? = some 0
  brace : kind = .punctuator .rightBrace → depths.head? ≠ some 0

/-- A token that is neither a template chunk nor a punctuator. -/
def IsPlain : TokenKind → Prop
  | template _ _ | punctuator _ => False
  | _ => True

theorem nest_plain {kind : TokenKind} (plain : kind.IsPlain) (depths : List Nat) :
    kind.nest depths = depths := by
  cases kind with
  | template part raw | punctuator mark => cases plain
  | _ => rfl

theorem nestsIn_plain {kind : TokenKind} (plain : kind.IsPlain) (depths : List Nat) :
    kind.NestsIn depths := by
  constructor
  · rintro raw (rfl | rfl) <;> cases plain
  · rintro rfl
    cases plain

theorem nest_punctuator (mark : Punctuator) (depths : List Nat) :
    (punctuator mark).nest depths = Lexer.countBrace mark depths := by
  cases depths <;> cases mark <;> rfl

end TokenKind

namespace Lexer

variable {lexer after : Lexer} {first : Char} {rest : Text} {kind : TokenKind} {token : Token}

/-- What reading a token does to the open braces. -/
structure Nests (lexer : Lexer) (kind : TokenKind) (after : Lexer) : Prop where
  templates : after.templates = kind.nest lexer.templates
  within : kind.NestsIn lexer.templates

theorem Nests.plain (same : after.templates = lexer.templates) (plain : kind.IsPlain) :
    lexer.Nests kind after :=
  ⟨same.trans (TokenKind.nest_plain plain _).symm, TokenKind.nestsIn_plain plain _⟩

theorem isPlain_wordKind (word : Text) : (wordKind word).IsPlain := by
  unfold wordKind
  dsimp only
  split <;> trivial

theorem readString_nests (reads : lexer.readString first rest = (.ok kind, after)) :
    lexer.Nests kind after := by
  unfold readString at reads
  dsimp only at reads
  split at reads <;> cases reads
  exact .plain rfl trivial

theorem readRegex_nests (reads : lexer.readRegex rest = (.ok kind, after)) :
    lexer.Nests kind after := by
  unfold readRegex at reads
  dsimp only at reads
  split at reads <;> cases reads
  exact .plain rfl trivial

/-- The first chunk of a template enters a substitution, or is all of the template. -/
theorem readTemplate_nests (reads : lexer.readTemplate true first rest = (.ok kind, after)) :
    lexer.Nests kind after := by
  unfold readTemplate at reads
  dsimp only at reads
  split at reads
  · cases reads
  · cases reads
    exact ⟨rfl, nofun, nofun⟩
  · cases reads
    exact ⟨rfl, nofun, nofun⟩

/-- A chunk behind a substitution leaves it. It may enter the next one. -/
theorem readTemplate_nests_again (closed : lexer.templates.head? = some 0)
    (reads : ({ lexer with templates := lexer.templates.tail } : Lexer).readTemplate false first
      rest = (.ok kind, after)) : lexer.Nests kind after := by
  obtain ⟨depths, templates⟩ := List.head?_eq_some_iff.1 closed
  unfold readTemplate at reads
  dsimp only at reads
  split at reads
  · cases reads
  · cases reads
    refine ⟨?_, fun _ _ => closed, nofun⟩
    change lexer.templates.tail = _
    rw [templates]
    rfl
  · cases reads
    refine ⟨?_, fun _ _ => closed, nofun⟩
    change 0 :: lexer.templates.tail = _
    rw [templates]
    rfl

theorem readPunctuator_nests
    (open_ : first = '\x7d' → lexer.templates.head? ≠ some 0)
    (reads : lexer.readPunctuator first rest = (.ok kind, after)) : lexer.Nests kind after := by
  unfold readPunctuator at reads
  split at reads
  · rename_i mark found
    cases reads
    refine ⟨(TokenKind.nest_punctuator mark _).symm, nofun, fun same => open_ ?_⟩
    cases same
    obtain ⟨_, whole⟩ := Punctuator.spelling_prefix_of_longest found
    exact (List.cons.inj whole).1.symm
  · cases reads

theorem readKind_nests (reads : lexer.readKind first rest = (.ok kind, after)) :
    lexer.Nests kind after := by
  unfold readKind at reads
  split at reads
  · cases reads
    exact .plain rfl (isPlain_wordKind _)
  split at reads
  · cases reads
    exact .plain rfl trivial
  split at reads
  · exact readString_nests reads
  split at reads
  · exact readTemplate_nests reads
  split at reads
  · rename_i closes
    rw [Bool.and_eq_true, decide_eq_true_eq, decide_eq_true_eq] at closes
    exact readTemplate_nests_again closes.2 reads
  rename_i inside
  have open_ (brace : first = '\x7d') : lexer.templates.head? ≠ some 0 := by
    intro closed
    rw [decide_eq_true brace, decide_eq_true closed] at inside
    exact inside rfl
  split at reads
  · split at reads
    · rename_i regex
      cases reads
      exact readRegex_nests regex
    · exact readPunctuator_nests open_ reads
  · exact readPunctuator_nests open_ reads

theorem nextWith_nests {endsOperand : TokenKind → Bool}
    (outcome : lexer.nextWith endsOperand = (.ok token, after)) : lexer.Nests token.kind after := by
  unfold nextWith at outcome
  split at outcome
  · cases outcome
  · rename_i position rest newline skips
    cases rest with
    | nil =>
        cases outcome
        exact .plain rfl trivial
    | cons first rest =>
        dsimp only at outcome
        split at outcome
        · cases outcome
        · rename_i reads
          cases outcome
          have nests := readKind_nests reads
          exact ⟨nests.templates, nests.within⟩

/-- A slash that is read again as a regular expression has no braces outside of it. -/
theorem rescanRegex_nests {again : Token} (outcome : lexer.rescanRegex token = (.ok again, after)) :
    lexer.Nests again.kind after := by
  unfold rescanRegex at outcome
  dsimp only at outcome
  split at outcome
  · cases outcome
  · rename_i reads
    cases outcome
    have nests := readRegex_nests reads
    exact ⟨nests.templates, nests.within⟩

theorem rescanRegex_kind {again : Token} (outcome : lexer.rescanRegex token = (.ok again, after)) :
    ∃ raw, again.kind = .regex raw := by
  unfold rescanRegex readRegex at outcome
  dsimp only at outcome
  split at outcome
  · cases outcome
  · rename_i reads
    split at reads <;> cases reads
    cases outcome
    exact ⟨_, rfl⟩

theorem rescanDivide_nests (lexer : Lexer) (token : Token) :
    lexer.Nests (lexer.rescanDivide token).1.kind (lexer.rescanDivide token).2 := by
  unfold rescanDivide
  dsimp only
  refine ⟨?_, nofun, ?_⟩
  · split <;> change lexer.templates = _ <;> cases lexer.templates <;> rfl
  · split <;> nofun

/-! ## Runs -/

/-- A lexer that has given some tokens, one after the other. The token given last may be read again,
and counts again then. -/
inductive Gave (source : Text) : List Token → Lexer → Prop
  | start : Gave source [] (ofText source)
  | next {tokens : List Token} {lexer after : Lexer} {token : Token}
      (gave : Gave source tokens lexer) (reads : lexer.next = (.ok token, after)) :
      Gave source (tokens ++ [token]) after
  | regex {tokens : List Token} {lexer after : Lexer} {token again : Token}
      (gave : Gave source (tokens ++ [token]) lexer)
      (reads : lexer.rescanRegex token = (.ok again, after)) :
      Gave source (tokens ++ [token, again]) after
  | divide {tokens : List Token} {lexer after : Lexer} {token again : Token}
      (gave : Gave source (tokens ++ [token]) lexer)
      (reads : lexer.rescanDivide token = (again, after)) :
      Gave source (tokens ++ [token, again]) after

/-- The open braces behind some tokens. -/
def nesting (tokens : List Token) : List Nat :=
  tokens.foldl (fun depths token => token.kind.nest depths) []

theorem nesting_append (tokens : List Token) (token : Token) :
    nesting (tokens ++ [token]) = token.kind.nest (nesting tokens) := by
  rw [nesting, List.foldl_append]
  rfl

/-- The open braces of a lexer are those behind the tokens that it has given, each of which stands
where it may. -/
theorem Gave.nested {source : Text} {tokens : List Token} (gave : Gave source tokens lexer) :
    lexer.templates = nesting tokens ∧
      ∀ before token behind, tokens = before ++ token :: behind →
        token.kind.NestsIn (nesting before) := by
  have more {tokens : List Token} {token : Token} {lexer after : Lexer}
      (nests : lexer.Nests token.kind after)
      (holds : lexer.templates = nesting tokens ∧
        ∀ before token behind, tokens = before ++ token :: behind →
          token.kind.NestsIn (nesting before)) :
      after.templates = nesting (tokens ++ [token]) ∧
        ∀ before token' behind, tokens ++ [token] = before ++ token' :: behind →
          token'.kind.NestsIn (nesting before) := by
    refine ⟨?_, fun before token' behind split => ?_⟩
    · rw [nesting_append, ← holds.1]
      exact nests.templates
    · rcases List.eq_nil_or_concat' behind with rfl | ⟨behind, last, rfl⟩
      · obtain ⟨rfl, same⟩ := List.append_inj' split rfl
        cases same
        exact holds.1 ▸ nests.within
      · rw [← List.cons_append, ← List.append_assoc] at split
        exact holds.2 before token' behind (List.append_inj' split rfl).1
  induction gave with
  | start => exact ⟨rfl, fun before token behind split => by simp at split⟩
  | next _ reads ih => exact more (nextWith_nests reads) ih
  | regex _ reads ih =>
      have holds := more (rescanRegex_nests reads) ih
      rwa [List.append_assoc] at holds
  | @divide _ lexer _ token _ _ reads ih =>
      have holds := more (rescanDivide_nests lexer token) ih
      rw [reads, List.append_assoc] at holds
      exact holds

end Lexer

end Ecmascript
