import Ecmascript.Proofs.Cover.Reads
import Ecmascript.Proofs.Lexer.Nesting

/-!
# Levels of substitutions

How many template substitutions are open in front of the next token. Only the first chunk of a
template goes a level deeper, and only the last one comes back, so every other parser that succeeds
stays on its level. A parser is steady when it does; what is known about the state before and behind
it says which token is read where.
-/

set_option autoImplicit false

namespace Ecmascript

/-- Whether a token has another number of open substitutions in front of it than behind it. -/
def TokenKind.crosses : TokenKind → Bool
  | template .head _ | template .tail _ => true
  | _ => false

theorem TokenKind.length_nest {kind : TokenKind} (flat : kind.crosses = false)
    (depths : List Nat) : (kind.nest depths).length = depths.length := by
  cases kind with
  | template part raw => cases part <;> cases flat <;> rfl
  | punctuator mark => cases mark <;> cases depths <;> rfl
  | _ => rfl

namespace Parser

/-- The number of substitutions that are open in front of the next token. The lexer is behind it. -/
def State.Level (s : State) (levels : Nat) : Prop :=
  match s.current.kind with
  | .template .head _ => s.lexer.templates.length = levels + 1
  | .template .tail _ => s.lexer.templates.length + 1 = levels
  | _ => s.lexer.templates.length = levels

variable {setup : Setup} {s s' : State} {levels : Nat}

theorem level_iff (flat : s.current.kind.crosses = false) :
    s.Level levels ↔ s.lexer.templates.length = levels := by
  unfold State.Level
  split
  · rename_i kind
    rw [kind] at flat
    cases flat
  · rename_i kind
    rw [kind] at flat
    cases flat
  · rfl

/-- In front of the next token are the substitutions that the lexer has in front of it. -/
theorem level_of_reads {lexer after : Lexer} {token : Token} {endsOperand : TokenKind → Bool}
    (reads : lexer.nextWith endsOperand = (.ok token, after)) (behind : s.lexer = after)
    (next : s.current = token) : s.Level lexer.templates.length := by
  obtain ⟨templates, within⟩ := Lexer.nextWith_nests reads
  rw [← next] at within
  rw [← behind, ← next] at templates
  unfold State.Level
  split
  · rename_i raw kind
    rw [templates, kind]
    rfl
  · rename_i raw kind
    obtain ⟨depths, closed⟩ := List.head?_eq_some_iff.1 (within.template raw (.inr kind))
    rw [templates, kind, closed]
    rfl
  · rename_i head tail
    rw [templates]
    refine TokenKind.length_nest ?_ _
    unfold TokenKind.crosses
    split
    · exact absurd ‹_› (head _)
    · exact absurd ‹_› (tail _)
    · rfl

/-- The level does not depend on anything but the lexer and the next token. -/
theorem State.Level.beside {t : State} (level : s.Level levels) (lexer : t.lexer = s.lexer)
    (current : t.current = s.current) : t.Level levels := by
  unfold State.Level at level ⊢
  rw [lexer, current]
  exact level

theorem level_of_advance (outcome : advance setup s = .ok () s') :
    s'.Level s.lexer.templates.length := by
  unfold Parser.advance at outcome
  split at outcome
  · rename_i token lexer reads
    cases outcome
    exact level_of_reads reads rfl rfl
  · cases outcome

theorem State.Level.advance (level : s.Level levels) (flat : s.current.kind.crosses = false)
    (outcome : Parser.advance setup s = .ok () s') : s'.Level levels :=
  (level_iff flat).1 level ▸ level_of_advance outcome

/-- Behind a first chunk the next token is a level deeper. -/
theorem State.Level.head {raw : String} (level : s.Level levels)
    (kind : s.current.kind = .template .head raw) (outcome : Parser.advance setup s = .ok () s') :
    s'.Level (levels + 1) := by
  unfold State.Level at level
  rw [kind] at level
  exact level ▸ level_of_advance outcome

/-- Behind a last chunk the next token is a level less deep. -/
theorem State.Level.tail {raw : String} (level : s.Level (levels + 1))
    (kind : s.current.kind = .template .tail raw) (outcome : Parser.advance setup s = .ok () s') :
    s'.Level levels := by
  unfold State.Level at level
  rw [kind] at level
  exact Nat.succ.inj level ▸ level_of_advance outcome

/-- A parser stays on its level where it begins in some states, and ends in others. -/
def Steady {α : Type} (setup : Setup) (pre : State → Prop) (m : Parser α)
    (post : α → State → Prop) : Prop :=
  ∀ s levels value s', pre s → s.Level levels → m setup s = .ok value s' →
    s'.Level levels ∧ post value s'

/-- Nothing is known about the state behind a parser. -/
abbrev Done {α : Type} : α → State → Prop :=
  fun _ _ => True

namespace Steady

variable {pre pre' : State → Prop} {α β : Type} {post post' : α → State → Prop}

theorem weaken {m : Parser α} (steady : Steady setup pre m post) (before : ∀ s, pre' s → pre s)
    (behind : ∀ value s, post value s → post' value s) : Steady setup pre' m post' :=
  fun s levels value s' holds level outcome =>
    (steady s levels value s' (before s holds) level outcome).imp_right (behind value s')

theorem done {m : Parser α} (steady : Steady setup pre m post) : Steady setup pre m Done :=
  steady.weaken (fun _ => id) fun _ _ _ => trivial

theorem bind {m : Parser α} {f : α → Parser β} {last : β → State → Prop}
    (first : Steady setup pre m post) (next : ∀ value, Steady setup (post value) (f value) last) :
    Steady setup pre (m >>= f) last := by
  intro s levels value s' holds level outcome
  obtain ⟨middle, t, outcome, outcome'⟩ := bind_ok outcome
  obtain ⟨level', holds'⟩ := first s levels middle t holds level outcome
  exact next middle t levels value s' holds' level' outcome'

theorem pure {value : α} (behind : ∀ s, pre s → post value s) :
    Steady setup pre (Pure.pure value) post := by
  intro s levels value' s' holds level outcome
  cases outcome
  exact ⟨level, behind _ holds⟩

theorem give {value : α} : Steady setup pre (Pure.pure value) Done :=
  pure fun _ _ => trivial

theorem fail {error : SyntaxError} : Steady setup pre (Parser.fail error) post :=
  fun _ _ _ _ _ _ outcome => nomatch outcome

theorem unexpected : Steady setup pre Parser.unexpected post :=
  fun _ _ _ _ _ _ outcome => nomatch outcome

theorem reservedWord : Steady setup pre Parser.reservedWord post :=
  fun _ _ _ _ _ _ outcome => nomatch outcome

theorem ite {condition : Prop} [Decidable condition] {yes no : Parser α}
    (then_ : condition → Steady setup pre yes post) (else_ : Steady setup pre no post) :
    Steady setup pre (if condition then yes else no) post := by
  split
  · exact then_ ‹_›
  · exact else_

/-! ## Looking at the state -/

/-- A look at the state, of which some is known then. -/
theorem look {m : Parser α} (view : State → α) (answers : ∀ s, m setup s = .ok (view s) s) :
    Steady setup pre m fun value s => pre s ∧ value = view s := by
  intro s levels value s' holds level outcome
  rw [answers] at outcome
  cases outcome
  exact ⟨level, holds, rfl⟩

theorem glance {m : Parser α} (view : State → α) (answers : ∀ s, m setup s = .ok (view s) s) :
    Steady setup pre m fun _ => pre :=
  (look view answers).weaken (fun _ => id) fun _ _ holds => holds.1

theorem position : Steady setup pre Parser.position fun _ => pre :=
  glance _ fun _ => rfl

theorem context : Steady setup pre Parser.context fun _ => pre :=
  glance _ fun _ => rfl

theorem atNewline : Steady setup pre Parser.atNewline fun _ => pre :=
  glance _ fun _ => rfl

theorem atStatementEnd : Steady setup pre Parser.atStatementEnd fun _ => pre :=
  glance _ fun _ => rfl

theorem finish {category : Category} {start : Nat} {item : Node category} :
    Steady setup pre (Parser.finish start item) Done :=
  (glance (fun s => .located start s.previous.stop item) fun _ => rfl).done

theorem currentKind : Steady setup pre Parser.currentKind Next :=
  (look (fun s => s.current.kind) fun _ => rfl).weaken (fun _ => id) fun _ _ holds => holds.2.symm

theorem current : Steady setup pre Parser.current fun token => Next token.kind :=
  (look State.current fun _ => rfl).weaken (fun _ => id) fun _ _ holds =>
    congrArg Token.kind holds.2.symm

theorem at? {kind : TokenKind} : Steady setup pre (Parser.at? kind) fun answer s =>
    pre s ∧ (answer = true → s.current.kind = kind) :=
  (look (fun s => decide (s.current.kind = kind)) fun _ => rfl).weaken (fun _ => id)
    fun _ _ holds => holds.imp_right fun same found => of_decide_eq_true (same.symm.trans found)

theorem peek : Steady setup pre Parser.peek fun token s =>
    pre s ∧ Parser.peek setup s = .ok token s := by
  intro s levels token s' holds level outcome
  obtain rfl : s' = s := by
    unfold Parser.peek at outcome
    split at outcome <;> cases outcome
    rfl
  exact ⟨level, holds, outcome⟩

/-! ## Reading tokens -/

theorem advance (flat : ∀ s, pre s → s.current.kind.crosses = false) :
    Steady setup pre Parser.advance Done :=
  fun s _ _ _ holds level outcome => ⟨level.advance (flat s holds) outcome, trivial⟩

theorem advanceFrom {kind : TokenKind} (flat : kind.crosses = false) :
    Steady setup (Next kind) Parser.advance Done :=
  advance fun _ same => same ▸ flat

theorem ifKind {kind : TokenKind} {m n : Parser α} (yes : Steady setup (Next kind) m post)
    (no : Steady setup pre n post) :
    Steady setup pre (Parser.at? kind >>= fun answer => if answer = true then m else n) post :=
  at?.bind fun _ => ite
    (fun found => yes.weaken (fun _ holds => holds.2 found) fun _ _ => id)
    (no.weaken (fun _ holds => holds.1) fun _ _ => id)

theorem eatMark {mark : Punctuator} : Steady setup pre (Parser.eatMark mark) Done :=
  ifKind ((advanceFrom rfl).bind fun _ => give) give

theorem eatKeyword {word : Keyword} : Steady setup pre (Parser.eatKeyword word) Done :=
  ifKind ((advanceFrom rfl).bind fun _ => give) give

theorem expectMark {mark : Punctuator} : Steady setup pre (Parser.expectMark mark) Done :=
  ifKind (advanceFrom rfl) unexpected

theorem expectKeyword {word : Keyword} : Steady setup pre (Parser.expectKeyword word) Done :=
  ifKind (advanceFrom rfl) unexpected

theorem expectSemicolon : Steady setup pre Parser.expectSemicolon Done :=
  eatMark.bind fun _ => ite (fun _ => give) <| atStatementEnd.bind fun _ =>
    ite (fun _ => give) unexpected

/-- A slash that is read again is on the same level. -/
theorem slashAsRegex : Steady setup pre Parser.slashAsRegex Done := by
  intro s levels value s' _ level outcome
  refine ⟨?_, trivial⟩
  by_cases slash : s.current.kind = .punctuator .slash ∨ s.current.kind = .punctuator .slashAssign
  · have flat : s.current.kind.crosses = false := by
      rcases slash with slash | slash <;> rw [slash] <;> rfl
    rw [slashAsRegex_of_slash setup slash] at outcome
    split at outcome
    · rename_i token lexer reads
      cases outcome
      obtain ⟨raw, kind⟩ := Lexer.rescanRegex_kind reads
      obtain ⟨templates, _⟩ := Lexer.rescanRegex_nests reads
      rw [kind] at templates
      refine (level_iff (by rw [kind]; rfl)).2 ?_
      exact (congrArg List.length templates).trans ((level_iff flat).1 level)
    · cases outcome
  · rw [slashAsRegex_of_not_slash setup slash] at outcome
    cases outcome
    exact level

theorem slashAsDivide : Steady setup pre Parser.slashAsDivide Done := by
  intro s levels value s' _ level outcome
  refine ⟨?_, trivial⟩
  unfold Parser.slashAsDivide at outcome
  split at outcome
  · rename_i raw kind
    have flat : s.current.kind.crosses = false := by rw [kind]; rfl
    have before := (level_iff flat).1 level
    cases outcome
    exact (level_iff rfl).2 before
  · cases outcome
    exact level

/-! ## Scopes and attempts -/

theorem withContext {m : Parser α} {context : Context} (steady : Steady setup Anywhere m Done) :
    Steady setup pre (Parser.withContext context m) Done := by
  intro s levels value s' _ level outcome
  unfold Parser.withContext at outcome
  cases inside : m setup { s with context } with
  | ok result t =>
      rw [inside] at outcome
      cases outcome
      have kept := (steady { s with context } levels _ _ trivial (level.beside rfl rfl) inside).1
      exact ⟨kept.beside rfl rfl, trivial⟩
  | reject error t =>
      rw [inside] at outcome
      cases outcome
  | exhausted =>
      rw [inside] at outcome
      cases outcome

theorem withIn {m : Parser α} {allowIn : Bool} (steady : Steady setup Anywhere m Done) :
    Steady setup pre (Parser.withIn allowIn m) Done :=
  context.bind fun _ => withContext steady

theorem nested {m : Parser α} (steady : Steady setup Anywhere m Done) :
    Steady setup pre (Parser.nested m) Done := by
  intro s levels value s' _ level outcome
  unfold Parser.nested at outcome
  split at outcome
  · cases outcome
  cases inside : m setup { s with depth := s.depth + 1 } with
  | ok result t =>
      rw [inside] at outcome
      cases outcome
      have deeper : State.Level { s with depth := s.depth + 1 } levels := level.beside rfl rfl
      have kept := (steady _ levels _ _ trivial deeper inside).1
      exact ⟨kept.beside rfl rfl, trivial⟩
  | reject error t =>
      rw [inside] at outcome
      cases outcome
  | exhausted =>
      rw [inside] at outcome
      cases outcome

/-- An attempt that fails is where it began. -/
theorem attempt {m : Parser α} {kind : AttemptKind} (steady : Steady setup pre m post) :
    Steady setup pre (Parser.attempt kind m) fun result s => ∀ value, result = some value →
      post value s := by
  intro s levels result s' holds level outcome
  unfold Parser.attempt at outcome
  dsimp only at outcome
  split at outcome
  · cases outcome
    exact ⟨level, nofun⟩
  cases inside : m setup s with
  | ok value t =>
      rw [inside] at outcome
      cases outcome
      obtain ⟨kept, behind⟩ := steady s levels value _ holds level inside
      refine ⟨kept, fun value' same => ?_⟩
      cases same
      exact behind
  | reject error t =>
      rw [inside] at outcome
      cases outcome
      exact ⟨level.beside rfl rfl, nofun⟩
  | exhausted =>
      rw [inside] at outcome
      cases outcome

/-! ## Names -/

/-- A name is a single token. -/
theorem bindingNameWith {behind : State → Prop}
    (ahead : ∀ s s', pre s → Parser.advance setup s = .ok () s' → behind s') :
    Steady setup pre Parser.bindingName fun _ => behind := by
  refine (look State.current fun _ => rfl).bind fun token => ?_
  cases kind : token.kind with
  | identifier name =>
      refine context.bind fun context => ite (fun _ => reservedWord) ?_
      have moves : Steady setup (fun s => pre s ∧ token = s.current) Parser.advance
          fun _ => behind :=
        fun s _ _ s' holds level outcome => ⟨level.advance (by rw [← holds.2, kind]; rfl) outcome,
          ahead s s' holds.1 outcome⟩
      exact moves.bind fun _ => pure fun _ => id
  | keyword word => exact reservedWord
  | _ => exact unexpected

theorem bindingName : Steady setup pre Parser.bindingName Done :=
  bindingNameWith fun _ _ _ _ => trivial

theorem propertyName : Steady setup pre Parser.propertyName Done := by
  refine current.bind fun token => ?_
  cases named : propertyName? token.kind with
  | some name =>
      refine (advanceFrom ?_).bind fun _ => give
      unfold propertyName? at named
      split at named <;> first | cases named; done | (rename_i kind; rw [kind]; rfl)
  | none => exact unexpected

theorem currentName? : Steady setup pre Parser.currentName? Done := by
  refine currentKind.bind fun kind => ?_
  cases kind <;> exact give

end Steady

end Parser

end Ecmascript
