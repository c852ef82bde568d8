import Ecmascript.Proofs.Translation.Basic

/-!
# Tokens behind a text

The elementary parsers, scopes and attempts, compared on a source and on the same source behind
another text.
-/

set_option autoImplicit false

namespace Ecmascript

/-- A name that a context reserves is one of the two words that contexts reserve. -/
theorem TokenKind.Reserved.of_reserves {context : Context} {name : String}
    (reserves : context.reserves name = true) : (TokenKind.identifier name).Reserved := by
  simp only [Context.reserves, Bool.or_eq_true, Bool.and_eq_true, decide_eq_true_eq] at reserves
  rcases reserves with ⟨_, rfl⟩ | ⟨_, rfl⟩
  · exact .yield
  · exact .await

namespace Parser

namespace Translation.Follows

variable {c : Translation} {place : Place} {α : Type} [Shifts α] {after : α → Place}

/-! ## Looking at the state -/

theorem position : c.Follows place Parser.position Parser.position fun _ => place :=
  view (fun s => s.current.start) (fun _ _ => rfl) fun _ _ related => related.start

theorem currentKind : c.Follows place Parser.currentKind Parser.currentKind fun _ => place :=
  view (fun s => s.current.kind) (fun _ _ => rfl) fun _ _ related => related.kind

theorem kind {k k' : TokenKind → Parser α}
    (next : ∀ kind, c.Follows place (k kind) (k' kind) after) :
    c.Follows place (Parser.currentKind >>= k) (Parser.currentKind >>= k') after :=
  .bind .currentKind next

theorem context : c.Follows place Parser.context Parser.context fun _ => place :=
  view State.context (fun _ _ => rfl) fun _ _ related => related.context

theorem at? (kind : TokenKind) : c.Follows place (Parser.at? kind) (Parser.at? kind) fun _ => place :=
  currentKind.bind fun _ => .pure _

theorem atMark (mark : Punctuator) :
    c.Follows place (Parser.atMark mark) (Parser.atMark mark) fun _ => place :=
  .at? _

theorem atKeyword (word : Keyword) :
    c.Follows place (Parser.atKeyword word) (Parser.atKeyword word) fun _ => place :=
  .at? _

theorem atName (name : String) :
    c.Follows place (Parser.atName name) (Parser.atName name) fun _ => place :=
  .at? _

theorem atNewline : c.Follows .later Parser.atNewline Parser.atNewline fun _ => .later :=
  view (fun s => s.current.newlineBefore) (fun _ _ => rfl) fun _ _ related =>
    (related.settled rfl).1

theorem finish {category : Category} (start : Nat) (item : Node category) :
    c.Follows .later (Parser.finish start item)
      (Parser.finish (start + c.distance) (item.shift c.distance)) fun _ => .later := by
  intro s t related
  change c.Matches _ (.ok (Node.located start s.previous.stop item) s)
    (.ok (Node.located (start + c.distance) t.previous.stop (item.shift c.distance)) t)
  rw [(related.settled rfl).2]
  exact .ok related

/-- A look at the next token. Where no token has been read, it may stand behind a line break. -/
theorem token {k k' : Token → Parser α}
    (next : ∀ (token : Token) (newline : Bool), token.Written c.source →
      (place = .later → newline = token.newlineBefore) → c.Follows place (k token)
        (k' { token.shift c.distance with newlineBefore := newline }) after) :
    c.Follows place (Parser.current >>= k) (Parser.current >>= k') after := by
  intro s t related
  change c.Matches after (k s.current c.setup s) (k' t.current c.setup t)
  rw [related.current]
  exact next s.current _ related.written (fun later => (related.settled later).1) s t related

/-- A look at the next token where a token has been read. -/
theorem laterToken {k k' : Token → Parser α}
    (next : ∀ token : Token, c.Follows .later (k token) (k' (token.shift c.distance)) after) :
    c.Follows .later (Parser.current >>= k) (Parser.current >>= k') after := by
  refine token fun token newline _ same => ?_
  rw [same rfl]
  exact next token

theorem atStatementEnd :
    c.Follows .later Parser.atStatementEnd Parser.atStatementEnd fun _ => .later :=
  laterToken fun _ => .pure _

theorem continuesYield :
    c.Follows .later Parser.continuesYield Parser.continuesYield fun _ => .later :=
  laterToken fun _ => .pure _

/-! ## Failing -/

theorem unexpected : c.Follows place (Parser.unexpected : Parser α) Parser.unexpected after :=
  fun _ _ related =>
    .reject (.unexpected related.written) ⟨rfl, related.start, related.stop⟩ related.toLeft

theorem invalid {start stop : Nat} {reason : Invalidity} (forward : start ≤ stop)
    (first : c.source.IsBoundary start) (last : c.source.IsBoundary stop) :
    c.Follows place (Parser.fail (.invalid start stop reason) : Parser α)
      (Parser.fail (.invalid (start + c.distance) (stop + c.distance) reason)) after :=
  fun _ _ related => .reject (.invalid forward first last) ⟨rfl, rfl, rfl⟩ related.toLeft

/-! ## Reading tokens -/

theorem advance : c.Follows place Parser.advance Parser.advance fun _ => .later := by
  intro s t related
  unfold Parser.advance
  rw [related.lexer, Lexer.nextWith_behind]
  have placed := related.stands.sound.placed
  cases outcome : s.lexer.nextWith c.setup.endsOperand with
  | mk reading lexer =>
      cases reading with
      | ok token =>
          obtain ⟨_, _, moves, _⟩ := Lexer.nextWith_passes outcome
          have ⟨here, slash⟩ := placed.nextWith_inside related.reading outcome
          exact .ok {
            related.toLeft with
            stands := .of_reads placed outcome rfl
            inside := ⟨here, slash⟩
            source := moves.source.trans related.source
            lexer := rfl
            kind := rfl
            start := rfl
            stop := rfl
            context := related.context
            settled := fun _ => ⟨rfl, related.stop⟩ }
      | error error =>
          have fault := placed.nextWith_fault related.reading outcome
          rw [related.source] at fault
          exact .reject (.lexical fault) (SyntaxError.moves_lexical _ _) ⟨related.depth, related.failed⟩

theorem peek : c.Follows place Parser.peek Parser.peek fun _ => place := by
  intro s t related
  unfold Parser.peek
  rw [related.lexer, Lexer.nextWith_behind]
  cases outcome : s.lexer.nextWith c.setup.endsOperand with
  | mk reading lexer =>
      cases reading with
      | ok token => exact .ok related
      | error error =>
          have fault := related.stands.sound.placed.nextWith_fault related.reading outcome
          rw [related.source] at fault
          exact .reject (.lexical fault) (SyntaxError.moves_lexical _ _) related.toLeft

theorem eatMark (mark : Punctuator) :
    c.Follows .later (Parser.eatMark mark) (Parser.eatMark mark) fun _ => .later :=
  .bind (.atMark _) fun _ => .ite (.bind .advance fun _ => .pure _) (.pure _)

theorem eatKeyword (word : Keyword) :
    c.Follows .later (Parser.eatKeyword word) (Parser.eatKeyword word) fun _ => .later :=
  .bind (.atKeyword _) fun _ => .ite (.bind .advance fun _ => .pure _) (.pure _)

theorem expectMark (mark : Punctuator) :
    c.Follows place (Parser.expectMark mark) (Parser.expectMark mark) fun _ => .later :=
  .bind (.atMark _) fun _ => .ite .advance .unexpected

theorem expectKeyword (word : Keyword) :
    c.Follows place (Parser.expectKeyword word) (Parser.expectKeyword word) fun _ => .later :=
  .bind (.atKeyword _) fun _ => .ite .advance .unexpected

theorem expectSemicolon :
    c.Follows .later Parser.expectSemicolon Parser.expectSemicolon fun _ => .later :=
  .bind (.eatMark _) fun _ => .ite (.pure _) <|
    .bind .atStatementEnd fun _ => .ite (.pure _) .unexpected

theorem separator (close : Punctuator) :
    c.Follows .later (Parser.separator close) (Parser.separator close) fun _ => .later :=
  .bind (.atMark _) fun _ => .ite (.pure _) (.expectMark _)

/-! ## Deciding about a slash -/

theorem slashAsRegex :
    c.Follows place Parser.slashAsRegex Parser.slashAsRegex fun _ => place := by
  intro s t related
  by_cases slash : s.current.kind = .punctuator .slash ∨ s.current.kind = .punctuator .slashAssign
  · have isSlash : s.current.kind.isSlash = true := by
      rcases slash with same | same <;> rw [same] <;> rfl
    have runs := slashAsRegex_of_slash c.setup slash
    rw [← related.kind] at slash
    rw [slashAsRegex_of_slash c.setup slash, related.lexer, Lexer.rescanRegex_behind related.start, runs]
    cases outcome : s.lexer.rescanRegex s.current with
    | mk reading lexer =>
        cases reading with
        | ok token =>
            rw [outcome] at runs
            have reads := related.stands.slashAsRegex runs
            exact .ok {
              related.toLeft with
              stands := reads.stands
              inside := related.inside.again isSlash reads (Lexer.rescanRegex_templates outcome)
              source := reads.source.trans related.source
              lexer := rfl
              kind := rfl
              start := rfl
              stop := rfl
              context := related.context
              settled := fun later => ⟨(related.settled later).1.trans
                (Lexer.rescanRegex_newline outcome).symm, (related.settled later).2⟩ }
        | error error =>
            have fault := Lexer.rescanRegex_fault (related.stands.sound.slash isSlash) outcome
            rw [related.source] at fault
            exact .reject (.lexical fault) (SyntaxError.moves_lexical _ _)
              ⟨related.depth, related.failed⟩
  · rw [slashAsRegex_of_not_slash c.setup slash]
    rw [← related.kind] at slash
    rw [slashAsRegex_of_not_slash c.setup slash]
    exact .ok related

theorem slashAsDivide :
    c.Follows place Parser.slashAsDivide Parser.slashAsDivide fun _ => place := by
  intro s t related
  unfold Parser.slashAsDivide
  rw [related.kind, related.lexer, Lexer.rescanDivide_behind related.start]
  split
  · rename_i raw regex
    have runs : Parser.slashAsDivide c.setup s = .ok ()
        { s with
          lexer := (s.lexer.rescanDivide s.current).2
          current := (s.lexer.rescanDivide s.current).1 } := by
      unfold Parser.slashAsDivide
      rw [regex]
    have reads := related.stands.slashAsDivide runs
    exact .ok {
      related.toLeft with
      stands := reads.stands
      inside := related.inside.again (by rw [regex]; rfl) reads rfl
      source := reads.source.trans related.source
      lexer := rfl
      kind := rfl
      start := rfl
      stop := rfl
      context := related.context
      settled := related.settled }
  · exact .ok related

/-! ## Scopes -/

theorem withContext {m m' : Parser α} (context : Context)
    (inside : c.Follows place m m' after) :
    c.Follows place (Parser.withContext context m) (Parser.withContext context m') after := by
  intro s t related
  have matched := inside _ _ (related.recontext context)
  unfold Parser.withContext
  generalize m c.setup { s with context } = r at matched ⊢
  generalize m' c.setup { t with context } = r' at matched ⊢
  cases matched with
  | ok related' =>
      rw [related.context]
      exact .ok (related'.recontext s.context)
  | reject fault moves left => exact .reject fault moves ⟨left.depth, left.failed⟩
  | exhausted => exact .exhausted

theorem withIn {m m' : Parser α} (allowIn : Bool) (inside : c.Follows place m m' after) :
    c.Follows place (Parser.withIn allowIn m) (Parser.withIn allowIn m') after :=
  .bind .context fun _ => .withContext _ inside

theorem nested {m m' : Parser α} (inside : c.Follows place m m' after) :
    c.Follows place (Parser.nested m) (Parser.nested m') after := by
  intro s t related
  have matched := inside _ _ (related.redepth (· + 1))
  unfold Parser.nested
  rw [related.depth] at matched ⊢
  split
  · rw [related.start, related.stop]
    have written := related.written
    exact .reject (.invalid written.forward written.boundaries.1 written.boundaries.2)
      ⟨rfl, rfl, rfl⟩ related.toLeft
  · generalize m c.setup { s with depth := s.depth + 1 } = r at matched ⊢
    generalize m' c.setup { t with depth := s.depth + 1 } = r' at matched ⊢
    cases matched with
    | ok related' => exact .ok (related'.redepth (· - 1))
    | reject fault moves left =>
        exact .reject fault moves ⟨congrArg (· - 1) left.depth, left.failed⟩
    | exhausted => exact .exhausted

/-- An attempt is known to fail in both runs, or in none. -/
theorem attempt {m m' : Parser α} (kind : AttemptKind)
    (inside : c.Follows place m m' fun _ => .later) :
    c.Follows place (Parser.attempt kind m) (Parser.attempt kind m') place.attempted := by
  intro s t related
  let key : Attempt := { start := s.current.start, kind, context := s.context }
  have moved : ({ start := t.current.start, kind, context := t.context } : Attempt) =
      key.shift c.distance := by
    rw [related.start, related.context]
    rfl
  have known : t.failed.any (fun failure => failure.1 = key.shift c.distance) =
      s.failed.any fun failure => failure.1 = key := by
    have keys := congrArg (List.any · fun failed => failed = key.shift c.distance) related.failed
    simpa only [List.any_map, Function.comp_def, Attempt.shift_inj] using keys
  have matched := inside s t related
  unfold Parser.attempt
  dsimp only
  rw [moved, known]
  split
  · exact .ok related
  · generalize m c.setup s = r at matched ⊢
    generalize m' c.setup t = r' at matched ⊢
    cases matched with
    | ok related' => exact .ok related'
    | reject fault moves left =>
        refine @Matches.ok _ _ _ _ none _ _ {
          related with
          stands := related.stands.beside ⟨rfl, rfl, rfl⟩ rfl
          inside := ⟨related.inside.here, related.inside.slash⟩
          depth := left.depth
          failed := congrArg (key.shift c.distance :: ·) left.failed }
    | exhausted => exact .exhausted

/-! ## Names -/

/-- The next token is rejected where it is a reserved word. -/
theorem reservedWord {kind : TokenKind} (word : kind.Reserved) (s t : State)
    (related : c.Related place s t) (same : s.current.kind = kind) :
    c.Matches after ((Parser.reservedWord : Parser α) c.setup s)
      ((Parser.reservedWord : Parser α) c.setup t) :=
  .reject (.reserved related.written (same ▸ word)) ⟨rfl, related.start, related.stop⟩
    related.toLeft

theorem bindingName :
    c.Follows place Parser.bindingName Parser.bindingName fun _ => .later := by
  intro s t related
  have named (name : String) : c.Follows place
      (do Parser.advance; return locate s.current (.word name))
      (do Parser.advance; return locate t.current (.word name)) fun _ => .later := by
    rw [related.current]
    exact .bind .advance fun _ => .pure _
  unfold Parser.bindingName
  rw [current_bind, current_bind, related.kind]
  cases kind : s.current.kind with
  | identifier name =>
      dsimp only
      rw [context_bind, context_bind, related.context]
      split
      · rename_i reserves
        exact reservedWord (.of_reserves reserves) s t related kind
      · exact named name s t related
  | keyword word => exact reservedWord (.keyword word) s t related kind
  | _ => exact unexpected s t related

theorem propertyName :
    c.Follows place Parser.propertyName Parser.propertyName fun _ => .later := by
  refine token fun token newline _ _ => ?_
  dsimp only [Token.shift]
  cases propertyName? token.kind with
  | some name => exact .bind .advance fun _ => .pure _
  | none => exact .unexpected

theorem currentName? :
    c.Follows place Parser.currentName? Parser.currentName? fun _ => place := by
  refine .bind .currentKind fun kind => ?_
  cases kind <;> exact .pure _

end Translation.Follows

end Parser

end Ecmascript
