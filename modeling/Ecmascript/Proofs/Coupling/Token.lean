import Ecmascript.Proofs.Coupling.Basic

/-!
# Coupled runs at a token

The parsers that look at the next token, or read it, under the laws of a coupling. A look at the
next token answers alike in both runs unless it asks what a slash begins; where it is found to be
another token, the grip is firm.
-/

set_option autoImplicit false

namespace Ecmascript.Parser.Coupling

variable {c : Coupling} {α β : Type} {grip : Grip} {pre : State → State → Prop}
  {post : α → State → State → Prop}

namespace Lawful

theorem loose_of_related (laws : c.Lawful) {s t : State} (related : c.related grip s t) :
    c.loose s t := by
  cases grip with
  | loose => exact related
  | firm => exact laws.loosen related

theorem loose_of_before (laws : c.Lawful) {kind : TokenKind} {s t : State}
    (related : c.before kind s t) : c.loose s t :=
  laws.loosen related.1

theorem kind_eq_of_not_slash (laws : c.Lawful) {kind : TokenKind} (plain : kind.isSlash = false)
    {s t : State} (related : c.loose s t) :
    s.current.kind = kind ↔ t.current.kind = kind := by
  rcases laws.firm_or_slash related with firm | ⟨left, right⟩
  · rw [laws.current firm]
  · constructor
    · intro same; rw [same, plain] at left; cases left
    · intro same; rw [same, plain] at right; cases right

/-- Where the next token is not a slash, the grip is firm. -/
theorem firm_of_kind (laws : c.Lawful) {kind : TokenKind} (plain : kind.isSlash = false)
    {s t : State} (related : c.loose s t) (same : s.current.kind = kind) : c.firm s t := by
  rcases laws.firm_or_slash related with firm | ⟨left, _⟩
  · exact firm
  · rw [same, plain] at left; cases left

end Lawful

namespace Links

/-- A rejection, of parsers that leave the state as it is. -/
theorem fail (laws : c.Lawful) {error : SyntaxError} (related : ∀ s t, pre s t → c.loose s t) :
    c.Links pre (Parser.fail error) (Parser.fail error) post where
  replies s t holds := .reject (laws.fault error) (laws.drop (related s t holds))
  spoilsLeft _ spoilt := .inr spoilt
  spoilsRight _ spoilt := .inr spoilt

theorem unexpected (laws : c.Lawful) (related : ∀ s t, pre s t → c.loose s t) :
    c.Links pre Parser.unexpected Parser.unexpected post :=
  (laws.unexpected post).strengthen related

theorem reservedWord (laws : c.Lawful) (related : ∀ s t, pre s t → c.loose s t) :
    c.Links pre Parser.reservedWord Parser.reservedWord post :=
  (laws.reservedWord post).strengthen related

/-! ### Looking at the state -/

theorem position (laws : c.Lawful) (related : ∀ s t, pre s t → c.loose s t) :
    c.Links pre Parser.position Parser.position (fun _ => pre) :=
  (reading _ (fun _ _ => rfl) fun s t holds => laws.start (related s t holds)).relax
    fun _ _ _ holds => holds.1

theorem context (laws : c.Lawful) (related : ∀ s t, pre s t → c.loose s t) :
    c.Links pre Parser.context Parser.context (fun _ => pre) :=
  (reading _ (fun _ _ => rfl) fun s t holds => laws.context (related s t holds)).relax
    fun _ _ _ holds => holds.1

theorem atNewline (laws : c.Lawful) (related : ∀ s t, pre s t → c.loose s t) :
    c.Links pre Parser.atNewline Parser.atNewline (fun _ => pre) :=
  (reading _ (fun _ _ => rfl) fun s t holds => laws.newline (related s t holds)).relax
    fun _ _ _ holds => holds.1

theorem finish (laws : c.Lawful) {category : Category} {start : Nat} {item : Node category}
    (related : ∀ s t, pre s t → c.loose s t) :
    c.Links pre (Parser.finish start item) (Parser.finish start item) (fun _ => pre) :=
  (reading _ (fun _ _ => rfl) fun s t holds =>
    congrArg (Node.located start · item) (laws.previous (related s t holds))).relax
      fun _ _ _ holds => holds.1

/-- A look at the kind of the next token: the same kind in both runs, or two readings of a
slash. -/
theorem kind (laws : c.Lawful) {k k' : TokenKind → Parser α}
    (firm : ∀ kind, c.Links (c.before kind) (k kind) (k' kind) post)
    (slash : ∀ a b : TokenKind, a.isSlash = true → b.isSlash = true →
      c.Links c.loose (k a) (k' b) post) :
    c.Links c.loose (currentKind >>= k) (currentKind >>= k') post where
  replies s t holds := by
    change c.Matches post (k s.current.kind c.left s) (k' t.current.kind c.right t)
    rcases laws.firm_or_slash holds with same | ⟨left, right⟩
    · rw [← laws.current same]
      exact (firm _).replies s t ⟨same, rfl⟩
    · exact (slash _ _ left right).replies s t holds
  spoilsLeft s spoilt := (firm s.current.kind).spoilsLeft s spoilt
  spoilsRight t spoilt := (firm t.current.kind).spoilsRight t spoilt

/-- A look at the next token where the grip is firm. -/
theorem firmKind (laws : c.Lawful) {k k' : TokenKind → Parser α}
    (next : ∀ kind, c.Links (c.before kind) (k kind) (k' kind) post) :
    c.Links c.firm (currentKind >>= k) (currentKind >>= k') post where
  replies s t holds := by
    change c.Matches post (k s.current.kind c.left s) (k' t.current.kind c.right t)
    rw [← laws.current holds]
    exact (next _).replies s t ⟨holds, rfl⟩
  spoilsLeft s spoilt := (next s.current.kind).spoilsLeft s spoilt
  spoilsRight t spoilt := (next t.current.kind).spoilsRight t spoilt

/-- A look at the next token: the same token in both runs, or two readings of a slash. -/
theorem token (laws : c.Lawful) {k k' : Token → Parser α}
    (firm : ∀ token : Token, c.Links (c.before token.kind) (k token) (k' token) post)
    (slash : ∀ a b : Token, a.kind.isSlash = true → b.kind.isSlash = true →
      a.newlineBefore = b.newlineBefore → c.Links c.loose (k a) (k' b) post) :
    c.Links c.loose (current >>= k) (current >>= k') post where
  replies s t holds := by
    change c.Matches post (k s.current c.left s) (k' t.current c.right t)
    rcases laws.firm_or_slash holds with same | ⟨left, right⟩
    · rw [← laws.current same]
      exact (firm _).replies s t ⟨same, rfl⟩
    · exact (slash _ _ left right (laws.newline holds)).replies s t holds
  spoilsLeft s spoilt := (firm s.current).spoilsLeft s spoilt
  spoilsRight t spoilt := (firm t.current).spoilsRight t spoilt

/-- A look at the token behind the next one. -/
theorem peek (laws : c.Lawful) {k k' : Token → Parser α} (grips : ∀ s t, pre s t → c.firm s t)
    (same : ∀ token, c.Links (fun s t => pre s t ∧ c.foreseen token s t) (k token) (k' token) post)
    (slash : ∀ a b : Token, a.kind.isSlash = true → b.kind.isSlash = true →
      c.Links pre (k a) (k' b) post) :
    c.Links pre (Parser.peek >>= k) (Parser.peek >>= k') post := by
  have stays : ∀ setup state, (∃ token, Parser.peek setup state = .ok token state) ∨
      ∃ error, Parser.peek setup state = .reject error state := by
    intro setup state
    unfold Parser.peek
    split
    · exact .inl ⟨_, rfl⟩
    · exact .inr ⟨_, rfl⟩
  constructor
  · intro s t holds
    change c.Matches post (andThen Parser.peek k c.left s) (andThen Parser.peek k' c.right t)
    unfold andThen
    rcases laws.peek (grips s t holds) with ⟨a, b, left, right, rfl | ⟨leftSlash, rightSlash⟩⟩ |
        ⟨e, f, left, right, fault⟩
    · rw [left, right]
      exact (same a).replies s t ⟨holds, left, right⟩
    · rw [left, right]
      exact (slash a b leftSlash rightSlash).replies s t holds
    · rw [left, right]
      exact .reject fault (laws.drop (laws.loosen (grips s t holds)))
  · intro s spoilt
    change c.Spoils (andThen Parser.peek k c.left s)
    unfold andThen
    rcases stays c.left s with ⟨token, reply⟩ | ⟨error, reply⟩
    · rw [reply]; exact (same token).spoilsLeft s spoilt
    · rw [reply]; exact .inr spoilt
  · intro t spoilt
    change c.Spoils (andThen Parser.peek k' c.right t)
    unfold andThen
    rcases stays c.right t with ⟨token, reply⟩ | ⟨error, reply⟩
    · rw [reply]; exact (same token).spoilsRight t spoilt
    · rw [reply]; exact .inr spoilt

/-- The token behind the next one is the next one when that one is read. -/
theorem advanceForeseen (laws : c.Lawful) {kind : TokenKind} {token : Token}
    (plain : token.kind.isSlash = false) :
    c.Links (fun s t => c.before kind s t ∧ c.foreseen token s t) Parser.advance Parser.advance
      (fun _ => c.before token.kind) := by
  have moves (setup : Setup) (state : State) (ahead : Parser.peek setup state = .ok token state) :
      ∃ after : State, Parser.advance setup state = .ok () after ∧ after.current = token := by
    unfold Parser.peek at ahead
    unfold Parser.advance
    split at ahead
    · simp only [Reply.ok.injEq, and_true] at ahead
      exact ⟨_, rfl, ahead⟩
    · cases ahead
  refine ⟨fun s t holds => ?_, (laws.advance kind).spoilsLeft, (laws.advance kind).spoilsRight⟩
  obtain ⟨s', left, current⟩ := moves c.left s holds.2.1
  obtain ⟨t', right, _⟩ := moves c.right t holds.2.2
  have matched := (laws.advance kind).replies s t holds.1
  rw [left, right] at matched ⊢
  cases matched with
  | ok holds =>
      have same : s'.current.kind = token.kind := congrArg Token.kind current
      exact .ok ⟨laws.firm_of_kind plain holds.1 same, same⟩
  | leftSpoils spoils => exact .leftSpoils spoils
  | rightSpoils spoils => exact .rightSpoils spoils

/-! ### Deciding by the next token -/

theorem ifKind (laws : c.Lawful) {kind : TokenKind} (plain : kind.isSlash = false)
    {m m' n n' : Parser α} (yes : c.Links (c.before kind) m m' post)
    (no : c.Links (c.related grip) n n' post) :
    c.Links (c.related grip) (at? kind >>= fun answer => if answer = true then m else n)
      (at? kind >>= fun answer => if answer = true then m' else n') post := by
  refine .bind (reading (fun state => decide (state.current.kind = kind))
    (fun _ _ => rfl) fun s t holds => ?_) fun answer => ?_
  · exact decide_eq_decide.2 (laws.kind_eq_of_not_slash plain (laws.loose_of_related holds))
  · refine .ite (fun found => yes.strengthen fun s t holds => ?_)
      fun _ => no.strengthen fun s t holds => holds.1
    have same : s.current.kind = kind := by simpa [found] using holds.2.symm
    exact ⟨laws.firm_of_kind plain (laws.loose_of_related holds.1) same, same⟩

/-- Whether the next token has a kind, where the answer is used later. -/
theorem askKind (laws : c.Lawful) {kind : TokenKind} (plain : kind.isSlash = false)
    (related : ∀ s t, pre s t → c.loose s t) :
    c.Links pre (at? kind) (at? kind)
      (fun answer s t => pre s t ∧ (answer = true → c.before kind s t)) := by
  refine (reading (fun state => decide (state.current.kind = kind)) (fun _ _ => rfl)
    fun s t holds => ?_).relax fun answer s t holds => ⟨holds.1, fun found => ?_⟩
  · exact decide_eq_decide.2 (laws.kind_eq_of_not_slash plain (related s t holds))
  · have same : s.current.kind = kind := by simpa [found] using holds.2.symm
    exact ⟨laws.firm_of_kind plain (related s t holds.1) same, same⟩

/-- Whether the next token has a kind, where the answer is not about the states. -/
theorem ask (laws : c.Lawful) {kind : TokenKind} (plain : kind.isSlash = false) :
    c.Links c.loose (at? kind) (at? kind) (fun _ => c.loose) :=
  (askKind laws plain fun _ _ holds => holds).relax fun _ _ _ holds => holds.1

/-- The next token is read. -/
theorem advance (laws : c.Lawful) {kind : TokenKind} :
    c.Links (c.before kind) Parser.advance Parser.advance (fun _ => c.loose) :=
  (laws.advance kind).relax fun _ _ _ holds => holds.1

theorem ifEat (laws : c.Lawful) {kind : TokenKind} (plain : kind.isSlash = false)
    {m m' n n' : Parser α} (yes : c.Links (c.behind kind) m m' post)
    (no : c.Links (c.related grip) n n' post) :
    c.Links (c.related grip)
      ((at? kind >>= fun answer =>
        if answer = true then Parser.advance >>= fun _ => Pure.pure true else Pure.pure false)
          >>= fun answer => if answer = true then m else n)
      ((at? kind >>= fun answer =>
        if answer = true then Parser.advance >>= fun _ => Pure.pure true else Pure.pure false)
          >>= fun answer => if answer = true then m' else n') post := by
  let read : Parser Bool := at? kind >>= fun answer =>
    if answer = true then Parser.advance >>= fun _ => Pure.pure true else Pure.pure false
  have first : c.Links (c.related grip) read read fun answer s t =>
      if answer = true then c.behind kind s t else c.related grip s t := by
    refine ifKind laws plain ?_ ?_
    · exact .bind (laws.advance kind) fun _ => .pure fun s t holds => by simpa using holds
    · exact .pure fun s t holds => by simpa using holds
  refine first.bind fun answer => ?_
  · refine .ite (fun found => yes.strengthen fun s t holds => ?_)
      fun missed => no.strengthen fun s t holds => ?_
    · simpa [found] using holds
    · simpa [missed] using holds

theorem ifMark (laws : c.Lawful) (mark : Punctuator)
    (plain : (TokenKind.punctuator mark).isSlash = false) {m m' n n' : Parser α}
    (yes : c.Links (c.before (.punctuator mark)) m m' post)
    (no : c.Links (c.related grip) n n' post) :
    c.Links (c.related grip) (atMark mark >>= fun answer => if answer = true then m else n)
      (atMark mark >>= fun answer => if answer = true then m' else n') post :=
  ifKind laws plain yes no

theorem ifKeyword (laws : c.Lawful) (word : Keyword) {m m' n n' : Parser α}
    (yes : c.Links (c.before (.keyword word)) m m' post)
    (no : c.Links (c.related grip) n n' post) :
    c.Links (c.related grip) (atKeyword word >>= fun answer => if answer = true then m else n)
      (atKeyword word >>= fun answer => if answer = true then m' else n') post :=
  ifKind laws rfl yes no

theorem ifName (laws : c.Lawful) (name : String) {m m' n n' : Parser α}
    (yes : c.Links (c.before (.identifier name)) m m' post)
    (no : c.Links (c.related grip) n n' post) :
    c.Links (c.related grip) (atName name >>= fun answer => if answer = true then m else n)
      (atName name >>= fun answer => if answer = true then m' else n') post :=
  ifKind laws rfl yes no

theorem ifEatMark (laws : c.Lawful) (mark : Punctuator)
    (plain : (TokenKind.punctuator mark).isSlash = false) {m m' n n' : Parser α}
    (yes : c.Links c.loose m m' post) (no : c.Links (c.related grip) n n' post) :
    c.Links (c.related grip) (eatMark mark >>= fun answer => if answer = true then m else n)
      (eatMark mark >>= fun answer => if answer = true then m' else n') post :=
  ifEat laws plain (yes.strengthen fun _ _ holds => holds.1) no

theorem ifEatKeyword (laws : c.Lawful) (word : Keyword) {m m' n n' : Parser α}
    (yes : c.Links c.loose m m' post) (no : c.Links (c.related grip) n n' post) :
    c.Links (c.related grip) (eatKeyword word >>= fun answer => if answer = true then m else n)
      (eatKeyword word >>= fun answer => if answer = true then m' else n') post :=
  ifEat laws rfl (yes.strengthen fun _ _ holds => holds.1) no

theorem eatMark (laws : c.Lawful) (mark : Punctuator)
    (plain : (TokenKind.punctuator mark).isSlash = false) :
    c.Links c.loose (Parser.eatMark mark) (Parser.eatMark mark) (fun _ => c.loose) := by
  refine ifMark laws mark plain ?_ (.pure fun _ _ holds => holds)
  exact .bind (advance laws) fun _ => .pure fun _ _ holds => holds

theorem expectKind (laws : c.Lawful) {kind : TokenKind} (plain : kind.isSlash = false) :
    c.Links c.loose
      (at? kind >>= fun answer => if answer = true then Parser.advance else Parser.unexpected)
      (at? kind >>= fun answer => if answer = true then Parser.advance else Parser.unexpected)
      (fun _ => c.behind kind) :=
  ifKind laws plain (laws.advance kind) (unexpected laws fun _ _ holds => holds)

theorem expectMark (laws : c.Lawful) (mark : Punctuator)
    (plain : (TokenKind.punctuator mark).isSlash = false) :
    c.Links c.loose (Parser.expectMark mark) (Parser.expectMark mark) (fun _ => c.loose) :=
  (expectKind laws plain).relax fun _ _ _ holds => holds.1

theorem expectKeyword (laws : c.Lawful) (word : Keyword) :
    c.Links c.loose (Parser.expectKeyword word) (Parser.expectKeyword word) (fun _ => c.loose) :=
  (expectKind laws rfl).relax fun _ _ _ holds => holds.1

/-! ### The end of a statement -/

theorem atStatementEnd (laws : c.Lawful) :
    c.Links c.loose Parser.atStatementEnd Parser.atStatementEnd (fun _ => c.loose) := by
  refine token laws (fun token => .pure fun _ _ => laws.loose_of_before)
    fun a b left right newline => ?_
  rcases TokenKind.isSlash_cases left with left | left | ⟨raw, left⟩ <;>
  rcases TokenKind.isSlash_cases right with right | right | ⟨raw', right⟩ <;>
  simp only [left, right, newline, reduceCtorEq, TokenKind.punctuator.injEq, decide_false] <;>
  exact .pure fun _ _ holds => holds

theorem expectSemicolon (laws : c.Lawful) :
    c.Links c.loose Parser.expectSemicolon Parser.expectSemicolon (fun _ => c.loose) := by
  refine ifEatMark laws .semicolon rfl (.pure fun _ _ holds => holds) ?_
  refine (atStatementEnd laws).bind fun ends => ?_
  exact ite (fun _ => .pure fun _ _ holds => holds) fun _ => unexpected laws fun _ _ holds => holds

end Links

end Ecmascript.Parser.Coupling
