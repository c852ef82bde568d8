import Ecmascript.Proofs.Lexer.Lexeme
import Ecmascript.Proofs.Operators.Facing
import Ecmascript.Proofs.Operators.Grouping
import Ecmascript.Proofs.Progress.Run

/-!
# Names and operators in turn

A text of names with infix operators between them is a script of one expression, grouped as the
precedence of the operators says. Precedence climbing keeps an invariant: what has been read is
grouped and binds tighter than the minimum, and the operator in front of the parser binds no tighter
than what has been read.
-/

set_option autoImplicit false

namespace Ecmascript

open Character

/-! ## Texts of names and operators -/

/-- An infix operator with the name behind it. -/
structure Link where
  operator : TokenKind
  name : String

namespace Link

/-- The tokens of a link. -/
def kinds (link : Link) : List TokenKind :=
  [link.operator, .identifier link.name]

/-- A link as it is written behind a name, with a space in front of each token. -/
def text (link : Link) : Text :=
  ' ' :: (link.operator.text ++ ' ' :: link.name.toList)

/-- The operator of a link is an infix operator, and its name is read as an identifier. -/
structure Fits (link : Link) : Prop where
  operator : link.operator.IsInfix
  name : Lexer.ReadsAs link.name.toList (.identifier link.name)

end Link

/-- A name with links behind it, as text. -/
def chainText (first : String) (links : List Link) : Text :=
  first.toList ++ links.flatMap Link.text

/-- The tokens of a name with links behind it. -/
def chainKinds (first : String) (links : List Link) : List TokenKind :=
  .identifier first :: links.flatMap Link.kinds

namespace TokenKind

variable {kind other : TokenKind}

instance (kind : TokenKind) : Decidable kind.IsInfix :=
  inferInstanceAs (Decidable (0 < kind.precedence ∨ kind = .punctuator .power))

/-- What stands behind a name: an infix operator, or the end of input. -/
def FollowsName (kind : TokenKind) : Prop :=
  kind.IsInfix ∨ kind = .endOfInput

instance (kind : TokenKind) : Decidable kind.FollowsName :=
  inferInstanceAs (Decidable (kind.IsInfix ∨ kind = .endOfInput))

theorem FollowsName.ne (follows : kind.FollowsName) (not : ¬ other.FollowsName) : kind ≠ other :=
  fun same => not (same ▸ follows)

theorem FollowsName.not_template (part : TemplatePart) (raw : String) :
    ¬ (template part raw).FollowsName := by
  simp [FollowsName, IsInfix, precedence]

theorem IsInfix.spelled (isInfix : kind.IsInfix) : kind.Spelled := by
  cases kind with
  | keyword word => trivial
  | punctuator mark =>
      refine ⟨?_, ?_⟩ <;> rintro rfl <;> revert isInfix <;> decide
  | _ => simp [IsInfix, precedence] at isInfix

/-- A token with a precedence is an operator, and as tight as its precedence. -/
theorem named_of_precedence (positive : 0 < kind.precedence) :
    kind.tightness = kind.precedence ∧ kind.precedence < 14 ∧
      ∃ operator, kind.infixOperator? = some operator := by
  cases kind with
  | punctuator mark =>
      revert positive
      cases mark <;> intro positive <;> first | exact ⟨rfl, by decide, _, rfl⟩ | cases positive
  | keyword word =>
      revert positive
      cases word <;> intro positive <;> first | exact ⟨rfl, by decide, _, rfl⟩ | cases positive
  | _ => cases positive

theorem IsInfix.tightness_pos (isInfix : kind.IsInfix) : 0 < kind.tightness := by
  rcases isInfix with positive | rfl
  · rw [(named_of_precedence positive).1]
    exact positive
  · decide

/-- A space sets a token apart from what follows it. -/
theorem Spelled.apart_space (spelled : kind.Spelled) (tail : Text) : kind.Apart (' ' :: tail) := by
  cases kind with
  | identifier name => exact .cons (by decide)
  | keyword word => exact .cons (by decide)
  | regex raw => exact .cons (by decide)
  | number raw => exact .cons (by decide)
  | punctuator mark =>
      have plain : mark.continues ' ' = false := by cases mark <;> decide
      exact ⟨Punctuator.longest?_right spelled.2 (.cons plain), fun _ => .cons (by decide),
        fun _ => .cons (by decide)⟩
  | _ => trivial

end TokenKind

/-! ## Reading the text -/

namespace Lexer

variable {lexer : Lexer} {kind : TokenKind} {kinds : List TokenKind} {tail : Text}
  {endsOperand : TokenKind → Bool}

/-- The kinds of the next tokens, as they are read one after the other. -/
inductive Yields (endsOperand : TokenKind → Bool) : Lexer → List TokenKind → Prop
  | nil (lexer : Lexer) : Yields endsOperand lexer []
  | cons {lexer after : Lexer} {token : Token} {kinds : List TokenKind}
      (reads : lexer.nextWith endsOperand = (.ok token, after))
      (more : Yields endsOperand after kinds) : Yields endsOperand lexer (token.kind :: kinds)

/-- A token in front of a text that does not run together with it. -/
theorem yields_token (next : lexer.rest = kind.text ++ tail) (whole : lexer.templates = [])
    (spelled : kind.Spelled) (apart : kind.Apart tail) (unlike : ∀ raw, kind ≠ .regex raw)
    (quiet : kind = .punctuator .slash → lexer.regexAllowed = false)
    (more : ∀ after : Lexer, after.rest = tail → after.templates = [] →
      after.regexAllowed = !endsOperand kind → Yields endsOperand after kinds) :
    Yields endsOperand lexer (kind :: kinds) := by
  have meets : lexer.Meets kind kind.text tail :=
    meets_spelled spelled apart whole (fun raw same => absurd same (unlike raw)) quiet
  exact .cons (nextWith_meets meets next) (more _ rfl whole rfl)

theorem yields_space (next : lexer.rest = ' ' :: tail)
    (yields : Yields endsOperand (lexer.advance [' '] tail) kinds) :
    Yields endsOperand lexer kinds := by
  cases yields with
  | nil => exact .nil _
  | cons reads more => exact .cons ((nextWith_space next).trans reads) more

/-- Links set a name in front of them apart. -/
theorem stops_links (links : List Link) :
    Text.Stops isIdentifierPart (links.flatMap Link.text) := by
  cases links with
  | nil => exact .nil
  | cons link links => exact .cons (by decide)

/-- Behind a name, the tokens of the links that follow are read. -/
theorem yields_links {links : List Link} (fits : ∀ link ∈ links, link.Fits) :
    ∀ lexer : Lexer, lexer.rest = links.flatMap Link.text → lexer.templates = [] →
      lexer.regexAllowed = false →
      Yields TokenKind.endsOperand lexer (links.flatMap Link.kinds ++ [.endOfInput]) := by
  induction links with
  | nil => exact fun lexer next _ _ => .cons (nextWith_nil next) (.nil _)
  | cons link links ih =>
      intro lexer next whole quiet
      obtain ⟨isInfix, named⟩ := fits link List.mem_cons_self
      have name : (TokenKind.identifier link.name).Spelled := spelled_of_readsAs named rfl
      have begins : lexer.rest =
          ' ' :: (link.operator.text ++ ' ' :: (link.name.toList ++ links.flatMap Link.text)) := by
        rw [next, List.flatMap_cons, Link.text, List.cons_append, List.append_assoc,
          List.cons_append]
      refine yields_space begins (yields_token rfl whole isInfix.spelled
        (isInfix.spelled.apart_space _) ?_ (fun _ => quiet) fun after next whole _ => ?_)
      · rintro raw same
        rw [same] at isInfix
        simp [TokenKind.IsInfix, TokenKind.precedence] at isInfix
      refine yields_space next (yields_token rfl whole name
        (stops_links links) nofun nofun fun after next whole guess => ?_)
      exact ih (fun link listed => fits link (List.mem_cons_of_mem _ listed)) after next whole guess

end Lexer

/-! ## Parsing the tokens -/

namespace Parser

variable {setup : Setup} {s : State} {kind next : TokenKind} {kinds rest : List TokenKind}
  {name : String} {links : List Link} {minimum : Nat}

/-- No error at all. -/
abbrev NoError : SyntaxError → Prop :=
  fun _ => False

/-- Within the bound on the depth, a level of nesting is no error. -/
theorem Gives.nestedWithin {α : Type} {allowed : SyntaxError → Prop} {m : Parser α}
    {post : α → State → Prop} (room : s.depth < maxNesting)
    (gives : Gives allowed setup m { s with depth := s.depth + 1 } fun value after =>
      post value { after with depth := after.depth - 1 }) :
    Gives allowed setup (Parser.nested m) s post := by
  unfold Gives at gives ⊢
  unfold Parser.nested
  rw [if_neg (Nat.not_le.2 room)]
  cases outcome : m setup { s with depth := s.depth + 1 } with
  | ok value after =>
      rw [outcome] at gives
      exact gives
  | reject error after =>
      rw [outcome] at gives
      exact gives
  | exhausted => trivial

/-- The next tokens of a script are known. -/
structure Sees (setup : Setup) (kinds : List TokenKind) (s : State) : Prop where
  ahead : ∃ rest, kinds = s.current.kind :: rest ∧ Lexer.Yields setup.endsOperand s.lexer rest
  context : s.context = Context.script

namespace Sees

theorem kind_eq (sees : Sees setup (kind :: kinds) s) : s.current.kind = kind := by
  obtain ⟨_, same, _⟩ := sees.ahead
  exact (List.cons.inj same).1.symm

theorem depth (sees : Sees setup kinds s) (depth : Nat) : Sees setup kinds { s with depth } :=
  ⟨sees.ahead, sees.context⟩

theorem advance (sees : Sees setup (kind :: next :: rest) s) :
    ∃ after, Parser.advance setup s = .ok () after ∧ Sees setup (next :: rest) after := by
  obtain ⟨more, same, yields⟩ := sees.ahead
  cases same
  cases yields with
  | cons reads yields =>
      unfold Parser.advance
      rw [reads]
      exact ⟨_, rfl, ⟨_, rfl, yields⟩, sees.context⟩

theorem peek (sees : Sees setup (kind :: next :: rest) s) :
    ∃ token, Parser.peek setup s = .ok token s ∧ token.kind = next := by
  obtain ⟨more, same, yields⟩ := sees.ahead
  cases same
  cases yields with
  | cons reads yields =>
      unfold Parser.peek
      rw [reads]
      exact ⟨_, rfl, rfl⟩

end Sees

/-- Goes on behind a token that is there. -/
theorem Gives.pass {α : Type} {allowed : SyntaxError → Prop} {f : Unit → Parser α}
    {post : α → State → Prop} (sees : Sees setup (kind :: next :: rest) s)
    (gives : ∀ after, Sees setup (next :: rest) after → Gives allowed setup (f ()) after post) :
    Gives allowed setup (Parser.advance >>= f) s post := by
  obtain ⟨after, runs, sees'⟩ := sees.advance
  exact .step runs (gives after sees')

/-! ### Names -/

/-- A parser gives a name and stops in front of what follows it. -/
abbrev GivesName (setup : Setup) (m : Parser (Located .expression)) (s : State) (name : String)
    (rest : List TokenKind) : Prop :=
  Gives NoError setup m s fun value after =>
    (∃ start stop, value = .located start stop (.identifier name)) ∧ Sees setup rest after

theorem gives_name (sees : Sees setup (.identifier name :: next :: rest) s) :
    GivesName setup plainExpression s name (next :: rest) := by
  refine .step (rfl : position setup s = .ok s.current.start s) ?_
  refine .step (rfl : currentKind setup s = .ok s.current.kind s) ?_
  rw [sees.kind_eq]
  exact .pass sees fun after sees' => ⟨⟨_, _, rfl⟩, sees'⟩

theorem gives_primary {self : Grammar} (sees : Sees setup (.identifier name :: next :: rest) s)
    (follows : next.FollowsName) : GivesName setup (primary self) s name (next :: rest) := by
  have unslashed : slashAsRegex setup s = .ok () s :=
    slashAsRegex_of_not_slash setup (by rw [sees.kind_eq]; nofun)
  refine .step unslashed ?_
  refine .step (rfl : position setup s = .ok s.current.start s) ?_
  refine .step (rfl : currentKind setup s = .ok s.current.kind s) ?_
  rw [sees.kind_eq]
  dsimp only
  split
  · -- The word `async` does not begin a function here.
    obtain ⟨token, peeks, same⟩ := sees.peek
    have noFunction : token.kind ≠ .keyword .functionWord := same ▸ follows.ne (by decide)
    refine .step (rfl : position setup s = .ok s.current.start s) (.step peeks ?_)
    rw [decide_eq_false noFunction, Bool.false_and]
    exact .ifFalse rfl (gives_name sees)
  · exact gives_name sees

/-- No member, call or template stands behind a name. -/
theorem gives_memberRest {steps start : Nat} {object : Located .expression}
    {post : Located .expression → State → Prop} (sees : Sees setup (kind :: kinds) s)
    (follows : kind.FollowsName) (holds : post object s) :
    Gives NoError setup (run steps (.memberRest start object true)) s post := by
  cases steps with
  | zero => trivial
  | succ steps =>
      refine .step (rfl : currentKind setup s = .ok s.current.kind s) ?_
      rw [sees.kind_eq]
      split
      · exact absurd rfl (follows.ne (by decide))
      · exact absurd rfl (follows.ne (by decide))
      · exact absurd rfl (follows.ne (by decide))
      · exact absurd follows (TokenKind.FollowsName.not_template _ _)
      · exact absurd follows (TokenKind.FollowsName.not_template _ _)
      · exact .pure holds

theorem gives_leftHandSide {steps : Nat} (sees : Sees setup (.identifier name :: next :: rest) s)
    (follows : next.FollowsName) :
    GivesName setup (run steps .leftHandSide) s name (next :: rest) := by
  cases steps with
  | zero => trivial
  | succ steps =>
      have plain : at? (.keyword .newWord) setup s = .ok false s := by
        change Reply.ok (decide (s.current.kind = _)) s = _
        rw [sees.kind_eq]
        rfl
      have operand : GivesName setup (leftmostOperand (run steps)) s name (next :: rest) :=
        .step plain (.ifFalse rfl (gives_primary sees follows))
      refine .step (rfl : position setup s = .ok s.current.start s) ?_
      exact operand.bind fun object after holds => gives_memberRest holds.2 follows holds

theorem FollowsName.not_update (follows : kind.FollowsName) : kind.updateOperator? = none := by
  cases kind with
  | punctuator mark =>
      revert follows
      cases mark <;> first | exact fun _ => rfl | exact fun follows => absurd follows (by decide)
  | _ => rfl

theorem gives_unary {steps : Nat} (sees : Sees setup (.identifier name :: next :: rest) s)
    (follows : next.FollowsName) : GivesName setup (run steps .unary) s name (next :: rest) := by
  cases steps with
  | zero => trivial
  | succ steps =>
      refine .step (rfl : position setup s = .ok s.current.start s) ?_
      refine .step (rfl : currentKind setup s = .ok s.current.kind s) ?_
      rw [sees.kind_eq]
      refine .step (rfl : context setup s = .ok s.context s) ?_
      rw [sees.context]
      refine .ifFalse rfl (.step (rfl : position setup s = .ok s.current.start s) ?_)
      refine (gives_leftHandSide sees follows).bind fun argument after holds => ?_
      refine .step (rfl : current setup after = .ok after.current after) ?_
      rw [holds.2.kind_eq, FollowsName.not_update follows]
      exact .pure holds

/-! ### Operators -/

/-- The tokens of links up to the end of input. -/
def endingKinds (links : List Link) : List TokenKind :=
  links.flatMap Link.kinds ++ [.endOfInput]

/-- The first token of links, or the end of input, follows a name. -/
theorem endingKinds_cons (fits : ∀ link ∈ links, link.Fits) :
    ∃ next rest, endingKinds links = next :: rest ∧ next.FollowsName := by
  cases links with
  | nil => exact ⟨_, _, rfl, .inr rfl⟩
  | cons link links => exact ⟨_, _, rfl, .inl (fits link List.mem_cons_self).operator⟩

/-- What is read of links behind other tokens is grouped and binds tighter than a minimum, and the
next operator does not. -/
def Takes (setup : Setup) (front : List TokenKind) (links : List Link) (minimum : Nat)
    (tree : Located .expression) (after : State) : Prop :=
  ∃ taken rest, links = taken ++ rest ∧ Grouped tree ∧
    tree.flatten = front ++ taken.flatMap Link.kinds ∧ minimum < tree.item.tightness ∧
    (∀ link ∈ rest.head?, link.operator.tightness ≤ minimum) ∧
    Sees setup (endingKinds rest) after

/-- What is read behind the links that are read first is read of all of them. -/
theorem Takes.behind {front : List TokenKind} {taken rest : List Link}
    {tree : Located .expression} {after : State} (split : links = taken ++ rest)
    (takes : Takes setup (front ++ taken.flatMap Link.kinds) rest minimum tree after) :
    Takes setup front links minimum tree after := by
  obtain ⟨taken', rest', rfl, grouped, tokens, tight, ends, sees⟩ := takes
  refine ⟨taken ++ taken', rest', ?_, grouped, ?_, tight, ends, sees⟩
  · rw [split, List.append_assoc]
  · rw [tokens, List.flatMap_append, List.append_assoc]

/-- A name with powers behind it, which group to the right. -/
theorem gives_power (steps : Nat) :
    ∀ (s : State) (name : String) (links : List Link), (∀ link ∈ links, link.Fits) →
      Sees setup (.identifier name :: endingKinds links) s →
      Gives NoError setup (run steps .power) s (Takes setup [.identifier name] links 13) := by
  induction steps with
  | zero => exact fun _ _ _ _ _ => trivial
  | succ steps ih =>
      intro s name links fits sees
      obtain ⟨next, more, begins, follows⟩ := endingKinds_cons fits
      rw [begins] at sees
      refine .step (rfl : position setup s = .ok s.current.start s) ?_
      refine .step (rfl : atName "await" setup s = .ok _ s) ?_
      refine .step (rfl : currentKind setup s = .ok s.current.kind s) ?_
      refine .step (rfl : context setup s = .ok s.context s) ?_
      rw [sees.kind_eq, sees.context]
      refine (gives_unary sees follows).bind fun base after holds => ?_
      obtain ⟨⟨start, stop, rfl⟩, sees⟩ := holds
      refine .step (rfl : current setup after = .ok after.current after) ?_
      rw [sees.kind_eq]
      by_cases power : next = .punctuator .power
      · subst power
        rw [if_pos rfl]
        refine .ifFalse rfl ?_
        cases links with
        | nil => cases begins
        | cons link links =>
            obtain ⟨named, rfl⟩ := List.cons.inj begins
            have fits' := fun link listed => fits link (List.mem_cons_of_mem _ listed)
            refine .pass sees fun after sees => ?_
            refine (ih after link.name links fits' sees).bind fun exponent after holds => ?_
            obtain ⟨taken, rest, rfl, grouped, tokens, tight, ends, sees⟩ := holds
            refine ⟨link :: taken, rest, rfl, .power grouped tight, ?_, Nat.le_refl _, ends, sees⟩
            change _ :: _ :: exponent.flatten = _
            rw [tokens, List.flatMap_cons, Link.kinds, named]
            rfl
      · rw [if_neg power]
        refine ⟨[], links, rfl, .name, rfl, Nat.le_succ 14, ?_, begins ▸ sees⟩
        intro link first
        cases links with
        | nil => cases first
        | cons head links =>
            cases first
            obtain ⟨rfl, _⟩ := List.cons.inj begins
            rcases (fits link List.mem_cons_self).operator with positive | same
            · have named := TokenKind.named_of_precedence positive
              omega
            · exact absurd same power

theorem slashAsDivide_of_follows (sees : Sees setup (kind :: kinds) s)
    (follows : kind.FollowsName) : slashAsDivide setup s = .ok () s := by
  unfold slashAsDivide
  rw [sees.kind_eq]
  split
  · simp [TokenKind.FollowsName, TokenKind.IsInfix, TokenKind.precedence] at follows
  · rfl

/-- Precedence climbing: operands are grouped as long as the operators between them bind tighter
than the minimum. The operator in front of the loop binds no tighter than its left operand. -/
theorem gives_climb (steps : Nat) : ∀ minimum : Nat, minimum ≤ 13 →
    (∀ (s : State) (name : String) (links : List Link), (∀ link ∈ links, link.Fits) →
      Sees setup (.identifier name :: endingKinds links) s →
      Gives NoError setup (run steps (.binary minimum)) s
        (Takes setup [.identifier name] links minimum)) ∧
    (∀ (s : State) (start : Nat) (left : Located .expression) (links : List Link),
      (∀ link ∈ links, link.Fits) → Grouped left → minimum < left.item.tightness →
      (∀ link ∈ links.head?, link.operator.tightness ≤ 13 ∧
        link.operator.tightness ≤ left.item.tightness) →
      Sees setup (endingKinds links) s →
      Gives NoError setup (run steps (.binaryRest minimum start left)) s
        (Takes setup left.flatten links minimum)) := by
  induction steps with
  | zero => exact fun _ _ => ⟨fun _ _ _ _ _ => trivial, fun _ _ _ _ _ _ _ _ _ => trivial⟩
  | succ steps ih =>
      intro minimum low
      refine ⟨fun s name links fits sees => ?_,
        fun s start left links fits grouped tight loose sees => ?_⟩
      · refine .step (rfl : position setup s = .ok s.current.start s) ?_
        refine (gives_power steps s name links fits sees).bind fun left after holds => ?_
        obtain ⟨taken, rest, rfl, grouped, tokens, tight, ends, sees⟩ := holds
        have fits' := fun link listed => fits link (List.mem_append_right taken listed)
        have climbs := (ih minimum low).2 after s.current.start left rest fits' grouped
          (Nat.lt_of_le_of_lt low tight)
          (fun link first => ⟨ends link first, Nat.le_trans (ends link first) (Nat.le_of_lt tight)⟩)
          sees
        rw [tokens] at climbs
        exact climbs.weaken fun _ _ takes => takes.behind rfl
      · obtain ⟨next, more, begins, follows⟩ := endingKinds_cons fits
        refine .step (slashAsDivide_of_follows (begins ▸ sees) follows) ?_
        refine .step (rfl : currentKind setup s = .ok s.current.kind s) ?_
        refine .step (rfl : context setup s = .ok s.context s) ?_
        have stays (below : ∀ link ∈ links.head?, link.operator.tightness ≤ minimum) :
            Takes setup left.flatten links minimum left s :=
          ⟨[], links, rfl, grouped, (List.append_nil _).symm, tight, below, sees⟩
        cases links with
        | nil =>
            rw [sees.kind_eq]
            exact .ifTrue (by rfl) (.pure (stays nofun))
        | cons link links =>
            obtain ⟨bound, alike⟩ := loose link rfl
            have positive : 0 < link.operator.precedence := by
              rcases (fits link List.mem_cons_self).operator with positive | same
              · exact positive
              · rw [same] at bound
                exact absurd bound (by decide)
            obtain ⟨same, _, operator, named⟩ := TokenKind.named_of_precedence positive
            obtain ⟨kind, other⟩ := InfixOperator.kind_of_infixOperator named
            dsimp only
            rw [sees.kind_eq, sees.context]
            by_cases ends : link.operator.precedence ≤ minimum
            · refine .ifTrue (by rw [decide_eq_true ends, Bool.true_or]) (.pure (stays ?_))
              intro link first
              cases first
              exact same ▸ ends
            · refine .ifFalse (by rw [decide_eq_false ends]; rfl) ?_
              rw [named]
              have fits' := fun link listed => fits link (List.mem_cons_of_mem _ listed)
              refine .pass sees fun after sees => ?_
              have operand := (ih link.operator.precedence (same ▸ bound)).1 after link.name links
                fits' sees
              refine operand.bind fun right after holds => ?_
              obtain ⟨taken, rest, rfl, grouped', tokens, tight', below, sees⟩ := holds
              refine .step (rfl : finish start _ setup after = .ok _ after) ?_
              have combined : Grouped (.located start after.previous.stop
                  (operator.combine left right)) :=
                .operation other grouped grouped' (by rw [kind, ← same]; exact alike)
                  (by rw [kind]; exact tight')
              have holds : (operator.combine left right).tightness = link.operator.precedence := by
                rw [Node.tightness_combine, kind, same]
              have climbs := (ih minimum low).2 after start _ rest
                (fun link listed => fits' link (List.mem_append_right taken listed)) combined
                (by change minimum < (operator.combine left right).tightness; omega)
                (fun link first => ⟨Nat.le_trans (below link first) (same ▸ bound),
                  Nat.le_trans (below link first) (Nat.le_of_eq holds.symm)⟩) sees
              refine climbs.weaken fun _ _ takes => ?_
              rw [Node.flatten, Node.flatten_combine, tokens, kind] at takes
              refine Takes.behind (rfl : _ = link :: taken ++ rest) ?_
              rw [List.flatMap_cons, Link.kinds]
              exact takes

/-! ### Expressions and statements -/

/-- All links are read, and the tree is grouped. -/
def Ends (setup : Setup) (first : String) (links : List Link) (tree : Located .expression)
    (after : State) : Prop :=
  Grouped tree ∧ tree.flatten = chainKinds first links ∧ Sees setup [.endOfInput] after

/-- No operator is left when operators of any precedence are read. -/
theorem Takes.ends {first : String} {tree : Located .expression} {after : State}
    (fits : ∀ link ∈ links, link.Fits)
    (takes : Takes setup [.identifier first] links 0 tree after) :
    Ends setup first links tree after := by
  obtain ⟨taken, rest, rfl, grouped, tokens, _, ends, sees⟩ := takes
  cases rest with
  | nil =>
      rw [List.append_nil]
      exact ⟨grouped, tokens, sees⟩
  | cons link rest =>
      have listed : link ∈ taken ++ link :: rest := List.mem_append_right _ List.mem_cons_self
      have above := (fits link listed).operator.tightness_pos
      have below := ends link rfl
      omega

theorem eatMark_other (sees : Sees setup (kind :: kinds) s) {mark : Punctuator}
    (other : kind ≠ .punctuator mark) : eatMark mark setup s = .ok false s := by
  change (if decide (s.current.kind = .punctuator mark) = true then
    (do Parser.advance; return true : Parser Bool) else return false) setup s = _
  rw [sees.kind_eq, decide_eq_false other]
  rfl

theorem at?_eq (sees : Sees setup (kind :: kinds) s) (other : TokenKind) :
    at? other setup s = .ok (decide (kind = other)) s := by
  change Reply.ok (decide (s.current.kind = other)) s = _
  rw [sees.kind_eq]

/-- No arrow function begins with a name that an operator or the end follows. -/
theorem arrowHead?_name {self : Grammar} (sees : Sees setup (.identifier name :: next :: rest) s)
    (follows : next.FollowsName) :
    Gives NoError setup (arrowHead? self) s fun head after => head = none ∧ after = s := by
  obtain ⟨token, peeks, same⟩ := sees.peek
  have noArrow : token.kind ≠ .punctuator .arrow := same ▸ follows.ne (by decide)
  have noHead : startsArrowHead token.kind = false := by
    rw [same]
    cases next with
    | identifier name =>
        simp [TokenKind.FollowsName, TokenKind.IsInfix, TokenKind.precedence] at follows
    | punctuator mark =>
        have noParen : mark ≠ .leftParen := by
          rintro rfl
          exact absurd follows (by decide)
        cases mark <;> first | rfl | exact absurd rfl noParen
    | _ => rfl
  refine .step (rfl : currentKind setup s = .ok s.current.kind s) ?_
  rw [sees.kind_eq]
  refine .step peeks ?_
  rw [decide_eq_false noArrow, Bool.false_and]
  refine .ifFalse rfl (.step (at?_eq sees _) ?_)
  rw [noHead, Bool.and_false]
  exact .ifFalse rfl (.pure ⟨rfl, rfl⟩)

variable {first : String}

theorem gives_assignment {steps : Nat} (fits : ∀ link ∈ links, link.Fits)
    (sees : Sees setup (.identifier first :: endingKinds links) s) (room : s.depth < maxNesting) :
    Gives NoError setup (run steps .assignment) s (Ends setup first links) := by
  cases steps with
  | zero => trivial
  | succ steps =>
      refine .nestedWithin room ?_
      have sees' := sees.depth (s.depth + 1)
      generalize ({ s with depth := s.depth + 1 } : State) = s at sees'
      obtain ⟨next, more, begins, follows⟩ := endingKinds_cons fits
      refine .step (at?_eq sees' _) ?_
      refine .step (rfl : context setup s = .ok s.context s) ?_
      rw [sees'.context]
      refine .ifFalse rfl (.step (rfl : position setup s = .ok s.current.start s) ?_)
      refine (arrowHead?_name (begins ▸ sees') follows).bind fun head after holds => ?_
      obtain ⟨rfl, rfl⟩ := holds
      have noTarget : Gives NoError setup (destructuringTarget? (run steps)) after
          fun target last => target = none ∧ last = after := by
        refine .step (rfl : currentKind setup after = .ok after.current.kind after) ?_
        rw [sees'.kind_eq]
        exact .pure ⟨rfl, rfl⟩
      refine noTarget.bind fun target last holds => ?_
      obtain ⟨rfl, rfl⟩ := holds
      have test := ((gives_climb steps 0 (Nat.zero_le _)).1 last first links fits sees').weaken
        fun _ _ takes => takes.ends fits
      have whole : Gives NoError setup (conditional (run steps)) last (Ends setup first links) := by
        refine .step (rfl : position setup last = .ok last.current.start last) ?_
        refine test.bind fun tree after ends => ?_
        exact .step (eatMark_other ends.2.2 nofun) (.ifFalse rfl (.pure ends))
      refine whole.bind fun tree after ends => ?_
      refine .step (rfl : currentKind setup after = .ok after.current.kind after) ?_
      rw [ends.2.2.kind_eq]
      exact .pure ⟨ends.1, ends.2.1, ends.2.2.depth _⟩

/-- A tree of all links as a statement. -/
def EndsStatement (setup : Setup) (first : String) (links : List Link)
    (statement : Located .statement) (after : State) : Prop :=
  ∃ start stop tree, statement = .located start stop (.expressionStatement tree) ∧
    Ends setup first links tree after

theorem gives_sequenceStatement {steps : Nat} (fits : ∀ link ∈ links, link.Fits)
    (sees : Sees setup (.identifier first :: endingKinds links) s) (room : s.depth < maxNesting) :
    Gives NoError setup (expressionStatement (run steps)) s (EndsStatement setup first links) := by
  have expression : Gives NoError setup (run steps .expression) s (Ends setup first links) := by
    cases steps with
    | zero => trivial
    | succ steps =>
        refine .step (rfl : position setup s = .ok s.current.start s) ?_
        refine (gives_assignment fits sees room).bind fun tree after ends => ?_
        exact .step (at?_eq ends.2.2 _) (.ifFalse rfl (.pure ends))
  refine .step (rfl : position setup s = .ok s.current.start s) ?_
  refine expression.bind fun tree after ends => ?_
  have atEnd : atStatementEnd setup after = .ok true after := by
    change Reply.ok (_ || decide (after.current.kind = .endOfInput)) after = _
    rw [ends.2.2.kind_eq, decide_eq_true rfl, Bool.or_true]
  have semicolon : Gives NoError setup expectSemicolon after fun _ last => last = after :=
    .step (eatMark_other ends.2.2 nofun) (.ifFalse rfl (.step atEnd (.ifTrue rfl (.pure rfl))))
  refine semicolon.bind fun _ last same => ?_
  subst same
  exact ⟨_, _, tree, rfl, ends⟩

theorem gives_statementOf {steps : Nat} (fits : ∀ link ∈ links, link.Fits)
    (sees : Sees setup (.identifier first :: endingKinds links) s) (outermost : s.depth = 0) :
    Gives NoError setup (run steps .statement) s (EndsStatement setup first links) := by
  cases steps with
  | zero => trivial
  | succ steps =>
      refine .nestedWithin (by rw [outermost]; decide) ?_
      have sees' := sees.depth (s.depth + 1)
      have room : s.depth + 1 < maxNesting := by rw [outermost]; decide
      obtain ⟨next, more, begins, follows⟩ := endingKinds_cons fits
      obtain ⟨token, peeks, same⟩ := (begins ▸ sees').peek
      have noFunction : token.kind ≠ .keyword .functionWord := same ▸ follows.ne (by decide)
      have noLabel : token.kind ≠ .punctuator .colon := same ▸ follows.ne (by decide)
      refine .step (rfl : currentKind setup { s with depth := s.depth + 1 } =
        .ok s.current.kind { s with depth := s.depth + 1 }) ?_
      rw [sees.kind_eq]
      refine .step (rfl : position setup { s with depth := s.depth + 1 } =
        .ok s.current.start { s with depth := s.depth + 1 }) (.step peeks ?_)
      refine .step (at?_eq sees' _) ?_
      rw [decide_eq_false noFunction, Bool.and_false, Bool.false_and]
      refine .ifFalse rfl ?_
      rw [if_neg noLabel]
      refine (gives_sequenceStatement fits sees' room).weaken fun statement after ends => ?_
      obtain ⟨start, stop, tree, rfl, grouped, tokens, sees⟩ := ends
      exact ⟨start, stop, tree, rfl, grouped, tokens, sees.depth _⟩

theorem gives_sequence {steps : Nat} (fits : ∀ link ∈ links, link.Fits)
    (sees : Sees setup (.identifier first :: endingKinds links) s) (outermost : s.depth = 0) :
    Gives NoError setup (run steps (.statements .script)) s fun body after =>
      ∃ statement, body = .cons statement .nil ∧
        EndsStatement setup first links statement after := by
  cases steps with
  | zero => trivial
  | succ steps =>
      refine .step (rfl : currentKind setup s = .ok s.current.kind s) ?_
      rw [sees.kind_eq]
      refine .ifFalse rfl ?_
      refine (gives_statementOf fits sees outermost).bind fun statement after ends => ?_
      have ended : Gives NoError setup (run steps (.statements .script)) after
          fun rest last => rest = .nil ∧ last = after := by
        cases steps with
        | zero => trivial
        | succ steps =>
            obtain ⟨_, _, _, _, _, _, sees⟩ := ends
            refine .step (rfl : currentKind setup after = .ok after.current.kind after) ?_
            rw [sees.kind_eq]
            exact .ifTrue rfl (.pure ⟨rfl, rfl⟩)
      refine ended.bind fun rest last holds => .pure ?_
      obtain ⟨rfl, rfl⟩ := holds
      exact ⟨statement, rfl, ends⟩

/-- The state in front of a name with links sees their tokens. -/
theorem sees_start (named : Lexer.ReadsAs first.toList (.identifier first))
    (fits : ∀ link ∈ links, link.Fits) :
    ∃ s, start Setup.standard (chainText first links) = .ok s ∧ s.depth = 0 ∧
      Sees Setup.standard (.identifier first :: endingKinds links) s := by
  have spelled : (TokenKind.identifier first).Spelled := Lexer.spelled_of_readsAs named rfl
  have yields : Lexer.Yields TokenKind.endsOperand (Lexer.ofText (chainText first links))
      (.identifier first :: endingKinds links) := by
    refine Lexer.yields_token rfl rfl spelled
      (Lexer.stops_links links) nofun nofun fun after next whole guess => ?_
    exact Lexer.yields_links fits after next whole guess
  generalize kinds : TokenKind.identifier first :: endingKinds links = ahead at yields
  cases yields with
  | nil => cases kinds
  | cons reads more =>
      unfold start
      rw [show Setup.standard.endsOperand = TokenKind.endsOperand from rfl, reads]
      exact ⟨_, rfl, rfl, ⟨_, rfl, more⟩, rfl⟩

end Parser

/-- A text of names with infix operators between them, separated by spaces, is a script of one
expression. Its tree has the tokens of the text from left to right, it is grouped as the precedence
of the operators says, and no other tree is. -/
theorem parse_chain {first : String} {links : List Link}
    (named : Lexer.ReadsAs first.toList (.identifier first)) (fits : ∀ link ∈ links, link.Fits) :
    ∃ start stop tree,
      parse (String.ofList (chainText first links)) = .ok {
        start := 0
        stop := Text.byteLength (chainText first links)
        body := .single (.located start stop (.expressionStatement tree)) } ∧
      Grouped tree ∧ tree.flatten = chainKinds first links ∧
      ∀ other, Grouped other → other.flatten = chainKinds first links →
        other.erase = tree.erase := by
  obtain ⟨s, starts, outermost, sees⟩ := Parser.sees_start named fits
  have gives := @Parser.gives_sequence _ _ _ _ (Parser.stepBound (chainText first links)) fits sees
    outermost
  have enough : Parser.replyTo Setup.standard (chainText first links) ≠ .ok .exhausted :=
    Parser.replyTo_ne_exhausted _
  unfold Parser.replyTo at enough
  unfold parse parseWith Parser.replyTo
  rw [String.toList_ofList]
  rw [starts] at enough ⊢
  unfold Parser.Gives at gives
  simp only [Except.map] at enough ⊢
  cases outcome : Parser.run (Parser.stepBound (chainText first links)) (.statements .script)
      Setup.standard s with
  | ok body after =>
      rw [outcome] at gives
      obtain ⟨statement, rfl, start, stop, tree, rfl, grouped, tokens, _⟩ := gives
      exact ⟨start, stop, tree, rfl, grouped, tokens,
        fun other grouped' tokens' => grouped'.unique grouped (tokens'.trans tokens.symm)⟩
  | reject error after =>
      rw [outcome] at gives
      exact gives.elim
  | exhausted => exact absurd (congrArg Except.ok outcome) enough

/-- The operators of three levels between five names. -/
theorem parse_chain_three_levels :
    let links : List Link := [
      ⟨.punctuator .nullish, "b"⟩, ⟨.punctuator .power, "c"⟩, ⟨.punctuator .slash, "d"⟩,
      ⟨.keyword .inWord, "e"⟩]
    String.ofList (chainText "a" links) = "a ?? b ** c / d in e" ∧
    ∃ start stop tree,
      parse (String.ofList (chainText "a" links)) = .ok {
        start := 0
        stop := Text.byteLength (chainText "a" links)
        body := .single (.located start stop (.expressionStatement tree)) } ∧
      Grouped tree ∧ tree.flatten = chainKinds "a" links ∧
      ∀ other, Grouped other → other.flatten = chainKinds "a" links →
        other.erase = tree.erase := by
  intro links
  have word (name : String) (known : name ∈ ["a", "b", "c", "d", "e"]) :
      Lexer.ReadsAs name.toList (.identifier name) := by
    simp only [List.mem_cons, List.not_mem_nil, or_false] at known
    rcases known with rfl | rfl | rfl | rfl | rfl <;> exact ⟨_, _, _, _, rfl, rfl, rfl, rfl⟩
  have fits : ∀ link ∈ links, link.Fits := by
    simp only [links, List.forall_mem_cons]
    exact ⟨⟨by decide, word _ (by decide)⟩, ⟨by decide, word _ (by decide)⟩,
      ⟨by decide, word _ (by decide)⟩, ⟨by decide, word _ (by decide)⟩, nofun⟩
  exact ⟨rfl, parse_chain (word "a" (by decide)) fits⟩

end Ecmascript
