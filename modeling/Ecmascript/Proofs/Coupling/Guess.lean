import Ecmascript.Proofs.Coupling.Statement
import Ecmascript.Proofs.Sound

/-!
# The guess about a slash

Which tokens a slash is taken for a division after is a guess, which the parser puts right where it
reads an operator or an operand. There is one place where it does not: behind a conditional
expression that ends in an arrow function with a block, or in a bare `yield`, the guess decides
whether `/=` is an assignment sign. Runs under two guesses that agree about these two tokens are
coupled.
-/

set_option autoImplicit false

namespace Ecmascript

namespace Parser

open Coupling

/-- The tokens behind which the parser relies on the guess. -/
def ReliesOnGuess (kind : TokenKind) : Prop :=
  kind = .punctuator .rightBrace ∨ kind = .identifier "yield"

namespace Guessing

/-- The next token is the same, and so is the rest of the text. -/
structure SameToken (s t : State) : Prop where
  current : s.current = t.current
  level : s.lexer.unguessed = t.lexer.unguessed
  guess : s.lexer.rest = [] ∨ s.lexer.regexAllowed = t.lexer.regexAllowed ∨
    ¬ ReliesOnGuess s.current.kind

/-- The next token is a slash that was read in two ways. -/
structure TwoReadings (s t : State) : Prop where
  misread : Lexer.Misread s.current s.lexer t.current t.lexer ∨
    Lexer.Misread t.current t.lexer s.current s.lexer
  guess : ¬ ReliesOnGuess s.previous.kind

/-- The lexer of a state stands in its source, and so does a slash that is next. -/
structure Stands (s : State) : Prop where
  placed : s.lexer.Placed
  slash : s.current.kind.isSlash = true → Lexer.SlashAt s.lexer.source s.current.start

/-- Two states that correspond, as far as their next tokens do. -/
structure Alike (tokens : State → State → Prop) (s t : State) : Prop where
  left : Stands s
  right : Stands t
  previous : s.previous = t.previous
  context : s.context = t.context
  depth : s.depth = t.depth
  failed : s.failed.map Prod.fst = t.failed.map Prod.fst
  tokens : tokens s t

/-- The states that correspond under two guesses. -/
def Related : Grip → State → State → Prop
  | .firm => Alike SameToken
  | .loose => Alike fun s t => SameToken s t ∨ TwoReadings s t

/-- States with errors that correspond: the same attempts have failed, at the same depth. -/
structure Dropped (s t : State) : Prop where
  failed : s.failed.map Prod.fst = t.failed.map Prod.fst
  depth : s.depth = t.depth

end Guessing

open Guessing

/-- The coupling of runs under two guesses. -/
abbrev guessing (p q : TokenKind → Bool) (remember : Bool) : Coupling where
  left := { endsOperand := p, remember }
  right := { endsOperand := q, remember }
  related := Related
  fault _ _ := True
  dropped := Dropped
  spoilt _ := False
  grave _ := False
  lax := False

namespace Guessing

variable {p q : TokenKind → Bool} {remember : Bool} {s t : State}

/-- Nothing is spoilt, so two parsers are linked when their replies match. -/
theorem links_of_matches {α : Type} {pre : State → State → Prop} {m m' : Parser α}
    {post : α → State → State → Prop}
    (replies : ∀ s t, pre s t → (guessing p q remember).Matches post
      (m { endsOperand := p, remember } s) (m' { endsOperand := q, remember } t)) :
    (guessing p q remember).Links pre m m' post :=
  ⟨replies, fun _ spoilt => False.elim spoilt, fun _ spoilt => False.elim spoilt⟩

theorem isSlash_of_misread {slash regex : Token} {after after' : Lexer}
    (misread : Lexer.Misread slash after regex after') :
    slash.kind.isSlash = true ∧ regex.kind.isSlash = true := by
  obtain ⟨raw, regexKind⟩ := misread.regexKind
  rw [regexKind]
  rcases misread.slashKind with slashKind | slashKind <;> rw [slashKind] <;> exact ⟨rfl, rfl⟩

theorem TwoReadings.slash (readings : TwoReadings s t) :
    s.current.kind.isSlash = true ∧ t.current.kind.isSlash = true := by
  rcases readings.misread with misread | misread
  · exact isSlash_of_misread misread
  · exact (isSlash_of_misread misread).symm

theorem TwoReadings.start (readings : TwoReadings s t) :
    s.current.start = t.current.start ∧ s.current.newlineBefore = t.current.newlineBefore := by
  rcases readings.misread with misread | misread
  · exact ⟨misread.start, misread.newlineBefore⟩
  · exact ⟨misread.start.symm, misread.newlineBefore.symm⟩

/-- Nothing that is compared changes with the grammar parameters or the depth. -/
theorem Related.scope {grip : Grip} {context context' : Context} {depth depth' : Nat}
    (sameContext : context = context') (sameDepth : depth = depth') (related : Related grip s t) :
    Related grip { s with context, depth } { t with context := context', depth := depth' } := by
  have stands {s : State} {context : Context} {depth : Nat} (stands : Stands s) :
      Stands { s with context, depth } :=
    ⟨stands.placed, stands.slash⟩
  cases grip with
  | firm =>
      exact ⟨stands related.left, stands related.right, related.previous, sameContext, sameDepth,
        related.failed, ⟨related.tokens.current, related.tokens.level, related.tokens.guess⟩⟩
  | loose =>
      refine ⟨stands related.left, stands related.right, related.previous, sameContext, sameDepth,
        related.failed, ?_⟩
      rcases related.tokens with same | readings
      · exact .inl ⟨same.current, same.level, same.guess⟩
      · exact .inr ⟨readings.misread, readings.guess⟩

theorem Alike.symm {tokens tokens' : State → State → Prop} (alike : Alike tokens s t)
    (flip : tokens s t → tokens' t s) : Alike tokens' t s :=
  ⟨alike.right, alike.left, alike.previous.symm, alike.context.symm, alike.depth.symm,
    alike.failed.symm, flip alike.tokens⟩

theorem SameToken.symm (same : SameToken s t) : SameToken t s := by
  refine ⟨same.current.symm, same.level.symm, ?_⟩
  have rest : s.lexer.rest = t.lexer.rest := (Lexer.unguessed_eq_iff.1 same.level).2.2.1
  rcases same.guess with ends | guess | decided
  · exact .inl (rest ▸ ends)
  · exact .inr (.inl guess.symm)
  · exact .inr (.inr (same.current ▸ decided))

theorem Related.loosen (related : Related .firm s t) : Related .loose s t :=
  ⟨related.left, related.right, related.previous, related.context, related.depth,
    related.failed, .inl related.tokens⟩

theorem Related.depth {grip : Grip} (related : Related grip s t) : s.depth = t.depth := by
  cases grip with
  | firm => exact Alike.depth related
  | loose => exact Alike.depth related

theorem Related.dropped {grip : Grip} (related : Related grip s t) : Dropped s t := by
  cases grip with
  | firm => exact ⟨Alike.failed related, Alike.depth related⟩
  | loose => exact ⟨Alike.failed related, Alike.depth related⟩

theorem dropped_of_loose (related : (guessing p q remember).loose s t) : Dropped s t :=
  Related.dropped (show Related .loose s t from related)

theorem Related.context {grip : Grip} (related : Related grip s t) : s.context = t.context := by
  cases grip with
  | firm => exact Alike.context related
  | loose => exact Alike.context related

/-! ## Reading tokens -/

theorem advance_links (agree : ∀ kind, ReliesOnGuess kind → p kind = q kind) (kind : TokenKind) :
    (guessing p q remember).Links ((guessing p q remember).before kind) advance advance
      (fun _ => (guessing p q remember).behind kind) := by
  refine links_of_matches fun s t holds => ?_
  obtain ⟨related, known⟩ : Alike SameToken s t ∧ s.current.kind = kind := holds
  have compared := Lexer.nextWith_compared p q related.left.placed related.tokens.level
  unfold advance
  dsimp only
  cases left : s.lexer.nextWith p with
  | mk outcome after =>
  cases right : t.lexer.nextWith q with
  | mk outcome' after' =>
  rw [left, right] at compared
  have alike {token token' : Token} (reads : outcome = .ok token) (reads' : outcome' = .ok token')
      (same : SameToken { s with lexer := after, current := token, previous := s.current }
          { t with lexer := after', current := token', previous := t.current } ∨
        TwoReadings { s with lexer := after, current := token, previous := s.current }
          { t with lexer := after', current := token', previous := t.current }) :
      Related .loose { s with lexer := after, current := token, previous := s.current }
        { t with lexer := after', current := token', previous := t.current } := by
    subst reads
    subst reads'
    obtain ⟨placed, slash⟩ := related.left.placed.reads left
    obtain ⟨placed', slash'⟩ := related.right.placed.reads right
    exact ⟨⟨placed, slash⟩, ⟨placed', slash'⟩, related.tokens.current, related.context,
      related.depth, related.failed, same⟩
  have unsure (differ : s.lexer.rest ≠ [] ∧ s.lexer.regexAllowed ≠ t.lexer.regexAllowed) :
      ¬ ReliesOnGuess s.current.kind := by
    rcases related.tokens.guess with ends | same | other
    · exact absurd ends differ.1
    · exact absurd same differ.2
    · exact other
  cases compared with
  | error => exact .reject trivial ⟨related.failed, related.depth⟩
  | @same token _ _ level guess =>
      refine .ok ⟨alike rfl rfl (.inl ⟨rfl, level, ?_⟩), known⟩
      rcases guess with ends | same
      · exact .inl ends
      · by_cases relies : ReliesOnGuess token.kind
        · exact .inr (.inl (same (agree _ relies)))
        · exact .inr (.inr relies)
  | misread differ misread =>
      exact .ok ⟨alike rfl rfl (.inr ⟨.inl misread, unsure differ⟩), known⟩
  | misreadBack differ misread =>
      exact .ok ⟨alike rfl rfl (.inr ⟨.inr misread, unsure differ⟩), known⟩

theorem peek_compared (related : Related .firm s t) :
    (∃ a b, peek { endsOperand := p, remember } s = .ok a s ∧
      peek { endsOperand := q, remember } t = .ok b t ∧
        (a = b ∨ (a.kind.isSlash = true ∧ b.kind.isSlash = true))) ∨
    (∃ e f, peek { endsOperand := p, remember } s = .reject e s ∧
      peek { endsOperand := q, remember } t = .reject f t ∧ True) := by
  have compared := Lexer.nextWith_compared p q related.left.placed related.tokens.level
  unfold peek
  dsimp only
  generalize s.lexer.nextWith p = outcome at compared ⊢
  generalize t.lexer.nextWith q = outcome' at compared ⊢
  cases compared with
  | error => exact .inr ⟨_, _, rfl, rfl, trivial⟩
  | same => exact .inl ⟨_, _, rfl, rfl, .inl rfl⟩
  | misread _ misread => exact .inl ⟨_, _, rfl, rfl, .inr (isSlash_of_misread misread)⟩
  | misreadBack _ misread => exact .inl ⟨_, _, rfl, rfl, .inr (isSlash_of_misread misread).symm⟩

/-! ## Deciding about a slash -/

/-- A slash that has been decided about is the next token in both runs. -/
theorem related_decided {tokens : State → State → Prop} {token : Token} {after after' : Lexer}
    (related : Alike tokens s t) (placed : after.Placed) (placed' : after'.Placed)
    (slash : Lexer.SlashAt after.source token.start) (level : after.unguessed = after'.unguessed)
    (decided : ¬ ReliesOnGuess token.kind) :
    Related .firm { s with lexer := after, current := token }
      { t with lexer := after', current := token } := by
  have source : after.source = after'.source := by
    cases after
    cases after'
    cases level
    rfl
  refine ⟨⟨placed, fun _ => slash⟩, ⟨placed', fun _ => ?_⟩, related.previous, related.context,
    related.depth, related.failed, ⟨rfl, level, .inr (.inr decided)⟩⟩
  change Lexer.SlashAt after'.source token.start
  exact source ▸ slash

theorem not_relies_of_slash {kind : TokenKind} (slash : kind.isSlash = true) :
    ¬ ReliesOnGuess kind := by
  rcases TokenKind.isSlash_cases slash with rfl | rfl | ⟨raw, rfl⟩ <;> unfold ReliesOnGuess <;> simp

/-- One run reads the slash that the other has read as a regular expression. -/
theorem slashAsRegex_misread {tokens : State → State → Prop} (setup setup' : Setup)
    (related : Alike tokens s t)
    (misread : Lexer.Misread s.current s.lexer t.current t.lexer) :
    ∃ s', slashAsRegex setup s = .ok () s' ∧ slashAsRegex setup' t = .ok () t ∧
      Related .firm s' t := by
  obtain ⟨raw, regexKind⟩ := misread.regexKind
  have slash := (isSlash_of_misread misread).2
  refine ⟨{ s with lexer := t.lexer.unguessed, current := t.current }, ?_, ?_, ?_⟩
  · rw [slashAsRegex_of_slash setup misread.slashKind, misread.asRegex]
  · refine slashAsRegex_of_not_slash setup' ?_
    rw [regexKind]
    nofun
  · exact related_decided related related.right.placed.unguessed
      related.right.placed (related.right.slash slash) rfl (not_relies_of_slash slash)

theorem slashAsRegex_same {tokens : State → State → Prop} (related : Alike tokens s t)
    (same : SameToken s t) :
    (guessing p q remember).Matches (fun _ => (guessing p q remember).firm)
      (slashAsRegex { endsOperand := p, remember } s)
      (slashAsRegex { endsOperand := q, remember } t) := by
  by_cases slash : s.current.kind = .punctuator .slash ∨ s.current.kind = .punctuator .slashAssign
  · have slash' := slash
    rw [same.current] at slash'
    rw [slashAsRegex_of_slash _ slash, slashAsRegex_of_slash _ slash', ← same.current]
    rcases Lexer.rescanRegex_level s.current same.level with
      ⟨regex, after, reads, reads'⟩ | ⟨error, after, after', fails, fails'⟩
    · rw [reads, reads']
      have isSlash : s.current.kind.isSlash = true := by
        rcases slash with slash | slash <;> rw [slash] <;> rfl
      obtain ⟨⟨_, _, moves⟩, start, raw, kind⟩ :=
        Lexer.rescanRegex_passes (related.left.slash isSlash) reads
      have placed := (Lexer.seek_slash (related.left.slash isSlash)).1.passes moves
      refine .ok (related_decided related placed placed ?_ rfl ?_)
      · rw [moves.source, start]
        exact related.left.slash isSlash
      · rw [kind]
        exact not_relies_of_slash rfl
    · rw [fails, fails']
      exact .reject trivial ⟨related.failed, related.depth⟩
  · have slash' := slash
    rw [same.current] at slash'
    rw [slashAsRegex_of_not_slash _ slash, slashAsRegex_of_not_slash _ slash']
    exact .ok ⟨related.left, related.right, related.previous, related.context, related.depth,
      related.failed, same⟩

theorem slashAsRegex_links :
    (guessing p q remember).Links (guessing p q remember).loose slashAsRegex slashAsRegex
      (fun _ => (guessing p q remember).firm) := by
  refine links_of_matches fun s t related => ?_
  have alike : Alike (fun s t => SameToken s t ∨ TwoReadings s t) s t := related
  rcases alike.tokens with same | ⟨misread | misread, guess⟩
  · exact slashAsRegex_same alike same
  · obtain ⟨s', left, right, firm⟩ := slashAsRegex_misread _ _ alike misread
    rw [left, right]
    exact .ok firm
  · have back : Alike (fun _ _ => True) t s := alike.symm fun _ => trivial
    obtain ⟨t', right, left, firm⟩ := slashAsRegex_misread _ _ back misread
    rw [left, right]
    exact .ok (Alike.symm firm SameToken.symm)

theorem slashAsDivide_of_regex (setup : Setup) {raw : String}
    (regex : s.current.kind = .regex raw) :
    slashAsDivide setup s = .ok () { s with
      lexer := (s.lexer.rescanDivide s.current).2
      current := (s.lexer.rescanDivide s.current).1 } := by
  unfold slashAsDivide
  rw [regex]

theorem slashAsDivide_of_not_regex (setup : Setup)
    (other : ∀ raw, s.current.kind ≠ .regex raw) : slashAsDivide setup s = .ok () s := by
  unfold slashAsDivide
  split
  · exact absurd ‹_› (other _)
  · rfl

/-- One run reads the slash that the other has read as a division. -/
theorem slashAsDivide_misread {tokens : State → State → Prop} (setup setup' : Setup)
    (related : Alike tokens s t)
    (misread : Lexer.Misread s.current s.lexer t.current t.lexer) :
    ∃ t', slashAsDivide setup s = .ok () s ∧ slashAsDivide setup' t = .ok () t' ∧
      Related .firm s t' := by
  obtain ⟨raw, regexKind⟩ := misread.regexKind
  have slash := (isSlash_of_misread misread).1
  refine ⟨{ t with lexer := { s.lexer with regexAllowed := true }, current := s.current },
    ?_, ?_, ?_⟩
  · refine slashAsDivide_of_not_regex setup fun raw regex => ?_
    rcases misread.slashKind with slash | slash <;> rw [slash] at regex <;> cases regex
  · rw [slashAsDivide_of_regex setup' regexKind, misread.asDivide]
  · obtain ⟨before, passed⟩ := related.left.placed
    exact related_decided related related.left.placed
      ⟨before, passed.rest, passed.position, passed.source⟩ (related.left.slash slash) rfl
      (not_relies_of_slash slash)

theorem slashAsDivide_same {tokens : State → State → Prop} (related : Alike tokens s t)
    (same : SameToken s t) :
    (guessing p q remember).Matches (fun _ => (guessing p q remember).firm)
      (slashAsDivide { endsOperand := p, remember } s)
      (slashAsDivide { endsOperand := q, remember } t) := by
  by_cases regex : ∃ raw, s.current.kind = .regex raw
  · obtain ⟨raw, regex⟩ := regex
    have regex' := regex
    rw [same.current] at regex'
    rw [slashAsDivide_of_regex _ regex, slashAsDivide_of_regex _ regex', ← same.current,
      ← Lexer.rescanDivide_level s.current same.level]
    have slash := related.left.slash (by rw [regex]; rfl)
    obtain ⟨⟨_, _, moves⟩, start, kind⟩ := Lexer.rescanDivide_passes slash
    have placed := (Lexer.seek_slash slash).1.passes moves
    refine .ok (related_decided related placed placed ?_ rfl ?_)
    · rw [moves.source, start]
      exact slash
    · rcases kind with kind | kind <;> rw [kind] <;> exact not_relies_of_slash rfl
  · have other : ∀ raw, s.current.kind ≠ .regex raw := fun raw same => regex ⟨raw, same⟩
    have other' := other
    rw [same.current] at other'
    rw [slashAsDivide_of_not_regex _ other, slashAsDivide_of_not_regex _ other']
    exact .ok ⟨related.left, related.right, related.previous, related.context, related.depth,
      related.failed, same⟩

theorem slashAsDivide_links :
    (guessing p q remember).Links (guessing p q remember).loose slashAsDivide slashAsDivide
      (fun _ => (guessing p q remember).firm) := by
  refine links_of_matches fun s t related => ?_
  have alike : Alike (fun s t => SameToken s t ∨ TwoReadings s t) s t := related
  rcases alike.tokens with same | ⟨misread | misread, guess⟩
  · exact slashAsDivide_same alike same
  · obtain ⟨t', left, right, firm⟩ := slashAsDivide_misread _ _ alike misread
    rw [left, right]
    exact .ok firm
  · have back : Alike (fun _ _ => True) t s := alike.symm fun _ => trivial
    obtain ⟨s', right, left, firm⟩ := slashAsDivide_misread _ _ back misread
    rw [left, right]
    exact .ok (Alike.symm firm SameToken.symm)

/-! ## Scopes and attempts -/

/-- No reply is excused. -/
theorem cases_of_matches {α : Type} {post : α → State → State → Prop} {r r' : Reply α}
    (matched : (guessing p q remember).Matches post r r') :
    (∃ value s t, r = .ok value s ∧ r' = .ok value t ∧ post value s t) ∨
      (∃ e f s t, r = .reject e s ∧ r' = .reject f t ∧ Dropped s t) ∨
      (r = .exhausted ∧ r' = .exhausted) := by
  have sound {r : Reply α} (spoils : (guessing p q remember).Spoils r) : False := by
    cases r with
    | ok value after => exact spoils
    | reject error after => exact spoils.elim id id
    | exhausted => exact spoils
  cases matched with
  | ok holds => exact .inl ⟨_, _, _, rfl, rfl, holds⟩
  | reject fault dropped => exact .inr (.inl ⟨_, _, _, _, rfl, rfl, dropped⟩)
  | exhausted => exact .inr (.inr ⟨rfl, rfl⟩)
  | leftSpoils spoils => exact (sound spoils).elim
  | rightSpoils spoils => exact (sound spoils).elim

theorem nested_links {α : Type} {grip : Grip} {m m' : Parser α}
    (linked : (guessing p q remember).Links (guessing p q remember).loose m m'
      (fun _ => (guessing p q remember).related grip)) :
    (guessing p q remember).Links (guessing p q remember).loose (nested m) (nested m')
      (fun _ => (guessing p q remember).related grip) := by
  refine links_of_matches fun s t related => ?_
  have related : Related .loose s t := related
  have deeper := related.scope related.context (congrArg (· + 1) related.depth)
  unfold nested
  dsimp only
  rw [← related.depth]
  split
  · exact .reject trivial related.dropped
  have matched : (guessing p q remember).Matches (fun _ => Related grip)
      (m { endsOperand := p, remember } { s with depth := s.depth + 1 })
      (m' { endsOperand := q, remember } { t with depth := s.depth + 1 }) := by
    rw [related.depth] at deeper ⊢
    exact linked.replies _ _ deeper
  rcases cases_of_matches matched with
    ⟨value, s', t', left, right, holds⟩ | ⟨e, f, s', t', left, right, dropped⟩ | ⟨left, right⟩
  · rw [left, right]
    exact .ok (Related.scope holds.context (congrArg (· - 1) holds.depth) holds)
  · rw [left, right]
    exact .reject trivial ⟨dropped.failed, congrArg (· - 1) dropped.depth⟩
  · rw [left, right]
    exact .exhausted

theorem attempt_links {α : Type} {m m' : Parser α} {kind : TokenKind} (attempted : AttemptKind)
    {post : α → State → State → Prop}
    (linked : (guessing p q remember).Links ((guessing p q remember).before kind) m m' post) :
    (guessing p q remember).Links ((guessing p q remember).before kind) (attempt attempted m)
      (attempt attempted m') (fun
        | some value => post value
        | none => (guessing p q remember).before kind) := by
  refine links_of_matches fun s t holds => ?_
  obtain ⟨related, known⟩ : Alike SameToken s t ∧ s.current.kind = kind := holds
  have key : (⟨s.current.start, attempted, s.context⟩ : Attempt) =
      ⟨t.current.start, attempted, t.context⟩ := by
    rw [related.tokens.current, related.context]
  have failed : s.failed.any (fun failure => failure.1 = ⟨t.current.start, attempted, t.context⟩) =
      t.failed.any (fun failure => failure.1 = ⟨t.current.start, attempted, t.context⟩) := by
    have any_eq (known : List (Attempt × SyntaxError)) (key : Attempt) :
        known.any (fun failure => failure.1 = key) = (known.map Prod.fst).any (· = key) := by
      rw [List.any_map]
      rfl
    rw [any_eq, any_eq, related.failed]
  have forgotten {rest rest' : List (Attempt × SyntaxError)} {depth depth' : Nat}
      (same : rest.map Prod.fst = rest'.map Prod.fst) (sameDepth : depth = depth') :
      (guessing p q remember).before kind { s with failed := rest, depth }
        { t with failed := rest', depth := depth' } :=
    ⟨⟨⟨related.left.placed, related.left.slash⟩, ⟨related.right.placed, related.right.slash⟩,
      related.previous, related.context, sameDepth, same,
      ⟨related.tokens.current, related.tokens.level, related.tokens.guess⟩⟩, known⟩
  unfold attempt
  dsimp only
  rw [key, failed]
  split
  · exact .ok (forgotten related.failed related.depth)
  have matched : (guessing p q remember).Matches post (m { endsOperand := p, remember } s)
      (m' { endsOperand := q, remember } t) :=
    linked.replies s t ⟨related, known⟩
  rcases cases_of_matches matched with
    ⟨value, s', t', left, right, holds⟩ | ⟨e, f, s', t', left, right, dropped⟩ | ⟨left, right⟩
  · rw [left, right]
    exact .ok holds
  · rw [left, right]
    refine .ok (forgotten ?_ dropped.depth)
    simp only [List.map_cons, dropped.failed]
  · rw [left, right]
    exact .exhausted

theorem lawful (agree : ∀ kind, ReliesOnGuess kind → p kind = q kind) :
    (guessing p q remember).Lawful where
  loosen := Related.loosen
  firm_or_slash related := by
    have alike : Alike (fun s t => SameToken s t ∨ TwoReadings s t) _ _ := related
    rcases alike.tokens with same | readings
    · exact .inl ⟨alike.left, alike.right, alike.previous, alike.context, alike.depth,
        alike.failed, same⟩
    · exact .inr readings.slash
  current related := SameToken.current (Alike.tokens related)
  start related := by
    rcases Alike.tokens related with same | readings
    · rw [same.current]
    · exact readings.start.1
  newline related := by
    rcases Alike.tokens related with same | readings
    · rw [same.current]
    · exact readings.start.2
  context related := Alike.context related
  previous related := by rw [Alike.previous related]
  tighten related relies := by
    have alike : Alike (fun s t => SameToken s t ∨ TwoReadings s t) _ _ := related
    rcases alike.tokens with same | readings
    · exact ⟨alike.left, alike.right, alike.previous, alike.context, alike.depth,
        alike.failed, same⟩
    · exact absurd relies readings.guess
  fault _ := trivial
  drop := dropped_of_loose
  recontext context related := Related.scope rfl (Related.depth related) related
  dropContext _ dropped := ⟨dropped.failed, dropped.depth⟩
  spoiltContext _ spoilt := spoilt
  spoiltLax spoilt := spoilt
  advance := advance_links agree
  peek := peek_compared
  slashAsRegex := slashAsRegex_links
  slashAsDivide := slashAsDivide_links
  unexpected _ := links_of_matches fun _ _ related => .reject trivial (dropped_of_loose related)
  reservedWord _ := links_of_matches fun _ _ related => .reject trivial (dropped_of_loose related)
  nested := nested_links

theorem attempts (laws : (guessing p q remember).Lawful) {self : Grammar}
    (agree : (guessing p q remember).Agree self self) :
    (guessing p q remember).Attempts self self := by
  have loosely {α : Type} {kind : TokenKind} {head : Parser α} (attempted : AttemptKind)
      (linked : (guessing p q remember).Links (guessing p q remember).loose head head
        (fun _ => (guessing p q remember).loose)) :
      (guessing p q remember).Links ((guessing p q remember).before kind)
        (attempt attempted head) (attempt attempted head)
        (fun _ => (guessing p q remember).loose) := by
    refine (attempt_links attempted (linked.fromBefore laws)).relax fun value s t holds => ?_
    cases value with
    | some value => exact holds
    | none => exact laws.loose_of_before holds
  refine ⟨loosely _ (agree.arrowHead laws), ?_, fun mark _ => ?_,
    fun mark _ => loosely _ (agree.loopTarget laws)⟩
  · refine (attempt_links _ (agree.asyncArrowHead laws)).relax fun value s t holds => ?_
    cases value with
    | some value => exact holds
    | none => exact laws.loose_of_before holds
  · refine (attempt_links _ ((agree.destructuringTarget laws).fromBefore laws)).relax
      fun value s t holds => ?_
    cases value with
    | some value => exact ⟨laws.loose_of_before holds, fun _ => holds⟩
    | none => exact ⟨laws.loose_of_before holds, nofun⟩

/-! ## Runs -/

theorem agree_run (agree : ∀ kind, ReliesOnGuess kind → p kind = q kind) (steps : Nat) :
    (guessing p q remember).Agree (run steps) (run steps) := by
  induction steps with
  | zero => exact fun goal => links_of_matches fun s t related => .exhausted
  | succ steps ih => exact ih.production (lawful agree) (attempts (lawful agree) ih)

/-- The runs begin in corresponding states: at the beginning of a text both take a slash for a
regular expression. -/
theorem start_related (agree : ∀ kind, ReliesOnGuess kind → p kind = q kind) (source : Text) :
    (∃ s t, start { endsOperand := p, remember } source = .ok s ∧
      start { endsOperand := q, remember } source = .ok t ∧ Related .loose s t) ∨
    ∃ error, start { endsOperand := p, remember } source = .error error ∧
      start { endsOperand := q, remember } source = .error error := by
  have placed := Lexer.placed_ofText source
  have compared := Lexer.nextWith_compared p q placed rfl
  unfold start
  dsimp only
  cases left : (Lexer.ofText source).nextWith p with
  | mk outcome after =>
  cases right : (Lexer.ofText source).nextWith q with
  | mk outcome' after' =>
  rw [left, right] at compared
  cases compared with
  | error => exact .inr ⟨_, rfl, rfl⟩
  | misread differ misread => exact absurd rfl differ.2
  | misreadBack differ misread => exact absurd rfl differ.2
  | @same token _ _ level guess =>
      obtain ⟨placed, slash⟩ := placed.reads left
      obtain ⟨placed', slash'⟩ := (Lexer.placed_ofText source).reads right
      refine .inl ⟨_, _, rfl, rfl, ⟨placed, slash⟩, ⟨placed', slash'⟩, rfl, rfl, rfl, rfl,
        .inl ⟨rfl, level, ?_⟩⟩
      rcases guess with ends | same
      · exact .inl ends
      · by_cases relies : ReliesOnGuess token.kind
        · exact .inr (.inl (same (agree _ relies)))
        · exact .inr (.inr relies)

end Guessing

/-! ## Programs -/

/-- Two guesses that agree behind a closing brace and behind `yield` lead to the same programs. -/
theorem parseWith_ok_iff_of_agree {p q : TokenKind → Bool} (remember : Bool)
    (agree : ∀ kind, ReliesOnGuess kind → p kind = q kind) (source : Text) (program : Program) :
    parseWith { endsOperand := p, remember } source = .ok program ↔
      parseWith { endsOperand := q, remember } source = .ok program := by
  unfold parseWith replyTo
  rcases Guessing.start_related agree source with
    ⟨s, t, left, right, related⟩ | ⟨error, left, right⟩
  · rw [left, right]
    have linked : (guessing p q remember).Links _ _ _ _ :=
      Guessing.agree_run agree (stepBound source) (.statements .script)
    have matched := linked.replies s t related
    simp only [Except.map]
    rcases Guessing.cases_of_matches matched with
      ⟨value, s', t', left, right, holds⟩ | ⟨e, f, s', t', left, right, dropped⟩ | ⟨left, right⟩
    · rw [left, right]
    · rw [left, right]
      exact ⟨nofun, nofun⟩
    · rw [left, right]
  · rw [left, right]
    exact ⟨nofun, nofun⟩

theorem isOk_iff {ε α : Type} {result : Except ε α} :
    result.isOk = true ↔ ∃ value, result = .ok value := by
  cases result with
  | ok value => exact ⟨fun _ => ⟨value, rfl⟩, fun _ => rfl⟩
  | error error => exact ⟨nofun, nofun⟩

/-- The usual guess, except behind a closing brace and behind `yield`. -/
def guessOf (afterBrace afterYield : Bool) (kind : TokenKind) : Bool :=
  if kind = .punctuator .rightBrace then afterBrace
  else if kind = .identifier "yield" then afterYield
  else kind.endsOperand

/-- A script in which a slash behind a closing brace is a regular expression. -/
def slashBehindBrace : Text :=
  "a ? b : x => \x7b\x7d\n/= 2/.test(y)".toList

/-- A script in which a slash behind `yield` is no assignment sign. -/
def slashBehindYield : Text :=
  "function* f() \x7b a ? b : yield\n/= 2/.test(y) \x7d".toList

theorem guess_matters_behind_brace (afterYield : Bool) :
    (parseWith Setup.standard slashBehindBrace).isOk = true ∧
      (parseWith { endsOperand := guessOf true afterYield, remember := true }
        slashBehindBrace).isOk = false := by
  cases afterYield <;> decide +kernel

theorem guess_matters_behind_yield :
    (parseWith Setup.standard slashBehindYield).isOk = false ∧
      (parseWith { endsOperand := guessOf false false, remember := true }
        slashBehindYield).isOk = true := by
  decide +kernel

/-- The guess about a slash never decides about success or the program exactly if it takes a slash
for a regular expression behind a closing brace, and for a division behind `yield`. -/
theorem guess_immaterial_iff (p : TokenKind → Bool) :
    (∀ source program, parseWith { endsOperand := p, remember := true } source = .ok program ↔
      parseWith Setup.standard source = .ok program) ↔
      p (.punctuator .rightBrace) = false ∧ p (.identifier "yield") = true := by
  constructor
  · intro immaterial
    have isOk_eq (source : Text) :
        (parseWith
          { endsOperand := guessOf (p (.punctuator .rightBrace)) (p (.identifier "yield"))
            remember := true } source).isOk = (parseWith Setup.standard source).isOk := by
      refine Bool.eq_iff_iff.2 ?_
      rw [isOk_iff, isOk_iff]
      refine exists_congr fun program => ?_
      rw [← immaterial source program]
      refine parseWith_ok_iff_of_agree true ?_ source program
      rintro kind (rfl | rfl) <;> rfl
    cases afterBrace : p (.punctuator .rightBrace) with
    | true =>
        have same := isOk_eq slashBehindBrace
        obtain ⟨succeeds, fails⟩ := guess_matters_behind_brace (p (.identifier "yield"))
        rw [afterBrace, succeeds, fails] at same
        cases same
    | false =>
        refine ⟨rfl, ?_⟩
        cases afterYield : p (.identifier "yield") with
        | true => rfl
        | false =>
            have same := isOk_eq slashBehindYield
            obtain ⟨fails, succeeds⟩ := guess_matters_behind_yield
            rw [afterBrace, afterYield, succeeds, fails] at same
            cases same
  · rintro ⟨afterBrace, afterYield⟩ source program
    refine parseWith_ok_iff_of_agree true ?_ source program
    rintro kind (rfl | rfl)
    · exact afterBrace
    · exact afterYield

end Parser

end Ecmascript
