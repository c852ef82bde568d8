import Ecmascript.Parser.Program
import Ecmascript.Proofs.Lexer.Place

/-!
# Coupled runs

Two runs of the parser under two setups are compared step by step. A coupling says which states of
the two runs correspond; its laws say that the elementary parsers keep them so. The productions
then keep them so as well, which the modules beside this one prove once for all couplings.

Between two tokens the runs may differ about a slash, which one of them may have taken for a
division and the other for a regular expression. The grip of a coupling is firm where the next
tokens are equal, and loose where they may be two readings of one slash.
-/

set_option autoImplicit false

namespace Ecmascript

namespace Parser

/-- How far the next tokens of two coupled runs agree: up to the reading of a slash, or
entirely. -/
inductive Grip where
  | loose | firm

/-- A correspondence between runs under two setups. A spoilt state or a grave error of either run
excuses it from the comparison; if `lax`, so does the lack of steps. -/
structure Coupling where
  left : Setup
  right : Setup
  related : Grip → State → State → Prop
  fault : SyntaxError → SyntaxError → Prop
  dropped : State → State → Prop
  spoilt : State → Prop
  grave : SyntaxError → Prop
  lax : Prop

namespace Coupling

variable (c : Coupling)

/-- The states that correspond up to the reading of a slash. -/
abbrev loose : State → State → Prop := c.related .loose

/-- The states that correspond entirely. -/
abbrev firm : State → State → Prop := c.related .firm

/-- The states that correspond entirely, before a token of a given kind. -/
def before (kind : TokenKind) (s t : State) : Prop :=
  c.firm s t ∧ s.current.kind = kind

/-- The states that correspond up to the reading of a slash, behind a token of a given kind. -/
def behind (kind : TokenKind) (s t : State) : Prop :=
  c.loose s t ∧ s.previous.kind = kind

/-- The states in which a token is the one behind the next. -/
def foreseen (token : Token) (s t : State) : Prop :=
  peek c.left s = .ok token s ∧ peek c.right t = .ok token t

/-- Whether a reply excuses its run from the comparison. -/
def Spoils {α : Type} : Reply α → Prop
  | .ok _ state => c.spoilt state
  | .reject error state => c.grave error ∨ c.spoilt state
  | .exhausted => c.lax

/-- The replies that correspond: equal values in states as expected, two errors, or two runs that
had too few steps. -/
inductive Matches {α : Type} (post : α → State → State → Prop) : Reply α → Reply α → Prop
  | ok {value : α} {s t : State} (holds : post value s t) : Matches post (.ok value s) (.ok value t)
  | reject {e f : SyntaxError} {s t : State} (fault : c.fault e f) (dropped : c.dropped s t) :
      Matches post (.reject e s) (.reject f t)
  | exhausted : Matches post .exhausted .exhausted
  | leftSpoils {r r' : Reply α} (spoils : c.Spoils r) : Matches post r r'
  | rightSpoils {r r' : Reply α} (spoils : c.Spoils r') : Matches post r r'

/-- Two parsers are linked when they take corresponding states to corresponding replies, and keep
spoilt states spoilt. -/
structure Links {α : Type} (pre : State → State → Prop) (m m' : Parser α)
    (post : α → State → State → Prop) : Prop where
  replies : ∀ s t, pre s t → c.Matches post (m c.left s) (m' c.right t)
  spoilsLeft : ∀ s, c.spoilt s → c.Spoils (m c.left s)
  spoilsRight : ∀ t, c.spoilt t → c.Spoils (m' c.right t)

variable {c} {α β : Type} {pre pre' : State → State → Prop} {post : α → State → State → Prop}

namespace Links

theorem weaken {m m' : Parser α} {post' : α → State → State → Prop}
    (linked : c.Links pre m m' post) (before : ∀ s t, pre' s t → pre s t)
    (after : ∀ value s t, post value s t → post' value s t) : c.Links pre' m m' post' where
  replies s t holds := by
    have matched := linked.replies s t (before s t holds)
    generalize m c.left s = r at matched ⊢
    generalize m' c.right t = r' at matched ⊢
    cases matched with
    | ok holds => exact .ok (after _ _ _ holds)
    | reject fault dropped => exact .reject fault dropped
    | exhausted => exact .exhausted
    | leftSpoils spoils => exact .leftSpoils spoils
    | rightSpoils spoils => exact .rightSpoils spoils
  spoilsLeft := linked.spoilsLeft
  spoilsRight := linked.spoilsRight

theorem strengthen {m m' : Parser α} (linked : c.Links pre m m' post)
    (before : ∀ s t, pre' s t → pre s t) : c.Links pre' m m' post :=
  linked.weaken before fun _ _ _ holds => holds

theorem relax {m m' : Parser α} {post' : α → State → State → Prop}
    (linked : c.Links pre m m' post) (after : ∀ value s t, post value s t → post' value s t) :
    c.Links pre m m' post' :=
  linked.weaken (fun _ _ holds => holds) after

private theorem spoils_bind (setup : Setup) {m : Parser α} {f : α → Parser β}
    (reply : ∀ s, c.spoilt s → ∀ value, c.Spoils (f value setup s)) {s : State}
    (spoils : c.Spoils (m setup s)) : c.Spoils ((m >>= f) setup s) := by
  change c.Spoils (andThen m f setup s)
  unfold andThen
  cases outcome : m setup s with
  | ok value after =>
      rw [outcome] at spoils
      exact reply after spoils value
  | reject error after => rwa [outcome] at spoils
  | exhausted => rwa [outcome] at spoils

theorem bind {m m' : Parser α} {f f' : α → Parser β} {last : β → State → State → Prop}
    (first : c.Links pre m m' post)
    (next : ∀ value, c.Links (post value) (f value) (f' value) last) :
    c.Links pre (m >>= f) (m' >>= f') last where
  replies s t holds := by
    have matched := first.replies s t holds
    change c.Matches last (andThen m f c.left s) (andThen m' f' c.right t)
    unfold andThen
    generalize m c.left s = r at matched ⊢
    generalize m' c.right t = r' at matched ⊢
    cases matched with
    | ok holds => exact (next _).replies _ _ holds
    | reject fault dropped => exact .reject fault dropped
    | exhausted => exact .exhausted
    | leftSpoils spoils =>
        refine .leftSpoils ?_
        cases r with
        | ok value after => exact (next value).spoilsLeft after spoils
        | reject error after => exact spoils
        | exhausted => exact spoils
    | rightSpoils spoils =>
        refine .rightSpoils ?_
        cases r' with
        | ok value after => exact (next value).spoilsRight after spoils
        | reject error after => exact spoils
        | exhausted => exact spoils
  spoilsLeft s spoilt :=
    spoils_bind c.left (fun s spoilt value => (next value).spoilsLeft s spoilt)
      (first.spoilsLeft s spoilt)
  spoilsRight t spoilt :=
    spoils_bind c.right (fun t spoilt value => (next value).spoilsRight t spoilt)
      (first.spoilsRight t spoilt)

theorem pure {value : α} (holds : ∀ s t, pre s t → post value s t) :
    c.Links pre (Pure.pure value) (Pure.pure value) post where
  replies s t related := .ok (holds s t related)
  spoilsLeft _ spoilt := spoilt
  spoilsRight _ spoilt := spoilt

/-- A parser that answers from the state alone and leaves it as it is. -/
theorem reading {m : Parser α} (view : State → α)
    (answers : ∀ setup state, m setup state = .ok (view state) state)
    (same : ∀ s t, pre s t → view s = view t) :
    c.Links pre m m (fun value s t => pre s t ∧ value = view s) where
  replies s t holds := by
    rw [answers, answers, same s t holds]
    exact .ok ⟨holds, (same s t holds).symm⟩
  spoilsLeft s spoilt := by rw [answers]; exact spoilt
  spoilsRight t spoilt := by rw [answers]; exact spoilt

theorem ite {condition : Bool} {m m' n n' : Parser α}
    (yes : condition = true → c.Links pre m m' post)
    (no : condition = false → c.Links pre n n' post) :
    c.Links pre (if condition = true then m else n) (if condition = true then m' else n') post := by
  cases condition with
  | true => simpa using yes rfl
  | false => simpa using no rfl

end Links

/-! ## Laws -/

/-- The laws of a coupling: what corresponding states have in common, and that the elementary
parsers are linked. -/
structure Lawful (c : Coupling) : Prop where
  loosen : ∀ {s t}, c.firm s t → c.loose s t
  firm_or_slash : ∀ {s t}, c.loose s t →
    c.firm s t ∨ (s.current.kind.isSlash = true ∧ t.current.kind.isSlash = true)
  current : ∀ {s t}, c.firm s t → s.current = t.current
  start : ∀ {s t}, c.loose s t → s.current.start = t.current.start
  newline : ∀ {s t}, c.loose s t → s.current.newlineBefore = t.current.newlineBefore
  context : ∀ {s t}, c.loose s t → s.context = t.context
  previous : ∀ {s t}, c.loose s t → s.previous.stop = t.previous.stop
  tighten : ∀ {s t}, c.loose s t →
    s.previous.kind = .punctuator .rightBrace ∨ s.previous.kind = .identifier "yield" → c.firm s t
  fault : ∀ error, c.fault error error
  drop : ∀ {s t}, c.loose s t → c.dropped s t
  recontext : ∀ {grip s t} (context : Context), c.related grip s t →
    c.related grip { s with context } { t with context }
  dropContext : ∀ {s t} (context : Context), c.dropped s t →
    c.dropped { s with context } { t with context }
  spoiltContext : ∀ {s} (context : Context), c.spoilt s → c.spoilt { s with context }
  spoiltLax : ∀ {s}, c.spoilt s → c.lax
  advance : ∀ kind, c.Links (c.before kind) advance advance (fun _ => c.behind kind)
  peek : ∀ {s t}, c.firm s t →
    (∃ a b, peek c.left s = .ok a s ∧ peek c.right t = .ok b t ∧
      (a = b ∨ (a.kind.isSlash = true ∧ b.kind.isSlash = true))) ∨
    (∃ e f, peek c.left s = .reject e s ∧ peek c.right t = .reject f t ∧ c.fault e f)
  slashAsRegex : c.Links c.loose slashAsRegex slashAsRegex (fun _ => c.firm)
  slashAsDivide : c.Links c.loose slashAsDivide slashAsDivide (fun _ => c.firm)
  unexpected : ∀ {α : Type} (post : α → State → State → Prop),
    c.Links c.loose unexpected unexpected post
  reservedWord : ∀ {α : Type} (post : α → State → State → Prop),
    c.Links c.loose reservedWord reservedWord post
  nested : ∀ {α : Type} {grip : Grip} {m m' : Parser α},
    c.Links c.loose m m' (fun _ => c.related grip) →
    c.Links c.loose (nested m) (nested m') (fun _ => c.related grip)

end Coupling

end Parser

end Ecmascript
