import Ecmascript.Proofs.Parallel.Statement

/-!
# Balance

A parser that returns, with a value or with an error, leaves the context and the depth as they
were, and has only added to the attempts that have failed. So an attempt that fails leaves
everything else as it was, although it does not copy the depth. On the way the depth stays within
its bound.
-/

set_option autoImplicit false

namespace Ecmascript.Parser

variable {α β : Type} {self self' : Grammar} {setup : Setup} {steps : Nat} {s s' t : State}

/-- The state that a reply leaves. -/
def Reply.state? : Reply α → Option State
  | .ok _ state => some state
  | .reject _ state => some state
  | .exhausted => none

/-- What is the same before and behind a parser. More attempts may have failed. -/
structure State.Kept (s s' : State) : Prop where
  context : s'.context = s.context
  depth : s'.depth = s.depth
  failed : s.failed <:+ s'.failed

theorem State.Kept.refl (s : State) : s.Kept s :=
  ⟨rfl, rfl, List.suffix_rfl⟩

theorem State.Kept.trans (first : s.Kept t) (second : t.Kept s') : s.Kept s' :=
  ⟨second.context.trans first.context, second.depth.trans first.depth,
    first.failed.trans second.failed⟩

/-- A parser leaves the context and the depth as they were, whether it succeeds or fails. -/
def Balanced (m : Parser α) : Prop :=
  ∀ ⦃setup s s'⦄, (m setup s).state? = some s' → s.Kept s'

namespace Balanced

theorem ok {m : Parser α} (balanced : Balanced m) {value : α}
    (outcome : m setup s = .ok value s') : s.Kept s' :=
  balanced (by rw [outcome]; rfl)

theorem reject {m : Parser α} (balanced : Balanced m) {error : SyntaxError}
    (outcome : m setup s = .reject error s') : s.Kept s' :=
  balanced (by rw [outcome]; rfl)

/-- A parser that changes only the lexer and the tokens. -/
theorem of_unchanged {m : Parser α}
    (unchanged : ∀ setup s s', (m setup s).state? = some s' →
      s'.context = s.context ∧ s'.depth = s.depth ∧ s'.failed = s.failed) : Balanced m := by
  intro setup s s' returned
  obtain ⟨context, depth, failed⟩ := unchanged setup s s' returned
  exact ⟨context, depth, failed ▸ List.suffix_rfl⟩

theorem exhaust : Balanced (Parser.exhaust : Parser α) := by
  intro setup s s' returned
  cases returned

theorem pure (value : α) : Balanced (Pure.pure value : Parser α) := by
  intro setup s s' returned
  cases returned
  exact .refl s

theorem bind {first : Parser α} {next : α → Parser β} (before : Balanced first)
    (behind : ∀ value, Balanced (next value)) : Balanced (first >>= next) := by
  intro setup s s' returned
  change (andThen first next setup s).state? = some s' at returned
  unfold andThen at returned
  cases outcome : first setup s with
  | ok value t =>
      rw [outcome] at returned
      exact (before.ok outcome).trans (behind value returned)
  | reject error t =>
      rw [outcome] at returned
      cases returned
      exact before.reject outcome
  | exhausted =>
      rw [outcome] at returned
      cases returned

theorem fail (error : SyntaxError) : Balanced (Parser.fail error : Parser α) := by
  intro setup s s' returned
  cases returned
  exact .refl s

theorem getState : Balanced Parser.getState := by
  intro setup s s' returned
  cases returned
  exact .refl s

theorem advance : Balanced Parser.advance := by
  refine of_unchanged fun setup s s' returned => ?_
  unfold Parser.advance at returned
  split at returned <;> cases returned <;> exact ⟨rfl, rfl, rfl⟩

theorem peek : Balanced Parser.peek := by
  refine of_unchanged fun setup s s' returned => ?_
  unfold Parser.peek at returned
  split at returned <;> cases returned <;> exact ⟨rfl, rfl, rfl⟩

theorem slashAsRegex : Balanced Parser.slashAsRegex := by
  refine of_unchanged fun setup s s' returned => ?_
  unfold Parser.slashAsRegex at returned
  split at returned
  · split at returned <;> cases returned <;> exact ⟨rfl, rfl, rfl⟩
  · split at returned <;> cases returned <;> exact ⟨rfl, rfl, rfl⟩
  · cases returned
    exact ⟨rfl, rfl, rfl⟩

theorem slashAsDivide : Balanced Parser.slashAsDivide := by
  refine of_unchanged fun setup s s' returned => ?_
  unfold Parser.slashAsDivide at returned
  split at returned <;> cases returned <;> exact ⟨rfl, rfl, rfl⟩

theorem withContext {inner : Parser α} (context : Context) (inside : Balanced inner) :
    Balanced (Parser.withContext context inner) := by
  intro setup s s' returned
  unfold Parser.withContext at returned
  cases outcome : inner setup { s with context } with
  | ok value t =>
      rw [outcome] at returned
      cases returned
      exact ⟨rfl, (inside.ok outcome).depth, (inside.ok outcome).failed⟩
  | reject error t =>
      rw [outcome] at returned
      cases returned
      exact ⟨rfl, (inside.reject outcome).depth, (inside.reject outcome).failed⟩
  | exhausted =>
      rw [outcome] at returned
      cases returned

/-- One level up again from the depth at which the parser inside has left it. -/
theorem nested {inner : Parser α} (inside : Balanced inner) : Balanced (Parser.nested inner) := by
  have up {s t : State} (kept : State.Kept { s with depth := s.depth + 1 } t) :
      s.Kept { t with depth := t.depth - 1 } :=
    ⟨kept.context, by change t.depth - 1 = s.depth; rw [kept.depth]; rfl, kept.failed⟩
  intro setup s s' returned
  unfold Parser.nested at returned
  split at returned
  · cases returned
    exact .refl s
  cases outcome : inner setup { s with depth := s.depth + 1 } with
  | ok value t =>
      rw [outcome] at returned
      cases returned
      exact up (inside.ok outcome)
  | reject error t =>
      rw [outcome] at returned
      cases returned
      exact up (inside.reject outcome)
  | exhausted =>
      rw [outcome] at returned
      cases returned

/-- The depth behind an attempt that has failed is the depth at which the parser inside has left
it. -/
theorem attempt {inner : Parser α} (kind : AttemptKind) (inside : Balanced inner) :
    Balanced (Parser.attempt kind inner) := by
  intro setup s s' returned
  unfold Parser.attempt at returned
  dsimp only at returned
  split at returned
  · cases returned
    exact .refl s
  cases outcome : inner setup s with
  | ok value t =>
      rw [outcome] at returned
      cases returned
      exact inside.ok outcome
  | reject error t =>
      rw [outcome] at returned
      cases returned
      have kept := inside.reject outcome
      exact ⟨rfl, kept.depth, kept.failed.trans (List.suffix_cons _ _)⟩
  | exhausted =>
      rw [outcome] at returned
      cases returned

end Balanced

/-- A parser is balanced when all goals are that it is put together from. -/
theorem Parallel.balanced {m m' : Parser α} (parallel : Parallel self self' m m')
    (goals : ∀ goal, Balanced (self goal)) : Balanced m := by
  induction parallel with
  | goal goal => exact goals goal
  | pure value => exact .pure value
  | bind _ _ first next => exact .bind first next
  | fail error => exact .fail error
  | getState => exact .getState
  | advance => exact .advance
  | peek => exact .peek
  | slashAsRegex => exact .slashAsRegex
  | slashAsDivide => exact .slashAsDivide
  | withContext context _ inside => exact .withContext context inside
  | nested _ inside => exact .nested inside
  | attempt kind _ inside => exact .attempt kind inside

theorem balanced_run (steps : Nat) : ∀ goal, Balanced (run steps goal) := by
  induction steps with
  | zero => exact fun _ => .exhaust
  | succ steps goals =>
      exact fun goal => (Parallel.production goal : Composed (run steps) _).balanced goals

theorem Composed.balanced {m : Parser α} (composed : Composed (run steps) m) : Balanced m :=
  Parallel.balanced composed (balanced_run steps)

/-! ## The depth -/

/-- A run of a parser that begins in a state comes through another state. A call of a goal goes on
with the production of the goal, with one step less. -/
inductive Visits (setup : Setup) : Nat → {α : Type} → Parser α → State → State → Prop
  | here {steps : Nat} {α : Type} (m : Parser α) (s : State) : Visits setup steps m s s
  | returned {steps : Nat} {α : Type} {m : Parser α} {s s' : State}
      (composed : Composed (run steps) m) (returned : (m setup s).state? = some s') :
      Visits setup steps m s s'
  | call {steps : Nat} {goal : Goal} {s t : State}
      (inside : Visits setup steps (production (run steps) goal) s t) :
      Visits setup (steps + 1) (run (steps + 1) goal) s t
  | before {steps : Nat} {α β : Type} {first : Parser α} {next : α → Parser β} {s t : State}
      (inside : Visits setup steps first s t) : Visits setup steps (first >>= next) s t
  | behind {steps : Nat} {α β : Type} {first : Parser α} {next : α → Parser β} {value : α}
      {s s' t : State} (composed : Composed (run steps) first)
      (outcome : first setup s = .ok value s') (inside : Visits setup steps (next value) s' t) :
      Visits setup steps (first >>= next) s t
  | withContext {steps : Nat} {α : Type} {inner : Parser α} {context : Context} {s t : State}
      (inside : Visits setup steps inner { s with context } t) :
      Visits setup steps (withContext context inner) s t
  | nested {steps : Nat} {α : Type} {inner : Parser α} {s t : State}
      (room : s.depth < maxNesting)
      (inside : Visits setup steps inner { s with depth := s.depth + 1 } t) :
      Visits setup steps (nested inner) s t
  | attempt {steps : Nat} {α : Type} {inner : Parser α} {kind : AttemptKind} {s t : State}
      (inside : Visits setup steps inner s t) : Visits setup steps (attempt kind inner) s t

/-- Only a level of nesting goes deeper, and only where there is room. -/
theorem Visits.depth_le {m : Parser α} (visits : Visits setup steps m s t) :
    t.depth ≤ max maxNesting s.depth := by
  induction visits with
  | here m s => exact Nat.le_max_right _ _
  | returned composed returned =>
      exact (composed.balanced returned).depth ▸ Nat.le_max_right _ _
  | call _ ih | before _ ih | withContext _ ih | attempt _ ih => exact ih
  | behind composed outcome _ ih => exact (composed.balanced.ok outcome).depth ▸ ih
  | @nested _ _ _ s t room _ ih =>
      have deeper : t.depth ≤ max maxNesting (s.depth + 1) := ih
      omega

/-! ## Attempts -/

/-- An attempt that fails leaves the state as it was, except that it is remembered to have failed,
and so may be attempts inside it. -/
theorem Composed.attempt_none {m : Parser α} (composed : Composed (run steps) m)
    {kind : AttemptKind} (outcome : attempt kind m setup s = .ok none s') :
    ∃ failed, s' = { s with failed } ∧ s.failed <:+ failed ∧
      ∃ failure ∈ failed, failure.1 = { start := s.current.start, kind, context := s.context } := by
  unfold attempt at outcome
  dsimp only at outcome
  split at outcome
  · rename_i known
    cases outcome
    obtain ⟨failure, member, same⟩ := List.any_eq_true.1 (Bool.and_eq_true_iff.1 known).2
    exact ⟨s.failed, rfl, List.suffix_rfl, failure, member, of_decide_eq_true same⟩
  cases inner : m setup s with
  | ok value t =>
      rw [inner] at outcome
      cases outcome
  | reject error t =>
      rw [inner] at outcome
      cases outcome
      have kept := composed.balanced.reject inner
      exact ⟨_, by rw [kept.depth], kept.failed.trans (List.suffix_cons _ _), _,
        List.mem_cons_self, rfl⟩
  | exhausted =>
      rw [inner] at outcome
      cases outcome

/-- What holds of a parser in a state, whether it succeeds or fails there: the context and the
depth are as they were, the depth was within its bound all along, and an attempt that has failed
has changed nothing but what is known to fail. -/
structure Atomic (setup : Setup) (steps : Nat) (m : Parser α) (s : State) : Prop where
  balanced : ∀ s', (m setup s).state? = some s' → s'.context = s.context ∧ s'.depth = s.depth
  bounded : ∀ t, Visits setup steps m s t → t.depth ≤ max maxNesting s.depth
  undone : ∀ kind s', attempt kind m setup s = .ok none s' →
    ∃ failed, s' = { s with failed } ∧ s.failed <:+ failed ∧
      ∃ failure ∈ failed, failure.1 = { start := s.current.start, kind, context := s.context }

/-- Every parser of the grammar is balanced and keeps to the bound on the depth in every state, and
an attempt at it that fails is undone. -/
theorem composed_atomic {m : Parser α} (composed : Composed (run steps) m) (setup : Setup)
    (s : State) : Atomic setup steps m s where
  balanced _ returned := ⟨(composed.balanced returned).context, (composed.balanced returned).depth⟩
  bounded _ visits := visits.depth_le
  undone _ _ outcome := composed.attempt_none outcome

/-- The head of an arrow function, at the beginning of a formula in parentheses. -/
theorem composed_atomic_arrowHead :
    Composed (run 9) (arrowHead (run 9)) ∧
      ∃ s, start Setup.standard "(a)+b".toList = .ok s ∧
        Atomic Setup.standard 9 (arrowHead (run 9)) s := by
  have starts : (start Setup.standard "(a)+b".toList).isOk = true := by decide +kernel
  cases outcome : start Setup.standard "(a)+b".toList with
  | error error =>
      rw [outcome] at starts
      cases starts
  | ok s => exact ⟨.arrowHead, s, rfl, composed_atomic .arrowHead Setup.standard s⟩

end Ecmascript.Parser
